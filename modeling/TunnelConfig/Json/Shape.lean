import TunnelConfig.Json.Document

/-!
# Shapes

A shape says how a structure stands in JSON text: as an object with named members in any order, or
as an array of the fields in their order. Reading goes from left to right and the first fault
decides, whether the text is malformed there or does not fit.

**Objects.** A member that no field is named for is passed over, if it is well formed. A field may
be given once. Once the object is closed, the first required field that was not given is missed.

**Arrays.** Fields at the end that are not required may be left out. What more items mean is part
of the shape: in text that is read as it comes they make it malformed, in text that was read before
they are counted.

The type `ε` is that of the reasons why a text may be refused for its content.
-/

namespace TunnelConfig.Json

/-! ## Faults -/

/-- Why well-formed JSON text does not fit. -/
inductive Misfit (ε : Type) where
  | wrongType (found : Outline.Found) (expected : String)
  | outOfRange (value : Int) (expected : String)
  | missing (field : String)
  | duplicate (field : String)
  | unknownVariant (found : String) (known : List String)
  | wrongLength (count : Nat) (expected : String)
  | refused (cause : ε)
  deriving DecidableEq

/-- Why JSON text cannot be read. -/
inductive ReadError (ε : Type) where
  | malformed
  | misfit (cause : Misfit ε)
  deriving DecidableEq

/-- A name between grave accents. -/
def ticked (name : String) : String := "`" ++ name ++ "`"

/-- What is wrong, in words; `refusal` tells what is wrong with the content. -/
def Misfit.message {ε : Type} (refusal : ε → String) : Misfit ε → String
  | wrongType found expected => "invalid type: " ++ found.message ++ ", expected " ++ expected
  | outOfRange value expected =>
    "invalid value: integer " ++ ticked (toString value) ++ ", expected " ++ expected
  | missing field => "missing field " ++ ticked field
  | duplicate field => "duplicate field " ++ ticked field
  | unknownVariant found known =>
    "unknown variant " ++ ticked found ++ ", expected one of "
      ++ String.intercalate ", " (known.map ticked)
  | wrongLength count expected => "invalid length " ++ toString count ++ ", expected " ++ expected
  | refused cause => refusal cause

abbrev Result (ε α : Type) := Except (ReadError ε) α

variable {ε α σ : Type}

def misfit (cause : Misfit ε) : Result ε α := .error (.misfit cause)

/-- The outline is not what was expected. -/
def Outline.refuse (o : Outline) (expected : String) : Result ε α :=
  match o.found? with
  | some found => misfit (.wrongType found expected)
  | none => .error .malformed

/-! ## Simple values -/

namespace Outline

def readBool : Outline → Result ε Bool
  | bool b => .ok b
  | o => o.refuse "a boolean"

/-- Reads a number of at most `greatest`. -/
def readUnsigned (expected : String) (greatest : Nat) : Outline → Result ε Nat
  | number (.integer n) =>
    if 0 ≤ n ∧ n ≤ greatest then .ok n.toNat else misfit (.outOfRange n expected)
  | o => o.refuse expected

/-- Reads a text whose content `read` takes. -/
def readText (expected : String) (read : String → Except ε α) : Outline → Result ε α
  | text s =>
    match read s with
    | .ok a => .ok a
    | .error cause => misfit (.refused cause)
  | o => o.refuse expected

/-- Reads a value that may be left open with `null`. -/
def readOption (read : Outline → Result ε α) : Outline → Result ε (Option α)
  | null => .ok none
  | o => (read o).map some

def readList (read : Outline → Result ε α) : Outline → Result ε (List α)
  | array items closed => do
    let values ← items.mapM read
    if closed then return values else throw .malformed
  | o => o.refuse "a sequence"

end Outline

/-! ## Structures -/

/-- A field of a structure of type `σ`. -/
structure Field (ε σ : Type) where
  name : String
  required : Bool
  /-- Reads the value and puts it into the structure. -/
  read : Outline → Result ε (σ → σ)

/-- What more items than fields mean. -/
inductive Surplus where
  | malformed
  | counted
  deriving DecidableEq

/-- How a structure of type `σ` stands in JSON text. -/
structure Shape (ε σ : Type) where
  name : String
  fields : List (Field ε σ)
  /-- The structure before any field was read. -/
  blank : σ
  surplus : Surplus

/-- A number of elements, in words. -/
def elements (count : Nat) : String :=
  toString count ++ if count = 1 then " element" else " elements"

namespace Shape

/-- The field of that name. -/
def field? (s : Shape ε σ) (name : String) : Option (Field ε σ) := s.fields.find? (·.name == name)

/-- Reads members into a draft. The names of the fields that were `given` before are kept. -/
def readMembers (s : Shape ε σ) : (given : List String) → (draft : σ) →
    List (Option String × Outline) → Result ε (List String × σ)
  | given, draft, [] => .ok (given, draft)
  | _, _, (none, _) :: _ => .error .malformed
  | given, draft, (some key, value) :: rest =>
    match s.field? key with
    | some field =>
      if key ∈ given then misfit (.duplicate key)
      else do
        let put ← field.read value
        readMembers s (key :: given) (put draft) rest
    | none =>
      if value.wellFormed then readMembers s given draft rest else .error .malformed

def readObject (s : Shape ε σ) (members : List (Option String × Outline)) (closed : Bool) :
    Result ε σ := do
  let (given, draft) ← s.readMembers [] s.blank members
  if !closed then throw .malformed
  match s.fields.find? fun field => field.required && field.name ∉ given with
  | some field => misfit (.missing field.name)
  | none => return draft

/-- Reads items into a draft, one for each field; yields how many items are left over, too. -/
def readItems (s : Shape ε σ) (items : List Outline) (closed : Bool) : (draft : σ) →
    List (Field ε σ) → List Outline → Result ε (σ × Nat)
  | draft, [], rest => .ok (draft, rest.length)
  | draft, field :: fields, [] =>
    if !closed then .error .malformed
    else if field.required then
      misfit (.wrongLength items.length
        ("struct " ++ s.name ++ " with " ++ elements s.fields.length))
    else readItems s items closed draft fields []
  | draft, field :: fields, item :: rest => do
    let put ← field.read item
    readItems s items closed (put draft) fields rest

def readArray (s : Shape ε σ) (items : List Outline) (closed : Bool) : Result ε σ := do
  let (draft, left) ← s.readItems items closed s.blank s.fields items
  if !closed then throw .malformed
  if left = 0 then return draft
  match s.surplus with
  | .malformed => throw .malformed
  | .counted =>
    misfit (.wrongLength items.length (elements s.fields.length ++ " in sequence"))

def read (s : Shape ε σ) : Outline → Result ε σ
  | .object members closed => s.readObject members closed
  | .array items closed => s.readArray items closed
  | o => o.refuse ("struct " ++ s.name)

end Shape

/-! ## Tagged alternatives -/

/-- How a choice between alternatives stands in JSON text: as an object with a member that names
the alternative, the other members being its content, or as an array that starts with the name. -/
structure Tagged (ε α : Type) where
  name : String
  /-- The member that names the alternative. -/
  tag : String
  /-- The alternatives by name, with how their content is read. -/
  variants : List (String × (Outline → Result ε α))
  /-- How deep the content may be nested. -/
  room : Nat

namespace Tagged

/-- Reads the name of an alternative. -/
def readTag (t : Tagged ε α) : Outline → Result ε (Outline → Result ε α)
  | .text s =>
    match t.variants.find? (·.1 == s) with
    | some (_, read) => .ok read
    | none => misfit (.unknownVariant s (t.variants.map (·.1)))
  | o => o.refuse "variant identifier"

/-- Reads members; yields the alternative, if it was named, and the other members, newest first. -/
def readMembers (t : Tagged ε α) : (chosen : Option (Outline → Result ε α)) →
    (others : List (Option String × Outline)) → List (Option String × Outline) →
    Result ε (Option (Outline → Result ε α) × List (Option String × Outline))
  | chosen, others, [] => .ok (chosen, others)
  | _, _, (none, _) :: _ => .error .malformed
  | chosen, others, (some key, value) :: rest =>
    if key = t.tag then
      match chosen with
      | some _ => misfit (.duplicate key)
      | none => do
        let read ← t.readTag value
        readMembers t (some read) others rest
    else if value.readable t.room then readMembers t chosen ((some key, value) :: others) rest
    else .error .malformed

def read (t : Tagged ε α) : Outline → Result ε α
  | .object members closed => do
    let (chosen, others) ← t.readMembers none [] members
    if !closed then throw .malformed
    match chosen with
    | some read => read (.object others.reverse true)
    | none => misfit (.missing t.tag)
  | .array [] closed => if closed then misfit (.missing t.tag) else .error .malformed
  | .array (first :: rest) closed => do
    let read ← t.readTag first
    if closed && Outline.itemsReadable rest t.room then read (.array rest true)
    else throw .malformed
  | o => o.refuse ("internally tagged enum " ++ t.name)

end Tagged

/-! ## Whole texts -/

/-- Reads a document; nothing may follow its value. -/
def Document.read (read : Outline → Result ε α) (d : Document) : Result ε α := do
  let value ← read d.value
  if d.trailing then throw .malformed else return value

end TunnelConfig.Json
