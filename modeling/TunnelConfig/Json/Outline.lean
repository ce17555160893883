import TunnelConfig.Json.Number
import TunnelConfig.Number.Shortest
import TunnelConfig.Text.Quoted

/-!
# Outlines

An outline is what a JSON text says as far as it can be followed. Up to the first place where the
text is malformed everything is there; that place is marked `broken` or shows as an array or object
that is not closed, and nothing follows it. A reader that goes through an outline from left to
right therefore meets the faults of the text in the order in which they stand there.
-/

namespace TunnelConfig.Json

/-- What a JSON text says. -/
inductive Outline where
  | null
  | bool (value : Bool)
  | number (value : Number)
  | text (value : String)
  /-- Well-formed text or number without a value. -/
  | unreadable
  /-- The place where the text is malformed. -/
  | broken
  | array (items : List Outline) (closed : Bool)
  /-- The members of an object in order. A key without a value is `none`. -/
  | object (members : List (Option String × Outline)) (closed : Bool)

namespace Outline

/-! ## Well-formed and readable outlines -/

mutual

/-- Whether the text is well formed, which is enough to pass over it. -/
def wellFormed : Outline → Bool
  | null => true
  | bool _ => true
  | number _ => true
  | text _ => true
  | unreadable => true
  | broken => false
  | array items closed => closed && itemsWellFormed items
  | object members closed => closed && membersWellFormed members

def itemsWellFormed : List Outline → Bool
  | [] => true
  | item :: rest => item.wellFormed && itemsWellFormed rest

/-- Whether the values of all members are well formed. -/
def membersWellFormed : List (Option String × Outline) → Bool
  | [] => true
  | (_, value) :: rest => value.wellFormed && membersWellFormed rest

end

mutual

/-- Whether everything in the text has a value and nothing is nested deeper than `room` levels. -/
def readable : Outline → (room : Nat) → Bool
  | null, _ => true
  | bool _, _ => true
  | number _, _ => true
  | text _, _ => true
  | unreadable, _ => false
  | broken, _ => false
  | array _ _, 0 => false
  | array items closed, room + 1 => closed && itemsReadable items room
  | object _ _, 0 => false
  | object members closed, room + 1 => closed && membersReadable members room

def itemsReadable : List Outline → (room : Nat) → Bool
  | [], _ => true
  | item :: rest, room => item.readable room && itemsReadable rest room

/-- Whether all keys and values are readable. -/
def membersReadable : List (Option String × Outline) → (room : Nat) → Bool
  | [], _ => true
  | (key, value) :: rest, room =>
    key.isSome && value.readable room && membersReadable rest room

end

/-! ## Kinds of value -/

/-- What was found where something else was expected. -/
inductive Found where
  | null
  | bool (value : Bool)
  | number (value : Number)
  | text (value : String)
  | sequence
  | map
  deriving DecidableEq

def Found.message : Found → String
  | null => "null"
  | bool true => "boolean `true`"
  | bool false => "boolean `false`"
  | number (.integer n) => "integer `" ++ toString n ++ "`"
  | number (.real x) => "floating point `" ++ x.text ++ "`"
  | text s => "string " ++ Text.quoted s
  | sequence => "sequence"
  | map => "map"

/-- What the outline shows at first sight, unless that has no value. The inside of an array or
object does not count. -/
def found? : Outline → Option Found
  | null => some .null
  | bool b => some (.bool b)
  | number n => some (.number n)
  | text s => some (.text s)
  | unreadable => none
  | broken => none
  | array _ _ => some .sequence
  | object _ _ => some .map

end Outline

end TunnelConfig.Json
