import TunnelConfig.Toml.Literal
import TunnelConfig.Toml.Node
import TunnelConfig.Toml.Scalar

/-!
# TOML documents

A document is read line by line: a header opens a table, and a key with a value puts an entry into
the table opened last. Arrays and tables in braces may be nested in each other up to a limit, and a
dotted key may have as many parts.
-/

namespace TunnelConfig.Toml

open Reader

/-! ## Keys -/

/-- One less than the number of parts, and of levels of values, that a document may not reach. -/
def nestingLimit : Nat := 79

/-- A character of a key without quotes. -/
def isKeyChar (c : Char) : Bool :=
  ('a' ≤ c && c ≤ 'z') || ('A' ≤ c && c ≤ 'Z') || ('0' ≤ c && c ≤ '9') || c == '_' || c == '-'

/-- One part of a key, with blanks around it. -/
def keyPart : Reader String := do
  blanks
  let cs ← quotedString <|> literalString <|> takeSome isKeyChar
  blanks
  return String.ofList cs

/-- A key: the parts before the last, and the last. -/
def key : Reader (List String × String) := do
  let first ← keyPart
  let rest ← many do
    char '.'
    keyPart
  let parts := first :: rest
  if parts.length ≤ nestingLimit then return (parts.dropLast, rest.getLastD first) else fail

/-! ## Values -/

/-- An entry: a key and its value. -/
structure Entry where
  path : List String
  key : String
  node : Node

def entry (value : Reader Node) : Reader Entry := do
  let (path, last) ← key
  char '='
  blanks
  return ⟨path, last, ← value⟩

/-- The items of an array after the first, each after a comma. -/
def moreItems (value : Reader Node) : Reader (List Node) :=
  many do
    char ','
    gaps
    let node ← value
    gaps
    return node

/-- An array. A comma may stand after its last item. -/
def array (value : Reader Node) : Reader Node := do
  char '['
  gaps
  match ← attempt value with
  | none =>
    char ']'
    return .array []
  | some first =>
    gaps
    let rest ← moreItems value
    let _ ← attempt do
      char ','
      gaps
    char ']'
    return .array (first :: rest)

/-- An entry of a table in braces, with blanks around it. -/
def innerEntry (value : Reader Node) : Reader Entry := do
  let e ← entry value
  blanks
  return e

/-- The entries of a table in braces. -/
def innerEntries (value : Reader Node) : Reader (List Entry) := do
  match ← attempt (innerEntry value) with
  | none => return []
  | some first =>
    let rest ← many do
      char ','
      innerEntry value
    return first :: rest

/-- A table in braces. -/
def inlineTable (value : Reader Node) : Reader Node := do
  char '{'
  let found ← innerEntries value
  blanks
  char '}'
  match found.foldlM (fun (es : Entries) e => es.putDotted e.key e.node e.path) [] with
  | some es => return .table .value es
  | none => fail

def truth : Reader Bool :=
  (do word ['t', 'r', 'u', 'e']; return true) <|> (do word ['f', 'a', 'l', 's', 'e']; return false)

/-- A value that holds no others. -/
def scalar : Reader Node :=
  (do return .text (← anyString)) <|> (do time; return .time) <|> (do float; return .float)
    <|> (do return .integer (← integer)) <|> (do return .bool (← truth))

/-- A value with others in it, nested at most `room` levels deep. -/
def value : (room : Nat) → Reader Node
  | 0 => scalar
  | room + 1 => do
    match ← peek with
    | some '[' => array (value room)
    | some '{' => inlineTable (value room)
    | _ => scalar

/-! ## Lines -/

/-- A document under way. -/
structure State where
  root : Entries
  /-- The path of the table that was opened last. -/
  path : List String

namespace State

/-- The document before its first line. -/
def start : State := ⟨[], []⟩

/-- Puts an entry into the table that was opened last. -/
def put (s : State) (e : Entry) : Option State := do
  let root ← s.root.within (·.putDotted e.key e.node e.path) s.path
  return { s with root := root }

/-- Opens the table of a header. -/
def openHeader (s : State) (opening : String → Entries → Option Entries) (path : List String)
    (key : String) : Option State := do
  let root ← s.root.within (opening key) path
  return ⟨root, path ++ [key]⟩

end State

/-- Goes on if there is a state to go on with. -/
def orFail (s : Option State) : Reader State :=
  match s with
  | some s => pure s
  | none => fail

/-- A header and the rest of its line. -/
def header (s : State) : Reader State :=
  (do
    word ['[', '[']
    let (path, last) ← key
    word [']', ']']
    trailing
    orFail (s.openHeader Entries.openNextTable path last)) <|> do
  char '['
  let (path, last) ← key
  char ']'
  trailing
  orFail (s.openHeader Entries.openTable path last)

/-- A key with its value and the rest of their line. -/
def entryLine (s : State) : Reader State := do
  let e ← entry (value nestingLimit)
  trailing
  orFail (s.put e)

/-- The lines up to the end of the text. -/
def lines : (steps : Nat) → State → Reader State
  | 0, _ => fail
  | steps + 1, s => do
    blanks
    match ← peek with
    | none => return s
    | some '#' => do
      comment
      lineEnd
      lines steps s
    | some '[' => do lines steps (← header s)
    | some '\n' => do
      newline
      lines steps s
    | some '\r' => do
      newline
      lines steps s
    | some _ => do lines steps (← entryLine s)

/-- A whole document. A byte order mark may stand in front. -/
def document : Reader Entries := do
  let _ ← attempt (char '\uFEFF')
  let s ← lines ((← get).length + 1) .start
  return s.root

/-- The entries of the document in a text, if it is one. -/
def read? (s : String) : Option Entries := document.readAll s

end TunnelConfig.Toml
