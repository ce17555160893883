/-!
# The tree of a TOML document

A document is a table. Tables come about in four ways, and how a table came about decides what may
still be added to it:

- **by a header** of its own: a table of this name may not be opened again, nor reached by a dotted
  key;
- **by the header of a table inside it**: it may still be opened by its own header;
- **by a dotted key**: further dotted keys may add to it, but no header may open it;
- **as a value** in braces: nothing may be added to it.

Numbers other than integers and times are kept without their content; no setting takes them.
-/

namespace TunnelConfig.Toml

/-- How a table came about. -/
inductive TableOrigin where
  | header
  | innerHeader
  | dottedKey
  | value
  deriving DecidableEq

/-- A value or a table. -/
inductive Node where
  | text (value : String)
  | integer (value : Int)
  | bool (value : Bool)
  | float
  | time
  | array (items : List Node)
  | table (origin : TableOrigin) (entries : List (String × Node))
  /-- An array of tables, each opened by a header of its own. -/
  | tables (items : List (List (String × Node)))

/-- The entries of a table. -/
abbrev Entries := List (String × Node)

namespace Entries

/-- The node under a key. -/
def get? (es : Entries) (key : String) : Option Node := (es.find? (·.1 == key)).map (·.2)

/-- The entries with another node under a key that is there. -/
def replace (es : Entries) (key : String) (node : Node) : Entries :=
  es.map fun e => if e.1 == key then (key, node) else e

/-- The entries with a node under a new key. -/
def insertNew (es : Entries) (key : String) (node : Node) : Option Entries :=
  match es.get? key with
  | some _ => none
  | none => some (es ++ [(key, node)])

/-- Puts a node under a dotted key, whose last part is `key`. -/
def putDotted (key : String) (node : Node) : (path : List String) → Entries → Option Entries
  | [], es => es.insertNew key node
  | k :: path, es =>
    match es.get? k with
    | none => do
      let inner ← putDotted key node path []
      return es ++ [(k, .table .dottedKey inner)]
    | some (.table origin inner) => do
      if origin = .dottedKey ∨ (origin = .innerHeader ∧ path ≠ []) then
        let inner ← putDotted key node path inner
        return es.replace k (.table origin inner)
      else none
    | some (.tables items) =>
      if path = [] then none
      else do
        let last ← items.getLast?
        let last ← putDotted key node path last
        return es.replace k (.tables (items.dropLast ++ [last]))
    | some _ => none

/-- Changes the entries of the table that a path of a header leads to. Tables on the way that are
not there come about by the header; an array of tables stands for the last of its tables. -/
def within (change : Entries → Option Entries) : (path : List String) → Entries → Option Entries
  | [], es => change es
  | k :: path, es =>
    match es.get? k with
    | none => do
      let inner ← within change path []
      return es ++ [(k, .table .innerHeader inner)]
    | some (.table origin inner) => do
      if origin = .value then none
      else
        let inner ← within change path inner
        return es.replace k (.table origin inner)
    | some (.tables items) => do
      let last ← items.getLast?
      let last ← within change path last
      return es.replace k (.tables (items.dropLast ++ [last]))
    | some _ => none

def openTable (key : String) (es : Entries) : Option Entries :=
  match es.get? key with
  | none => some (es ++ [(key, .table .header [])])
  | some (.table .innerHeader inner) => some (es.replace key (.table .header inner))
  | some _ => none

/-- Opens one more table of an array of tables. -/
def openNextTable (key : String) (es : Entries) : Option Entries :=
  match es.get? key with
  | none => some (es ++ [(key, .tables [[]])])
  | some (.tables items) => some (es.replace key (.tables (items ++ [[]])))
  | some _ => none

end Entries

end TunnelConfig.Toml
