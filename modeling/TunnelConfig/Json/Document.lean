import TunnelConfig.Json.Outline
import TunnelConfig.Json.Token

/-!
# Documents

A JSON document is one value with nothing after it. Its tokens are taken one by one; the arrays and
objects that are not closed yet wait on a stack, so every token is one step and the nesting is as
deep as it likes.

Where a token does not fit, the value that was expected there is `broken` and whatever waits on the
stack stays unclosed.
-/

namespace TunnelConfig.Json

/-- An array or object that is not closed yet. -/
inductive Frame where
  /-- An array and its items, newest first. -/
  | array (newestFirst : List Outline)
  /-- An object and its members, newest first. -/
  | object (newestFirst : List (Option String × Outline))
  /-- An object and its members, newest first, after the key of one more. -/
  | member (newestFirst : List (Option String × Outline)) (key : Option String)

namespace Frame

/-- Takes a value. -/
def add (value : Outline) : Frame → Frame
  | array items => array (value :: items)
  | object members => object members
  | member members key => object ((key, value) :: members)

/-- The array or object with what it has. -/
def outline (closed : Bool) : Frame → Outline
  | array items => .array items.reverse closed
  | object members => .object members.reverse closed
  | member members key => .object ((key, .broken) :: members).reverse closed

end Frame

/-- What the next token has to be. -/
inductive Expected where
  | value
  /-- A value, or the end of an array without items. -/
  | valueOrEnd
  | key
  /-- A key, or the end of an object without members. -/
  | keyOrEnd
  | colon
  /-- A comma, or the end of the array or object. -/
  | separator
  deriving DecidableEq

/-- What a token leads to. -/
inductive Step where
  | more (expected : Expected) (stack : List Frame)
  | done (value : Outline)
  | misfit

namespace Step

/-- The value is complete and goes where it belongs. -/
def finish (value : Outline) : List Frame → Step
  | [] => done value
  | frame :: stack => more .separator (frame.add value :: stack)

/-- The token that starts a value. -/
def start (stack : List Frame) : Token → Step
  | .openArray => more .valueOrEnd (.array [] :: stack)
  | .openObject => more .keyOrEnd (.object [] :: stack)
  | .null => finish .null stack
  | .bool b => finish (.bool b) stack
  | .number (some n) => finish (.number n) stack
  | .number none => finish .unreadable stack
  | .text (some s) => finish (.text s) stack
  | .text none => finish .unreadable stack
  | _ => misfit

/-- What the next token leads to. -/
def ofToken : Expected → List Frame → Token → Step
  | .value, stack, t => start stack t
  | .valueOrEnd, .array items :: stack, .closeArray =>
    finish ((Frame.array items).outline true) stack
  | .valueOrEnd, stack, t => start stack t
  | .key, .object members :: stack, .text key => more .colon (.member members key :: stack)
  | .keyOrEnd, .object members :: stack, .text key => more .colon (.member members key :: stack)
  | .keyOrEnd, .object members :: stack, .closeObject =>
    finish ((Frame.object members).outline true) stack
  | .colon, stack, .colon => more .value stack
  | .separator, .array items :: stack, .comma => more .value (.array items :: stack)
  | .separator, .array items :: stack, .closeArray =>
    finish ((Frame.array items).outline true) stack
  | .separator, .object members :: stack, .comma => more .key (.object members :: stack)
  | .separator, .object members :: stack, .closeObject =>
    finish ((Frame.object members).outline true) stack
  | _, _, _ => misfit

end Step

/-- What a text says, with whatever waits on the stack left unclosed around `value`. -/
def unclosed (value : Outline) : List Frame → Outline
  | [] => value
  | frame :: stack => unclosed ((frame.add value).outline false) stack

/-- What a text says that ends, or is malformed, where something was expected. -/
def abandoned : Expected → List Frame → Outline
  | .key, frame :: stack => unclosed (frame.outline false) stack
  | .keyOrEnd, frame :: stack => unclosed (frame.outline false) stack
  | .separator, frame :: stack => unclosed (frame.outline false) stack
  | _, stack => unclosed .broken stack

/-- A document: what its value says, and whether something follows it. -/
structure Document where
  value : Outline
  trailing : Bool

namespace Document

/-- Takes tokens one by one. -/
def ofTokens : Expected → List Frame → List Token → Document
  | expected, stack, [] => ⟨abandoned expected stack, false⟩
  | expected, stack, t :: rest =>
    match Step.ofToken expected stack t with
    | .more expected stack => ofTokens expected stack rest
    | .done value => ⟨value, !rest.isEmpty⟩
    | .misfit => ⟨abandoned expected stack, false⟩

/-- The document in a text. -/
def ofText (s : String) : Document := ofTokens .value [] (Token.ofChars s.toList)

end Document

end TunnelConfig.Json
