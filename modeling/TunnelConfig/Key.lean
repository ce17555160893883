import TunnelConfig.Bytes.Block
import TunnelConfig.Key.Base64
import TunnelConfig.Text.Blank

/-!
# Keys

A public, private or preshared key is 32 bytes; its text is their base64 form.
-/

namespace TunnelConfig

structure Key where
  block : Block 32
  deriving DecidableEq

/-- Why a text is not a key. -/
inductive KeyError where
  | base64 (cause : Base64.Error)
  | length (actual : Nat)
  deriving DecidableEq

def KeyError.message : KeyError → String
  | base64 cause => "Invalid base64 key: " ++ cause.message
  | length actual => "Key must be 32 bytes, got " ++ toString actual

namespace Key

instance : Inhabited Key := ⟨⟨Block.zero⟩⟩

def bytes (k : Key) : Bytes := k.block.toList

def chars (k : Key) : List Char := Base64.encode k.bytes

def text (k : Key) : String := String.ofList k.chars

/-- The key as it stands in a diagnostic. -/
def debug (k : Key) : String := "Key(" ++ k.text ++ ")"

/-- Reads a text as a key. Blanks around it do not count. -/
def ofText (s : String) : Except KeyError Key :=
  match Base64.decode (String.ofList (Text.trim s.toList)).toUTF8.toList with
  | .error e => .error (.base64 e)
  | .ok bs =>
    match Block.ofList? bs with
    | some block => .ok ⟨block⟩
    | none => .error (.length bs.length)

end Key

end TunnelConfig
