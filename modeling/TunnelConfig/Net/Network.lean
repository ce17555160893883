import TunnelConfig.Net.Address
import TunnelConfig.Text.Blank
import TunnelConfig.Text.Quoted

/-!
# Networks

A network is an address and the number of its leading bits that count. That number never exceeds
the address's family, whichever way the network was made.
-/

namespace TunnelConfig

/-- A network: an address with a prefix length that fits its family. -/
structure Network where
  address : Address
  length : UInt8
  length_le : length ≤ address.family.bits
  deriving DecidableEq

/-- A prefix length that is too long for its family. -/
structure OverlongPrefix where
  family : Family
  length : UInt8
  deriving DecidableEq

def OverlongPrefix.message (e : OverlongPrefix) : String :=
  "Invalid prefix length /" ++ toString e.length.toNat ++ " for " ++ e.family.name

/-- Why a text is not a network. -/
inductive NetworkTextError where
  | missingLength (text : String)
  | address
  | length (cause : Text.NumberError)
  | overlong (cause : OverlongPrefix)
  deriving DecidableEq

def NetworkTextError.message : NetworkTextError → String
  | missingLength text => "Missing '/prefix' in " ++ Text.quoted text
  | address => "Invalid address: " ++ Address.badText
  | length cause => "Invalid prefix length: " ++ cause.message
  | overlong cause => cause.message

namespace Network

def make (address : Address) (length : UInt8) : Except OverlongPrefix Network :=
  if h : length ≤ address.family.bits then .ok ⟨address, length, h⟩
  else .error ⟨address.family, length⟩

def family (n : Network) : Family := n.address.family

def chars (n : Network) : List Char := n.address.chars ++ '/' :: Text.decimal n.length.toNat

def text (n : Network) : String := String.ofList n.chars

/-- Reads a whole text as a network. Blanks around it do not count; the first slash divides it, and
the address is looked at before the length. -/
def ofText (s : String) : Except NetworkTextError Network :=
  match (Text.trim s.toList).span (· != '/') with
  | (_, []) => .error (.missingLength s)
  | (address, _ :: length) =>
    match Address.ofChars? address with
    | none => .error .address
    | some address =>
      match Text.readUnsigned 255 length with
      | .error e => .error (.length e)
      | .ok length => (make address (UInt8.ofNat length)).mapError .overlong

end Network

end TunnelConfig
