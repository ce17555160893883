import TunnelConfig.Net.Network

/-!
# What can be wrong with a buffer

Each error names the place in the buffer, the record or the number it is about.
-/

namespace TunnelConfig.Wire

/-- The kinds of record that come in counted runs. -/
inductive Counted where
  | peer
  | network
  deriving DecidableEq

/-- The kind of record, as messages name it. -/
def Counted.name : Counted → String
  | peer => "peer"
  | network => "allowed IP"

/-- The kind of record, as messages name many of it. -/
def Counted.plural : Counted → String
  | peer => "peers"
  | network => "allowed IPs"

/-- Why a buffer cannot be read or written. -/
inductive Error where
  /-- A record would reach past the end of the buffer. -/
  | truncated (offset needed available : Nat)
  /-- More records are announced than the bytes that remain can hold. -/
  | inconsistentCount (kind : Counted) (offset count remaining : Nat)
  /-- An address family without a meaning. -/
  | unknownFamily (offset : Nat) (family : UInt16)
  /-- A prefix length above the family's greatest. -/
  | overlongPrefix (cause : OverlongPrefix)
  /-- A removal that also asks for something else. -/
  | contradictoryFlags (offset : Nat) (flags : UInt32)
  /-- A peer record that does not say which peer it is about. -/
  | missingPublicKey (offset : Nat)
  /-- More records than a count field can tell. -/
  | countOverflow (kind : Counted) (count : Nat)
  /-- More bytes than the driver call can take. -/
  | bufferTooLarge (size : Nat)
  deriving DecidableEq

/-- A number as eight upper-case hexadecimal digits. -/
def hexWord (n : Nat) : String :=
  String.ofList (Text.padLeft 8 '0' ((Text.hexadecimal n).map Char.toUpper))

def Error.message : Error → String
  | truncated offset needed available =>
    "Truncated buffer: record at offset " ++ toString offset ++ " needs " ++ toString needed
      ++ " bytes, " ++ toString available ++ " available"
  | inconsistentCount kind offset count remaining =>
    "Inconsistent " ++ kind.name ++ " count at offset " ++ toString offset ++ ": "
      ++ toString count ++ " records declared, " ++ toString remaining ++ " bytes remain"
  | unknownFamily offset family =>
    "Unknown address family " ++ toString family.toNat ++ " at offset " ++ toString offset
  | overlongPrefix cause => cause.message
  | contradictoryFlags offset flags =>
    "Contradictory peer flags 0x" ++ hexWord flags.toNat ++ " at offset " ++ toString offset
  | missingPublicKey offset =>
    "Peer record at offset " ++ toString offset ++ " carries no public key"
  | countOverflow kind count =>
    "Too many " ++ kind.plural ++ ": " ++ toString count ++ " does not fit in a 32-bit count"
  | bufferTooLarge size => "Configuration buffer too large: " ++ toString size ++ " bytes"

end TunnelConfig.Wire
