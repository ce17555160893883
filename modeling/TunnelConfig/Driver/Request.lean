import TunnelConfig.Wire.Error

/-!
# Requests to the driver

A driver serves tunnels, which handles tell apart. It takes three requests: to set a configuration,
to get it, and to bring the link up or down. Its reply is an answer or a refusal.

**What the types leave out.** A buffer that a driver is to write to is always a new one of zeros, so
a request says only how much room there is. Nothing is ever read from a buffer after a refusal, so a
refusal has no bytes with it, whatever the driver may have written before.
-/

namespace TunnelConfig.Driver

/-! ## Requests -/

/-- What tells a tunnel from others. -/
structure Handle where
  id : UInt64
  deriving DecidableEq

def Handle.text (h : Handle) : String := "0x" ++ String.ofList (Text.hexadecimal h.id.toNat)

/-- What a link is to be. -/
inductive LinkState where
  | down
  | up
  deriving DecidableEq

/-- The driver's number of the state. -/
def LinkState.code : LinkState → UInt32
  | down => 0
  | up => 1

def LinkState.name : LinkState → String
  | down => "down"
  | up => "up"

inductive Request where
  /-- Takes over the configuration in a buffer. -/
  | set (buffer : Bytes)
  /-- Writes the configuration to a new buffer of zeros that has room for so many bytes. -/
  | get (room : Nat)
  /-- Changes the state of the link. -/
  | link (state : LinkState)
  deriving DecidableEq

def Request.name : Request → String
  | set _ => "set_configuration"
  | get _ => "get_configuration"
  | link _ => "set_adapter_state"

/-! ## Replies -/

/-- The answer to a request that was served. -/
structure Answer where
  /-- How many bytes the driver says it took or wrote. -/
  reported : UInt32
  /-- What it wrote to the start of the buffer. -/
  written : Bytes
  deriving DecidableEq

/-- The first `count` bytes of a buffer with that much room, as the answer leaves it. -/
def Answer.taken (a : Answer) (room count : Nat) : Bytes :=
  let bytes := (a.written.take room).take count
  bytes ++ Bytes.zeros (count - bytes.length)

theorem Answer.length_taken (a : Answer) (room count : Nat) :
    (a.taken room count).length = count := by
  simp only [taken, List.length_append, Bytes.length_zeros, List.length_take]
  omega

/-- Why a driver does not serve a request. -/
inductive Refusal where
  /-- The configuration takes up more bytes than there is room for. -/
  | bufferTooSmall (required : UInt32)
  | permissionDenied
  | invalidHandle
  /-- The system could not carry out the call. -/
  | system (text : String)
  /-- The driver gives a reason of its own. -/
  | driver (text : String)
  deriving DecidableEq

def Refusal.message : Refusal → String
  | bufferTooSmall required =>
    "Buffer too small: driver requires " ++ toString required.toNat ++ " bytes"
  | permissionDenied => "Permission denied"
  | invalidHandle => "Invalid adapter handle"
  | system text => "I/O error: " ++ text
  | driver text => "Driver error: " ++ text

abbrev Reply := Except Refusal Answer

/-! ## Errors -/

/-- Why an exchange of requests and replies fails. -/
inductive Error where
  /-- A buffer cannot be written or read. -/
  | wire (cause : Wire.Error)
  | refused (cause : Refusal)
  /-- The buffer was too small in as many attempts as are allowed. -/
  | retryLimit (attempts lastSize : Nat)
  /-- The driver needs a larger buffer than is allowed. -/
  | sizeLimit (required limit : Nat)
  deriving DecidableEq

def Error.message : Error → String
  | wire cause => "Protocol error: " ++ cause.message
  | refused cause => "Exchange failed: " ++ cause.message
  | retryLimit attempts lastSize =>
    "Gave up after " ++ toString attempts ++ " attempts, last buffer size " ++ toString lastSize
      ++ " bytes"
  | sizeLimit required limit =>
    "Driver requires " ++ toString required ++ " bytes, limit is " ++ toString limit

end TunnelConfig.Driver
