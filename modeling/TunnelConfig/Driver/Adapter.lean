import TunnelConfig.Configuration.Decode
import TunnelConfig.Configuration.Encode
import TunnelConfig.Driver.Dialogue
import TunnelConfig.Driver.Limits

/-!
# Adapters

An adapter is one tunnel as its user sees it: a handle, limits, and the size the driver reported
when the configuration was last read.

**Reading.** The size of a configuration is not known in advance. The first attempt offers the
remembered size, or else the initial one, but no more than the limit. While the driver says that
the buffer is too small, the next attempt offers what the driver requires, and at least one byte
more than before. The attempts and the size are bounded, and the number of attempts is looked at
first. That there is memory for a buffer of any size within the limit is taken for granted.

**Writing** and changing the link's state are one request each and are not repeated.
-/

namespace TunnelConfig.Driver

/-- A tunnel. -/
structure Adapter where
  handle : Handle
  limits : Limits
  /-- The size of the configuration when it was last read, unless that was zero. -/
  remembered : Option Nat
  deriving DecidableEq

/-- The greatest size there is. -/
def greatestSize : Nat := 18446744073709551615

/-- The size to offer after a buffer of a size was too small. -/
def nextSize (size required : Nat) : Nat := max required (min (size + 1) greatestSize)

/-- Asks for the configuration with a buffer of `size` bytes and, while that is too small, in up to
`more` further attempts. -/
def fetchWith (limits : Limits) : (more : Nat) → (size : Nat) → Dialogue (Except Error Bytes)
  | more, size =>
    .ask (.get size) fun
      | .ok answer =>
        let reported := answer.reported.toNat
        if size < reported then .done (.error (.wire (.truncated 0 reported size)))
        else .done (.ok (answer.taken size reported))
      | .error (.bufferTooSmall required) =>
        match more with
        | 0 => .done (.error (.retryLimit (max limits.maxAttempts.toNat 1) size))
        | more + 1 =>
          let next := nextSize size required.toNat
          if limits.maxSize.toNat < next then
            .done (.error (.sizeLimit next limits.maxSize.toNat))
          else fetchWith limits more next
      | .error refusal => .done (.error (.refused refusal))

namespace Adapter

/-- The adapter of a tunnel that was not read yet. -/
def make (handle : Handle) (limits : Limits) : Adapter := ⟨handle, limits, none⟩

/-- The size to start reading with. -/
def sizeHint (a : Adapter) : Nat := a.remembered.getD a.limits.initialSize.toNat

/-- The size of the first attempt to read. -/
def firstSize (a : Adapter) : Nat := min a.sizeHint a.limits.maxSize.toNat

/-- The adapter after the configuration was read. -/
def remember (a : Adapter) (buffer : Bytes) : Adapter :=
  { a with remembered := if buffer.length = 0 then none else some buffer.length }

/-- Reads the configuration as the driver writes it. -/
def fetchRaw (a : Adapter) : Dialogue (Except Error Bytes × Adapter) :=
  (fetchWith a.limits (max a.limits.maxAttempts.toNat 1 - 1) a.firstSize).map fun
    | .ok buffer => (.ok buffer, a.remember buffer)
    | .error e => (.error e, a)

/-- Reads the configuration. -/
def fetch (a : Adapter) : Dialogue (Except Error Configuration × Adapter) :=
  a.fetchRaw.map fun (result, a) =>
    (result.bind fun buffer => (Configuration.decode buffer).mapError .wire, a)

/-- Makes one request and passes on a refusal. -/
def request (r : Request) : Dialogue (Except Error Unit) :=
  .ask r fun
    | .ok _ => .done (.ok ())
    | .error refusal => .done (.error (.refused refusal))

/-- Hands a buffer to the driver. -/
def apply (buffer : Wire.Buffer) : Dialogue (Except Error Unit) :=
  match buffer.size32 with
  | .ok _ => request (.set buffer.bytes)
  | .error e => .done (.error (.wire e))

/-- Hands a configuration to the driver. -/
def configure (c : Configuration) : Dialogue (Except Error Unit) :=
  match c.encode with
  | .ok buffer => apply buffer
  | .error e => .done (.error (.wire e))

def setLink (state : LinkState) : Dialogue (Except Error Unit) := request (.link state)

end Adapter

end TunnelConfig.Driver
