/-!
# Limits of reading a configuration

How a driver is asked for a configuration whose size is not known: the room to start with, the
number of attempts, and the greatest room.
-/

namespace TunnelConfig.Driver

structure Limits where
  /-- The room of the first attempt when nothing better is known. -/
  initialSize : UInt64
  maxAttempts : UInt32
  /-- The greatest room of any attempt. -/
  maxSize : UInt64
  deriving DecidableEq

/-- The usual limits: 512 bytes at first, eight attempts, 32 MiB at most. -/
def Limits.standard : Limits := ⟨512, 8, 33554432⟩

end TunnelConfig.Driver
