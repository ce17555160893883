/-!
# Address families

The two families of addresses a tunnel carries, with the number the driver uses for each and the
longest prefix an address of the family can have.
-/

namespace TunnelConfig

/-- A family of network addresses. -/
inductive Family where
  | ipv4
  | ipv6
  deriving DecidableEq

namespace Family

/-- The driver's number of the family. -/
def code : Family → UInt16
  | ipv4 => 2
  | ipv6 => 23

/-- The family the driver numbers so. -/
def ofCode? (code : UInt16) : Option Family :=
  if code = 2 then some ipv4 else if code = 23 then some ipv6 else none

/-- The number of address bits, which is the longest prefix length. -/
def bits : Family → UInt8
  | ipv4 => 32
  | ipv6 => 128

def name : Family → String
  | ipv4 => "IPv4"
  | ipv6 => "IPv6"

theorem ofCode?_code (f : Family) : ofCode? f.code = some f := by
  cases f <;> rfl

end Family

end TunnelConfig
