import TunnelConfig.Net.Family
import TunnelConfig.Net.IPv6

/-!
# Network addresses

An address of either family, with its octets and its text.
-/

namespace TunnelConfig

inductive Address where
  | v4 (ip : IPv4)
  | v6 (ip : IPv6)
  deriving DecidableEq

namespace Address

def family : Address → Family
  | v4 _ => .ipv4
  | v6 _ => .ipv6

/-- The octets in network order: four or sixteen. -/
def octets : Address → Bytes
  | v4 ip => ip.octets
  | v6 ip => ip.octets

def chars : Address → List Char
  | v4 ip => ip.chars
  | v6 ip => ip.chars

def text (a : Address) : String := String.ofList a.chars

/-- Takes an address off the front of a text. -/
def read (cs : List Char) : Option (Address × List Char) :=
  match IPv4.read cs with
  | some (ip, rest) => some (v4 ip, rest)
  | none => (IPv6.read cs).map fun (ip, rest) => (v6 ip, rest)

/-- Reads a whole text as an address. -/
def ofChars? (cs : List Char) : Option Address :=
  match read cs with
  | some (a, []) => some a
  | _ => none

/-- Reads a whole text as an address. -/
def ofText? (s : String) : Option Address := ofChars? s.toList

/-- What is said of a text that is no address. -/
def badText : String := "invalid IP address syntax"

end Address

end TunnelConfig
