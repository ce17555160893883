import TunnelConfig.Net.Address

/-!
# Endpoints

An endpoint is where a peer is reached: an address and a port, for IPv6 also the flow information
and the scope. The text form is `1.2.3.4:5` or `[::1]:5`, with the scope as `[fe80::1%3]:5` when it
is not zero. The text does not show the flow information, so reading yields zero for it.
-/

namespace TunnelConfig

/-- A socket address. -/
inductive Endpoint where
  | v4 (ip : IPv4) (port : UInt16)
  | v6 (ip : IPv6) (port : UInt16) (flow : UInt32) (scope : UInt32)
  deriving DecidableEq

namespace Endpoint

def chars : Endpoint → List Char
  | v4 ip port => ip.chars ++ ':' :: Text.decimal port.toNat
  | v6 ip port _ scope =>
    let zone := if scope = 0 then [] else '%' :: Text.decimal scope.toNat
    '[' :: (ip.chars ++ zone ++ ']' :: ':' :: Text.decimal port.toNat)

def text (e : Endpoint) : String := String.ofList e.chars

/-- Takes a decimal number of at most `greatest` off the front of a text; any number of leading
zeros is fine. -/
def readDecimal (greatest : Nat) (cs : List Char) : Option (Nat × List Char) :=
  let (digits, rest) := Text.takeDigits 10 cs
  let value := Text.digitsValue 10 digits
  if digits.length = 0 ∨ greatest < value then none else some (value, rest)

/-- Takes a colon and a port off the front of a text. -/
def readPort : List Char → Option (UInt16 × List Char)
  | ':' :: rest => (readDecimal 65535 rest).map fun (n, rest) => (UInt16.ofNat n, rest)
  | _ => none

/-- Takes a scope off the front of a text, if one is there. -/
def readScope (cs : List Char) : UInt32 × List Char :=
  match cs with
  | '%' :: rest =>
    match readDecimal 4294967295 rest with
    | some (n, rest) => (UInt32.ofNat n, rest)
    | none => (0, cs)
  | _ => (0, cs)

/-- Takes an IPv4 endpoint off the front of a text. -/
def readV4 (cs : List Char) : Option (Endpoint × List Char) := do
  let (ip, cs) ← IPv4.read cs
  let (port, cs) ← readPort cs
  return (v4 ip port, cs)

/-- Takes an IPv6 endpoint off the front of a text. -/
def readV6 : List Char → Option (Endpoint × List Char)
  | '[' :: cs => do
    let (ip, cs) ← IPv6.read cs
    let (scope, cs) := readScope cs
    match cs with
    | ']' :: cs =>
      let (port, cs) ← readPort cs
      return (v6 ip port 0 scope, cs)
    | _ => none
  | _ => none

/-- Reads a whole text as an endpoint. -/
def ofText? (s : String) : Option Endpoint :=
  match (readV4 s.toList).or (readV6 s.toList) with
  | some (e, []) => some e
  | _ => none

/-- What is said of a text that is no endpoint. -/
def badText : String := "invalid socket address syntax"

end Endpoint

end TunnelConfig
