import TunnelConfig.Key
import TunnelConfig.Net.Endpoint
import TunnelConfig.Net.Network

/-!
# Configurations

A configuration says how a tunnel interface is set up and what is to happen with its peers. As an
answer of the driver it describes what is there; as a request to the driver it describes a change.
A field that is `none` is not given at all, which is different from a zero.
-/

namespace TunnelConfig

/-- The settings of the local interface. -/
structure Interface where
  privateKey : Option Key
  publicKey : Option Key
  listenPort : Option UInt16
  /-- Whether the peers of the request take the place of all the driver has. -/
  replacePeers : Bool
  deriving DecidableEq

/-- The interface with nothing given. -/
def Interface.blank : Interface := ⟨none, none, none, false⟩

/-- What the driver counts for a peer. -/
structure Traffic where
  sent : UInt64
  received : UInt64
  /-- When the last handshake was, in steps of 100 ns since 1601; zero if there was none. -/
  lastHandshake : UInt64
  deriving DecidableEq

def Traffic.none : Traffic := ⟨0, 0, 0⟩

/-- The settings of a peer. -/
structure Profile where
  presharedKey : Option Key
  /-- Seconds between keepalive messages; zero turns them off. -/
  keepalive : Option UInt16
  endpoint : Option Endpoint
  /-- Whether the networks take the place of all the peer has. -/
  replaceNetworks : Bool
  networks : List Network
  traffic : Traffic
  deriving DecidableEq

/-- The profile with nothing given. -/
def Profile.blank : Profile := ⟨none, none, none, false, [], .none⟩

/-- What happens with a peer. -/
inductive Change where
  /-- The peer is there with exactly this profile. -/
  | set (profile : Profile)
  /-- The peer, if it is there, takes over what the profile gives. -/
  | update (profile : Profile)
  /-- The peer is no longer there. -/
  | remove
  deriving DecidableEq

/-- The profile that a change carries. -/
def Change.profile? : Change → Option Profile
  | set profile => some profile
  | update profile => some profile
  | remove => none

/-- A peer, which its public key tells from others, and what happens with it. -/
structure Peer where
  publicKey : Key
  change : Change
  deriving DecidableEq

/-- The networks that come with a peer; none come with a removal. -/
def Peer.networks (p : Peer) : List Network :=
  match p.change.profile? with
  | some profile => profile.networks
  | none => []

structure Configuration where
  interface : Interface
  peers : List Peer
  deriving DecidableEq

/-- The configuration with nothing given and no peers. -/
def Configuration.blank : Configuration := ⟨.blank, []⟩

/-! ## Handshake times -/

/-- The year 1970 in steps of 100 ns since 1601. -/
def epoch1970 : Nat := 116444736000000000

/-- The time of the last handshake in nanoseconds since 1970, at most what 64 bits hold. There is
none if no handshake took place or if it took place before 1970. -/
def Traffic.handshakeTime? (t : Traffic) : Option Nat :=
  let ticks := t.lastHandshake.toNat
  if ticks = 0 ∨ ticks < epoch1970 then Option.none
  else some (min ((ticks - epoch1970) * 100) 18446744073709551615)

end TunnelConfig
