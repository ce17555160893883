import TunnelConfig.Configuration.Decode
import TunnelConfig.Configuration.Encode
import TunnelConfig.Driver.Dialogue

/-!
# Drivers in memory

A driver that keeps its tunnels in memory and answers with buffers of the same layout a request
has. It takes over what a request gives and leaves the rest as it is; peers keep the order in which
they came.
-/

namespace TunnelConfig.Driver

/-! ## Tunnels -/

/-- What the driver keeps of a tunnel. -/
structure Tunnel where
  interface : Interface
  peers : List (Key × Profile)
  up : Bool
  deriving DecidableEq

namespace Tunnel

/-- A tunnel that was never configured. -/
def blank : Tunnel := ⟨.blank, [], false⟩

/-- The public key that goes with a private key: its bytes in opposite order. -/
def publicKeyOf (k : Key) : Key := ⟨k.block.reverse⟩

/-- The interface with what a request gives. -/
def patchInterface (current patch : Interface) : Interface :=
  { current with
    privateKey := patch.privateKey.or current.privateKey
    publicKey := (patch.privateKey.map publicKeyOf).or current.publicKey
    listenPort := patch.listenPort.or current.listenPort }

/-- A profile as it is kept: the request's flag and the traffic do not belong to it. -/
def stored (p : Profile) : Profile := { p with replaceNetworks := false, traffic := .none }

/-- A kept profile with what an update gives. -/
def patchProfile (current patch : Profile) : Profile :=
  { current with
    presharedKey := patch.presharedKey.or current.presharedKey
    keepalive := patch.keepalive.or current.keepalive
    endpoint := patch.endpoint.or current.endpoint
    networks := (if patch.replaceNetworks then [] else current.networks) ++ patch.networks }

/-- The peers with what happens to one of them. -/
def changePeer (key : Key) (change : Change) : List (Key × Profile) → List (Key × Profile)
  | [] =>
    match change with
    | .set profile => [(key, stored profile)]
    | _ => []
  | (k, current) :: rest =>
    if k = key then
      match change with
      | .set profile => (k, stored profile) :: rest
      | .update patch => (k, patchProfile current patch) :: rest
      | .remove => rest
    else (k, current) :: changePeer key change rest

/-- The tunnel after a request. -/
def configure (t : Tunnel) (c : Configuration) : Tunnel :=
  let peers := if c.interface.replacePeers then [] else t.peers
  { t with
    interface := patchInterface t.interface c.interface
    peers := c.peers.foldl (fun peers p => changePeer p.publicKey p.change peers) peers }

/-- What the driver says about the tunnel: every peer is set as it is kept. -/
def configuration (t : Tunnel) : Configuration :=
  ⟨t.interface, t.peers.map fun (key, profile) => ⟨key, .set profile⟩⟩

def serve (request : Request) (t : Tunnel) : Reply × Tunnel :=
  match request with
  | .set buffer =>
    match Configuration.decode buffer with
    | .ok c => (.ok ⟨UInt32.ofNat buffer.length, []⟩, t.configure c)
    | .error e => (.error (.driver e.message), t)
  | .get room =>
    match t.configuration.encode with
    | .ok snapshot =>
      let size := UInt32.ofNat snapshot.size
      if room < snapshot.size then (.error (.bufferTooSmall size), t)
      else (.ok ⟨size, snapshot.bytes⟩, t)
    | .error e => (.error (.driver e.message), t)
  | .link state => (.ok ⟨0, []⟩, { t with up := state = .up })

end Tunnel

/-! ## Drivers -/

/-- A driver in memory. -/
structure Memory where
  /-- The tunnels it has. -/
  tunnels : Handle → Option Tunnel
  /-- Whether it refuses every request. -/
  deny : Bool
  /-- How many requests for a configuration came to a tunnel. -/
  gets : Nat

namespace Memory

def empty : Memory := ⟨fun _ => none, false, 0⟩

/-- The driver with a tunnel in place of whatever it has under the handle. -/
def put (handle : Handle) (t : Tunnel) (m : Memory) : Memory :=
  { m with tunnels := fun h => if h = handle then some t else m.tunnels h }

def serve : Service Memory := fun handle request m =>
  if m.deny then (.error .permissionDenied, m)
  else
    match m.tunnels handle with
    | none => (.error .invalidHandle, m)
    | some t =>
      let (reply, t) := t.serve request
      let gets := match request with
        | .get _ => m.gets + 1
        | _ => m.gets
      (reply, { m.put handle t with gets := gets })

end Memory

end TunnelConfig.Driver
