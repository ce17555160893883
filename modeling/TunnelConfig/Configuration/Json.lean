import TunnelConfig.Configuration.Basic
import TunnelConfig.Json.Shape
import TunnelConfig.Json.Value

/-!
# Configurations in JSON text

**Writing.** A configuration is an object with its interface and its peers. Fields that are not
given are left out, members stand in a fixed order, and keys, endpoints and networks are texts. A
peer's change is an object whose member `action` says what happens.

**Reading** takes back what was written and also structures written as arrays, members in another
order and members without a meaning, with the defaults for what is left out. Everything but the
interface, a peer's public key and its change has one.
-/

namespace TunnelConfig

open Json

/-! ## Writing -/

/-- The member of a field, if it is given. -/
def memberIf (name : String) (value : Option Value) : List (String × Value) :=
  match value with
  | some v => [(name, v)]
  | none => []

def Key.toJson (k : Key) : Value := .text k.text

def Interface.toJson (i : Interface) : Value :=
  .object (memberIf "private_key" (i.privateKey.map Key.toJson)
    ++ memberIf "public_key" (i.publicKey.map Key.toJson)
    ++ memberIf "listen_port" (i.listenPort.map fun p => .number p.toNat)
    ++ [("replace_peers", .bool i.replacePeers)])

def Traffic.toJson (t : Traffic) : Value :=
  .object [("tx_bytes", .number t.sent.toNat), ("rx_bytes", .number t.received.toNat),
    ("last_handshake", .number t.lastHandshake.toNat)]

def Profile.members (p : Profile) : List (String × Value) :=
  memberIf "preshared_key" (p.presharedKey.map Key.toJson)
    ++ memberIf "persistent_keepalive" (p.keepalive.map fun k => .number k.toNat)
    ++ memberIf "endpoint" (p.endpoint.map fun e => .text e.text)
    ++ [("replace_allowed_ips", .bool p.replaceNetworks),
      ("allowed_ips", .array (p.networks.map fun n => .text n.text)),
      ("stats", p.traffic.toJson)]

def Change.toJson : Change → Value
  | set profile => .object (("action", .text "set") :: profile.members)
  | update profile => .object (("action", .text "update") :: profile.members)
  | remove => .object [("action", .text "remove")]

def Peer.toJson (p : Peer) : Value :=
  .object [("public_key", p.publicKey.toJson), ("change", p.change.toJson)]

def Configuration.toJson (c : Configuration) : Value :=
  .object [("interface", c.interface.toJson), ("peers", .array (c.peers.map Peer.toJson))]

/-! ## Reading -/

/-- Why the content of a text is refused. -/
inductive ContentError where
  | key (cause : KeyError)
  | network (cause : NetworkTextError)
  | endpoint
  deriving DecidableEq

def ContentError.message : ContentError → String
  | key cause => cause.message
  | network cause => cause.message
  | endpoint => Endpoint.badText

/-- What reading a part of a configuration yields. -/
abbrev ReadResult (α : Type) := Json.Result ContentError α

def Key.ofOutline : Outline → ReadResult Key :=
  Outline.readText "a string" fun s => (Key.ofText s).mapError .key

def Network.ofOutline : Outline → ReadResult Network :=
  Outline.readText "a string" fun s => (Network.ofText s).mapError .network

def Endpoint.ofOutline : Outline → ReadResult Endpoint :=
  Outline.readText "socket address" fun s =>
    match Endpoint.ofText? s with
    | some e => .ok e
    | none => .error .endpoint

def readUInt16 (o : Outline) : ReadResult UInt16 :=
  (o.readUnsigned "u16" 65535).map UInt16.ofNat

def readUInt64 (o : Outline) : ReadResult UInt64 :=
  (o.readUnsigned "u64" 18446744073709551615).map UInt64.ofNat

/-- A field that has a default. -/
def optionalField {α σ : Type} (name : String) (read : Outline → ReadResult α)
    (put : α → σ → σ) : Field ContentError σ :=
  ⟨name, false, fun o => (read o).map put⟩

/-- A field that has to be there. -/
def requiredField {α σ : Type} (name : String) (read : Outline → ReadResult α)
    (put : α → σ → σ) : Field ContentError σ :=
  ⟨name, true, fun o => (read o).map put⟩

def Interface.shape : Shape ContentError Interface where
  name := "Interface"
  fields := [
    optionalField "private_key" (Outline.readOption Key.ofOutline) fun v i =>
      { i with privateKey := v },
    optionalField "public_key" (Outline.readOption Key.ofOutline) fun v i =>
      { i with publicKey := v },
    optionalField "listen_port" (Outline.readOption readUInt16) fun v i =>
      { i with listenPort := v },
    optionalField "replace_peers" Outline.readBool fun v i => { i with replacePeers := v }]
  blank := .blank
  surplus := .malformed

def Traffic.shape : Shape ContentError Traffic where
  name := "PeerStats"
  fields := [
    optionalField "tx_bytes" readUInt64 fun v t => { t with sent := v },
    optionalField "rx_bytes" readUInt64 fun v t => { t with received := v },
    optionalField "last_handshake" readUInt64 fun v t => { t with lastHandshake := v }]
  blank := .none
  surplus := .counted

def Profile.shape : Shape ContentError Profile where
  name := "PeerSettings"
  fields := [
    optionalField "preshared_key" (Outline.readOption Key.ofOutline) fun v p =>
      { p with presharedKey := v },
    optionalField "persistent_keepalive" (Outline.readOption readUInt16) fun v p =>
      { p with keepalive := v },
    optionalField "endpoint" (Outline.readOption Endpoint.ofOutline) fun v p =>
      { p with endpoint := v },
    optionalField "replace_allowed_ips" Outline.readBool fun v p =>
      { p with replaceNetworks := v },
    optionalField "allowed_ips" (Outline.readList Network.ofOutline) fun v p =>
      { p with networks := v },
    optionalField "stats" Traffic.shape.read fun v p => { p with traffic := v }]
  blank := .blank
  surplus := .counted

/-- Reads the content of a removal: whatever members there are, but no items. -/
def Change.readRemoval : Outline → ReadResult Change
  | .array items _ =>
    if items.isEmpty then .ok .remove
    else misfit (.wrongLength items.length (elements 0 ++ " in sequence"))
  | _ => .ok .remove

/-- How deep arrays and objects may be nested in a document, the outermost included. -/
def nestingLimit : Nat := 127

/-- How a change stands in JSON text. Three levels are around it. -/
def Change.tagged : Tagged ContentError Change where
  name := "PeerChange"
  tag := "action"
  variants := [
    ("set", fun o => (Profile.shape.read o).map .set),
    ("update", fun o => (Profile.shape.read o).map .update),
    ("remove", Change.readRemoval)]
  room := nestingLimit - 4

def Peer.shape : Shape ContentError Peer where
  name := "Peer"
  fields := [
    requiredField "public_key" Key.ofOutline fun v p => { p with publicKey := v },
    requiredField "change" Change.tagged.read fun v p => { p with change := v }]
  blank := ⟨default, .remove⟩
  surplus := .malformed

def Configuration.shape : Shape ContentError Configuration where
  name := "DriverConfig"
  fields := [
    requiredField "interface" Interface.shape.read fun v c => { c with interface := v },
    optionalField "peers" (Outline.readList Peer.shape.read) fun v c => { c with peers := v }]
  blank := .blank
  surplus := .malformed

/-- Why a text is not a configuration. -/
abbrev ConfigurationTextError := ReadError ContentError

/-- Reads a configuration from JSON text. -/
def Configuration.ofText (s : String) : Except ConfigurationTextError Configuration :=
  (Document.ofText s).read Configuration.shape.read

end TunnelConfig
