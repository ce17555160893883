import TunnelConfig.Configuration.Basic
import TunnelConfig.Wire.Record

/-!
# Tables

What the tool shows to a reader: a configuration, and the layout of the records in a buffer. A table
tells that a private or preshared key is there but not which.
-/

namespace TunnelConfig

/-- Lines as a text. -/
def Tool.linesText (lines : List String) : String := String.join (lines.map (· ++ "\n"))

/-- The line of a field, if it is given. -/
def Tool.lineIf {α : Type} (label : String) (shown : α → String) : Option α → List String
  | some a => ["  " ++ label ++ ": " ++ shown a]
  | none => []

/-- What stands in place of a secret key. -/
def Tool.concealed (_ : Key) : String := "(hidden)"

open Tool

/-! ## Configurations -/

def Interface.lines (i : Interface) : List String :=
  ["interface:"]
    ++ lineIf "public key" Key.text i.publicKey
    ++ lineIf "private key" concealed i.privateKey
    ++ lineIf "listening port" (fun p => toString p.toNat) i.listenPort
    ++ if i.replacePeers then ["  replace peers: yes"] else []

/-- Whole seconds from a time up to now, both in nanoseconds; zero if it is yet to come. -/
def secondsAgo (now time : Nat) : Nat := (now - time) / 1000000000

/-- The lines of what is counted for a peer. -/
def Traffic.lines (now : Nat) (t : Traffic) : List String :=
  lineIf "latest handshake" (fun time => toString (secondsAgo now time) ++ " seconds ago")
      t.handshakeTime?
    ++ if t.received ≠ 0 ∨ t.sent ≠ 0 then
        ["  transfer: " ++ toString t.received.toNat ++ " B received, "
          ++ toString t.sent.toNat ++ " B sent"]
      else []

def Profile.lines (now : Nat) (p : Profile) : List String :=
  lineIf "preshared key" concealed p.presharedKey
    ++ lineIf "endpoint" Endpoint.text p.endpoint
    ++ (if p.networks.isEmpty then []
      else ["  allowed ips: " ++ String.intercalate ", " (p.networks.map Network.text)])
    ++ lineIf "persistent keepalive" (fun k => "every " ++ toString k.toNat ++ " seconds")
      p.keepalive
    ++ p.traffic.lines now

/-- The lines of a change. A peer that is simply there has no line for that. -/
def Change.lines (now : Nat) : Change → List String
  | set profile => profile.lines now
  | update profile => "  action: update" :: profile.lines now
  | remove => ["  action: remove"]

def Peer.lines (now : Nat) (p : Peer) : List String :=
  ["", "peer: " ++ p.publicKey.text] ++ p.change.lines now

/-- The configuration as a table, at a time in nanoseconds since 1970. -/
def Configuration.table (now : Nat) (c : Configuration) : String :=
  linesText (c.interface.lines ++ c.peers.flatMap (Peer.lines now))

/-! ## Records -/

/-- A text in a column, at its left. -/
def Tool.leftIn (width : Nat) (s : String) : String :=
  String.ofList (Text.padRight width ' ' s.toList)

/-- A number in a column, at its right. -/
def Tool.rightIn (width n : Nat) : String :=
  String.ofList (Text.padLeft width ' ' (Text.decimal n))

/-- The line of a field: its name, its range and its size. -/
def Wire.Field.line (f : Wire.Field) : String :=
  "  " ++ leftIn 22 f.name ++ " " ++ rightIn 3 f.offset ++ ".."
    ++ leftIn 3 (toString (f.offset + f.size)) ++ " (" ++ toString f.size ++ " bytes)"

/-- The lines of a kind of record. -/
def Tool.recordLines (name : String) (size : Nat) (fields : List Wire.Field) : List String :=
  (name ++ " (" ++ toString size ++ " bytes)") :: fields.map Wire.Field.line

/-- The layout of all kinds of records. -/
def Wire.layoutTable : String :=
  linesText (recordLines "interface" InterfaceRecord.size InterfaceRecord.fields
    ++ recordLines "peer" PeerRecord.size PeerRecord.fields
    ++ recordLines "allowed ip" NetworkRecord.size NetworkRecord.fields)

end TunnelConfig
