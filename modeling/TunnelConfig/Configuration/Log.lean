import TunnelConfig.Configuration.Decode
import TunnelConfig.Configuration.Encode
import TunnelConfig.Settings.LogEntry

/-!
# What decoding and encoding tell the log

Decoding tells of every record that it reads, in the order in which it reads them. The interface
record and the peer records are read twice, because each has a count that is looked at before
anything else. Where decoding stops at a fault, so does what it tells. Encoding tells only that a
buffer is done.
-/

namespace TunnelConfig

open Wire

/-- What is told after a success. After a failure nothing is. -/
def toldAfter {α : Type} (result : Except Error α) (told : α → List LogEvent) : List LogEvent :=
  match result with
  | .ok a => told a
  | .error _ => []

@[simp] theorem toldAfter_ok {α : Type} (a : α) (told : α → List LogEvent) :
    toldAfter (.ok a) told = told a := rfl

@[simp] theorem toldAfter_error {α : Type} (e : Error) (told : α → List LogEvent) :
    toldAfter (.error e) told = [] := rfl

/-- What reading `count` networks tells. -/
def Network.readEvents : (count : Nat) → Cursor → List LogEvent
  | 0, _ => []
  | count + 1, c => toldAfter c.network fun r =>
    .recordRead c.offset NetworkRecord.size :: toldAfter (r.network c.offset) fun _ =>
      readEvents count (c.advance NetworkRecord.size)

/-- What decoding a visited peer tells. Its networks are looked at only if it is one to be kept. -/
def Peer.entryEvents (e : PeerEntry) : List LogEvent :=
  .peerMet e.offset e.record.flags.bits ::
    if e.record.flags.contains PeerFlags.publicKey && !e.record.flags.contains PeerFlags.removal then
      Network.readEvents e.record.networkCount.toNat (e.place.advance PeerRecord.size)
    else []

/-- What reading `count` peers, and reaching the end after them, tells. -/
def Peer.readEvents : (count : Nat) → Cursor → List LogEvent
  | 0, c => if 0 < c.rest.length then [.bytesIgnored c.rest.length] else []
  | count + 1, c => toldAfter c.peer fun _ =>
    List.replicate 2 (.recordRead c.offset PeerRecord.size) ++ toldAfter c.entry fun visited =>
      entryEvents visited.1 ++ toldAfter (ofEntry visited.1) fun _ => readEvents count visited.2

namespace Configuration

/-- What decoding a buffer tells. -/
def decodeEvents (buffer : Bytes) : List LogEvent :=
  let start := Cursor.start buffer
  toldAfter start.interface fun _ =>
    List.replicate 2 (.recordRead start.offset InterfaceRecord.size) ++
      toldAfter start.peers fun walk => Peer.readEvents walk.remaining walk.place

def encodeEvents (c : Configuration) : List LogEvent :=
  toldAfter c.encode fun buffer => [.bufferAssembled buffer.size]

def decodeEntries (buffer : Bytes) : List LogEntry :=
  (decodeEvents buffer).map fun event => ⟨some (.decoding buffer.length), event⟩

def encodeEntries (c : Configuration) : List LogEntry :=
  c.encodeEvents.map fun event => ⟨some (.encoding c.peers.length), event⟩

end Configuration

end TunnelConfig
