import TunnelConfig.Proofs.Commands
import TunnelConfig.Proofs.Visits

/-!
# Secret keys do not show

**Theorem (`run_decode_secrets`).** Two buffers may differ in the private key of the interface and
in the preshared keys of the peers that the walk looks for, and nowhere else. Then a run of the tool
that shows them as tables comes to the same with both: it prints the same table, or it ends with the
same error in the buffer, and either way it has told the log the same.

**Tables.** A table shows no more of a configuration than is left without its secrets
(`table_withoutSecrets`).

**Buffers.** Both buffers are read side by side, from the same offset (`Peer.readRun_congr`). The
bytes of a record that say where the walk goes on are not secret: the secret ones of a peer are in
the middle of its own record, and the offsets at which the walk looks later are behind its networks
(`AgreeFrom.next`). So the two readings stay together, fail with the same error, and yield the same
up to secrets.

**The log.** An entry holds offsets, sizes, counts and flags, none of which is secret, so with the
readings what they tell stays the same (`Peer.readEvents_congr`). Whatever a log shows, at any level
and in any form, shows no secret.
-/

namespace TunnelConfig

open Wire

/-- Readings that yield the same up to `k`, followed by readings that then yield the same up to
`h`. -/
theorem map_bind_congr {ε α β γ δ : Type} {x x' : Except ε α} {f f' : α → Except ε β} {k : α → γ}
    {h : β → δ} (hx : x.map k = x'.map k)
    (hf : ∀ a a', k a = k a' → (f a).map h = (f' a').map h) :
    (x >>= f).map h = (x' >>= f').map h := by
  cases x with
  | error e =>
    cases x' with
    | error e' =>
      cases hx
      rfl
    | ok a' => cases hx
  | ok a =>
    cases x' with
    | error e' => cases hx
    | ok a' => exact hf a a' (Except.ok.inj hx)

/-! ## Without secrets -/

/-- The interface without its private key; whether it has one is still to be seen. -/
def Interface.withoutSecrets (i : Interface) : Interface :=
  { i with privateKey := i.privateKey.map fun _ => ⟨.zero⟩ }

/-- The profile without its preshared key; whether it has one is still to be seen. -/
def Profile.withoutSecrets (p : Profile) : Profile :=
  { p with presharedKey := p.presharedKey.map fun _ => ⟨.zero⟩ }

def Change.withoutSecrets : Change → Change
  | set profile => .set profile.withoutSecrets
  | update profile => .update profile.withoutSecrets
  | remove => .remove

def Peer.withoutSecrets (p : Peer) : Peer := { p with change := p.change.withoutSecrets }

def Configuration.withoutSecrets (c : Configuration) : Configuration :=
  ⟨c.interface.withoutSecrets, c.peers.map Peer.withoutSecrets⟩

/-! ### Tables -/

theorem Tool.lineIf_concealed (label : String) (k : Option Key) (other : Key) :
    lineIf label concealed (k.map fun _ => other) = lineIf label concealed k := by
  cases k <;> rfl

theorem Interface.lines_withoutSecrets (i : Interface) : i.withoutSecrets.lines = i.lines := by
  rw [lines, withoutSecrets, Tool.lineIf_concealed, lines]

theorem Profile.lines_withoutSecrets (now : Nat) (p : Profile) :
    p.withoutSecrets.lines now = p.lines now := by
  rw [lines, withoutSecrets, Tool.lineIf_concealed, lines]

theorem Change.lines_withoutSecrets (now : Nat) (c : Change) :
    c.withoutSecrets.lines now = c.lines now := by
  cases c with
  | set profile => exact profile.lines_withoutSecrets now
  | update profile => exact congrArg ("  action: update" :: ·) (profile.lines_withoutSecrets now)
  | remove => rfl

theorem Peer.lines_withoutSecrets (now : Nat) (p : Peer) :
    p.withoutSecrets.lines now = p.lines now := by
  rw [lines, withoutSecrets, Change.lines_withoutSecrets, lines]

theorem Configuration.table_withoutSecrets (now : Nat) (c : Configuration) :
    c.withoutSecrets.table now = c.table now := by
  have hpeers : c.withoutSecrets.peers.flatMap (Peer.lines now) =
      c.peers.flatMap (Peer.lines now) := by
    rw [withoutSecrets, List.flatMap_map]
    exact congrArg (List.flatMap · c.peers) (funext fun p => p.lines_withoutSecrets now)
  rw [table, hpeers, table]
  exact congrArg (fun lines => Tool.linesText (lines ++ _)) c.interface.lines_withoutSecrets

/-! ### Records -/

/-- The record without its private key. -/
def Wire.InterfaceRecord.withoutSecrets (r : InterfaceRecord) : InterfaceRecord :=
  { r with privateKey := .zero }

/-- The record without its preshared key. -/
def Wire.PeerRecord.withoutSecrets (r : PeerRecord) : PeerRecord := { r with presharedKey := .zero }

theorem Key.map_ofField (present : Bool) (block other : Block 32) (k : Key) :
    ((ofField present block).map fun _ => k) = (ofField present other).map fun _ => k := by
  cases present <;> rfl

theorem Interface.withoutSecrets_ofRecord (r : InterfaceRecord) :
    (ofRecord r.withoutSecrets).withoutSecrets = (ofRecord r).withoutSecrets :=
  congrArg (fun k => { ofRecord r with privateKey := k }) (Key.map_ofField _ _ _ _)

theorem Profile.map_ofRecord (offset : Nat) (r : PeerRecord) (networks : List Network) :
    (ofRecord offset r.withoutSecrets networks).map withoutSecrets =
      (ofRecord offset r networks).map withoutSecrets := by
  refine map_bind_congr (x := endpointOf offset r) (k := id) rfl ?_
  rintro endpoint _ rfl
  exact congrArg (fun k => Except.ok (Profile.mk k _ endpoint _ networks _))
    (Key.map_ofField _ _ _ _)

/-- What is read from a peer record does not depend on its preshared key, up to that key. -/
theorem Peer.map_ofEntry (c : Cursor) (r : PeerRecord) :
    (ofEntry ⟨c, r.withoutSecrets⟩).map withoutSecrets = (ofEntry ⟨c, r⟩).map withoutSecrets := by
  have hflags : r.withoutSecrets.flags = r.flags := rfl
  have hcount : r.withoutSecrets.networkCount = r.networkCount := rfl
  have hkey : r.withoutSecrets.publicKey = r.publicKey := rfl
  rw [ofEntry_eq, ofEntry_eq]
  dsimp only
  rw [hflags, hcount, hkey]
  split
  · rfl
  · split
    · rfl
    · refine map_bind_congr (k := id) rfl ?_
      rintro networks _ rfl
      refine map_bind_congr (Profile.map_ofRecord _ r networks) fun profile profile' hprofile => ?_
      split
      · exact congrArg (fun p => Except.ok (⟨_, .update p⟩ : Peer)) hprofile
      · exact congrArg (fun p => Except.ok (⟨_, .set p⟩ : Peer)) hprofile

/-! ## Two buffers side by side -/

/-- The bytes from `first` to `last` are the same in both buffers. -/
def AgreeOn (b b' : Bytes) (first last : Nat) : Prop :=
  ∀ k, first ≤ k → k < last → b[k]? = b'[k]?

section Agreement

variable {b b' : Bytes} {offset : Nat}

theorem AgreeOn.mono {first last first' last' : Nat} (h : AgreeOn b b' first last)
    (hfirst : first ≤ first') (hlast : last' ≤ last) : AgreeOn b b' first' last' :=
  fun k hk hk' => h k (Nat.le_trans hfirst hk) (Nat.lt_of_lt_of_le hk' hlast)

theorem AgreeOn.take_drop {width : Nat} (h : AgreeOn b b' offset (offset + width)) :
    (b.drop offset).take width = (b'.drop offset).take width := by
  apply List.ext_getElem?
  intro k
  rw [List.getElem?_take, List.getElem?_take]
  by_cases hk : k < width
  · rw [if_pos hk, if_pos hk, List.getElem?_drop, List.getElem?_drop]
    exact h (offset + k) (Nat.le_add_right _ _) (by omega)
  · rw [if_neg hk, if_neg hk]

theorem AgreeOn.numberAt {width : Nat} (h : AgreeOn b b' offset (offset + width)) :
    b.numberAt offset width = b'.numberAt offset width :=
  congrArg Bytes.littleValue h.take_drop

theorem AgreeOn.blockAt {n : Nat} (hlength : b.length = b'.length) (hn : offset + n ≤ b.length)
    (h : AgreeOn b b' offset (offset + n)) : b.blockAt n offset = b'.blockAt n offset := by
  apply Block.ext
  rw [Bytes.toList_blockAt hn, Bytes.toList_blockAt (hlength ▸ hn), h.take_drop]

/-- A field whose bytes are the same in both buffers. -/
theorem AgreeOn.field {n start width : Nat} (hlength : b.length = b'.length)
    (hn : offset + n ≤ b.length) (hfits : start + width ≤ n)
    (h : AgreeOn b b' (offset + start) (offset + start + width)) :
    ((b.blockAt n offset).toList.drop start).take width =
      ((b'.blockAt n offset).toList.drop start).take width := by
  rw [Bytes.take_drop_blockAt hn hfits, Bytes.take_drop_blockAt (hlength ▸ hn) hfits, h.take_drop]

/-- Interface records that differ in the private key at most. -/
theorem Wire.InterfaceRecord.withoutSecrets_congr (hlength : b.length = b'.length)
    (hn : 80 ≤ b.length) (hfront : AgreeOn b b' 0 6) (hback : AgreeOn b b' 38 80) :
    (ofBlock (b.blockAt 80 0)).withoutSecrets = (ofBlock (b'.blockAt 80 0)).withoutSecrets := by
  have hfield : ∀ s w, s + w ≤ 80 → (s + w ≤ 6 ∨ 38 ≤ s) →
      ((b.blockAt 80 0).toList.drop s).take w = ((b'.blockAt 80 0).toList.drop s).take w := by
    intro s w hfits hopen
    refine AgreeOn.field hlength (by omega) hfits ?_
    rcases hopen with hopen | hopen
    · exact hfront.mono (by omega) (by omega)
    · exact hback.mono (by omega) (by omega)
  simp only [withoutSecrets, ofBlock, Block.little, Block.slice,
    hfield 0 4 (by decide) (by decide), hfield 4 2 (by decide) (by decide),
    hfield 38 32 (by decide) (by decide), hfield 72 4 (by decide) (by decide)]

/-- Peer records that differ in the preshared key at most. -/
theorem Wire.PeerRecord.withoutSecrets_congr (hlength : b.length = b'.length)
    (hn : offset + 136 ≤ b.length) (hfront : AgreeOn b b' offset (offset + 40))
    (hback : AgreeOn b b' (offset + 72) (offset + 136)) :
    (ofBlock (b.blockAt 136 offset)).withoutSecrets =
      (ofBlock (b'.blockAt 136 offset)).withoutSecrets := by
  have hfield : ∀ s w, s + w ≤ 136 → (s + w ≤ 40 ∨ 72 ≤ s) →
      ((b.blockAt 136 offset).toList.drop s).take w =
        ((b'.blockAt 136 offset).toList.drop s).take w := by
    intro s w hfits hopen
    refine AgreeOn.field hlength hn hfits ?_
    rcases hopen with hopen | hopen
    · exact hfront.mono (by omega) (by omega)
    · exact hback.mono (by omega) (by omega)
  simp only [withoutSecrets, ofBlock, Block.little, Block.slice, SocketField.offsetInPeer,
    hfield 0 4 (by decide) (by decide), hfield 8 32 (by decide) (by decide),
    hfield 72 2 (by decide) (by decide), hfield 76 28 (by decide) (by decide),
    hfield 104 8 (by decide) (by decide), hfield 112 8 (by decide) (by decide),
    hfield 120 8 (by decide) (by decide), hfield 128 4 (by decide) (by decide)]

/-! ### Readings -/

theorem Wire.Cursor.network_congr (hlength : b.length = b'.length)
    (h : AgreeOn b b' offset (offset + 24)) :
    (ofOffset b offset).network = (ofOffset b' offset).network := by
  rw [network_ofOffset, network_ofOffset, ← hlength]
  by_cases hn : offset + 24 ≤ b.length
  · rw [AgreeOn.blockAt hlength hn h]
  · rw [if_neg hn, if_neg hn]

theorem Network.readRun_congr (hlength : b.length = b'.length) {count : Nat}
    (h : AgreeOn b b' offset (offset + 24 * count)) (read : List Network) :
    readRun count (.ofOffset b offset) read = readRun count (.ofOffset b' offset) read := by
  induction count generalizing offset read with
  | zero => rfl
  | succ count ih =>
    have hnetwork := Cursor.network_congr hlength (h.mono (Nat.le_refl _) (by omega))
    have hrest : AgreeOn b b' (offset + 24) (offset + 24 + 24 * count) :=
      h.mono (by omega) (by omega)
    rw [readRun, readRun, hnetwork, show NetworkRecord.size = 24 from rfl,
      Cursor.advance_ofOffset, Cursor.advance_ofOffset]
    refine congrArg (_ >>= ·) (funext fun r => ?_)
    exact congrArg (_ >>= ·) (funext fun n => ih hrest (n :: read))

/-- A peer whose networks are the same in both buffers. -/
theorem Peer.ofEntry_ofOffset_congr (hlength : b.length = b'.length) {r : PeerRecord}
    (h : AgreeOn b b' (offset + 136) (offset + 136 + 24 * r.networkCount.toNat)) :
    ofEntry ⟨.ofOffset b offset, r⟩ = ofEntry ⟨.ofOffset b' offset, r⟩ := by
  have hnetworks := Network.readRun_congr hlength h []
  rw [ofEntry_eq, ofEntry_eq]
  dsimp only
  rw [show PeerRecord.size = 136 from rfl, Cursor.advance_ofOffset, Cursor.advance_ofOffset,
    hnetworks]
  rfl

/-! ### What is told -/

/-- After readings that yield the same up to `k`, the same is told if it depends on no more. -/
theorem toldAfter_congr {α γ : Type} {x x' : Except Error α} {told told' : α → List LogEvent}
    {k : α → γ} (hx : x.map k = x'.map k) (h : ∀ a a', k a = k a' → told a = told' a') :
    toldAfter x told = toldAfter x' told' := by
  cases x with
  | error e =>
    cases x' with
    | error e' => rfl
    | ok a' => cases hx
  | ok a =>
    cases x' with
    | error e' => cases hx
    | ok a' => exact h a a' (Except.ok.inj hx)

theorem Network.readEvents_congr (hlength : b.length = b'.length) {count : Nat}
    (h : AgreeOn b b' offset (offset + 24 * count)) :
    readEvents count (.ofOffset b offset) = readEvents count (.ofOffset b' offset) := by
  induction count generalizing offset with
  | zero => rfl
  | succ count ih =>
    have hnetwork := Cursor.network_congr hlength (h.mono (Nat.le_refl _) (by omega))
    have hrest : AgreeOn b b' (offset + 24) (offset + 24 + 24 * count) :=
      h.mono (by omega) (by omega)
    rw [readEvents, readEvents, hnetwork, show NetworkRecord.size = 24 from rfl,
      Cursor.advance_ofOffset, Cursor.advance_ofOffset, ih hrest]
    rfl

theorem Peer.entryEvents_withoutSecrets (c : Cursor) (r : PeerRecord) :
    entryEvents ⟨c, r.withoutSecrets⟩ = entryEvents ⟨c, r⟩ := rfl

theorem Peer.entryEvents_ofOffset_congr (hlength : b.length = b'.length) {r : PeerRecord}
    (h : AgreeOn b b' (offset + 136) (offset + 136 + 24 * r.networkCount.toNat)) :
    entryEvents ⟨.ofOffset b offset, r⟩ = entryEvents ⟨.ofOffset b' offset, r⟩ := by
  have hnetworks := Network.readEvents_congr hlength h
  rw [entryEvents, entryEvents]
  dsimp only
  rw [show PeerRecord.size = 136 from rfl, Cursor.advance_ofOffset, Cursor.advance_ofOffset,
    hnetworks]
  rfl

/-! ### Peers one after another -/

/-- Peers that differ in the preshared key at most, and what decoding them tells. -/
theorem Peer.ofEntry_congr (hlength : b.length = b'.length) (hn : offset + 136 ≤ b.length)
    (hfront : AgreeOn b b' offset (offset + 40))
    (hback : AgreeOn b b' (offset + 72) (b.peerEnd offset)) :
    (ofEntry ⟨.ofOffset b offset, .ofBlock (b.blockAt 136 offset)⟩).map withoutSecrets =
        (ofEntry ⟨.ofOffset b' offset, .ofBlock (b'.blockAt 136 offset)⟩).map withoutSecrets ∧
      entryEvents ⟨.ofOffset b offset, .ofBlock (b.blockAt 136 offset)⟩ =
        entryEvents ⟨.ofOffset b' offset, .ofBlock (b'.blockAt 136 offset)⟩ := by
  have hrecord := PeerRecord.withoutSecrets_congr hlength hn hfront
    (hback.mono (Nat.le_refl _) (Nat.le_add_right _ _))
  have hnetworks : AgreeOn b b' (offset + 136) (offset + 136 + 24 *
      (PeerRecord.ofBlock (b.blockAt 136 offset)).networkCount.toNat) := by
    rw [Cursor.networkCount_ofBlock hn]
    exact hback.mono (by omega) (Nat.le_refl _)
  constructor
  · rw [ofEntry_ofOffset_congr hlength hnetworks, ← map_ofEntry, hrecord, map_ofEntry]
  · rw [entryEvents_ofOffset_congr hlength hnetworks, ← entryEvents_withoutSecrets, hrecord,
      entryEvents_withoutSecrets]

/-- From `offset` on, the bytes are the same in both buffers, apart from the preshared keys of the
peers at which a walk over `count` peers looks. -/
def AgreeFrom (b b' : Bytes) (count offset : Nat) : Prop :=
  ∀ k, offset ≤ k →
    (∀ p ∈ (⟨.ofOffset b offset, count, false⟩ : PeerWalk).offsets, ¬(p + 40 ≤ k ∧ k < p + 72)) →
      b[k]? = b'[k]?

section Next

variable {count : Nat} (h : AgreeFrom b b' (count + 1) offset)
include h

/-- Up to the end of a peer, only this peer has secrets: the walk looks for the next one behind
it. -/
theorem AgreeFrom.peer :
    AgreeOn b b' offset (offset + 40) ∧ AgreeOn b b' (offset + 72) (b.peerEnd offset) := by
  have hend : offset + 136 + 24 * b.networkCountAt offset = b.peerEnd offset := rfl
  have hopen : ∀ k, offset ≤ k → k < b.peerEnd offset → ¬(offset + 40 ≤ k ∧ k < offset + 72) →
      b[k]? = b'[k]? := by
    intro k hfirst hlast hk
    refine h k hfirst fun p hp => ?_
    rw [PeerWalk.offsets_succ] at hp
    rcases List.mem_cons.mp hp with rfl | hp
    · exact hk
    · split at hp
      · have hle := PeerWalk.le_of_mem_offsets hp
        omega
      · cases hp
  exact ⟨fun k hfirst hlast => hopen k hfirst (by omega) (by omega),
    fun k hfirst hlast => hopen k (by omega) hlast (by omega)⟩

theorem AgreeFrom.next (hfits : b.peerEnd offset ≤ b.length) :
    AgreeFrom b b' count (b.peerEnd offset) := by
  have hend : offset + 136 + 24 * b.networkCountAt offset = b.peerEnd offset := rfl
  intro k hfirst hk
  refine h k (by omega) fun q hq => ?_
  rw [PeerWalk.offsets_succ, if_pos hfits] at hq
  rcases List.mem_cons.mp hq with rfl | hq
  · omega
  · exact hk q hq

theorem AgreeFrom.networkCountAt : b.networkCountAt offset = b'.networkCountAt offset := by
  have hend : offset + 136 + 24 * b.networkCountAt offset = b.peerEnd offset := rfl
  exact (h.peer.2.mono (by omega) (by omega)).numberAt

theorem AgreeFrom.peerEnd : b.peerEnd offset = b'.peerEnd offset := by
  rw [Bytes.peerEnd, Bytes.peerEnd, h.networkCountAt]

end Next

/-- Rows of peers that differ in the preshared keys at most. -/
theorem Peer.readRun_congr (hlength : b.length = b'.length) {count : Nat}
    (h : AgreeFrom b b' count offset) {read read' : List Peer}
    (hread : read.map withoutSecrets = read'.map withoutSecrets) :
    (readRun count (.ofOffset b offset) read).map (List.map withoutSecrets) =
      (readRun count (.ofOffset b' offset) read').map (List.map withoutSecrets) := by
  induction count generalizing offset read read' with
  | zero =>
    have hreverse : read.reverse.map withoutSecrets = read'.reverse.map withoutSecrets := by
      rw [List.map_reverse, List.map_reverse, hread]
    exact congrArg Except.ok hreverse
  | succ count ih =>
    rw [readRun, readRun, Cursor.entry_ofOffset, Cursor.entry_ofOffset, ← hlength, ← h.peerEnd,
      ← h.networkCountAt]
    by_cases hn : offset + 136 ≤ b.length
    · rw [if_pos hn, if_pos hn]
      by_cases hfits : b.peerEnd offset ≤ b.length
      · rw [if_pos hfits, if_pos hfits]
        show Except.map _ (ofEntry _ >>= fun p => _) = Except.map _ (ofEntry _ >>= fun p => _)
        refine map_bind_congr (ofEntry_congr hlength hn h.peer.1 h.peer.2).1 fun p p' hp => ?_
        exact ih (h.next hfits) (by rw [List.map_cons, List.map_cons, hp, hread])
      · rw [if_neg hfits, if_neg hfits]
        rfl
    · rw [if_neg hn, if_neg hn]
      rfl

theorem Peer.readEvents_congr (hlength : b.length = b'.length) {count : Nat}
    (h : AgreeFrom b b' count offset) :
    readEvents count (.ofOffset b offset) = readEvents count (.ofOffset b' offset) := by
  induction count generalizing offset with
  | zero =>
    rw [readEvents, readEvents, Cursor.length_rest_ofOffset, Cursor.length_rest_ofOffset, hlength]
  | succ count ih =>
    rw [readEvents, readEvents, Cursor.peer_ofOffset, Cursor.peer_ofOffset, Cursor.entry_ofOffset,
      Cursor.entry_ofOffset, ← hlength, ← h.peerEnd, ← h.networkCountAt]
    by_cases hn : offset + 136 ≤ b.length
    · simp only [if_pos hn, toldAfter_ok]
      by_cases hfits : b.peerEnd offset ≤ b.length
      · obtain ⟨hpeer, hentry⟩ := ofEntry_congr hlength hn h.peer.1 h.peer.2
        have hnext := toldAfter_congr hpeer fun _ _ _ => ih (h.next hfits)
        simp only [if_pos hfits, toldAfter_ok]
        rw [hentry, hnext]
        rfl
      · simp only [if_neg hfits, toldAfter_error]
        rfl
    · simp only [if_neg hn, toldAfter_error]

end Agreement

/-- Byte `k` of the buffer belongs to the private key of the interface or to the preshared key of a
peer that the walk looks for. -/
def SecretAt (buffer : Bytes) (k : Nat) : Prop :=
  6 ≤ k ∧ k < 38 ∨ ∃ p ∈ visited buffer, p + 40 ≤ k ∧ k < p + 72

section Buffers

variable {b b' : Bytes} (h : ∀ k, ¬SecretAt b k → b[k]? = b'[k]?)
include h

/-- The interface records are the same before and behind the private key. -/
theorem agreeOn_interface : AgreeOn b b' 0 6 ∧ AgreeOn b b' 38 80 := by
  have hopen : ∀ k, k < 80 → ¬(6 ≤ k ∧ k < 38) → b[k]? = b'[k]? := by
    intro k hlast hk
    refine h k ?_
    rintro (hk' | ⟨p, hp, hk'⟩)
    · exact hk hk'
    · have := le_of_mem_visited hp
      omega
  exact ⟨fun k _ hk => hopen k (by omega) (by omega), fun k hk hk' => hopen k hk' (by omega)⟩

theorem numberAt_peerCount : b.numberAt 72 4 = b'.numberAt 72 4 :=
  ((agreeOn_interface h).2.mono (by decide) (by decide)).numberAt

theorem agreeFrom_firstPeer (hn : 80 ≤ b.length) (hfits : 80 + 136 * b.numberAt 72 4 ≤ b.length) :
    AgreeFrom b b' (b.numberAt 72 4) 80 := by
  have hvisited : visited b = PeerWalk.offsets ⟨.ofOffset b 80, b.numberAt 72 4, false⟩ := by
    apply visited_of_peers
    rw [Cursor.peers_start, if_pos hn, if_pos hfits]
  intro k hfirst hk
  refine h k ?_
  rintro (hk' | ⟨p, hp, hk'⟩)
  · omega
  · exact hk p (hvisited ▸ hp) hk'

variable (hlength : b.length = b'.length)
include hlength

/-- What is read from a buffer does not depend on the secrets in it, up to these secrets. -/
theorem Configuration.decode_congr :
    (decode b).map withoutSecrets = (decode b').map withoutSecrets := by
  rw [decode, decode, Cursor.interface_start, Cursor.interface_start, ← hlength]
  by_cases hn : 80 ≤ b.length
  · obtain ⟨hfront, hback⟩ := agreeOn_interface h
    have hrecord := InterfaceRecord.withoutSecrets_congr hlength hn hfront hback
    have hinterface :
        (Interface.ofRecord (.ofBlock (b.blockAt 80 0))).withoutSecrets =
          (Interface.ofRecord (.ofBlock (b'.blockAt 80 0))).withoutSecrets := by
      rw [← Interface.withoutSecrets_ofRecord, hrecord, Interface.withoutSecrets_ofRecord]
    rw [if_pos hn, if_pos hn]
    show Except.map _ ((Cursor.start b).peers >>= fun walk => _) =
      Except.map _ ((Cursor.start b').peers >>= fun walk => _)
    rw [Cursor.peers_start, Cursor.peers_start, ← hlength, ← numberAt_peerCount h, if_pos hn,
      if_pos hn]
    by_cases hfits : 80 + 136 * b.numberAt 72 4 ≤ b.length
    · have hpeers := Peer.readRun_congr hlength (agreeFrom_firstPeer h hn hfits)
        (rfl : List.map Peer.withoutSecrets [] = List.map Peer.withoutSecrets [])
      rw [if_pos hfits, if_pos hfits]
      show Except.map _ (Peer.readRun _ _ [] >>= fun peers => _) =
        Except.map _ (Peer.readRun _ _ [] >>= fun peers => _)
      refine map_bind_congr hpeers fun peers peers' hsame => ?_
      exact congrArg Except.ok (Configuration.mk.injEq .. |>.mpr ⟨hinterface, hsame⟩)
    · rw [if_neg hfits, if_neg hfits]
      rfl
  · rw [if_neg hn, if_neg hn]
    rfl

/-- What decoding tells does not depend on the secrets at all. -/
theorem Configuration.decodeEntries_congr : decodeEntries b = decodeEntries b' := by
  have hevents : decodeEvents b = decodeEvents b' := by
    rw [decodeEvents, decodeEvents, Cursor.interface_start, Cursor.interface_start,
      Cursor.peers_start, Cursor.peers_start, ← hlength, ← numberAt_peerCount h]
    by_cases hn : 80 ≤ b.length
    · simp only [if_pos hn, toldAfter_ok]
      by_cases hfits : 80 + 136 * b.numberAt 72 4 ≤ b.length
      · have hpeers := Peer.readEvents_congr hlength (agreeFrom_firstPeer h hn hfits)
        simp only [if_pos hfits, toldAfter_ok]
        exact congrArg (_ ++ ·) hpeers
      · simp only [if_neg hfits, toldAfter_error]
        rfl
    · simp only [if_neg hn, toldAfter_error]
  rw [decodeEntries, decodeEntries, hevents, hlength]

end Buffers

/-! ## The tool -/

namespace Tool

open Files (Folder)

/-- The outcome of a run that decodes a file with an error in it. -/
def Outcome.undecoded (env : Environment) (log : Log) (input : String) (e : Wire.Error) :
    Outcome :=
  (Outcome.ofResult (some log) (.error (.error ("decoding " ++ input) [e.message]))).withNotices
    (LogFilter.notices env)

/-- **Secret keys do not show in tables.** The tool shows two buffers as tables that differ in
secret keys at most. Both runs come to the same: they print the same table, or they end with the
same error. Both have told their logs the same, so whichever entries show, and however they are
written, standard output is the same, too. -/
theorem run_decode_secrets {env : Environment} {now : Nat} {arguments : List String}
    {options : LogOptions} {f f' g g' : Folder} {input : String} {b b' : Bytes}
    (hstarts : Starts env now arguments f (.decode input .table) options g)
    (hstarts' : Starts env now arguments f' (.decode input .table) options g')
    (hread : g.read input = .ok b) (hread' : g'.read input = .ok b')
    (hlength : b.length = b'.length) (h : ∀ k, ¬SecretAt b k → b[k]? = b'[k]?) :
    ∃ outcome, (run env now arguments).run f = (outcome, g) ∧
      (run env now arguments).run f' = (outcome, g') ∧
      ((∃ c c', Configuration.decode b = .ok c ∧ Configuration.decode b' = .ok c' ∧
          outcome = .success env ⟨options, decodedEntries b c⟩ (c.table now) ∧
          ∀ w, Quiet env options → outcome.standardOutput w env = c.table now) ∨
        ∃ e, Configuration.decode b = .error e ∧ Configuration.decode b' = .error e ∧
          outcome = .undecoded env ⟨options, Configuration.decodeEntries b⟩ input e) := by
  have hsame := Configuration.decode_congr h hlength
  have htold := Configuration.decodeEntries_congr h hlength
  cases hc : Configuration.decode b with
  | ok c =>
    cases hc' : Configuration.decode b' with
    | ok c' =>
      rw [hc, hc'] at hsame
      have hwithout := Except.ok.inj hsame
      have htable : c'.table now = c.table now := by
        rw [← c'.table_withoutSecrets, ← hwithout, c.table_withoutSecrets]
      have hcount : c'.peers.length = c.peers.length := by
        have hpeers := congrArg (fun c => c.peers.length) hwithout
        simpa only [Configuration.withoutSecrets, List.length_map] using hpeers.symm
      have htold' : decodedEntries b' c' = decodedEntries b c := by
        rw [decodedEntries, decodedEntries, htold, hlength, hcount]
      have hrun := run_of_starts hstarts (run_decodeFile now .table hread hc)
      have hrun' := run_of_starts hstarts' (run_decodeFile now .table hread' hc')
      rw [htold', show Format.table.write now c' = c.table now from htable] at hrun'
      exact ⟨_, hrun, hrun', .inl ⟨c, c', rfl, rfl, rfl,
        fun w hquiet => standardOutput_success w hquiet _⟩⟩
    | error e' =>
      rw [hc, hc'] at hsame
      cases hsame
  | error e =>
    have hc' : Configuration.decode b' = .error e := by
      cases hc' : Configuration.decode b' with
      | ok c' =>
        rw [hc, hc'] at hsame
        cases hsame
      | error e' =>
        rw [hc, hc'] at hsame
        exact congrArg Except.error (Except.error.inj hsame).symm
    have hrun := run_of_starts_result hstarts (run_decodeFile_error now .table hread hc)
    have hrun' := run_of_starts_result hstarts' (run_decodeFile_error now .table hread' hc')
    rw [← htold] at hrun'
    exact ⟨_, hrun, hrun', .inr ⟨e, rfl, hc', rfl⟩⟩

/-- A configuration with a private key and a preshared key, filled with the given bytes. -/
def keyed (own shared : UInt8) : Configuration where
  interface := ⟨some (.filled own), none, some 51820, false⟩
  peers := [⟨.filled 1, .set { Profile.blank with presharedKey := some (.filled shared) }⟩]

/-- The log is told of four records, of the peer and of the end, and shows all of it. -/
theorem run_decode_secrets_keyed :
    ∃ output told, told.length = 6 ∧
      (run bare 0 ["-l", "trace", "--config", "s", "decode", "--input", "i"]).run
          (desk (keyed 2 3).layout.bytes) =
        (.success bare ⟨logAt .trace, told⟩ output, desk (keyed 2 3).layout.bytes) ∧
      (run bare 0 ["-l", "trace", "--config", "s", "decode", "--input", "i"]).run
          (desk (keyed 4 5).layout.bytes) =
        (.success bare ⟨logAt .trace, told⟩ output, desk (keyed 4 5).layout.bytes) := by
  have hdecode : Invocation.ofArguments bare
      ["-l", "trace", "--config", "s", "decode", "--input", "i"] =
        .ok ⟨⟨some .trace, false, some "s"⟩, .decode "i" .table⟩ := by cbv
  have hc : Configuration.decode (keyed 2 3).layout.bytes = .ok (keyed 2 3) := by decide +kernel
  have hvisited : 80 ∈ visited (keyed 2 3).layout.bytes := by decide +kernel
  have hlength : (keyed 2 3).layout.bytes.length = (keyed 4 5).layout.bytes.length := by
    decide +kernel
  have htold : (decodedEntries (keyed 2 3).layout.bytes (keyed 2 3)).length = 6 := by
    decide +kernel
  have hbytes : ∀ k < (keyed 2 3).layout.bytes.length, 6 ≤ k ∧ k < 38 ∨ 80 + 40 ≤ k ∧ k < 80 + 72 ∨
      (keyed 2 3).layout.bytes[k]? = (keyed 4 5).layout.bytes[k]? := by decide +kernel
  have hopen : ∀ k, ¬SecretAt (keyed 2 3).layout.bytes k →
      (keyed 2 3).layout.bytes[k]? = (keyed 4 5).layout.bytes[k]? := by
    intro k hk
    by_cases hlast : k < (keyed 2 3).layout.bytes.length
    · rcases hbytes k hlast with hprivate | hshared | hsame
      · exact absurd (.inl hprivate) hk
      · exact absurd (.inr ⟨80, hvisited, hshared⟩) hk
      · exact hsame
    · rw [List.getElem?_eq_none (Nat.le_of_not_lt hlast),
        List.getElem?_eq_none (hlength ▸ Nat.le_of_not_lt hlast)]
  obtain ⟨outcome, hrun, hrun', ⟨c, c', hc', -, rfl, -⟩ | ⟨e, he, -⟩⟩ :=
    run_decode_secrets (starts_desk hdecode _) (starts_desk hdecode _) (read_desk _) (read_desk _)
      hlength hopen
  · cases hc.symm.trans hc'
    exact ⟨_, _, htold, hrun, hrun'⟩
  · exact absurd (he.symm.trans hc) error_ne_ok

end Tool

end TunnelConfig
