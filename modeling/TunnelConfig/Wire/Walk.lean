import TunnelConfig.Wire.Cursor

/-!
# Walks

A walk visits the records of a run one after another. The walk over the peers starts only if the
bytes after the interface record can hold as many peer records as announced; it ends after the
announced number or after the first record that cannot be read. A peer that was visited has all its
networks in the buffer, and the walk over them visits each.
-/

namespace TunnelConfig.Wire

/-! ## Networks of a peer -/

/-- A walk over network records. -/
structure NetworkWalk where
  /-- The next place, unless it has no offset. -/
  place : Except Error Cursor
  /-- How many records are still announced. -/
  remaining : Nat

namespace NetworkWalk

/-- At least and at most how many records the walk still visits. -/
def sizeHint (w : NetworkWalk) : Nat × Option Nat := (0, some w.remaining)

/-- The next network record with its offset, and the walk after it. -/
def next (w : NetworkWalk) : Option (Except Error (Nat × NetworkRecord) × NetworkWalk) :=
  if w.remaining = 0 then none
  else
    match w.place with
    | .error e => some (.error e, { w with remaining := 0 })
    | .ok c =>
      match c.network with
      | .ok r => some (.ok (c.offset, r), ⟨c.nextNetwork, w.remaining - 1⟩)
      | .error e => some (.error e, { w with remaining := 0 })

theorem remaining_next_lt {w v : NetworkWalk} {item : Except Error (Nat × NetworkRecord)}
    (h : w.next = some (item, v)) : v.remaining < w.remaining := by
  unfold next at h
  split at h
  · simp at h
  · split at h
    · simp only [Option.some.injEq, Prod.mk.injEq] at h
      obtain ⟨-, rfl⟩ := h
      show 0 < w.remaining
      omega
    · split at h
      · simp only [Option.some.injEq, Prod.mk.injEq] at h
        obtain ⟨-, rfl⟩ := h
        show w.remaining - 1 < w.remaining
        omega
      · simp only [Option.some.injEq, Prod.mk.injEq] at h
        obtain ⟨-, rfl⟩ := h
        show 0 < w.remaining
        omega

/-- All that the walk still visits, after what it `visited`, which is given newest first. -/
def collect (visited : List (Except Error (Nat × NetworkRecord))) (w : NetworkWalk) :
    List (Except Error (Nat × NetworkRecord)) :=
  match h : w.next with
  | none => visited.reverse
  | some (item, v) =>
    have := remaining_next_lt h
    collect (item :: visited) v
termination_by w.remaining

/-- All that the walk still visits. -/
def toList (w : NetworkWalk) : List (Except Error (Nat × NetworkRecord)) := w.collect []

end NetworkWalk

/-! ## Peers -/

/-- A visited peer: its place and its record. -/
structure PeerEntry where
  place : Cursor
  record : PeerRecord
  deriving DecidableEq

def PeerEntry.offset (e : PeerEntry) : Nat := e.place.offset

/-- The walk over the peer's networks. -/
def PeerEntry.networks (e : PeerEntry) : NetworkWalk :=
  ⟨e.place.firstNetwork, e.record.networkCount.toNat⟩

/-- The peer here and the place after it and its networks. -/
def Cursor.entry (c : Cursor) : Except Error (PeerEntry × Cursor) := do
  let r ← c.peer
  let next ← c.skipPeer r
  return (⟨c, r⟩, next)

/-- A walk over peers. -/
structure PeerWalk where
  /-- The next place. -/
  place : Cursor
  /-- How many peers are still announced. -/
  remaining : Nat
  /-- Whether a peer could not be read. -/
  failed : Bool
  deriving DecidableEq

/-- The walk over the peers that the interface record at the start of a buffer announces. -/
def Cursor.peers (c : Cursor) : Except Error PeerWalk := do
  let r ← c.interface
  let place := c.firstPeer
  if place.holds (r.peerCount.toNat * PeerRecord.size) then
    return ⟨place, r.peerCount.toNat, false⟩
  else
    throw (.inconsistentCount .peer 0 r.peerCount.toNat place.rest.length)

namespace PeerWalk

/-- The next peer, and the walk after it. -/
def next (w : PeerWalk) : Option (Except Error PeerEntry × PeerWalk) :=
  if w.remaining = 0 ∨ w.failed then none
  else
    match w.place.entry with
    | .ok (entry, place) => some (.ok entry, ⟨place, w.remaining - 1, false⟩)
    | .error e => some (.error e, { w with failed := true })

/-- How many peers the walk may still visit. -/
def left (w : PeerWalk) : Nat := if w.failed then 0 else w.remaining

theorem left_next_lt {w v : PeerWalk} {item : Except Error PeerEntry}
    (h : w.next = some (item, v)) : v.left < w.left := by
  unfold next at h
  split at h
  · simp at h
  · next hne =>
    rw [not_or] at hne
    have hleft : w.left = w.remaining := by simp [left, hne.2]
    split at h
    · simp only [Option.some.injEq, Prod.mk.injEq] at h
      obtain ⟨-, rfl⟩ := h
      show w.remaining - 1 < w.left
      omega
    · simp only [Option.some.injEq, Prod.mk.injEq] at h
      obtain ⟨-, rfl⟩ := h
      show 0 < w.left
      omega

/-- The offset of the next peer; once there is none, the end of the last. -/
def position (w : PeerWalk) : Nat := w.place.offset

/-- All that the walk still visits, after what it `visited`, which is given newest first; and the
walk at its end. -/
def collect (visited : List (Except Error PeerEntry)) (w : PeerWalk) :
    List (Except Error PeerEntry) × PeerWalk :=
  match h : w.next with
  | none => (visited.reverse, w)
  | some (item, v) =>
    have := left_next_lt h
    collect (item :: visited) v
termination_by w.left

/-- All that the walk still visits, and the walk at its end. -/
def run (w : PeerWalk) : List (Except Error PeerEntry) × PeerWalk := w.collect []

end PeerWalk

end TunnelConfig.Wire
