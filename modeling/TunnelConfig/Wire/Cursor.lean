import TunnelConfig.Wire.Record

/-!
# Cursors

A cursor is a place in a buffer: an offset and the bytes from there to the end. All reading of a
buffer goes through cursors, and no read looks further ahead than the record or the run of records
it asks for. Offsets past the end are fine; nothing can be read there.

A buffer is laid out by the counts in its records. The interface record says how many peers follow
it and each peer record how many networks follow it, so both counts are held against the bytes that
remain before they are trusted.
-/

namespace TunnelConfig.Wire

/-- Offsets are below this number. -/
def addressLimit : Nat := 18446744073709551616

/-- A place in a buffer. -/
structure Cursor where
  offset : Nat
  /-- The bytes from the offset to the end of the buffer. -/
  rest : Bytes
  deriving DecidableEq

namespace Cursor

/-- The place at an offset. -/
def ofOffset (buffer : Bytes) (offset : Nat) : Cursor := ⟨offset, buffer.drop offset⟩

def start (buffer : Bytes) : Cursor := ⟨0, buffer⟩

/-- The place `n` bytes further on. -/
def advance (n : Nat) (c : Cursor) : Cursor := ⟨c.offset + n, c.rest.drop n⟩

/-- Whether `n` more bytes are there. -/
def holds (n : Nat) (c : Cursor) : Bool := (c.rest.take n).length == n

/-- What is wrong when a record of `n` bytes does not fit. -/
def truncated (n : Nat) (c : Cursor) : Error := .truncated c.offset n c.rest.length

/-- The next `n` bytes. -/
def block (n : Nat) (c : Cursor) : Except Error (Block n) :=
  match Block.ofList? (c.rest.take n) with
  | some b => .ok b
  | none => .error (c.truncated n)

/-! ## Records -/

def interface (c : Cursor) : Except Error InterfaceRecord :=
  (c.block InterfaceRecord.size).map InterfaceRecord.ofBlock

def peer (c : Cursor) : Except Error PeerRecord :=
  (c.block PeerRecord.size).map PeerRecord.ofBlock

def network (c : Cursor) : Except Error NetworkRecord :=
  (c.block NetworkRecord.size).map NetworkRecord.ofBlock

/-- The place of the first peer record, from the start of a buffer. -/
def firstPeer (c : Cursor) : Cursor := c.advance InterfaceRecord.size

/-- The place after the peer record here. It may be past the end of the buffer. -/
def firstNetwork (c : Cursor) : Except Error Cursor :=
  if c.offset + PeerRecord.size < addressLimit then .ok (c.advance PeerRecord.size)
  else .error (c.truncated PeerRecord.size)

/-- The place after the network record here. It may be past the end of the buffer. -/
def nextNetwork (c : Cursor) : Except Error Cursor :=
  if c.offset + NetworkRecord.size < addressLimit then .ok (c.advance NetworkRecord.size)
  else .error (c.truncated NetworkRecord.size)

/-- The place after the networks of the peer record `r`, which is here. They have to be there. -/
def skipPeer (r : PeerRecord) (c : Cursor) : Except Error Cursor :=
  let networks := c.advance PeerRecord.size
  let span := r.networkCount.toNat * NetworkRecord.size
  if networks.holds span then .ok (networks.advance span)
  else .error (.inconsistentCount .network c.offset r.networkCount.toNat networks.rest.length)

/-- The place after the peer record here and its networks. -/
def nextPeer (c : Cursor) : Except Error Cursor := do
  let r ← c.peer
  c.skipPeer r

end Cursor

end TunnelConfig.Wire
