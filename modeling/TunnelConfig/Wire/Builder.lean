import TunnelConfig.Wire.Record

/-!
# Building a buffer

A builder takes records one by one and hands them over as one buffer. It writes what it is given:
that the counts in the records agree with what follows them is the caller's business.

Main results: `bytes_append` (a record goes to the end), `bytes_reserve` (making room changes no
byte) and `finish?_eq_none_iff` (there is a buffer as soon as there is a byte).
-/

namespace TunnelConfig.Wire

/-- A buffer that is ready to be sent. -/
structure Buffer where
  bytes : Bytes
  deriving DecidableEq

namespace Buffer

def size (b : Buffer) : Nat := b.bytes.length

/-- The size as the driver call takes it. -/
def size32 (b : Buffer) : Except Error UInt32 :=
  if b.size < 4294967296 then .ok (UInt32.ofNat b.size) else .error (.bufferTooLarge b.size)

/-- The buffer as it stands in a diagnostic. -/
def debug (b : Buffer) : String := "ConfigBuffer \x7b len: " ++ toString b.size ++ " \x7d"

end Buffer

/-- The records taken so far. -/
structure Builder where
  /-- The written records, newest first; nothing as long as there is no room for any. -/
  storage : Option (List Bytes)
  /-- For how many bytes room was made before the first of them. -/
  room : Nat

namespace Builder

/-- The builder that has taken nothing. -/
def empty : Builder := ⟨none, 0⟩

/-- Makes room in advance, unless there is some already. How much is not seen in the buffer. That
there is memory for it is taken for granted. -/
def reserve (room : Nat) (b : Builder) : Builder :=
  match b.storage with
  | none => ⟨some [], room⟩
  | some _ => b

/-- Takes written bytes. -/
def append (bs : Bytes) (b : Builder) : Builder :=
  { b with storage := some (bs :: b.storage.getD []) }

def interface (r : InterfaceRecord) (b : Builder) : Builder := b.append r.bytes

def peer (r : PeerRecord) (b : Builder) : Builder := b.append r.bytes

def network (r : NetworkRecord) (b : Builder) : Builder := b.append r.bytes

/-- The bytes taken so far. -/
def bytes (b : Builder) : Bytes := (b.storage.getD []).reverse.flatten

/-- The number of bytes taken so far. -/
def size (b : Builder) : Nat :=
  match b.storage with
  | none => 0
  | some pieces => pieces.foldr (fun bs size => bs.length + size) 0

/-- The buffer, unless nothing was taken. -/
def finish? (b : Builder) : Option Buffer :=
  match b.storage with
  | none => none
  | some _ => if b.size = 0 then none else some ⟨b.bytes⟩

@[simp] theorem bytes_empty : empty.bytes = [] := rfl

@[simp] theorem bytes_reserve (room : Nat) (b : Builder) : (b.reserve room).bytes = b.bytes := by
  obtain ⟨_ | pieces, _⟩ := b <;> rfl

@[simp] theorem bytes_append (bs : Bytes) (b : Builder) : (b.append bs).bytes = b.bytes ++ bs := by
  simp [bytes, append]

@[simp] theorem room_append (bs : Bytes) (b : Builder) : (b.append bs).room = b.room := rfl

theorem size_eq_length_bytes (b : Builder) : b.size = b.bytes.length := by
  obtain ⟨_ | pieces, _⟩ := b
  · rfl
  · induction pieces with
    | nil => rfl
    | cons bs rest ih =>
      simp only [size, bytes, Option.getD_some] at ih
      rw [bytes, Option.getD_some, List.reverse_cons, List.flatten_concat, List.length_append,
        ← ih]
      exact Nat.add_comm bs.length _

theorem finish?_eq_none_iff (b : Builder) : b.finish? = none ↔ b.bytes = [] := by
  obtain ⟨_ | pieces, _⟩ := b
  · exact iff_of_true rfl rfl
  · simp [finish?, size_eq_length_bytes]

theorem finish?_of_ne_nil {b : Builder} (h : b.bytes ≠ []) : b.finish? = some ⟨b.bytes⟩ := by
  obtain ⟨_ | pieces, _⟩ := b
  · exact absurd rfl h
  · simp [finish?, size_eq_length_bytes, h]

end Builder

end TunnelConfig.Wire
