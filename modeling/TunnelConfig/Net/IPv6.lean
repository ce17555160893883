import TunnelConfig.Net.IPv4

/-!
# IPv6 addresses

An IPv6 address is eight groups of sixteen bits, written in hexadecimal with colons between them.

**Writing.** The longest run of at least two zero groups, the first one on a tie, is left out and a
double colon stands for it. Only an address that maps an IPv4 address, `::ffff:a.b.c.d`, is written
with a dotted tail.

**Reading.** Groups have one to four digits of either case. One double colon may stand for at least
one zero group, and the last two groups may be given as an IPv4 address.
-/

namespace TunnelConfig

/-- An IPv6 address, its groups from left to right. -/
structure IPv6 where
  groups : List UInt16
  length_groups : groups.length = 8
  deriving DecidableEq

namespace IPv6

/-- The address with these groups, if there are eight. -/
def ofGroups? (groups : List UInt16) : Option IPv6 :=
  if h : groups.length = 8 then some ⟨groups, h⟩ else none

/-! ## Octets -/

/-- The octets in network order. -/
def octets (ip : IPv6) : Bytes := ip.groups.flatMap fun g => Bytes.bigEndian 2 g.toNat

/-- The groups that a row of octets spells, two octets a group. -/
def groupsOf : Bytes → List UInt16
  | high :: low :: rest => UInt16.ofNat (Bytes.bigValue [high, low]) :: groupsOf rest
  | _ => []

theorem length_groupsOf (bs : Bytes) : (groupsOf bs).length = bs.length / 2 := by
  fun_induction groupsOf bs with
  | case1 high low rest ih =>
    simp only [List.length_cons, ih]
    omega
  | case2 bs h =>
    match bs with
    | [] => rfl
    | [_] => simp
    | high :: low :: rest => exact absurd rfl (h high low rest)

def ofBlock (block : Block 16) : IPv6 :=
  ⟨groupsOf block.toList, by rw [length_groupsOf, block.length_toList]⟩

@[simp] theorem length_octets (ip : IPv6) : ip.octets.length = 16 := by
  have h : ∀ gs : List UInt16, (gs.flatMap fun g => Bytes.bigEndian 2 g.toNat).length
      = 2 * gs.length := by
    intro gs
    induction gs with
    | nil => rfl
    | cons g rest ih =>
      simp only [List.flatMap_cons, List.length_append, Bytes.length_bigEndian, ih,
        List.length_cons]
      omega
  rw [octets, h, ip.length_groups]

/-! ## Writing -/

/-- The IPv4 address that the address maps, if it does. -/
def mapped? (ip : IPv6) : Option IPv4 :=
  match ip.groups with
  | [0, 0, 0, 0, 0, 0xffff, high, low] =>
    match Bytes.bigEndian 2 high.toNat ++ Bytes.bigEndian 2 low.toNat with
    | [a, b, c, d] => some ⟨a, b, c, d⟩
    | _ => none
  | _ => none

/-- The length of the run of zero groups at the front. -/
def leadingZeros (groups : List UInt16) : Nat := (groups.takeWhile (· == 0)).length

/-- Where the longest run of zero groups starts and how long it is; the first such run. -/
def zeroRun (groups : List UInt16) : Nat × Nat :=
  (List.range groups.length).foldl
    (fun best start =>
      let length := leadingZeros (groups.drop start)
      if best.2 < length then (start, length) else best)
    (0, 0)

/-- Groups with colons between them. -/
def groupChars (groups : List UInt16) : List Char :=
  List.intercalate [':'] (groups.map fun g => Text.hexadecimal g.toNat)

def chars (ip : IPv6) : List Char :=
  match ip.mapped? with
  | some ipv4 => "::ffff:".toList ++ ipv4.chars
  | none =>
    let (start, length) := zeroRun ip.groups
    if 2 ≤ length then
      groupChars (ip.groups.take start) ++ ':' :: ':' ::
        groupChars (ip.groups.drop (start + length))
    else
      groupChars ip.groups

/-! ## Reading -/

/-- Takes a group off the front of a text. -/
def readGroup (cs : List Char) : Option (UInt16 × List Char) :=
  let (digits, rest) := Text.takeDigits 16 cs
  if digits.length = 0 ∨ 4 < digits.length then none
  else some (UInt16.ofNat (Text.digitsValue 16 digits), rest)

/-- A row of groups taken off the front of a text. -/
structure Row where
  /-- The groups, those of a dotted tail included. -/
  groups : List UInt16
  /-- Whether the row ended in an IPv4 address. -/
  dotted : Bool
  /-- What follows the row. -/
  rest : List Char

/-- Takes the colon that stands before every group of a row but the first. -/
def readColon (first : Bool) (cs : List Char) : Option (List Char) :=
  match first, cs with
  | true, cs => some cs
  | false, ':' :: rest => some rest
  | false, _ => none

/-- Takes at most `room` groups. Where two more fit, an IPv4 address may take their place and
ends the row. -/
def readRow : (room : Nat) → (first : Bool) → List Char → Row
  | 0, _, cs => ⟨[], false, cs⟩
  | room + 1, first, cs =>
    let ipv4 := if room = 0 then none else (readColon first cs).bind IPv4.read
    match ipv4 with
    | some (ipv4, rest) => ⟨groupsOf ipv4.octets, true, rest⟩
    | none =>
      match (readColon first cs).bind readGroup with
      | some (group, rest) =>
        let more := readRow room false rest
        ⟨group :: more.groups, more.dotted, more.rest⟩
      | none => ⟨[], false, cs⟩

/-- Takes an address off the front of a text. -/
def read (cs : List Char) : Option (IPv6 × List Char) :=
  let front := readRow 8 true cs
  if front.groups.length = 8 then
    (ofGroups? front.groups).map (·, front.rest)
  else if front.dotted then
    none
  else
    match front.rest with
    | ':' :: ':' :: cs =>
      let back := readRow (7 - front.groups.length) true cs
      let zeros := 8 - front.groups.length - back.groups.length
      (ofGroups? (front.groups ++ List.replicate zeros 0 ++ back.groups)).map (·, back.rest)
    | _ => none

end IPv6

end TunnelConfig
