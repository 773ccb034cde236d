import ChatCluster.Text.Utf8

/-!
# Variable Length Integers

The wire format writes a number below `2 ^ 64` in groups of seven bits, least significant first,
with the high bit of a byte saying that another follows. A reader accepts over-long forms, up to
ten bytes, and of the tenth byte only the lowest bit has a place in the number.

Both directions are stated on `Nat`. The writer divides, the reader multiplies back, and no shift
or mask has to be reasoned about.

## Main definitions

* `varint`: The shortest written form.
* `readVarint`: Reads one number and hands on the rest.

## Theorems

* `readVarint_varint_append`: A number is read back from its form, whatever follows.
* `length_lt_of_readVarint`: Reading consumes at least one byte.
-/

namespace ChatCluster.Wire

/-- The shortest form of a number. -/
def varint (n : Nat) : Bytes :=
  if n < 128 then [UInt8.ofNat n] else UInt8.ofNat (n % 128 + 128) :: varint (n / 128)

/-- Reads a number of at most `room + 1` bytes; the last possible byte holds a single bit. -/
def readVarintWithin : (room : Nat) → Bytes → Option (Nat × Bytes)
  | _, [] => none
  | 0, b :: rest => if b.toNat < 2 then some (b.toNat, rest) else none
  | room + 1, b :: rest =>
    if b.toNat < 128 then
      some (b.toNat, rest)
    else
      match readVarintWithin room rest with
      | some (high, rest) => some (b.toNat - 128 + 128 * high, rest)
      | none => none

/-- Reads a number below `2 ^ 64` in at most ten bytes. -/
def readVarint (bytes : Bytes) : Option (Nat × Bytes) :=
  readVarintWithin 9 bytes

/-- The first number that has no form of at most `room + 1` bytes. -/
def varintBound : (room : Nat) → Nat
  | 0 => 2
  | room + 1 => varintBound room * 128

theorem readVarintWithin_varint (room n : Nat) (rest : Bytes) (h : n < varintBound room) :
    readVarintWithin room (varint n ++ rest) = some (n, rest) := by
  induction room generalizing n with
  | zero =>
    have h : n < 2 := h
    have hn : n < 128 := by omega
    have hb : (UInt8.ofNat n).toNat = n := by
      rw [UInt8.toNat_ofNat']; omega
    rw [varint, if_pos hn]
    simp only [List.cons_append, List.nil_append, readVarintWithin, hb]
    rw [if_pos (by omega)]
  | succ room ih =>
    rw [varint]
    split
    · next hn =>
      have hb : (UInt8.ofNat n).toNat = n := by
        rw [UInt8.toNat_ofNat']; omega
      simp only [List.cons_append, List.nil_append, readVarintWithin, hb]
      rw [if_pos hn]
    · next hn =>
      -- The low seven bits go first, and what is left of the number has one group less.
      have hb : (UInt8.ofNat (n % 128 + 128)).toNat = n % 128 + 128 := by
        rw [UInt8.toNat_ofNat']; omega
      have hhigh : n / 128 < varintBound room := (Nat.div_lt_iff_lt_mul (by omega)).2 h
      simp only [List.cons_append, readVarintWithin, hb]
      rw [if_neg (by omega), ih (n / 128) hhigh]
      simp only [Option.some.injEq, Prod.mk.injEq, and_true]
      omega

theorem readVarint_varint_append (n : Nat) (rest : Bytes) (h : n < UInt64.size) :
    readVarint (varint n ++ rest) = some (n, rest) :=
  readVarintWithin_varint 9 n rest h

theorem length_lt_of_readVarintWithin {room : Nat} {bytes rest : Bytes} {n : Nat}
    (h : readVarintWithin room bytes = some (n, rest)) : rest.length < bytes.length := by
  induction room generalizing bytes n with
  | zero =>
    cases bytes with
    | nil => simp [readVarintWithin] at h
    | cons b bs =>
      simp only [readVarintWithin] at h
      split at h
      · obtain ⟨-, rfl⟩ := by simpa using h
        simp
      · simp at h
  | succ room ih =>
    cases bytes with
    | nil => simp [readVarintWithin] at h
    | cons b bs =>
      simp only [readVarintWithin] at h
      split at h
      · obtain ⟨-, rfl⟩ := by simpa using h
        simp
      · split at h
        · next hr =>
          obtain ⟨-, rfl⟩ := by simpa using h
          have := ih hr
          simp only [List.length_cons]
          omega
        · simp at h

theorem length_lt_of_readVarint {bytes rest : Bytes} {n : Nat}
    (h : readVarint bytes = some (n, rest)) : rest.length < bytes.length :=
  length_lt_of_readVarintWithin h

end ChatCluster.Wire
