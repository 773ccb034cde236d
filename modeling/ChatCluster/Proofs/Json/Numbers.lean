import ChatCluster.Json.Field
import Mathlib.Data.List.TakeDrop

/-!
# Whole Numbers Are Read Back

A whole number is written in decimal and read twice: first as digits, which end where something
else begins, and then as a number of some width. What ends the digits is a property of what
follows (`NumberEnds`), and the separators between the parts of a record have it.

The grammar allows a leading zero only where it is the whole number. Written digits obey this,
because the first digit of a positive number is not zero.

## Main definitions

* `digitBytes`: The bytes of digits.
* `NumberEnds`: A number does not go on here.
* `whole`: The number that is written for an integer.

## Theorems

* `readNumber_intText`: The digits of an integer are read back.
* `toInt64?_whole`, `toUInt64?_whole`, `toUInt32?_whole`: The integer is read back from its digits.
-/

namespace ChatCluster.Json

open Decimal

/-- The bytes of digits. -/
def digitBytes (ds : List Nat) : Bytes :=
  ds.map fun d => UInt8.ofNat (48 + d)

theorem utf8EncodeChar_digitChar : ∀ d < 10,
    String.utf8EncodeChar (digitChar d) = [UInt8.ofNat (48 + d)] := by
  decide

theorem isDigit_ofNat : ∀ d < 10, isDigit (UInt8.ofNat (48 + d)) = true := by
  decide

theorem toNat_ofNat_sub : ∀ d < 10, (UInt8.ofNat (48 + d)).toNat - 48 = d := by
  decide

theorem ofNat_ne_zeroByte : ∀ d < 10, d ≠ 0 → UInt8.ofNat (48 + d) ≠ 48 := by
  decide

theorem utf8_ofList_digits (ds : List Nat) (h : ∀ d ∈ ds, d < 10) :
    Text.utf8 (String.ofList (ds.map digitChar)) = digitBytes ds := by
  rw [Text.utf8_ofList]
  induction ds with
  | nil => rfl
  | cons d ds ih =>
    rw [List.map_cons, List.flatMap_cons, utf8EncodeChar_digitChar d (h d List.mem_cons_self),
      ih fun e he => h e (List.mem_cons_of_mem d he)]
    rfl

theorem utf8_natText (n : Nat) : Text.utf8 (natText n) = digitBytes (digits n) :=
  utf8_ofList_digits (digits n) (digits_lt_ten n)

theorem map_digitBytes (ds : List Nat) (h : ∀ d ∈ ds, d < 10) :
    (digitBytes ds).map (fun b => b.toNat - 48) = ds := by
  rw [digitBytes, List.map_map]
  exact (List.map_congr_left fun d hd => toNat_ofNat_sub d (h d hd)).trans (List.map_id ds)

theorem ofDigitBytes_digits (n : Nat) : ofDigitBytes (digitBytes (digits n)) = n := by
  rw [ofDigitBytes, map_digitBytes _ (digits_lt_ten n), ofDigits_digits]

/-! ## Digits -/

/-- A number does not go on here: no digit, no point and no exponent follows. -/
def NumberEnds (rest : Bytes) : Prop :=
  ∀ b bs, rest = b :: bs → isDigit b = false ∧ b ≠ 46 ∧ b ≠ 101 ∧ b ≠ 69

theorem takeDigits_append (ds : List Nat) (rest : Bytes) (h : ∀ d ∈ ds, d < 10)
    (hrest : NumberEnds rest) : takeDigits (digitBytes ds ++ rest) = (ds, rest) := by
  have hall : ∀ b ∈ digitBytes ds, isDigit b = true := by
    intro b hb
    rcases List.mem_map.1 hb with ⟨d, hd, rfl⟩
    exact isDigit_ofNat d (h d hd)
  -- What follows does not begin with a digit, so the digits end where they should.
  have hspan : rest.takeWhile isDigit = [] ∧ rest.dropWhile isDigit = rest := by
    cases rest with
    | nil => exact ⟨rfl, rfl⟩
    | cons b bs =>
      have hb := (hrest b bs rfl).1
      simp only [List.takeWhile_cons, List.dropWhile_cons, hb, Bool.false_eq_true, if_false,
        and_self]
  rw [takeDigits, List.span_eq_takeWhile_dropWhile, List.takeWhile_append_of_pos hall,
    List.dropWhile_append_of_pos hall, hspan.1, hspan.2]
  simp only [List.append_nil, map_digitBytes ds h]

theorem exists_digits_eq_cons {n : Nat} (h : 0 < n) : ∃ d ds, digits n = d :: ds ∧ d ≠ 0 := by
  induction n using Nat.strongRecOn with
  | _ n ih =>
    rw [digits]
    by_cases hn : n < 10
    · exact ⟨n, [], by rw [if_pos hn], by omega⟩
    · rcases ih (n / 10) (by omega) (by omega) with ⟨d, ds, heq, hd⟩
      exact ⟨d, ds ++ [n % 10], by rw [if_neg hn, heq, List.cons_append], hd⟩

theorem readWhole_digits (n : Nat) (rest : Bytes) (hrest : NumberEnds rest) :
    readWhole (digitBytes (digits n) ++ rest) = some (digits n, rest) := by
  rcases Nat.eq_zero_or_pos n with rfl | hpos
  · rw [show digits 0 = [0] by rw [digits]; rfl]
    rfl
  · rcases exists_digits_eq_cons hpos with ⟨d, ds, heq, hd⟩
    have hten : d < 10 := digits_lt_ten n d (by rw [heq]; exact List.mem_cons_self)
    have htake := takeDigits_append (digits n) rest (digits_lt_ten n) hrest
    rw [heq] at htake ⊢
    simp only [digitBytes, List.map_cons, List.cons_append] at htake ⊢
    rw [readWhole, htake]
    rintro r h
    exact absurd (List.cons.inj h).1 (ofNat_ne_zeroByte d hten hd)

/-! ## Integers -/

/-- The number that is written for an integer. -/
def whole (i : Int) : Number :=
  { negative := i < 0, whole := digits i.natAbs, fraction := [], exponent := none }

theorem readFraction_of_numberEnds {rest : Bytes} (h : NumberEnds rest) :
    readFraction rest = some ([], rest) := by
  cases rest with
  | nil => rfl
  | cons b bs =>
    rw [readFraction]
    rintro r hr
    exact (h b bs rfl).2.1 (List.cons.inj hr).1

theorem readExponent_of_numberEnds {rest : Bytes} (h : NumberEnds rest) :
    readExponent rest = some (none, rest) := by
  cases rest with
  | nil => rfl
  | cons b bs =>
    rw [readExponent]
    · rintro r hr
      exact (h b bs rfl).2.2.1 (List.cons.inj hr).1
    · rintro r hr
      exact (h b bs rfl).2.2.2 (List.cons.inj hr).1

/-- The first byte of a natural number is a digit, and so no minus sign. -/
theorem exists_digitBytes_eq_cons (n : Nat) :
    ∃ b bs, digitBytes (digits n) = b :: bs ∧ isDigit b = true := by
  cases heq : digits n with
  | nil => exact absurd heq (digits_ne_nil n)
  | cons d ds =>
    have hten : d < 10 := digits_lt_ten n d (by rw [heq]; exact List.mem_cons_self)
    exact ⟨_, _, rfl, isDigit_ofNat d hten⟩

/-- The digits of a natural number are read back, behind its sign or without one. -/
theorem readNumber_digits (n : Nat) (rest : Bytes) (hrest : NumberEnds rest) :
    readNumber (digitBytes (digits n) ++ rest) =
        some ({ negative := false, whole := digits n, fraction := [], exponent := none }, rest) ∧
      readNumber (45 :: (digitBytes (digits n) ++ rest)) =
        some ({ negative := true, whole := digits n, fraction := [], exponent := none }, rest) := by
  have hwhole := readWhole_digits n rest hrest
  rcases exists_digitBytes_eq_cons n with ⟨b, bs, heq, hb⟩
  rw [heq, List.cons_append] at hwhole ⊢
  constructor
  · unfold readNumber
    split
    · next negative r hsplit =>
      split at hsplit
      · next r' hcons =>
        rw [(List.cons.inj hcons).1] at hb
        exact absurd hb (by decide)
      · rcases Prod.mk.inj hsplit with ⟨rfl, rfl⟩
        simp only [hwhole, readFraction_of_numberEnds hrest, readExponent_of_numberEnds hrest]
  · simp only [readNumber, hwhole, readFraction_of_numberEnds hrest,
      readExponent_of_numberEnds hrest]

/-- The digits of an integer are read back, where a number does not go on behind them. -/
theorem readNumber_intText (i : Int) (rest : Bytes) (hrest : NumberEnds rest) :
    readNumber (Text.utf8 (intText i) ++ rest) = some (whole i, rest) := by
  cases i with
  | ofNat n =>
    rw [intText, utf8_natText, (readNumber_digits n rest hrest).1]
    rfl
  | negSucc n =>
    have hsign : Text.utf8 "-" = [45] := rfl
    rw [intText, Text.utf8_append, utf8_natText, hsign, List.append_assoc, List.singleton_append,
      (readNumber_digits (n + 1) rest hrest).2]
    simp only [whole, Int.negSucc_lt_zero, decide_true, Int.natAbs_negSucc]

/-- The written form of an integer begins with a digit or a minus sign. -/
theorem exists_utf8_intText_eq_cons (i : Int) :
    ∃ b bs, Text.utf8 (intText i) = b :: bs ∧ (isDigit b = true ∨ b = 45) := by
  cases i with
  | ofNat n =>
    rcases exists_digitBytes_eq_cons n with ⟨b, bs, heq, hb⟩
    exact ⟨b, bs, by rw [intText, utf8_natText, heq], Or.inl hb⟩
  | negSucc n =>
    exact ⟨45, _, by rw [intText, Text.utf8_append]; rfl, Or.inr rfl⟩

theorem toInt?_whole (i : Int) : (whole i).toInt? = some i := by
  simp only [whole, Number.toInt?, Number.isWhole, List.isEmpty_nil, Option.isNone_none,
    Bool.and_self, if_true, ofDigits_digits, decide_eq_true_eq]
  by_cases h : i < 0
  · rw [if_pos h, if_neg (by omega)]
    congr 1
    omega
  · rw [if_neg h]
    congr 1
    omega

theorem toInt64?_whole (n : Int64) : (whole n.toInt).toInt64? = some n := by
  rw [Number.toInt64?, toInt?_whole]
  simp only [Int64.ofInt_toInt]
  exact if_pos ⟨Int64.minValue_le_toInt n, Int64.toInt_le n⟩

theorem toUInt64?_whole (n : UInt64) : (whole n.toNat).toUInt64? = some n := by
  rw [Number.toUInt64?, toInt?_whole]
  simp only [Int.toNat_natCast, UInt64.ofNat_toNat]
  exact if_pos ⟨Int.natCast_nonneg _, Int.ofNat_lt.2 n.toNat_lt⟩

theorem Value.uint32?_number (n : Number) : (Value.number n).uint32? = n.toUInt32? := rfl

theorem toUInt32?_whole (n : UInt32) : (whole n.toNat).toUInt32? = some n := by
  rw [Number.toUInt32?, toInt?_whole]
  simp only [Int.toNat_natCast, UInt32.ofNat_toNat]
  exact if_pos ⟨Int.natCast_nonneg _, Int.ofNat_lt.2 n.toNat_lt⟩

end ChatCluster.Json
