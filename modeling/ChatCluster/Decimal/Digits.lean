import ChatCluster.Text.Utf8

/-!
# Decimal Digits of Whole Numbers

A whole number is written as its digits, most significant first, with no leading zero but for
zero itself. Digits are kept as numbers below ten and turned into characters or bytes at the very
end, so that one law about reading them back serves text and bytes alike.

## Main definitions

* `digits`: The digits of a number.
* `ofDigits`: The number with the given digits.
* `natText`, `intText`: The written forms.

## Theorems

* `ofDigits_digits`: A number is read back from its digits.
* `digits_lt_ten`: Every digit is below ten.
* `digits_ne_nil`: A number has at least one digit.
* `ofDigits_append`: Reading is positional.
-/

namespace ChatCluster.Decimal

/-- The decimal digits of a number, most significant first. -/
def digits (n : Nat) : List Nat :=
  if n < 10 then [n] else digits (n / 10) ++ [n % 10]

/-- The number that a digit sequence denotes. -/
def ofDigits (ds : List Nat) : Nat :=
  ds.foldl (fun value d => 10 * value + d) 0

/-- The character of a digit. -/
def digitChar (d : Nat) : Char :=
  Char.ofNat (48 + d)

/-- The byte is an ASCII digit. -/
def isDigit (b : UInt8) : Bool :=
  48 ≤ b && b ≤ 57

/-- The number that a sequence of digit bytes denotes. -/
def ofDigitBytes (bytes : Bytes) : Nat :=
  ofDigits (bytes.map fun b => b.toNat - 48)

/-- A whole number in decimal. -/
def natText (n : Nat) : String :=
  String.ofList ((digits n).map digitChar)

/-- A signed whole number in decimal. -/
def intText : Int → String
  | .ofNat n => natText n
  | .negSucc n => "-" ++ natText (n + 1)

theorem ofDigits_append (ds : List Nat) (d : Nat) :
    ofDigits (ds ++ [d]) = 10 * ofDigits ds + d := by
  simp [ofDigits, List.foldl_append]

@[simp] theorem ofDigits_digits (n : Nat) : ofDigits (digits n) = n := by
  induction n using Nat.strongRecOn with
  | _ n ih =>
    rw [digits]
    split
    · simp [ofDigits]
    · rw [ofDigits_append, ih (n / 10) (by omega)]
      omega

theorem digits_lt_ten (n : Nat) : ∀ d ∈ digits n, d < 10 := by
  induction n using Nat.strongRecOn with
  | _ n ih =>
    rw [digits]
    split
    · intro d hd
      simp only [List.mem_singleton] at hd
      omega
    · intro d hd
      rcases List.mem_append.1 hd with hd | hd
      · exact ih (n / 10) (by omega) d hd
      · simp only [List.mem_singleton] at hd
        omega

theorem digits_ne_nil (n : Nat) : digits n ≠ [] := by
  rw [digits]
  split <;> simp

end ChatCluster.Decimal
