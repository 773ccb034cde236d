import ChatCluster.Decimal.Digits

/-!
# Reading Whole Numbers

How a whole number is read where a person or another program wrote it: digits, with a plus sign in
front or none, and leading zeros as one likes. There must be at least one digit, nothing else, and
the number must fit.

## Main definitions

* `unsigned?`: A number below a bound.
* `signed?`: A number that fits 64 bits and may have a minus sign.
-/

namespace ChatCluster.Decimal

/-- The number that some characters denote, all of which have to be digits. -/
def allDigits? (cs : List Char) : Option Nat :=
  if cs ≠ [] ∧ cs.all Char.isDigit then some (ofDigits (cs.map fun c => c.toNat - 48)) else none

/-- The characters behind a plus sign, or all of them where there is none. -/
def withoutPlus : List Char → List Char
  | '+' :: rest => rest
  | cs => cs

/-- The whole number in a text, if it is below a bound. -/
def unsigned? (bound : Nat) (text : String) : Option Nat :=
  (allDigits? (withoutPlus text.toList)).filter fun n => n < bound

/-- The signed whole number in a text, if it fits 64 bits. -/
def signed? (text : String) : Option Int :=
  match text.toList with
  | '-' :: cs => ((allDigits? cs).map fun n => -(n : Int)).filter fun i => Int64.minValue.toInt ≤ i
  | cs =>
    ((allDigits? (withoutPlus cs)).map fun n => (n : Int)).filter fun i =>
      i ≤ Int64.maxValue.toInt

theorem unsigned?_lt {bound n : Nat} {text : String} (h : unsigned? bound text = some n) :
    n < bound := by
  simpa using (Option.filter_eq_some_iff.1 h).2

end ChatCluster.Decimal
