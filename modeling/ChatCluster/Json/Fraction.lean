import ChatCluster.Decimal.Binary64
import ChatCluster.Json.Codec

/-!
# Fractions in JSON

How a 64 bit binary fraction is written and read. Writing names the exact value with the fewest
digits. Reading is faster than exact: the digits are gathered in a number of 64 bits, which is
converted, and then one multiplication or division by a power of ten puts the point in its place.
The two roundings can miss the nearest fraction by the last bit, so what is read is not always
what the digits say.

## Main definitions

* `fractionLayout`, `fractionText`: The written form.
* `gather`: The digits that fit a number of 64 bits.
* `scaleByTen`: One multiplication or division by a power of ten.
* `Number.toFloat?`: The fraction that a number is read as.
-/

namespace ChatCluster.Json

/-- Fractions from a hundred thousandth up to ten million billion need no exponent. -/
def fractionLayout : Decimal.Layout := ⟨-5, 16⟩

/-- A fraction, written; what is no finite number has no form but null. -/
def fractionText (x : Float) : String :=
  match Decimal.Binary64.ofBits? x.toBits with
  | some parts => fractionLayout.render parts
  | none => "null"

/-- Gathers digits behind those in `sum` for as long as the number stays below `2 ^ 64`, and
    counts the digits that are left. -/
def gather : (sum : Nat) → List Nat → Nat × Nat
  | sum, [] => (sum, 0)
  | sum, d :: ds => if 10 * sum + d < UInt64.size then gather (10 * sum + d) ds
    else (sum, ds.length + 1)

/-- The power of ten, up to `10 ^ 308`. -/
def powerOfTen (n : Nat) : Float :=
  Float.ofScientific 1 false n

/-- Multiplies or divides by a power of ten. The largest power is `10 ^ 308`; a value that needs a
    smaller exponent than that allows is divided by the largest one first, and one that would
    become infinite is refused. -/
def scaleByTen (value : Float) (exponent : Int) : Option Float :=
  if 0 ≤ exponent then
    if exponent ≤ 308 then
      let scaled := value * powerOfTen exponent.toNat
      if scaled.isInf then none else some scaled
    else if value == 0.0 then some value
    else none
  else if -308 ≤ exponent then some (value / powerOfTen (-exponent).toNat)
  else if value == 0.0 then some value
  else scaleByTen (value / powerOfTen 308) (exponent + 308)
termination_by (-exponent).toNat
decreasing_by omega

/-- The signed exponent that is written behind a number. -/
def Number.writtenExponent (n : Number) : Int :=
  match n.exponent with
  | none => 0
  | some (negative, ds) =>
    let magnitude : Int := Decimal.ofDigits ds
    if negative then -magnitude else magnitude

/-- The fraction that a number is read as. Digits before the point that no longer fit raise the
    exponent, those behind it are dropped. -/
def Number.toFloat? (n : Number) : Option Float :=
  let (sum, unread) := gather 0 n.whole
  let (sum, dropped) := gather sum n.fraction
  -- Every digit read behind the point has made the number ten times too large.
  let exponent := (unread : Int) - ((n.fraction.length - dropped : Nat) : Int) + n.writtenExponent
  (scaleByTen (Float.ofNat sum) exponent).map fun x => if n.negative then -x else x

/-- A fraction in a field. -/
def Value.float? (v : Value) : Option Float :=
  v.number?.bind Number.toFloat?

end ChatCluster.Json
