import ChatCluster.Decimal.Digits

/-!
# Decimal Text of Binary Fractions

A 64 bit binary fraction is written with the fewest decimal digits that still name it among its
kind. Every decimal strictly nearer to it than to its neighbours reads as the same fraction; so
does the midpoint to a neighbour, if the fraction's last bit is even. Those decimals form an
interval, and the written form is the point of the coarsest decimal grid inside it, the nearer one
if two points of that grid are.

The search is exact: value and interval are kept as fractions of natural numbers.

## Main definitions

* `Binary64`: Sign, significand and binary exponent of a finite number.
* `Binary64.shortest`: The digits and the decimal exponent of its written form.
* `Layout`: Where positional notation gives way to an exponent.
* `Layout.render`: The written form.
-/

namespace ChatCluster.Decimal

/-- A finite binary fraction, `significand * 2 ^ exponent` with a sign. -/
structure Binary64 where
  /-- It has a minus sign. -/
  negative : Bool
  /-- The significand, below `2 ^ 53`. -/
  significand : Nat
  /-- The exponent of two. -/
  exponent : Int
  deriving DecidableEq, Repr

namespace Binary64

/-- `2 ^ 52`, the leading bit of a significand, which a bit pattern leaves out. -/
def hiddenBit : Nat := 0x10000000000000

/-- The fraction with a given bit pattern; none for infinities and what is no number. -/
def ofBits? (bits : UInt64) : Option Binary64 :=
  let n := bits.toNat
  let negative := decide (0x8000000000000000 ≤ n)
  let biased : Nat := n / hiddenBit % 0x800
  let low := n % hiddenBit
  if biased = 0x7ff then none
  else if biased = 0 then some ⟨negative, low, -1074⟩
  else some ⟨negative, hiddenBit + low, (biased : Int) - 1075⟩

/-- How far the interval of a fraction reaches below it, in quarters of the last bit. The
    neighbour below a power of two is nearer by half. -/
def reachBelow (x : Binary64) : Nat :=
  if x.significand = hiddenBit ∧ -1074 < x.exponent then 1 else 2

/-- Tests the grid of multiples of `10 ^ place` for a point in the interval of the fraction, and
    gives its multiple. -/
def gridPoint? (x : Binary64) (place : Int) : Option Nat :=
  -- Value, interval and grid, all over one denominator.
  let two := x.exponent - 2
  let scaleUp := Nat.pow 2 two.toNat * Nat.pow 10 (-place).toNat
  let step := Nat.pow 2 (-two).toNat * Nat.pow 10 place.toNat
  let value := 4 * x.significand * scaleUp
  let low := (4 * x.significand - x.reachBelow) * scaleUp
  let high := (4 * x.significand + 2) * scaleUp
  let closed := x.significand % 2 = 0
  let inside (n : Nat) : Bool :=
    if closed then low ≤ n * step && n * step ≤ high else low < n * step && n * step < high
  -- If any point lies inside, one of the two around the value does.
  let below := value / step
  let above := below + 1
  match inside below, inside above with
  | false, false => none
  | true, false => some below
  | false, true => some above
  | true, true =>
    let toBelow := value - below * step
    let toAbove := above * step - value
    if toBelow < toAbove then some below
    else if toAbove < toBelow then some above
    else if below % 2 = 0 then some below else some above

/-- Tries the grid of `place` and then finer ones. -/
def searchGrid (x : Binary64) : (tries : Nat) → (place : Int) → Nat × Int
  | 0, place => (0, place)
  | tries + 1, place =>
    match x.gridPoint? place with
    | some n => (n, place)
    | none => searchGrid x tries (place - 1)

/-- A place above the first significant digit, by no more than a few. -/
def topPlace (x : Binary64) : Int :=
  (((Nat.log2 x.significand : Nat) : Int) + x.exponent) * 1233 / 4096 + 3

/-- The fewest digits that name the fraction, as one number, and the power of ten they are
    multiplied by. -/
def shortest (x : Binary64) : Nat × Int :=
  if x.significand = 0 then (0, 0) else x.searchGrid 24 x.topPlace

end Binary64

/-- How a number is laid out around its digits. -/
structure Layout where
  /-- The smallest exponent of the first digit that is written without an exponent. -/
  plainFrom : Int
  /-- The smallest exponent of the first digit, above those, that needs one again. -/
  plainBelow : Int
  deriving DecidableEq, Repr

/-- So many zeros. -/
def zeros (n : Nat) : List Char :=
  List.replicate n '0'

/-- A digit, then a point and the remaining digits if there are any. -/
def pointAfterFirst : List Char → List Char
  | [] => []
  | [d] => [d]
  | d :: ds => d :: '.' :: ds

/-- A signed exponent, its plus sign written. -/
def exponentChars (e : Int) : List Char :=
  (if e < 0 then '-' else '+') :: (digits e.natAbs).map digitChar

/-- The number `n * 10 ^ place` with at least one digit on either side of the point, or with an
    exponent. -/
def Layout.renderScaled (layout : Layout) (n : Nat) (place : Int) : List Char :=
  let ds := (digits n).map digitChar
  let first := place + (ds.length : Int) - 1
  if n = 0 then ['0', '.', '0']
  else if layout.plainFrom ≤ first ∧ first < layout.plainBelow then
    if 0 ≤ place then ds ++ zeros place.toNat ++ ['.', '0']
    else if 0 ≤ first then ds.take (first.toNat + 1) ++ ['.'] ++ ds.drop (first.toNat + 1)
    else ['0', '.'] ++ zeros ((-first).toNat - 1) ++ ds
  else pointAfterFirst ds ++ ['e'] ++ exponentChars first

/-- The written form of a binary fraction. -/
def Layout.render (layout : Layout) (x : Binary64) : String :=
  let (n, place) := x.shortest
  String.ofList ((if x.negative then ['-'] else []) ++ layout.renderScaled n place)

end ChatCluster.Decimal
