import ChatCluster.Decimal.Digits
import ChatCluster.Toml.Value

/-!
# Numbers, Dates and Words of TOML

Everything that is written without quotation marks or brackets: whole numbers in four bases,
fractions, dates and times, and the words for true and false. Digits may be grouped by single
underscores between them.

How a number is written and what it stands for are two questions. A number may be written like one
and yet stand for none: one that is too large, the mark of a base without digits, or letters among
the digits behind an underscore. Such a numeral is a value too, but an unreadable one.

## Main definitions

* `isGrouped`: Underscores stand between digits.
* `based?`, `decimal?`, `fraction?`: Whole numbers in other bases, in base ten, and fractions.
* `numeral?`: What a number of any kind denotes.
* `isMoment`: The characters denote a date, a time, or both.
* `bareValue?`: The value that characters without quotation marks denote.
-/

namespace ChatCluster.Toml

/-- The value of a digit in any base up to sixteen, and something larger for what is no digit. -/
def digitValue (c : Char) : Nat :=
  if c.isDigit then c.toNat - 48
  else if 'a' ≤ c ∧ c ≤ 'f' then c.toNat - 87
  else if 'A' ≤ c ∧ c ≤ 'F' then c.toNat - 55
  else 16

/-- The character is a digit of some base. -/
def isAnyDigit (c : Char) : Bool :=
  digitValue c < 16

/-- Each underscore stands between two digits. -/
def isGrouped (isDigit : Char → Bool) : List Char → Bool
  | [] => true
  | '_' :: _ => false
  | c :: '_' :: d :: rest => isDigit c && isDigit d && isGrouped isDigit (d :: rest)
  | _ :: rest => isGrouped isDigit rest

/-- The characters without underscores. -/
def ungroup (cs : List Char) : List Char :=
  cs.filter (· ≠ '_')

/-- A whole number. It may have 128 bits, with or without a sign. -/
def wholeValue (n : Int) : Value :=
  if -0x80000000000000000000000000000000 ≤ n && n ≤ 0xffffffffffffffffffffffffffffffff then
    .whole n
  else .unreadable

/-- What the digits behind the mark of a base denote. There may be none of them. -/
def based? (base : Nat) (cs : List Char) : Option Value :=
  let ds := ungroup cs
  if isGrouped isAnyDigit cs && ds.all (digitValue · < base) then
    if ds = [] then some .unreadable
    else some (wholeValue (ds.foldl (fun n c => base * n + digitValue c) 0 : Nat))
  else none

/-- What a whole number in base ten denotes. Only digits, of any base, may stand next to an
    underscore; elsewhere any character makes a numeral, which is only unreadable. -/
def decimal? (negative : Bool) (cs : List Char) : Option Value :=
  let ds := ungroup cs
  if isGrouped isAnyDigit cs then
    if ds.all Char.isDigit then
      let n := Decimal.ofDigits (ds.map digitValue)
      some (wholeValue (if negative then -n else n))
    else some .unreadable
  else none

/-- From here on a number is infinite as a 64 bit binary fraction. -/
def infinite : Nat :=
  Nat.pow 2 1024 - Nat.pow 2 970

/-- The number of digits `ds` times ten to the power `scale` is less than infinite. -/
def isFinite (ds : List Char) (scale : Int) : Bool :=
  let ds := ds.dropWhile (· = '0')
  let size := (ds.length : Int) + scale
  -- Only at the border the number itself has to be looked at.
  ds = [] || size < 309 ||
    (size = 309 &&
      let mantissa := Decimal.ofDigits (ds.map digitValue)
      if 0 ≤ scale then mantissa * Nat.pow 10 scale.toNat < infinite
      else mantissa < infinite * Nat.pow 10 (-scale).toNat)

/-- Decimal digits, of which there must be some. -/
def digits? (cs : List Char) : Option (List Char) :=
  let ds := ungroup cs
  if isGrouped Char.isDigit cs && ds ≠ [] && ds.all Char.isDigit then some ds else none

/-- The digits behind the point, and the point. -/
def fractionDigits? : List Char → Option (List Char)
  | [] => some []
  | '.' :: cs => digits? cs
  | _ => none

/-- Characters without a sign in front. -/
def withoutSign : List Char → List Char
  | '+' :: cs | '-' :: cs => cs
  | cs => cs

/-- The exponent, and the mark in front of it. -/
def exponent? : List Char → Option Int
  | [] => some 0
  | 'e' :: cs | 'E' :: cs =>
    (digits? (withoutSign cs)).map fun ds =>
      let n : Int := Decimal.ofDigits (ds.map digitValue)
      if cs.head? = some '-' then -n else n
  | _ => none

/-- The character begins the exponent. -/
def isExponentMark (c : Char) : Bool :=
  c = 'e' || c = 'E'

/-- What a number with a point or an exponent denotes. -/
def fraction? (cs : List Char) : Option Value :=
  let (mantissa, exponent) := cs.span fun c => !isExponentMark c
  let (whole, fraction) := mantissa.span fun c => c ≠ '.'
  match digits? whole, fractionDigits? fraction, exponent? exponent with
  | some ws, some fs, some e =>
    some (if isFinite (ws ++ fs) (e - fs.length) then .fraction else .unreadable)
  | _, _, _ => none

/-- The characters hold a point or the mark of an exponent. -/
def isFractional (cs : List Char) : Bool :=
  cs.any fun c => c = '.' || isExponentMark c

/-- A zero at the front is needless if anything but the rest of a fraction follows it. -/
def hasNeedlessZero : List Char → Bool
  | '0' :: c :: _ => !(c = '.' || isExponentMark c)
  | _ => false

/-- What a number in base ten without its sign denotes. -/
def unsigned? (negative : Bool) (cs : List Char) : Option Value :=
  if hasNeedlessZero cs then none
  else if isFractional cs then fraction? cs
  else
    match cs.span Char.isDigit with
    | (_ :: _, []) | (_ :: _, '_' :: _) => decimal? negative cs
    | _ => none

/-- What a number in base ten behind its sign denotes. An underscore may follow the sign, and
    what is behind that underscore may start with any digit. -/
def signed? (negative : Bool) : List Char → Option Value
  | '_' :: c :: cs =>
    if isFractional (c :: cs) then fraction? (c :: cs)
    else if isAnyDigit c then decimal? negative (c :: cs)
    else none
  | cs => unsigned? negative cs

/-- What a number of any kind denotes. Only those in base ten have a sign. -/
def numeral? : List Char → Option Value
  | '0' :: 'x' :: cs => based? 16 cs
  | '0' :: 'o' :: cs => based? 8 cs
  | '0' :: 'b' :: cs => based? 2 cs
  | '-' :: cs => signed? true cs
  | '+' :: cs => signed? false cs
  | cs => unsigned? false cs

/-- The characters are a word for what is no finite number, with or without a sign. -/
def isInfiniteWord (cs : List Char) : Bool :=
  let cs := withoutSign cs
  cs = ['i', 'n', 'f'] || cs = ['n', 'a', 'n']

/-- The number that two digits denote. -/
def two? (a b : Char) : Option Nat :=
  if a.isDigit && b.isDigit then some (10 * digitValue a + digitValue b) else none

/-- The days of a month. -/
def daysIn (year month : Nat) : Nat :=
  if month = 2 then
    if year % 4 = 0 ∧ (year % 100 ≠ 0 ∨ year % 400 = 0) then 29 else 28
  else if month = 4 ∨ month = 6 ∨ month = 9 ∨ month = 11 then 30
  else 31

/-- The characters denote a day. -/
def isDate : List Char → Bool
  | [y₁, y₂, y₃, y₄, '-', m₁, m₂, '-', d₁, d₂] =>
    match two? y₁ y₂, two? y₃ y₄, two? m₁ m₂, two? d₁ d₂ with
    | some century, some year, some month, some day =>
      1 ≤ month && month ≤ 12 && 1 ≤ day && day ≤ daysIn (100 * century + year) month
    | _, _, _, _ => false
  | _ => false

/-- The characters are the seconds of a time, which may be left out. -/
def isSeconds : List Char → Bool
  | [] => true
  | ':' :: a :: b :: rest =>
    (two? a b).any (· ≤ 60) &&
      match rest with
      | [] => true
      | '.' :: ds => ds ≠ [] && ds.all Char.isDigit
      | _ => false
  | _ => false

/-- The characters denote a time of day. -/
def isTime : List Char → Bool
  | a :: b :: ':' :: c :: d :: rest =>
    (two? a b).any (· ≤ 23) && (two? c d).any (· ≤ 59) && isSeconds rest
  | _ => false

/-- The characters denote a distance from universal time, which may be left out. -/
def isOffset : List Char → Bool
  | [] | ['Z'] | ['z'] => true
  | [sign, a, b, ':', c, d] =>
    (sign = '+' || sign = '-') && (two? a b).any (· ≤ 23) && (two? c d).any (· ≤ 59)
  | _ => false

/-- The characters denote a date, a time, or both. -/
def isMoment (cs : List Char) : Bool :=
  isDate cs || isTime cs ||
    match cs.splitAt 10 with
    | (date, mark :: rest) =>
      let (time, offset) := rest.span fun c => !(c = 'Z' || c = 'z' || c = '+' || c = '-')
      (mark = 'T' || mark = 't') && isDate date && isTime time && isOffset offset
    | _ => false

/-- The value that characters without quotation marks denote. -/
def bareValue? (cs : List Char) : Option Value :=
  if cs = "true".toList then some (.flag true)
  else if cs = "false".toList then some (.flag false)
  else if isInfiniteWord cs then some .fraction
  else if isMoment cs then some .moment
  else numeral? cs

end ChatCluster.Toml
