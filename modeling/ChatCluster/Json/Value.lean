import ChatCluster.Json.Text

/-!
# Values

The JSON value in a byte sequence. A value keeps its numbers as digits and its texts in raw form:
what they mean depends on who asks for them, and a part that nobody asks for only has to be
well formed. A number with a huge exponent or a text with half a surrogate pair is therefore no
fault in a field that is skipped.

## Main definitions

* `Number`: A number as it is written.
* `Value`: A value.
* `readNumber`, `readValue`: Readers that hand on what follows.
* `parse?`: The value in a whole byte sequence.
-/

namespace ChatCluster.Json

/-- A number as it is written: sign, digits before and after the point, and exponent. -/
structure Number where
  /-- There is a minus sign. -/
  negative : Bool
  /-- The digits before the point. -/
  whole : List Nat
  /-- The digits after the point; none at all where there is no point. -/
  fraction : List Nat
  /-- The exponent: whether it has a minus sign, and its digits. -/
  exponent : Option (Bool × List Nat)
  deriving DecidableEq, Repr

/-- A JSON value, its numbers and texts as they are written. -/
inductive Value where
  | null
  | bool (b : Bool)
  | number (n : Number)
  /-- A text in raw form. -/
  | text (raw : Bytes)
  | list (items : List Value)
  /-- The members in order, each with its name in raw form. -/
  | record (members : List (Bytes × Value))

/-- The byte is white space between tokens. -/
def isGap (b : UInt8) : Bool :=
  b = 32 || b = 9 || b = 10 || b = 13

/-- What follows the white space. -/
def skipGap (bytes : Bytes) : Bytes :=
  bytes.dropWhile isGap

/-- The digits at the front, and what follows them. -/
def takeDigits (bytes : Bytes) : List Nat × Bytes :=
  let (ds, rest) := bytes.span Decimal.isDigit
  (ds.map fun b => b.toNat - 48, rest)

/-- Reads the digits before the point: a zero, or digits that do not start with one. -/
def readWhole : Bytes → Option (List Nat × Bytes)
  | 48 :: rest => some ([0], rest)
  | bytes =>
    match takeDigits bytes with
    | ([], _) => none
    | (ds, rest) => some (ds, rest)

/-- Reads the point and the digits after it, if there is a point. -/
def readFraction : Bytes → Option (List Nat × Bytes)
  | 46 :: rest =>
    match takeDigits rest with
    | ([], _) => none
    | (ds, rest) => some (ds, rest)
  | bytes => some ([], bytes)

/-- Reads sign and digits of an exponent. -/
def readExponentDigits (bytes : Bytes) : Option ((Bool × List Nat) × Bytes) :=
  let (negative, rest) :=
    match bytes with
    | 43 :: rest => (false, rest)
    | 45 :: rest => (true, rest)
    | _ => (false, bytes)
  match takeDigits rest with
  | ([], _) => none
  | (ds, rest) => some ((negative, ds), rest)

/-- Reads the exponent, if there is one. -/
def readExponent : Bytes → Option (Option (Bool × List Nat) × Bytes)
  | 101 :: rest => (readExponentDigits rest).map fun (e, rest) => (some e, rest)
  | 69 :: rest => (readExponentDigits rest).map fun (e, rest) => (some e, rest)
  | bytes => some (none, bytes)

/-- Reads a number. -/
def readNumber (bytes : Bytes) : Option (Number × Bytes) :=
  let (negative, rest) :=
    match bytes with
    | 45 :: rest => (true, rest)
    | _ => (false, bytes)
  match readWhole rest with
  | none => none
  | some (whole, rest) =>
    match readFraction rest with
    | none => none
    | some (fraction, rest) =>
      match readExponent rest with
      | none => none
      | some (exponent, rest) => some ({ negative, whole, fraction, exponent }, rest)

mutual

/-- Reads a value, with white space in front allowed. The fuel bounds how many values are begun
    inside one another or behind one another. -/
def readValue : (fuel : Nat) → Bytes → Option (Value × Bytes)
  | 0, _ => none
  | fuel + 1, bytes =>
    match skipGap bytes with
    | 34 :: rest => (scanQuoted rest).map fun (raw, rest) => (.text raw, rest)
    | 91 :: rest =>
      match skipGap rest with
      | 93 :: rest => some (.list [], rest)
      | rest => readItems fuel [] rest
    | 123 :: rest =>
      match skipGap rest with
      | 125 :: rest => some (.record [], rest)
      | rest => readMembers fuel [] rest
    | 110 :: 117 :: 108 :: 108 :: rest => some (.null, rest)
    | 116 :: 114 :: 117 :: 101 :: rest => some (.bool true, rest)
    | 102 :: 97 :: 108 :: 115 :: 101 :: rest => some (.bool false, rest)
    | bytes => (readNumber bytes).map fun (n, rest) => (.number n, rest)

/-- Reads the items of a list up to its end, behind those in `found`, latest first. -/
def readItems : (fuel : Nat) → (found : List Value) → Bytes → Option (Value × Bytes)
  | 0, _, _ => none
  | fuel + 1, found, bytes =>
    match readValue fuel bytes with
    | none => none
    | some (item, rest) =>
      match skipGap rest with
      | 44 :: rest => readItems fuel (item :: found) rest
      | 93 :: rest => some (.list (item :: found).reverse, rest)
      | _ => none

/-- Reads the members of a record up to its end, behind those in `found`, latest first. -/
def readMembers : (fuel : Nat) → (found : List (Bytes × Value)) → Bytes →
    Option (Value × Bytes)
  | 0, _, _ => none
  | fuel + 1, found, bytes =>
    match skipGap bytes with
    | 34 :: rest =>
      match scanQuoted rest with
      | none => none
      | some (name, rest) =>
        match skipGap rest with
        | 58 :: rest =>
          match readValue fuel rest with
          | none => none
          | some (item, rest) =>
            match skipGap rest with
            | 44 :: rest => readMembers fuel ((name, item) :: found) rest
            | 125 :: rest => some (.record ((name, item) :: found).reverse, rest)
            | _ => none
        | _ => none
    | _ => none

end

/-- The value in a byte sequence that holds one and nothing else but white space around it. A value
    begins with a byte of its own, and one more for each list or record it stands in, so twice the
    length is fuel enough. -/
def parse? (bytes : Bytes) : Option Value :=
  match readValue (2 * bytes.length + 2) bytes with
  | some (value, rest) => if skipGap rest = [] then some value else none
  | none => none

end ChatCluster.Json
