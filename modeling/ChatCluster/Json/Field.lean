import ChatCluster.Json.Value

/-!
# Fields of Records

Stored records and client drafts are JSON objects with known fields. Which fields there are, and
what may stand in them, is said once for each record; this module holds what the records share.

An object may give its fields in any order and may hold members nobody knows, but no known field
twice. The fields may also be given as a list in their order of declaration, which then has to be
as long as that order, except that fields with a default may be missing at its end. Either way the
result is one slot for each field, empty where nothing was given.

## Main definitions

* `FieldName`, `slots`: The declared fields of a record, and what a value gives for them.
* `required`, `optional`, `orDefault`: What an empty slot means.
* `Number.toUInt64?`, `Number.toInt64?`, `Number.toUInt32?`: Whole numbers in range.
* `Value.text?`, `Value.int64?`, …: The readers of single fields.
* `record`: The written form of a record.
-/

namespace ChatCluster.Json

/-- A declared field. -/
structure FieldName where
  /-- Its name. -/
  name : String
  /-- It may be missing at the end of a list. -/
  hasDefault : Bool := false
  deriving DecidableEq, Repr

/-- How often a name occurs among members. -/
def occurrences (name : String) (members : List (String × Value)) : Nat :=
  (members.filter fun m => m.1 = name).length

/-- The members of an object with their names decoded. -/
def decodeNames : List (Bytes × Value) → Option (List (String × Value))
  | [] => some []
  | (raw, item) :: rest =>
    match unquote? raw, decodeNames rest with
    | some name, some members => some ((name, item) :: members)
    | _, _ => none

/-- What a value gives for declared fields, one slot for each. -/
def slots (fields : List FieldName) : Value → Option (List (Option Value))
  | .list items =>
    if items.length ≤ fields.length ∧ (fields.drop items.length).all FieldName.hasDefault then
      some (items.map some ++ List.replicate (fields.length - items.length) none)
    else none
  | .record members =>
    match decodeNames members with
    | none => none
    | some members =>
      if fields.all fun f => occurrences f.name members ≤ 1 then
        some (fields.map fun f => members.lookup f.name)
      else none
  | _ => none

/-! ## Slots -/

/-- The slot has to be filled. -/
def required {α : Type} (read : Value → Option α) (slot : Option Value) : Option α :=
  slot.bind read

/-- An empty slot and a null both stand for nothing. -/
def optional {α : Type} (read : Value → Option α) : Option Value → Option (Option α)
  | none | some .null => some none
  | some value => (read value).map some

/-- An empty slot stands for a default; a null does not. -/
def orDefault {α : Type} (default : α) (read : Value → Option α) : Option Value → Option α
  | none => some default
  | some value => read value

/-! ## Whole numbers -/

/-- The number has neither fraction nor exponent. -/
def Number.isWhole (n : Number) : Bool :=
  n.fraction.isEmpty && n.exponent.isNone

/-- The whole number that is written, if it is one. A zero with a minus sign is none. -/
def Number.toInt? (n : Number) : Option Int :=
  if n.isWhole then
    let magnitude := Decimal.ofDigits n.whole
    if n.negative then
      if magnitude = 0 then none else some (-(magnitude : Int))
    else some magnitude
  else none

/-- The number as an unsigned one of 64 bits. -/
def Number.toUInt64? (n : Number) : Option UInt64 :=
  match n.toInt? with
  | some i => if 0 ≤ i ∧ i < UInt64.size then some (UInt64.ofNat i.toNat) else none
  | none => none

/-- The number as an unsigned one of 32 bits. -/
def Number.toUInt32? (n : Number) : Option UInt32 :=
  match n.toInt? with
  | some i => if 0 ≤ i ∧ i < UInt32.size then some (UInt32.ofNat i.toNat) else none
  | none => none

/-- The number as a signed one of 64 bits. -/
def Number.toInt64? (n : Number) : Option Int64 :=
  match n.toInt? with
  | some i =>
    if Int64.minValue.toInt ≤ i ∧ i ≤ Int64.maxValue.toInt then some (Int64.ofInt i) else none
  | none => none

namespace Value

/-- A text. -/
def text? : Value → Option String
  | .text raw => unquote? raw
  | _ => none

/-- A number. -/
def number? : Value → Option Number
  | .number n => some n
  | _ => none

/-- A signed number of 64 bits. -/
def int64? (v : Value) : Option Int64 :=
  v.number?.bind Number.toInt64?

/-- An unsigned number of 64 bits. -/
def uint64? (v : Value) : Option UInt64 :=
  v.number?.bind Number.toUInt64?

/-- An unsigned number of 32 bits. -/
def uint32? (v : Value) : Option UInt32 :=
  v.number?.bind Number.toUInt32?

end Value

/-! ## Writing -/

/-- The written form of an object with the given members, each written already. -/
def record (members : List (String × String)) : String :=
  "\x7b" ++ String.intercalate "," (members.map fun m => quote m.1 ++ ":" ++ m.2) ++ "\x7d"

/-- The written form of something that may be absent. -/
def nullable {α : Type} (write : α → String) : Option α → String
  | none => "null"
  | some a => write a

end ChatCluster.Json
