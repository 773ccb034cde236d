import ChatCluster.Wire.Varint

/-!
# Fields

A wire record is a sequence of fields, each a key and a value. The key holds the field's number
and the shape of its value. Writing puts fields in the order of their numbers and leaves out those
at their default, so a record has one written form; reading takes fields in any order, any number
of times, and skips numbers it does not know.

Reading is split in two. `readFields` finds the fields of a record without knowing what they
mean, and whoever knows the record folds them up. Groups, an old way of nesting, are never part of
a known field, so their content is checked for balance and dropped on the way.

## Main definitions

* `Shape`, `Field`: A value as it stands on the wire, and a field.
* `numberField`, `textField`, `optionalTextField`, `recordField`: The written forms.
* `readFields`: The fields of a record.
* `nestingLimit`: How deep groups and records may nest.

## Theorems

* `length_lt_of_readKey`: A key takes at least one byte.
* `length_le_of_readShape`: A value takes no bytes away from what follows it.
-/

namespace ChatCluster.Wire

/-- A value on the wire. -/
inductive Shape where
  /-- A number. -/
  | number (n : Nat)
  /-- Bytes with their length in front: a text or a record. -/
  | bytes (content : Bytes)
  /-- Four or eight bytes, or a group; no field known here has such a value. -/
  | other
  deriving DecidableEq, Repr

/-- A field of a record. -/
structure Field where
  /-- Its number. -/
  number : Nat
  /-- Its value. -/
  shape : Shape
  deriving DecidableEq, Repr

/-- How the value behind a key is laid out. -/
inductive Layout where
  | number
  | eight
  | bytes
  | groupStart
  | groupEnd
  | four
  deriving DecidableEq, Repr

/-- The layout with a given code. -/
def Layout.ofCode? : Nat → Option Layout
  | 0 => some .number
  | 1 => some .eight
  | 2 => some .bytes
  | 3 => some .groupStart
  | 4 => some .groupEnd
  | 5 => some .four
  | _ => none

/-- How deep groups and records may nest in a frame. -/
def nestingLimit : Nat := 100

/-! ## Writing -/

/-- The key of a field with a number for a value. -/
def numberKey (field : Nat) : Bytes :=
  varint (8 * field)

/-- The key of a field with bytes for a value. -/
def bytesKey (field : Nat) : Bytes :=
  varint (8 * field + 2)

/-- A field of bytes. -/
def bytesField (field : Nat) (content : Bytes) : Bytes :=
  bytesKey field ++ varint content.length ++ content

/-- A number, left out at zero. -/
def numberField (field : Nat) (n : UInt64) : Bytes :=
  if n = 0 then [] else numberKey field ++ varint n.toNat

/-- A text, left out when empty. -/
def textField (field : Nat) (text : String) : Bytes :=
  if text = "" then [] else bytesField field (Text.utf8 text)

/-- A text that may be absent; an empty one is written. -/
def optionalTextField (field : Nat) : Option String → Bytes
  | none => []
  | some text => bytesField field (Text.utf8 text)

/-! ## Reading -/

/-- Reads a key: the field's number, which is not zero, and the layout of its value. -/
def readKey (bytes : Bytes) : Option ((Nat × Layout) × Bytes) :=
  match readVarint bytes with
  | none => none
  | some (key, rest) =>
    match Layout.ofCode? (key % 8) with
    | none => none
    | some layout =>
      if key < UInt32.size ∧ 8 ≤ key then some ((key / 8, layout), rest) else none

/-- Takes a given number of bytes off the front. The bytes taken are counted, not those there
    are, so that a record of many short fields is read in linear time. -/
def takeBytes (n : Nat) (bytes : Bytes) : Option (Bytes × Bytes) :=
  let taken := bytes.take n
  if taken.length = n then some (taken, bytes.drop n) else none

/-- Reads the value behind a key. A group's value is its content, which is left unread. -/
def readShape (layout : Layout) (bytes : Bytes) : Option (Shape × Bytes) :=
  match layout with
  | .number => (readVarint bytes).map fun (n, rest) => (.number n, rest)
  | .bytes =>
    match readVarint bytes with
    | none => none
    | some (length, rest) =>
      (takeBytes length rest).map fun (content, rest) => (.bytes content, rest)
  | .eight => (takeBytes 8 bytes).map fun (_, rest) => (.other, rest)
  | .four => (takeBytes 4 bytes).map fun (_, rest) => (.other, rest)
  | .groupStart | .groupEnd => some (.other, bytes)

theorem length_lt_of_readKey {bytes rest : Bytes} {key : Nat × Layout}
    (h : readKey bytes = some (key, rest)) : rest.length < bytes.length := by
  simp only [readKey] at h
  split at h
  · simp at h
  · next hv =>
    have hlt := length_lt_of_readVarint hv
    split at h
    · simp at h
    · split at h
      · obtain ⟨-, rfl⟩ := by simpa using h
        exact hlt
      · simp at h

theorem length_le_of_takeBytes {n : Nat} {bytes taken rest : Bytes}
    (h : takeBytes n bytes = some (taken, rest)) : rest.length ≤ bytes.length := by
  simp only [takeBytes] at h
  split at h
  · obtain ⟨-, rfl⟩ := by simpa using h
    simp
  · simp at h

theorem length_le_of_readShape {layout : Layout} {bytes rest : Bytes} {shape : Shape}
    (h : readShape layout bytes = some (shape, rest)) : rest.length ≤ bytes.length := by
  cases layout with
  | number =>
    simp only [readShape, Option.map_eq_some_iff] at h
    obtain ⟨⟨n, r⟩, hv, hr⟩ := h
    obtain ⟨-, rfl⟩ := by simpa using hr
    exact Nat.le_of_lt (length_lt_of_readVarint hv)
  | bytes =>
    simp only [readShape] at h
    split at h
    · simp at h
    · next hv =>
      simp only [Option.map_eq_some_iff] at h
      obtain ⟨⟨c, r⟩, ht, hr⟩ := h
      obtain ⟨-, rfl⟩ := by simpa using hr
      exact Nat.le_trans (length_le_of_takeBytes ht) (Nat.le_of_lt (length_lt_of_readVarint hv))
  | eight | four =>
    simp only [readShape, Option.map_eq_some_iff] at h
    obtain ⟨⟨c, r⟩, ht, hr⟩ := h
    obtain ⟨-, rfl⟩ := by simpa using hr
    exact length_le_of_takeBytes ht
  | groupStart | groupEnd =>
    obtain ⟨-, rfl⟩ := by simpa [readShape] using h
    exact Nat.le_refl _

/-- Reads fields to the end, in front of those `found` (latest first). `groups` are the numbers of
    the groups that are open, innermost first: what stands inside one is checked and dropped, and
    a group may not be deeper than `limit`. -/
def readFieldsFrom (limit : Nat) (groups : List Nat) (found : List Field) (bytes : Bytes) :
    Option (List Field) :=
  if bytes = [] then
    if groups = [] then some found.reverse else none
  else
    match hk : readKey bytes with
    | none => none
    | some ((number, layout), rest) =>
      if layout = .groupEnd then
        match groups with
        -- An end without a beginning.
        | [] => none
        | group :: outer =>
          have := length_lt_of_readKey hk
          if group = number then readFieldsFrom limit outer found rest else none
      else if limit ≤ groups.length then
        none
      else
        match hs : readShape layout rest with
        | none => none
        | some (shape, after) =>
          have := length_lt_of_readKey hk
          have := length_le_of_readShape hs
          readFieldsFrom limit
            (if layout = .groupStart then number :: groups else groups)
            (if groups = [] then ⟨number, shape⟩ :: found else found)
            after
termination_by bytes.length

/-- The fields of a record, in the order in which they stand. Groups in it may nest as deep as
    `limit`. -/
def readFields (limit : Nat) (bytes : Bytes) : Option (List Field) :=
  readFieldsFrom limit [] [] bytes

end ChatCluster.Wire
