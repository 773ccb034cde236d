import ChatCluster.Wire.Field

/-!
# Written Fields Are Read Back

The writer of the wire format never speaks of fields: it appends bytes, and leaves out what is at
its default. The reader finds fields and folds them up. To compare the two, this module says which
fields a piece of writing consists of, so that a record is the bytes of a list of fields, and
reading that record gives the list back.

The statement about one field keeps what has been found and what follows as parameters. That is
what makes the induction over a record go through, since the reader carries both along.

A field whose number is at its default is no field at all, and the lists `numberFields`,
`textFields` and `optionalTextFields` are empty there. The fold over such a list is covered by
`foldlM_numberFields` and its companions: it sets the value, whether or not it was written.

## Main definitions

* `Field.encode`: The bytes of a field.
* `Field.Valid`: The field is one that the writer produces.
* `numberFields`, `textFields`, `optionalTextFields`: The fields behind a piece of writing.

## Theorems

* `readFieldsFrom_encode_append`: The reader finds a written field and goes on behind it.
* `readFields_flatMap_encode`: The fields of a record are read back.
* `foldlM_numberFields`, `foldlM_textFields`, `foldlM_optionalTextFields`: A value is folded in,
  also where it was left out.
-/

namespace ChatCluster.Wire

/-- The bytes of a field. Only numbers and bytes are ever written. -/
def Field.encode (f : Field) : Bytes :=
  match f.shape with
  | .number n => numberKey f.number ++ varint n
  | .bytes content => bytesField f.number content
  | .other => []

/-- The field is one that the writer produces: a number of 64 bits, or bytes. Field numbers of the
    records known here are below sixteen. -/
def Field.Valid (f : Field) : Prop :=
  0 < f.number ∧ f.number < 16 ∧
    match f.shape with
    | .number n => n < UInt64.size
    | .bytes _ => True
    | .other => False

/-! ## One field -/

-- The two kinds of keys differ in their low bits only. Field numbers are small, so a key takes one
-- byte, but that is not needed.
theorem readKey_numberKey_append (k : Nat) (rest : Bytes) (hpos : 0 < k) (hlt : k < 16) :
    readKey (numberKey k ++ rest) = some ((k, .number), rest) := by
  have hsize : 8 * k < UInt64.size := by
    simp only [UInt64.size]
    omega
  -- The low three bits are the code, and the rest is the number.
  have hcode : 8 * k % 8 = 0 := by omega
  have hbound : 8 * k < UInt32.size ∧ 8 ≤ 8 * k := by
    simp only [UInt32.size]
    omega
  simp only [readKey, numberKey, readVarint_varint_append (8 * k) rest hsize, hcode,
    Layout.ofCode?, if_pos hbound]
  rw [show 8 * k / 8 = k by omega]

theorem readKey_bytesKey_append (k : Nat) (rest : Bytes) (hpos : 0 < k) (hlt : k < 16) :
    readKey (bytesKey k ++ rest) = some ((k, .bytes), rest) := by
  have hsize : 8 * k + 2 < UInt64.size := by
    simp only [UInt64.size]
    omega
  have hcode : (8 * k + 2) % 8 = 2 := by omega
  have hbound : 8 * k + 2 < UInt32.size ∧ 8 ≤ 8 * k + 2 := by
    simp only [UInt32.size]
    omega
  simp only [readKey, bytesKey, readVarint_varint_append (8 * k + 2) rest hsize, hcode,
    Layout.ofCode?, if_pos hbound]
  rw [show (8 * k + 2) / 8 = k by omega]

theorem takeBytes_append (content rest : Bytes) :
    takeBytes content.length (content ++ rest) = some (content, rest) := by
  simp only [takeBytes, List.take_left', List.drop_left', if_true]

theorem readShape_number_append (n : Nat) (rest : Bytes) (hn : n < UInt64.size) :
    readShape .number (varint n ++ rest) = some (.number n, rest) := by
  simp only [readShape, readVarint_varint_append n rest hn, Option.map_some]

theorem readShape_bytes_append (content rest : Bytes) (hlen : content.length < UInt64.size) :
    readShape .bytes (varint content.length ++ content ++ rest) = some (.bytes content, rest) := by
  simp only [readShape, List.append_assoc, readVarint_varint_append _ _ hlen, takeBytes_append,
    Option.map_some]

/-- The reader takes in a field whose key and value it has read, outside of any group. -/
theorem readFieldsFrom_of_readKey {limit number : Nat} (layout : Layout) {found : List Field}
    {bytes rest after : Bytes} {shape : Shape} (hlimit : 0 < limit)
    (hkey : readKey bytes = some ((number, layout), rest))
    (hstart : layout ≠ .groupStart) (hend : layout ≠ .groupEnd)
    (hshape : readShape layout rest = some (shape, after)) :
    readFieldsFrom limit [] found bytes =
      readFieldsFrom limit [] (⟨number, shape⟩ :: found) after := by
  -- A key takes at least one byte.
  have hne : bytes ≠ [] := by
    rintro rfl
    simp only [readKey, readVarint, readVarintWithin, reduceCtorEq] at hkey
  -- Of all the ways the reader can go, one is left: its two matches have succeeded, and the key
  -- neither opens nor closes a group.
  rw [readFieldsFrom, if_neg hne]
  split
  · next h =>
    rw [hkey] at h
    exact absurd h (by simp only [reduceCtorEq, not_false_eq_true])
  · next n l r h =>
    rw [hkey] at h
    simp only [Option.some.injEq, Prod.mk.injEq] at h
    rcases h with ⟨⟨rfl, rfl⟩, rfl⟩
    rw [if_neg hend, if_neg (by simp only [List.length_nil]; omega)]
    split
    · next h =>
      rw [hshape] at h
      exact absurd h (by simp only [reduceCtorEq, not_false_eq_true])
    · next s a h =>
      rw [hshape] at h
      simp only [Option.some.injEq, Prod.mk.injEq] at h
      rcases h with ⟨rfl, rfl⟩
      simp only [if_neg hstart, if_true]

/-- The reader finds a written field and goes on behind it. -/
theorem readFieldsFrom_encode_append {limit : Nat} (hlimit : 0 < limit) (found : List Field)
    (f : Field) (rest : Bytes) (hvalid : f.Valid) (hsize : f.encode.length < UInt64.size) :
    readFieldsFrom limit [] found (f.encode ++ rest) =
      readFieldsFrom limit [] (f :: found) rest := by
  rcases f with ⟨k, shape⟩
  rcases hvalid with ⟨hpos, hlt, hshape⟩
  cases shape with
  | number n =>
    refine readFieldsFrom_of_readKey .number hlimit ?_ (by simp) (by simp)
      (readShape_number_append n rest hshape)
    simp only [Field.encode, List.append_assoc]
    exact readKey_numberKey_append k _ hpos hlt
  | bytes content =>
    have hlen : content.length < UInt64.size := by
      simp only [Field.encode, bytesField, List.length_append] at hsize
      omega
    refine readFieldsFrom_of_readKey .bytes hlimit ?_ (by simp) (by simp)
      (readShape_bytes_append content rest hlen)
    simp only [Field.encode, bytesField, List.append_assoc]
    exact readKey_bytesKey_append k _ hpos hlt
  | other => exact absurd hshape not_false

/-! ## Records -/

/-- A field is no longer than a record that it stands in. -/
theorem length_encode_le_of_mem {f : Field} {fields : List Field} (h : f ∈ fields) :
    f.encode.length ≤ (fields.flatMap Field.encode).length := by
  have hmem : f.encode ∈ fields.map Field.encode := List.mem_map_of_mem h
  rw [List.flatMap_def]
  exact (List.sublist_flatten_of_mem hmem).length_le

theorem readFieldsFrom_flatMap_encode {limit : Nat} (hlimit : 0 < limit) (fields : List Field)
    (hvalid : ∀ f ∈ fields, f.Valid)
    (hsize : ∀ f ∈ fields, f.encode.length < UInt64.size) (found : List Field) :
    readFieldsFrom limit [] found (fields.flatMap Field.encode) =
      some (found.reverse ++ fields) := by
  -- The fields found so far pile up in reverse, and what follows the next one is the rest.
  induction fields generalizing found with
  | nil =>
    rw [readFieldsFrom]
    simp only [List.flatMap_nil, if_true, List.append_nil]
  | cons f fields ih =>
    rw [List.flatMap_cons,
      readFieldsFrom_encode_append hlimit found f _ (hvalid f List.mem_cons_self)
        (hsize f List.mem_cons_self),
      ih (fun g hg => hvalid g (List.mem_cons_of_mem f hg))
        (fun g hg => hsize g (List.mem_cons_of_mem f hg)) (f :: found)]
    simp only [List.reverse_cons, List.append_assoc, List.singleton_append]

/-- The fields of a record are read back, whatever the record's size is below `2 ^ 64`. -/
theorem readFields_flatMap_encode {limit : Nat} (hlimit : 0 < limit) (fields : List Field)
    (hvalid : ∀ f ∈ fields, f.Valid)
    (hsize : (fields.flatMap Field.encode).length < UInt64.size) :
    readFields limit (fields.flatMap Field.encode) = some fields := by
  have hsizes : ∀ f ∈ fields, f.encode.length < UInt64.size := fun f hf =>
    Nat.lt_of_le_of_lt (length_encode_le_of_mem hf) hsize
  rw [readFields, readFieldsFrom_flatMap_encode hlimit fields hvalid hsizes []]
  rfl

/-! ## Defaults -/

/-- The field behind a number, if it is written. -/
def numberFields (k : Nat) (n : UInt64) : List Field :=
  if n = 0 then [] else [⟨k, .number n.toNat⟩]

/-- The field behind a text, if it is written. -/
def textFields (k : Nat) (text : String) : List Field :=
  if text = "" then [] else [⟨k, .bytes (Text.utf8 text)⟩]

/-- The field behind a text that may be absent. -/
def optionalTextFields (k : Nat) : Option String → List Field
  | none => []
  | some text => [⟨k, .bytes (Text.utf8 text)⟩]

-- The three kinds of members are written as fields, or as none if they are at their defaults.
theorem flatMap_encode_numberFields (k : Nat) (n : UInt64) :
    (numberFields k n).flatMap Field.encode = numberField k n := by
  unfold numberFields numberField
  split
  · rfl
  · simp only [List.flatMap_cons, List.flatMap_nil, List.append_nil, Field.encode]

theorem flatMap_encode_textFields (k : Nat) (text : String) :
    (textFields k text).flatMap Field.encode = textField k text := by
  unfold textFields textField
  split
  · rfl
  · simp only [List.flatMap_cons, List.flatMap_nil, List.append_nil, Field.encode]

theorem flatMap_encode_optionalTextFields (k : Nat) (text : Option String) :
    (optionalTextFields k text).flatMap Field.encode = optionalTextField k text := by
  cases text with
  | none => rfl
  | some text =>
    simp only [optionalTextFields, optionalTextField, List.flatMap_cons, List.flatMap_nil,
      List.append_nil, Field.encode]

theorem valid_of_mem_numberFields {k : Nat} {n : UInt64} {f : Field} (hpos : 0 < k) (hlt : k < 16)
    (h : f ∈ numberFields k n) : f.Valid := by
  unfold numberFields at h
  split at h
  · exact absurd h List.not_mem_nil
  · rw [List.mem_singleton.1 h]
    exact ⟨hpos, hlt, n.toNat_lt⟩

theorem valid_of_mem_textFields {k : Nat} {text : String} {f : Field} (hpos : 0 < k) (hlt : k < 16)
    (h : f ∈ textFields k text) : f.Valid := by
  unfold textFields at h
  split at h
  · exact absurd h List.not_mem_nil
  · rw [List.mem_singleton.1 h]
    exact ⟨hpos, hlt, trivial⟩

theorem valid_of_mem_optionalTextFields {k : Nat} {text : Option String} {f : Field} (hpos : 0 < k)
    (hlt : k < 16) (h : f ∈ optionalTextFields k text) : f.Valid := by
  cases text with
  | none => exact absurd h List.not_mem_nil
  | some text =>
    rw [List.mem_singleton.1 h]
    exact ⟨hpos, hlt, trivial⟩

section Folding

variable {α : Type} {absorb : α → Field → Option α} {a b : α} {k : Nat}

/-- Folding in a number leads from `a` to `b` if taking in the written field does, and if at the
    default the two are the same. -/
theorem foldlM_numberFields {n : UInt64} (hwritten : absorb a ⟨k, .number n.toNat⟩ = some b)
    (hdefault : n = 0 → a = b) : (numberFields k n).foldlM absorb a = some b := by
  unfold numberFields
  split
  · next h =>
    rw [hdefault h]
    rfl
  · simp only [List.foldlM_cons, List.foldlM_nil, hwritten]
    rfl

/-- Folding in a text leads from `a` to `b`, under the same two conditions. -/
theorem foldlM_textFields {text : String}
    (hwritten : absorb a ⟨k, .bytes (Text.utf8 text)⟩ = some b) (hdefault : text = "" → a = b) :
    (textFields k text).foldlM absorb a = some b := by
  unfold textFields
  split
  · next h =>
    rw [hdefault h]
    rfl
  · simp only [List.foldlM_cons, List.foldlM_nil, hwritten]
    rfl

/-- Folding in a text that may be absent leads from `a` to `b`, where absence is the default. -/
theorem foldlM_optionalTextFields {text : Option String}
    (hwritten : ∀ t, text = some t → absorb a ⟨k, .bytes (Text.utf8 t)⟩ = some b)
    (hdefault : text = none → a = b) : (optionalTextFields k text).foldlM absorb a = some b := by
  cases text with
  | none =>
    rw [hdefault rfl]
    rfl
  | some t =>
    simp only [optionalTextFields, List.foldlM_cons, List.foldlM_nil, hwritten t rfl]
    rfl

end Folding

end ChatCluster.Wire
