import ChatCluster.Json.Codec
import ChatCluster.Proofs.Json.Numbers
import ChatCluster.Proofs.Json.Quoted
import Mathlib.Data.List.Nodup

/-!
# Written Records Are Read Back

A record is written as its members in order. Reading takes two steps: the bytes become a value,
whose members have their names in raw form, and the declared fields are looked up in it. Both are
shown here once for any list of members, so that a particular record only has to say what its
members are.

What a member's text becomes when it is read is expressed by `Reads`. A text that is read as a
value may be followed by what follows a member, a comma or a closing brace, and nothing is asked
of the fuel but that there is some: none of the members written here is itself a list or record.

## Main definitions

* `Separated`: What follows is a comma or a closing brace.
* `Reads`: A text is read as a value.
* `nullableValue`: What may be absent is read as a null if it is.
* `Member`: A member with its written and its read form.
* `WrittenBy`: How the values of a type are written and read.

## Theorems

* `reads_quote`, `reads_int64Text`, `reads_nullable`: Texts, integers and what may be absent are
  read as what they are.
* `parse?_record`: The members of a record are read back.
* `slots_record`: Each declared field finds its member, in whatever order the members stand.
* `WrittenBy.ofText?_members`: A value is read back from its text.
* `RegistryEntry.ofJson?_toJson`: An entry is one of them.
-/

namespace ChatCluster.Json

/-- What follows is a comma or a closing brace. -/
def Separated (rest : Bytes) : Prop :=
  ∃ bs, rest = 44 :: bs ∨ rest = 125 :: bs

/-- A text is read as a value, wherever it stands as a member. -/
def Reads (text : String) (value : Value) : Prop :=
  ∀ fuel rest, Separated rest → readValue (fuel + 1) (Text.utf8 text ++ rest) = some (value, rest)

theorem numberEnds_of_separated {rest : Bytes} (h : Separated rest) : NumberEnds rest := by
  rintro b bs rfl
  rcases h with ⟨bs', h | h⟩
  · rw [(List.cons.inj h).1]
    decide
  · rw [(List.cons.inj h).1]
    decide

/-! ## Members -/

theorem reads_quote (s : String) : Reads (quote s) (.text (rawForm s)) := by
  intro fuel rest _
  have hgap : ∀ bs, skipGap (34 :: bs) = 34 :: bs := fun _ => rfl
  simp only [utf8_quote, List.cons_append, List.append_assoc, List.nil_append]
  rw [readValue, hgap]
  simp only [scanQuoted_rawForm, Option.map_some]

/-- A number begins with a byte that begins nothing else. -/
theorem numberStart {b : UInt8} (h : Decimal.isDigit b = true ∨ b = 45) :
    isGap b = false ∧ b ≠ 34 ∧ b ≠ 91 ∧ b ≠ 123 ∧ b ≠ 110 ∧ b ≠ 116 ∧ b ≠ 102 := by
  refine ⟨?_, ?_, ?_, ?_, ?_, ?_, ?_⟩
  · simp only [isGap, Bool.or_eq_false_iff, decide_eq_false_iff_not]
    refine ⟨⟨⟨?_, ?_⟩, ?_⟩, ?_⟩ <;> (rintro rfl; exact absurd h (by decide))
  all_goals (rintro rfl; exact absurd h (by decide))

-- Numbers are read last, when the first byte begins nothing else.
theorem reads_intText (i : Int) : Reads (Decimal.intText i) (.number (whole i)) := by
  intro fuel rest hrest
  have hnumber := readNumber_intText i rest (numberEnds_of_separated hrest)
  rcases exists_utf8_intText_eq_cons i with ⟨b, bs, heq, hb⟩
  rcases numberStart hb with ⟨hgap, h34, h91, h123, h110, h116, h102⟩
  rw [heq, List.cons_append] at hnumber
  have hskip : skipGap (b :: (bs ++ rest)) = b :: (bs ++ rest) := by
    rw [skipGap, List.dropWhile_cons, hgap]
    rfl
  rw [heq, List.cons_append, readValue, hskip]
  -- Every branch but the last begins with a byte that a number does not begin with.
  split
  · next h => exact absurd (List.cons.inj h).1 h34
  · next h => exact absurd (List.cons.inj h).1 h91
  · next h => exact absurd (List.cons.inj h).1 h123
  · next h => exact absurd (List.cons.inj h).1 h110
  · next h => exact absurd (List.cons.inj h).1 h116
  · next h => exact absurd (List.cons.inj h).1 h102
  · rw [hnumber]
    rfl

theorem reads_int64Text (n : Int64) : Reads (int64Text n) (.number (whole n.toInt)) :=
  reads_intText n.toInt

theorem reads_uint32Text (n : UInt32) : Reads (uint32Text n) (.number (whole n.toNat)) :=
  reads_intText n.toNat

theorem reads_uint64Text (n : UInt64) : Reads (uint64Text n) (.number (whole n.toNat)) :=
  reads_intText n.toNat

theorem reads_null : Reads "null" .null := by
  intro fuel rest _
  have hnull : Text.utf8 "null" = [110, 117, 108, 108] := rfl
  have hgap : ∀ bs, skipGap (110 :: bs) = 110 :: bs := fun _ => rfl
  simp only [hnull, List.cons_append, List.nil_append]
  rw [readValue, hgap]
  rfl

/-- What may be absent is a null or what it would be otherwise. -/
def nullableValue {α : Type} (value : α → Value) : Option α → Value
  | none => .null
  | some a => value a

theorem reads_nullable {α : Type} {write : α → String} {value : α → Value}
    (h : ∀ a, Reads (write a) (value a)) (o : Option α) :
    Reads (nullable write o) (nullableValue value o) := by
  cases o with
  | none => exact reads_null
  | some a => exact h a

/-- What may be absent is read back from a slot that is filled. -/
theorem optional_nullableValue {α : Type} {read? : Value → Option α} {value : α → Value}
    (h : ∀ a, read? (value a) = some a) (hnull : ∀ a, value a ≠ .null) (o : Option α) :
    optional read? (some (nullableValue value o)) = some o := by
  cases o with
  | none => rfl
  | some a =>
    rw [nullableValue, optional, h]
    · rfl
    · exact hnull a

/-- A member of a record: its name, its written form, and the value it is read as. -/
structure Member where
  /-- The name. -/
  name : String
  /-- The written form. -/
  text : String
  /-- The value. -/
  value : Value
  /-- The written form is read as the value. -/
  reads : Reads text value

/-- The bytes of a member. -/
def Member.bytes (m : Member) : Bytes :=
  Text.utf8 (quote m.name) ++ 58 :: Text.utf8 m.text

/-- The bytes of a member behind another one. -/
def Member.next (m : Member) : Bytes :=
  44 :: m.bytes

/-- What a member is read as. -/
def Member.parsed (m : Member) : Bytes × Value :=
  (rawForm m.name, m.value)

theorem readMembers_bytes_append (fuel : Nat) (found : List (Bytes × Value)) (m : Member)
    (rest : Bytes) :
    (readMembers (fuel + 2) found (m.bytes ++ 44 :: rest) =
        readMembers (fuel + 1) (m.parsed :: found) rest) ∧
      (readMembers (fuel + 2) found (m.bytes ++ 125 :: rest) =
        some (.record (m.parsed :: found).reverse, rest)) := by
  -- The name between its quotes, the colon, and then the value and what follows it.
  have hbytes : ∀ after, m.bytes ++ after =
      34 :: (rawForm m.name ++ 34 :: 58 :: (Text.utf8 m.text ++ after)) := by
    intro after
    simp only [Member.bytes, utf8_quote, List.cons_append, List.append_assoc, List.nil_append]
  have hgap : ∀ bs, skipGap (34 :: bs) = 34 :: bs ∧ skipGap (58 :: bs) = 58 :: bs ∧
      skipGap (44 :: bs) = 44 :: bs ∧ skipGap (125 :: bs) = 125 :: bs :=
    fun bs => ⟨rfl, rfl, rfl, rfl⟩
  constructor
  · rw [hbytes, readMembers, (hgap _).1]
    simp only [scanQuoted_rawForm, (hgap _).2.1, m.reads fuel (44 :: rest) ⟨rest, Or.inl rfl⟩,
      (hgap _).2.2.1]
    rfl
  · rw [hbytes, readMembers, (hgap _).1]
    simp only [scanQuoted_rawForm, (hgap _).2.1, m.reads fuel (125 :: rest) ⟨rest, Or.inr rfl⟩,
      (hgap _).2.2.2]
    rfl

/-- The members of a record are read back, up to the closing brace. -/
theorem readMembers_bytes (m : Member) (ms : List Member) (found : List (Bytes × Value))
    (rest : Bytes) {fuel : Nat} (hfuel : ms.length + 2 ≤ fuel) :
    readMembers fuel found (m.bytes ++ ms.flatMap Member.next ++ 125 :: rest) =
      some (.record (found.reverse ++ (m :: ms).map Member.parsed), rest) := by
  -- On the members still to come; each of them takes one unit of fuel, and the last one two.
  induction ms generalizing m found fuel with
  | nil =>
    rcases Nat.exists_eq_add_of_le hfuel with ⟨extra, rfl⟩
    rw [List.flatMap_nil, List.append_nil, show [].length + 2 + extra = extra + 2 by simp; omega,
      (readMembers_bytes_append extra found m rest).2]
    simp only [List.reverse_cons, List.map_cons, List.map_nil]
  | cons n ns ih =>
    rw [List.length_cons] at hfuel
    rcases Nat.exists_eq_add_of_le hfuel with ⟨extra, rfl⟩
    rw [List.flatMap_cons, Member.next, List.append_assoc, List.append_assoc, List.cons_append,
      show ns.length + 1 + 2 + extra = (ns.length + 1 + extra) + 2 by omega,
      (readMembers_bytes_append _ found m _).1, ← List.append_assoc, ih n _ (by omega)]
    simp only [List.reverse_cons, List.map_cons, List.append_assoc, List.singleton_append]

/-! ## Records -/

/-- The written members of a record. -/
def writtenMembers (ms : List Member) : List (String × String) :=
  ms.map fun m => (m.name, m.text)

-- The first member has no comma before it, which is why it is kept apart.
theorem utf8_intercalate (m : Member) (ms : List Member) :
    Text.utf8 (String.intercalate ","
        ((writtenMembers (m :: ms)).map fun w => quote w.1 ++ ":" ++ w.2)) =
      m.bytes ++ ms.flatMap Member.next := by
  have hmember : ∀ n : Member, Text.utf8 (quote n.name ++ ":" ++ n.text) = n.bytes := by
    intro n
    rw [Text.utf8_append, Text.utf8_append, List.append_assoc]
    rfl
  have hcomma : Text.utf8 "," = [44] := rfl
  induction ms generalizing m with
  | nil =>
    simp only [writtenMembers, List.map_cons, List.map_nil, String.intercalate_singleton, hmember,
      List.flatMap_nil, List.append_nil]
  | cons n ns ih =>
    have hrest := ih n
    simp only [writtenMembers, List.map_cons] at hrest ⊢
    rw [String.intercalate_cons_cons, Text.utf8_append, Text.utf8_append, hmember, hrest, hcomma,
      List.flatMap_cons, Member.next, List.append_assoc, List.singleton_append, List.cons_append]

theorem length_le_length_flatMap_next (ms : List Member) :
    ms.length ≤ (ms.flatMap Member.next).length := by
  induction ms with
  | nil => exact Nat.le_refl _
  | cons m ms ih =>
    simp only [List.flatMap_cons, List.length_append, Member.next, List.length_cons]
    omega

theorem parse?_record_cons (m : Member) (ms : List Member) :
    parse? (Text.utf8 (record (writtenMembers (m :: ms)))) =
      some (.record ((m :: ms).map Member.parsed)) := by
  have hopen : Text.utf8 "\x7b" = [123] := rfl
  have hclose : Text.utf8 "\x7d" = [125] := rfl
  have hbytes : Text.utf8 (record (writtenMembers (m :: ms))) =
      123 :: (m.bytes ++ ms.flatMap Member.next ++ [125]) := by
    rw [record, Text.utf8_append, Text.utf8_append, utf8_intercalate, hopen, hclose]
    rfl
  -- Every member takes at least one byte, so the fuel outlasts them.
  have hlength := length_le_length_flatMap_next ms
  have hstart : ∃ bs, m.bytes ++ ms.flatMap Member.next ++ [125] = 34 :: bs := by
    simp only [Member.bytes, utf8_quote, List.cons_append]
    exact ⟨_, rfl⟩
  have hfuel : ms.length + 2 ≤
      2 * (m.bytes ++ ms.flatMap Member.next ++ [125]).length + 3 := by
    simp only [List.length_append]
    omega
  have hread := readMembers_bytes m ms [] [] hfuel
  rcases hstart with ⟨bs, hbs⟩
  rw [hbs] at hread hbytes
  have hrecord : ∀ fuel, readValue (fuel + 1) (123 :: 34 :: bs) =
      readMembers fuel [] (34 :: bs) := by
    intro fuel
    rw [readValue]
    rfl
  rw [parse?, hbytes, show 2 * (123 :: 34 :: bs).length + 2 = (2 * (34 :: bs).length + 3) + 1 by
    simp only [List.length_cons]; omega, hrecord, hread]
  rfl

/-- The members of a record are read back from its text. -/
theorem parse?_record (ms : List Member) :
    parse? (Text.utf8 (record (writtenMembers ms))) = some (.record (ms.map Member.parsed)) := by
  cases ms with
  | nil => rfl
  | cons m ms => exact parse?_record_cons m ms

/-- A text of members is read as the members are. -/
theorem ofText?_record {α : Type} (read? : Value → Option α) (ms : List Member) :
    ofText? read? (record (writtenMembers ms)) = read? (.record (ms.map Member.parsed)) := by
  rw [ofText?, parse?_record, Option.bind_some]

/-! ## Declared fields -/

theorem decodeNames_parsed (ms : List Member) :
    decodeNames (ms.map Member.parsed) = some (ms.map fun m => (m.name, m.value)) := by
  induction ms with
  | nil => rfl
  | cons m ms ih =>
    rw [List.map_cons, Member.parsed, decodeNames, unquote?_rawForm, ih]
    rfl

theorem occurrences_le_one {members : List (String × Value)}
    (h : (members.map Prod.fst).Nodup) (name : String) : occurrences name members ≤ 1 := by
  have hcount : occurrences name members = (members.map Prod.fst).count name := by
    rw [occurrences, List.count_eq_countP, List.countP_map, List.countP_eq_length_filter]
    rfl
  rw [hcount]
  exact List.nodup_iff_count_le_one.1 h name

theorem lookup_of_mem {members : List (String × Value)} (h : (members.map Prod.fst).Nodup)
    {name : String} {value : Value} (hmem : (name, value) ∈ members) :
    members.lookup name = some value := by
  induction members with
  | nil => exact absurd hmem List.not_mem_nil
  | cons m ms ih =>
    rcases m with ⟨first, held⟩
    rw [List.map_cons, List.nodup_cons] at h
    rcases List.mem_cons.1 hmem with hfirst | hlater
    · rw [Prod.mk.injEq] at hfirst
      rw [hfirst.1, hfirst.2, List.lookup_cons_self]
    · have hne : name ≠ first := by
        rintro rfl
        exact h.1 (List.mem_map.2 ⟨_, hlater, rfl⟩)
      simp only [List.lookup_cons, beq_eq_false_iff_ne.2 hne, ih h.2 hlater]

/-- Each declared field finds its member, in whatever order the members stand and whatever others
    stand among them, if no two have the same name. -/
theorem slots_record (fields : List FieldName) {declared ms : List Member}
    (hnames : declared.map Member.name = fields.map FieldName.name) (hmem : declared ⊆ ms)
    (hnodup : (ms.map Member.name).Nodup) :
    slots fields (.record (ms.map Member.parsed)) = some (declared.map fun m => some m.value) := by
  have hkeys : ((ms.map fun m => (m.name, m.value)).map Prod.fst).Nodup := by
    rw [List.map_map]
    exact hnodup
  have hfields : (fields.map fun f => List.lookup f.name (ms.map fun m => (m.name, m.value))) =
      declared.map fun m => some m.value := by
    calc (fields.map fun f => List.lookup f.name (ms.map fun m => (m.name, m.value)))
        = (fields.map FieldName.name).map
            fun name => List.lookup name (ms.map fun m => (m.name, m.value)) := by
          rw [List.map_map]
          rfl
      _ = declared.map fun m => some m.value := by
          rw [← hnames, List.map_map]
          exact List.map_congr_left fun m hm =>
            lookup_of_mem hkeys (List.mem_map.2 ⟨m, hmem hm, rfl⟩)
  -- No declared field occurs twice, so the lookup is not refused.
  simp only [slots, decodeNames_parsed, hfields]
  rw [if_pos]
  rw [List.all_eq_true]
  exact fun f _ => decide_eq_true (occurrences_le_one hkeys f.name)

/-- How the values of a type are written and read: each has its members, which are the declared
    fields, and is what the values in these fields stand for. -/
structure WrittenBy {α : Type} (members : α → List Member) (fields : List FieldName)
    (read? : Value → Option α) : Prop where
  nodup : (fields.map FieldName.name).Nodup
  map_name : ∀ a, (members a).map Member.name = fields.map FieldName.name
  ofSlots : ∀ a v, slots fields v = some ((members a).map fun m => some m.value) →
    read? v = some a

section WrittenBy

variable {α : Type} {members : α → List Member} {fields : List FieldName}
  {read? : Value → Option α}

/-- A value is read back from its members, in whatever order they stand and whatever others stand
    among them. -/
theorem WrittenBy.ofText?_of_subset (h : WrittenBy members fields read?) (a : α) {ms : List Member}
    (hmem : members a ⊆ ms) (hnodup : (ms.map Member.name).Nodup) :
    ofText? read? (record (writtenMembers ms)) = some a := by
  rw [ofText?_record]
  exact h.ofSlots a _ (slots_record fields (h.map_name a) hmem hnodup)

/-- A value is read back from its text. -/
theorem WrittenBy.ofText?_members (h : WrittenBy members fields read?) (a : α) :
    ofText? read? (record (writtenMembers (members a))) = some a :=
  h.ofText?_of_subset a (List.Subset.refl _) (h.map_name a ▸ h.nodup)

end WrittenBy

end ChatCluster.Json

namespace ChatCluster

open Json

/-- The members of an entry. -/
def RegistryEntry.members (e : RegistryEntry) : List Member :=
  [⟨"user_id", _, _, reads_quote e.user.text⟩, ⟨"instance_id", _, _, reads_quote e.owner.text⟩,
   ⟨"established_at_ms", _, _, reads_int64Text e.establishedAt⟩]

theorem RegistryEntry.writtenBy :
    WrittenBy RegistryEntry.members
      [⟨"user_id", false⟩, ⟨"instance_id", false⟩, ⟨"established_at_ms", false⟩]
      RegistryEntry.ofValue? where
  nodup := by decide
  map_name _ := rfl
  ofSlots e v hslots := by
    rw [RegistryEntry.ofValue?, hslots]
    simp only [RegistryEntry.members, List.map_cons, List.map_nil, required, Option.bind_some,
      Value.userId?, Value.instanceId?, Value.int64?, Value.text?, Value.number?, unquote?_rawForm,
      toInt64?_whole, Option.map_some]
    rfl

/-- An entry is read back from its text, whatever its names are. -/
theorem RegistryEntry.ofJson?_toJson (e : RegistryEntry) :
    RegistryEntry.ofJson? e.toJson = some e :=
  RegistryEntry.writtenBy.ofText?_members e

end ChatCluster
