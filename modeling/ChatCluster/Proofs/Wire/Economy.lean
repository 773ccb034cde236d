import ChatCluster.Proofs.Wire.Fields

/-!
# The Shortest Form

What is read was written in at least as many bytes as its shortest form takes. A reader accepts
numbers with needless groups, fields in any order and any number of times, fields that it skips and
whole groups. All of this only ever adds to the length, so the fields that have been found fit into
the bytes that they were found in.

Lengths in front of contents need care. When two records are merged, the length of the whole is
written once where the lengths of the parts were written before, and it must not take more room
than both of them. That is `length_varint_add_le`.

## Theorems

* `length_varint_mono`, `length_varint_add_le`: How long numbers are.
* `length_varint_add_le_of_readVarint`: A number is read from no fewer bytes than its shortest form.
* `length_encode_add_le_of_readShape`: So is a field.
* `length_flatMap_encode_le_of_readFields`: So are the fields of a record.
-/

namespace ChatCluster.Wire

/-! ## Numbers -/

theorem length_varint_of_lt {n : Nat} (h : n < 128) : (varint n).length = 1 := by
  rw [varint, if_pos h, List.length_singleton]

theorem length_varint_of_le {n : Nat} (h : 128 ≤ n) :
    (varint n).length = (varint (n / 128)).length + 1 := by
  rw [varint, if_neg (Nat.not_lt.2 h), List.length_cons]

theorem length_varint_pos (n : Nat) : 0 < (varint n).length := by
  rcases Nat.lt_or_ge n 128 with h | h
  · rw [length_varint_of_lt h]
    omega
  · rw [length_varint_of_le h]
    omega

theorem length_varint_mono {a b : Nat} (h : a ≤ b) : (varint a).length ≤ (varint b).length := by
  induction b using Nat.strongRecOn generalizing a with
  | ind b ih =>
    rcases Nat.lt_or_ge a 128 with ha | ha
    · rw [length_varint_of_lt ha]
      exact length_varint_pos b
    · have hb : 128 ≤ b := Nat.le_trans ha h
      rw [length_varint_of_le ha, length_varint_of_le hb]
      exact Nat.succ_le_succ (ih (b / 128) (by omega) (Nat.div_le_div_right h))

/-- A sum takes no more room than its two parts. -/
theorem length_varint_add_le (a b : Nat) :
    (varint (a + b)).length ≤ (varint a).length + (varint b).length := by
  induction hn : a + b using Nat.strongRecOn generalizing a b with
  | ind n ih =>
    subst hn
    have hone := length_varint_pos b
    rcases Nat.lt_or_ge (a + b) 128 with hsum | hsum
    · rw [length_varint_of_lt hsum]
      omega
    rw [length_varint_of_le hsum]
    -- A carry adds one to the number without the lowest group, and that adds one byte at most.
    have hcarry : ∀ m, m + 1 < a + b → (varint (m + 1)).length ≤ (varint m).length + 1 := by
      intro m hm
      have hstep := ih (m + 1) hm m 1 rfl
      rwa [length_varint_of_lt (n := 1) (by omega)] at hstep
    rcases Nat.lt_or_ge a 128 with ha | ha <;> rcases Nat.lt_or_ge b 128 with hb | hb
    · have hsum : (a + b) / 128 < 128 := by omega
      exact Nat.le_of_eq (by
        rw [length_varint_of_lt ha, length_varint_of_lt hb, length_varint_of_lt hsum])
    · have hle : (a + b) / 128 ≤ b / 128 + 1 := by omega
      have hstep := Nat.le_trans (length_varint_mono hle) (hcarry (b / 128) (by omega))
      rw [length_varint_of_lt ha, length_varint_of_le hb]
      omega
    · have hle : (a + b) / 128 ≤ a / 128 + 1 := by omega
      have hstep := Nat.le_trans (length_varint_mono hle) (hcarry (a / 128) (by omega))
      rw [length_varint_of_le ha]
      omega
    · have hle : (a + b) / 128 ≤ a / 128 + (b / 128 + 1) := by omega
      have hparts := ih (a / 128 + (b / 128 + 1)) (by omega) (a / 128) (b / 128 + 1) rfl
      have hstep := Nat.le_trans (length_varint_mono hle) hparts
      have hlast := hcarry (b / 128) (by omega)
      rw [length_varint_of_le ha, length_varint_of_le hb]
      omega

theorem length_varint_add_le_of_readVarintWithin {room n : Nat} {bytes rest : Bytes}
    (h : readVarintWithin room bytes = some (n, rest)) :
    (varint n).length + rest.length ≤ bytes.length := by
  induction room generalizing bytes n with
  | zero =>
    cases bytes with
    | nil => simp only [readVarintWithin, reduceCtorEq] at h
    | cons b bs =>
      simp only [readVarintWithin] at h
      split at h
      · next hb =>
        simp only [Option.some.injEq, Prod.mk.injEq] at h
        rcases h with ⟨rfl, rfl⟩
        rw [length_varint_of_lt (by omega), List.length_cons]
        omega
      · cases h
  | succ room ih =>
    cases bytes with
    | nil => simp only [readVarintWithin, reduceCtorEq] at h
    | cons b bs =>
      simp only [readVarintWithin] at h
      split at h
      · next hb =>
        simp only [Option.some.injEq, Prod.mk.injEq] at h
        rcases h with ⟨rfl, rfl⟩
        rw [length_varint_of_lt hb, List.length_cons]
        omega
      · split at h
        · next high after hhigh =>
          simp only [Option.some.injEq, Prod.mk.injEq] at h
          rcases h with ⟨rfl, rfl⟩
          have hrest := ih hhigh
          have hbyte : b.toNat - 128 < 128 := by
            have hlt := b.toNat_lt
            omega
          -- If nothing stands in the higher groups, they are not needed at all.
          rcases Nat.eq_zero_or_pos high with rfl | hpos
          · rw [length_varint_of_lt (by omega), List.length_cons]
            omega
          · rw [length_varint_of_le (by omega), List.length_cons,
              show (b.toNat - 128 + 128 * high) / 128 = high by omega]
            omega
        · cases h

/-- A number is read from no fewer bytes than its shortest form. -/
theorem length_varint_add_le_of_readVarint {n : Nat} {bytes rest : Bytes}
    (h : readVarint bytes = some (n, rest)) : (varint n).length + rest.length ≤ bytes.length :=
  length_varint_add_le_of_readVarintWithin h

/-! ## Fields -/

theorem length_of_takeBytes {n : Nat} {bytes taken rest : Bytes}
    (h : takeBytes n bytes = some (taken, rest)) :
    taken.length = n ∧ taken.length + rest.length = bytes.length := by
  simp only [takeBytes] at h
  split at h
  · next hlen =>
    simp only [Option.some.injEq, Prod.mk.injEq] at h
    rcases h with ⟨rfl, rfl⟩
    refine ⟨hlen, ?_⟩
    rw [← List.length_append, List.take_append_drop]
  · cases h

/-- The key of a field, as a number. -/
def Layout.key (layout : Layout) (number : Nat) : Nat :=
  match layout with
  | .number => 8 * number
  | .eight => 8 * number + 1
  | .bytes => 8 * number + 2
  | .groupStart => 8 * number + 3
  | .groupEnd => 8 * number + 4
  | .four => 8 * number + 5

theorem key_of_ofCode? {key : Nat} {layout : Layout} (h : Layout.ofCode? (key % 8) = some layout) :
    layout.key (key / 8) = key := by
  unfold Layout.ofCode? at h
  split at h <;> cases h <;> simp only [Layout.key] <;> omega

theorem length_key_add_le_of_readKey {bytes rest : Bytes} {number : Nat} {layout : Layout}
    (h : readKey bytes = some ((number, layout), rest)) :
    (varint (layout.key number)).length + rest.length ≤ bytes.length := by
  simp only [readKey] at h
  split at h
  · cases h
  · next key after hkey =>
    split at h
    · cases h
    · next found hcode =>
      split at h
      · simp only [Option.some.injEq, Prod.mk.injEq] at h
        rcases h with ⟨⟨rfl, rfl⟩, rfl⟩
        rw [key_of_ofCode? hcode]
        exact length_varint_add_le_of_readVarint hkey
      · cases h

/-- A field is read from no fewer bytes than its shortest form. -/
theorem length_encode_add_le_of_readShape {bytes rest after : Bytes} {number : Nat}
    {layout : Layout} {shape : Shape} (hkey : readKey bytes = some ((number, layout), rest))
    (hshape : readShape layout rest = some (shape, after)) :
    (Field.encode ⟨number, shape⟩).length + after.length ≤ bytes.length := by
  have hlen := length_key_add_le_of_readKey hkey
  have hafter := length_le_of_readShape hshape
  cases layout with
  | number =>
    simp only [readShape, Option.map_eq_some_iff, Prod.mk.injEq, Prod.exists] at hshape
    rcases hshape with ⟨n, rest', hread, rfl, rfl⟩
    have hn := length_varint_add_le_of_readVarint hread
    have hfield : (Field.encode ⟨number, .number n⟩).length =
        (varint (8 * number)).length + (varint n).length := List.length_append
    rw [Layout.key] at hlen
    omega
  | bytes =>
    simp only [readShape] at hshape
    split at hshape
    · cases hshape
    · next size content' hread =>
      simp only [Option.map_eq_some_iff, Prod.mk.injEq, Prod.exists] at hshape
      rcases hshape with ⟨content, rest', htake, rfl, rfl⟩
      have hsize := length_varint_add_le_of_readVarint hread
      rcases length_of_takeBytes htake with ⟨rfl, hcontent⟩
      have hfield : (Field.encode ⟨number, .bytes content⟩).length =
          (varint (8 * number + 2)).length + (varint content.length).length + content.length := by
        simp only [Field.encode, bytesField, bytesKey, List.length_append]
      rw [Layout.key] at hlen
      omega
  | eight | four =>
    simp only [readShape, Option.map_eq_some_iff, Prod.mk.injEq, Prod.exists] at hshape
    rcases hshape with ⟨_, _, _, rfl, rfl⟩
    rw [Field.encode, List.length_nil]
    omega
  | groupStart | groupEnd =>
    simp only [readShape, Option.some.injEq, Prod.mk.injEq] at hshape
    rcases hshape with ⟨rfl, rfl⟩
    rw [Field.encode, List.length_nil]
    omega

/-! ## Records -/

theorem length_flatMap_encode_le_of_readFieldsFrom {limit : Nat} {groups : List Nat}
    {found fields : List Field} {bytes : Bytes}
    (h : readFieldsFrom limit groups found bytes = some fields) :
    (fields.flatMap Field.encode).length ≤
      (found.flatMap Field.encode).length + bytes.length := by
  -- Along the reader's own recursion. What it drops it has at least gone past.
  fun_induction readFieldsFrom limit groups found bytes with
  | case1 found =>
    cases h
    rw [List.length_flatMap, List.length_flatMap, List.map_reverse, List.sum_reverse]
    exact Nat.le_add_right _ _
  | case2 | case3 | case4 | case6 | case7 | case8 => cases h
  | case5 found bytes hne rest group outer hkey hlt ih =>
    exact Nat.le_trans (ih h) (Nat.add_le_add_left (Nat.le_of_lt hlt) _)
  | case9 groups found bytes hne number layout rest hkey _ _ shape after hshape _ _ ih =>
    have hrest := ih h
    have hfield := length_encode_add_le_of_readShape hkey hshape
    split at hrest
    · rw [List.flatMap_cons, List.length_append] at hrest
      omega
    · omega

/-- The fields of a record fit into the bytes that they were found in. -/
theorem length_flatMap_encode_le_of_readFields {limit : Nat} {fields : List Field} {bytes : Bytes}
    (h : readFields limit bytes = some fields) :
    (fields.flatMap Field.encode).length ≤ bytes.length := by
  have hle := length_flatMap_encode_le_of_readFieldsFrom h
  rwa [List.flatMap_nil, List.length_nil, Nat.zero_add] at hle

end ChatCluster.Wire
