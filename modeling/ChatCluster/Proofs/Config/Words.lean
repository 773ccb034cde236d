import ChatCluster.Config.Settings
import Mathlib.Data.List.DropRight

/-!
# Words in Settings

What a text that is given for a setting comes to. White space at its ends does not count, and a text
of nothing else is as good as none. What is left, the word, is taken as it is or has to be a whole
number, a truth value or the name of a backend.

The readers say how a word is found and what it comes to; here it is said what it is, so that
nothing has to be known of the readers to tell what a text stands for.

## Main definitions

* `Text.WordOf`: The word of a text.
* `Decimal.Numeral`: A word for a whole number.
* `flagWords`, `backendNames`: The words for truth values and backends.

## Theorems

* `Text.nonBlank?_eq_some_iff`: How a word is found.
* `Text.WordOf.trim_eq`: A word has no white space to be taken off.
* `Decimal.unsigned?_eq_some_iff`, `flagOf?_eq_some_iff`, `Backend.ofText?_eq_some_iff`: What a word
  comes to.
-/

namespace ChatCluster

/-! ## Words -/

namespace Text

/-- The text is the word, perhaps with white space around it. -/
structure WordOf (text word : String) : Prop where
  ne_empty : word ≠ ""
  parts : ∃ before after : List Char, text.toList = before ++ word.toList ++ after ∧
    (∀ c ∈ before, isSpace c = true) ∧ ∀ c ∈ after, isSpace c = true
  head : ∀ c ∈ word.toList.head?, isSpace c = false
  last : ∀ c ∈ word.toList.getLast?, isSpace c = false

theorem dropWhile_append_of_head {before cs : List Char}
    (hbefore : ∀ c ∈ before, isSpace c = true) (hhead : ∀ c ∈ cs.head?, isSpace c = false) :
    (before ++ cs).dropWhile isSpace = cs := by
  rw [List.dropWhile_append_of_pos hbefore]
  cases cs with
  | nil => rfl
  | cons c cs =>
    have hc : isSpace c = false := hhead c rfl
    simp only [List.dropWhile_cons, hc, Bool.false_eq_true, if_false]

/-- White space is taken off as far as it goes, and not further. -/
theorem trimChars_append {before cs after : List Char} (hne : cs ≠ [])
    (hbefore : ∀ c ∈ before, isSpace c = true) (hafter : ∀ c ∈ after, isSpace c = true)
    (hhead : ∀ c ∈ cs.head?, isSpace c = false) (hlast : ∀ c ∈ cs.getLast?, isSpace c = false) :
    trimChars (before ++ cs ++ after) = cs := by
  have hfront : (before ++ cs ++ after).dropWhile isSpace = cs ++ after := by
    rw [List.append_assoc]
    refine dropWhile_append_of_head hbefore ?_
    rw [List.head?_append_of_ne_nil cs hne]
    exact hhead
  have hback : (cs ++ after).reverse.dropWhile isSpace = cs.reverse := by
    rw [List.reverse_append]
    refine dropWhile_append_of_head (fun c hc => hafter c (List.mem_reverse.1 hc)) ?_
    rw [List.head?_reverse]
    exact hlast
  rw [trimChars, hfront, hback, List.reverse_reverse]

theorem head?_dropWhile_isSpace (cs : List Char) :
    ∀ c ∈ (cs.dropWhile isSpace).head?, isSpace c = false := by
  intro c hc
  have hnot := List.head?_dropWhile_not isSpace cs
  rw [Option.mem_def.1 hc] at hnot
  exact hnot

/-- What is left when white space is taken off a text that is not blank is its word. -/
theorem wordOf_trim {text : String} (h : isBlank text = false) : WordOf text (trim text) := by
  have hne : trim text ≠ "" := by
    rw [Ne, trim_eq_empty_iff, h]
    exact Bool.false_ne_true
  have hword : (trim text).toList = (text.toList.dropWhile isSpace).rdropWhile isSpace := by
    rw [trim, String.toList_ofList]
    rfl
  have hfront : (text.toList.dropWhile isSpace).rdropWhile isSpace ++
      (text.toList.dropWhile isSpace).rtakeWhile isSpace = text.toList.dropWhile isSpace :=
    List.rdropWhile_append_rtakeWhile
  have hnonempty : (text.toList.dropWhile isSpace).rdropWhile isSpace ≠ [] := by
    rw [← hword]
    exact fun hnil => hne (String.toList_eq_nil_iff.1 hnil)
  refine ⟨hne, ⟨text.toList.takeWhile isSpace,
    (text.toList.dropWhile isSpace).rtakeWhile isSpace, ?_, ?_, ?_⟩, ?_, ?_⟩
  · rw [hword, List.append_assoc, hfront, List.takeWhile_append_dropWhile]
  · exact fun c hc => List.mem_takeWhile_imp hc
  · exact fun c hc => List.mem_rtakeWhile_imp hc
  · -- What is taken off at the end leaves the beginning as it is.
    have hhead := head?_dropWhile_isSpace text.toList
    rw [← hfront, List.head?_append_of_ne_nil _ hnonempty] at hhead
    rw [hword]
    exact hhead
  · have hlast := head?_dropWhile_isSpace (text.toList.dropWhile isSpace).reverse
    rw [hword, List.rdropWhile, List.getLast?_reverse]
    exact hlast

theorem WordOf.trim_text {text word : String} (h : WordOf text word) : trim text = word := by
  rcases h.parts with ⟨before, after, htext, hbefore, hafter⟩
  have hne : word.toList ≠ [] := fun hnil => h.ne_empty (String.toList_eq_nil_iff.1 hnil)
  rw [trim, htext, trimChars_append hne hbefore hafter h.head h.last, String.ofList_toList]

/-- A word has no white space to be taken off. -/
theorem WordOf.trim_eq {text word : String} (h : WordOf text word) : trim word = word := by
  have hnone : ∀ c ∈ ([] : List Char), isSpace c = true := fun _ hc => absurd hc List.not_mem_nil
  exact WordOf.trim_text
    ⟨h.ne_empty, ⟨[], [], (List.append_nil _).symm, hnone, hnone⟩, h.head, h.last⟩

/-- A text that is not blank is read as its word. -/
theorem nonBlank?_eq_some_iff {text word : String} :
    nonBlank? text = some word ↔ WordOf text word := by
  rw [nonBlank?]
  constructor
  · intro h
    cases hblank : isBlank text with
    | true => simp only [hblank, if_true, reduceCtorEq] at h
    | false =>
      simp only [hblank, Bool.false_eq_true, if_false, Option.some.injEq] at h
      exact h ▸ wordOf_trim hblank
  · intro h
    have hblank : isBlank text = false := by
      rw [Bool.eq_false_iff, Ne, ← trim_eq_empty_iff, h.trim_text]
      exact h.ne_empty
    rw [hblank, h.trim_text]
    rfl

end Text

/-! ## Whole numbers -/

namespace Decimal

/-- The word is a whole number in decimal: digits, perhaps behind a plus sign, and as many zeros in
    front as one likes. -/
def Numeral (word : String) (n : Nat) : Prop :=
  ∃ ds : List Nat, ds ≠ [] ∧ (∀ d ∈ ds, d < 10) ∧ ofDigits ds = n ∧
    (word.toList = ds.map digitChar ∨ word.toList = '+' :: ds.map digitChar)

theorem isDigit_digitChar : ∀ d < 10, (digitChar d).isDigit = true := by
  decide

theorem toNat_digitChar_sub : ∀ d < 10, (digitChar d).toNat - 48 = d := by
  decide

/-- A character that is a digit is that of its value. -/
theorem digitChar_toNat_sub {c : Char} (h : c.isDigit = true) :
    c.toNat - 48 < 10 ∧ digitChar (c.toNat - 48) = c := by
  have hrange : 48 ≤ c.toNat ∧ c.toNat ≤ 57 := by
    simp only [Char.isDigit, ge_iff_le, Bool.and_eq_true, decide_eq_true_eq,
      UInt32.le_iff_toNat_le] at h
    exact h
  refine ⟨by omega, ?_⟩
  rw [digitChar, Nat.add_sub_cancel' hrange.1, Char.ofNat_toNat]

theorem allDigits?_eq_some_iff {cs : List Char} {n : Nat} :
    allDigits? cs = some n ↔
      ∃ ds : List Nat, ds ≠ [] ∧ (∀ d ∈ ds, d < 10) ∧ ofDigits ds = n ∧ cs = ds.map digitChar := by
  rw [allDigits?]
  constructor
  · intro h
    split at h
    · next hdigits =>
      rw [List.all_eq_true] at hdigits
      rw [Option.some.injEq] at h
      refine ⟨_, ?_, ?_, h, ?_⟩
      · exact fun hnil => hdigits.1 (List.map_eq_nil_iff.1 hnil)
      · intro d hd
        rcases List.mem_map.1 hd with ⟨c, hc, rfl⟩
        exact (digitChar_toNat_sub (hdigits.2 c hc)).1
      · rw [List.map_map]
        exact ((List.map_congr_left fun c hc =>
          (digitChar_toNat_sub (hdigits.2 c hc)).2).trans (List.map_id cs)).symm
    · cases h
  · rintro ⟨ds, hne, hten, rfl, rfl⟩
    have hall : (ds.map digitChar).all Char.isDigit = true := by
      rw [List.all_eq_true]
      intro c hc
      rcases List.mem_map.1 hc with ⟨d, hd, rfl⟩
      exact isDigit_digitChar d (hten d hd)
    have hvalues : (ds.map digitChar).map (fun c => c.toNat - 48) = ds := by
      rw [List.map_map]
      exact (List.map_congr_left fun d hd => toNat_digitChar_sub d (hten d hd)).trans
        (List.map_id ds)
    rw [if_pos ⟨fun hnil => hne (List.map_eq_nil_iff.1 hnil), hall⟩, hvalues]

/-- Digits have no plus sign in front that could be taken for one. -/
theorem withoutPlus_eq_digits_iff {cs : List Char} {ds : List Nat} (hne : ds ≠ [])
    (hten : ∀ d ∈ ds, d < 10) :
    withoutPlus cs = ds.map digitChar ↔
      cs = ds.map digitChar ∨ cs = '+' :: ds.map digitChar := by
  have hplus : ∀ rest, ds.map digitChar ≠ '+' :: rest := by
    intro rest heq
    rcases List.exists_cons_of_ne_nil hne with ⟨d, ds, rfl⟩
    have hdigit := isDigit_digitChar d (hten d List.mem_cons_self)
    rw [(List.cons.inj heq).1] at hdigit
    exact absurd hdigit (by decide)
  unfold withoutPlus
  split
  · next rest =>
    rw [List.cons.injEq]
    constructor
    · exact fun h => Or.inr ⟨rfl, h⟩
    · rintro (h | h)
      · exact absurd h.symm (hplus rest)
      · exact h.2
  · next hno =>
    exact ⟨Or.inl, fun h => h.elim id fun h => absurd h (hno _)⟩

/-- A word is read as a whole number just if it is one below the bound. -/
theorem unsigned?_eq_some_iff {bound n : Nat} {word : String} :
    unsigned? bound word = some n ↔ Numeral word n ∧ n < bound := by
  rw [unsigned?, Option.filter_eq_some_iff, allDigits?_eq_some_iff, decide_eq_true_eq, Numeral]
  refine and_congr_left fun _ => exists_congr fun ds => ?_
  constructor
  · rintro ⟨hne, hten, hvalue, hword⟩
    exact ⟨hne, hten, hvalue, (withoutPlus_eq_digits_iff hne hten).1 hword⟩
  · rintro ⟨hne, hten, hvalue, hword⟩
    exact ⟨hne, hten, hvalue, (withoutPlus_eq_digits_iff hne hten).2 hword⟩

end Decimal

/-! ## Truth values and backends -/

/-- The words for a truth value, in lower case. -/
def flagWords : Bool → List String
  | true => ["1", "true", "yes", "on"]
  | false => ["0", "false", "no", "off"]

theorem flagOf?_eq_some_iff {word : String} {b : Bool} :
    Environment.flagOf? word = some b ↔ Text.lower (Text.trim word) ∈ flagWords b := by
  unfold Environment.flagOf?
  generalize Text.lower (Text.trim word) = name
  constructor
  · intro h
    split at h <;> cases h <;> decide
  · intro h
    cases b <;>
    · simp only [flagWords, List.mem_cons, List.not_mem_nil, or_false] at h
      rcases h with rfl | rfl | rfl | rfl <;> rfl

/-- The names of a backend, in lower case. -/
def backendNames : Backend → List String
  | .memory => ["memory", "in-memory", "inmemory"]
  | .redis => ["redis"]

theorem Backend.ofText?_eq_some_iff {word : String} {b : Backend} :
    Backend.ofText? word = some b ↔ Text.lower (Text.trim word) ∈ backendNames b := by
  unfold Backend.ofText?
  generalize Text.lower (Text.trim word) = name
  constructor
  · intro h
    split at h <;> cases h <;> decide
  · intro h
    cases b with
    | memory =>
      simp only [backendNames, List.mem_cons, List.not_mem_nil, or_false] at h
      rcases h with rfl | rfl | rfl <;> rfl
    | redis =>
      simp only [backendNames, List.mem_cons, List.not_mem_nil, or_false] at h
      subst h
      rfl

end ChatCluster
