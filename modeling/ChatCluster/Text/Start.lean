/-!
# Beginnings of Texts

Keys of the store and names of topics are made by putting a fixed text in front of a name. Taking
that text off again gives back the name, and tells whether it was there at all.

## Main definitions

* `afterStart?`: What follows a given beginning.
* `startsWith`: A text has a given beginning.

## Theorems

* `afterStart?_append`: What was put behind a beginning is found there.
* `afterStart?_eq_some_iff`: A text has a beginning exactly when it is that beginning and a rest.
-/

namespace ChatCluster.Text

/-- The characters behind a given beginning. -/
def charsAfter? : (start cs : List Char) → Option (List Char)
  | [], cs => some cs
  | _ :: _, [] => none
  | s :: start, c :: cs => if s = c then charsAfter? start cs else none

/-- What follows a given beginning. -/
def afterStart? (start s : String) : Option String :=
  (charsAfter? start.toList s.toList).map String.ofList

/-- The text has the given beginning. -/
def startsWith (start s : String) : Bool :=
  (charsAfter? start.toList s.toList).isSome

theorem charsAfter?_eq_some_iff (start cs rest : List Char) :
    charsAfter? start cs = some rest ↔ cs = start ++ rest := by
  induction start generalizing cs with
  | nil => simp [charsAfter?]
  | cons s start ih =>
    cases cs with
    | nil => simp [charsAfter?]
    | cons c cs =>
      by_cases h : s = c
      · simp [charsAfter?, h, ih]
      · simp [charsAfter?, h, Ne.symm h]

theorem afterStart?_eq_some_iff (start s rest : String) :
    afterStart? start s = some rest ↔ s = start ++ rest := by
  rw [afterStart?, Option.map_eq_some_iff]
  constructor
  · rintro ⟨cs, hcs, rfl⟩
    rw [charsAfter?_eq_some_iff] at hcs
    apply String.toList_injective
    simp [hcs]
  · rintro rfl
    exact ⟨rest.toList, by simp [charsAfter?_eq_some_iff], by simp⟩

@[simp] theorem afterStart?_append (start rest : String) :
    afterStart? start (start ++ rest) = some rest :=
  (afterStart?_eq_some_iff _ _ _).2 rfl

@[simp] theorem startsWith_append (start rest : String) : startsWith start (start ++ rest) := by
  simp [startsWith, (charsAfter?_eq_some_iff _ _ rest.toList).2]

end ChatCluster.Text
