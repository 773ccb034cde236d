/-!
# Blank Text

Identifiers, settings and command line values all share one rule: a text that holds nothing but
white space names nothing. White space is the Unicode property `White_Space`, which is wider than
`Char.isWhitespace` (that one knows six ASCII characters only) and narrower than "invisible": a
zero width space or a byte order mark is not blank.

## Main definitions

* `isSpace`: One character has the property `White_Space`.
* `trim`: A text without its leading and trailing white space.
* `isBlank`: A text of white space only.

## Theorems

* `trim_eq_empty_iff`: Trimming leaves nothing exactly of a blank text.
-/

namespace ChatCluster.Text

/-- The ranges of the property `White_Space`, both ends included. -/
def spaceRanges : List (Nat × Nat) :=
  [(0x09, 0x0D), (0x20, 0x20), (0x85, 0x85), (0xA0, 0xA0), (0x1680, 0x1680), (0x2000, 0x200A),
   (0x2028, 0x2029), (0x202F, 0x202F), (0x205F, 0x205F), (0x3000, 0x3000)]

/-- The character has the property `White_Space`. -/
def isSpace (c : Char) : Bool :=
  spaceRanges.any fun range => range.1 ≤ c.toNat && c.toNat ≤ range.2

/-- Characters without the white space at either end. -/
def trimChars (cs : List Char) : List Char :=
  ((cs.dropWhile isSpace).reverse.dropWhile isSpace).reverse

/-- A text without the white space at either end. -/
def trim (s : String) : String :=
  String.ofList (trimChars s.toList)

/-- A text of white space only; the empty text is one. -/
def isBlank (s : String) : Bool :=
  s.toList.all isSpace

/-- The trimmed text, or nothing where the text is blank. -/
def nonBlank? (s : String) : Option String :=
  if isBlank s then none else some (trim s)

/-- A text with its ASCII capitals in lower case and every other character as it is. -/
def lower (s : String) : String :=
  s.map Char.toLower

theorem dropWhile_eq_nil_iff_all (p : Char → Bool) (cs : List Char) :
    cs.dropWhile p = [] ↔ cs.all p := by
  induction cs with
  | nil => simp
  | cons c cs ih => by_cases h : p c <;> simp [List.dropWhile, h, ih]

theorem trim_eq_empty_iff (s : String) : trim s = "" ↔ isBlank s := by
  have h : trim s = "" ↔ trimChars s.toList = [] := by
    rw [trim, String.ofList_eq_empty_iff]
  rw [h, trimChars, isBlank, List.reverse_eq_nil_iff, dropWhile_eq_nil_iff_all, List.all_reverse]
  constructor
  · -- What `dropWhile` leaves starts outside the class, so it is of the class only when empty.
    intro hall
    rcases hd : s.toList.dropWhile isSpace with _ | ⟨c, cs⟩
    · exact (dropWhile_eq_nil_iff_all _ _).1 hd
    · have hc : isSpace c = false := by
        have := List.head?_dropWhile_not isSpace s.toList
        rw [hd] at this
        simpa using this
      rw [hd] at hall
      simp [hc] at hall
  · intro hall
    rw [(dropWhile_eq_nil_iff_all _ _).2 hall]
    rfl

end ChatCluster.Text
