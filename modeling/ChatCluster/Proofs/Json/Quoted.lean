import ChatCluster.Json.Text

/-!
# Quoted Text Is Read Back

What stands between two quotes is read twice: once to find the closing quote, and once to undo the
escapes. Both readers work on bytes while the writer works on characters, so the bridge between
them is what one character becomes. There are three forms (`Escaped`): a backslash and a letter, a
backslash and a code, or the character as it is. In the last form no byte can be mistaken for
something else, because all bytes of a character beyond ASCII are above 127.

Each reader has one lemma for each form, and the laws about whole texts are inductions over the
characters. They keep what was read before as a parameter, since that is how the readers go on.

## Main definitions

* `Plain`: A byte that stands for itself between quotes.
* `escapedBytes`: The bytes that a character becomes.
* `rawForm`: The bytes between the quotes of a written text.

## Theorems

* `escaped`: Every character has one of the three forms.
* `scanQuoted_rawForm`: The closing quote is found.
* `unquote?_rawForm`: A text is read back from its raw form.
-/

namespace ChatCluster.Json

/-- A byte that stands for itself between quotes. -/
def Plain (b : UInt8) : Prop :=
  32 ≤ b ∧ b ≠ 34 ∧ b ≠ 92

/-- The bytes that a character becomes between quotes. -/
def escapedBytes (c : Char) : Bytes :=
  (escape c).flatMap String.utf8EncodeChar

/-! ## Bytes of a character -/

theorem utf8EncodeChar_of_lt {c : Char} (h : c.toNat < 128) :
    String.utf8EncodeChar c = [UInt8.ofNat c.toNat] := by
  have hv : c.val.toNat = c.toNat := rfl
  unfold String.utf8EncodeChar
  simp only [hv]
  rw [if_pos (by omega)]

/-- No byte of a character beyond ASCII is an ASCII byte. -/
theorem le_of_mem_utf8EncodeChar {c : Char} (h : 128 ≤ c.toNat) {b : UInt8}
    (hb : b ∈ String.utf8EncodeChar c) : 128 ≤ b.toNat := by
  have hv : c.val.toNat = c.toNat := rfl
  unfold String.utf8EncodeChar at hb
  simp only [hv] at hb
  -- One case for each length; every byte but that of ASCII has its high bit set.
  split at hb
  · omega
  split at hb
  · simp only [List.mem_cons, List.not_mem_nil, or_false] at hb
    rcases hb with rfl | rfl <;> simp only [UInt8.toNat_ofNat'] <;> omega
  split at hb
  · simp only [List.mem_cons, List.not_mem_nil, or_false] at hb
    rcases hb with rfl | rfl | rfl <;> simp only [UInt8.toNat_ofNat'] <;> omega
  · simp only [List.mem_cons, List.not_mem_nil, or_false] at hb
    rcases hb with rfl | rfl | rfl | rfl <;> simp only [UInt8.toNat_ofNat'] <;> omega

theorem plain_of_le {b : UInt8} (h : 128 ≤ b.toNat) : Plain b := by
  refine ⟨?_, ?_, ?_⟩
  · rw [UInt8.le_iff_toNat_le]
    exact Nat.le_trans (by decide) h
  · rintro rfl
    exact absurd h (by decide)
  · rintro rfl
    exact absurd h (by decide)

/-- A character that is neither a control character nor quote nor backslash is made of plain
    bytes. -/
theorem plain_of_mem_utf8EncodeChar {c : Char} (hquote : c ≠ '"') (hback : c ≠ '\\')
    (hlow : ¬ c.toNat < 32) {b : UInt8} (hb : b ∈ String.utf8EncodeChar c) : Plain b := by
  by_cases h : c.toNat < 128
  · rw [utf8EncodeChar_of_lt h, List.mem_singleton] at hb
    subst hb
    have hback' : (UInt8.ofNat c.toNat).toNat = c.toNat := by
      rw [UInt8.toNat_ofNat']
      omega
    refine ⟨?_, ?_, ?_⟩
    · rw [UInt8.le_iff_toNat_le, hback']
      exact Nat.le_of_not_lt hlow
    · intro he
      rw [he] at hback'
      exact hquote (Char.toNat_inj.1 hback'.symm)
    · intro he
      rw [he] at hback'
      exact hback (Char.toNat_inj.1 hback'.symm)
  · exact plain_of_le (le_of_mem_utf8EncodeChar (Nat.le_of_not_lt h) hb)

/-! ## The three forms -/

/-- What a character becomes between quotes. -/
inductive Escaped (c : Char) : Prop where
  /-- A backslash and a letter that stands for the character. -/
  | short (letter b : UInt8) (form : escapedBytes c = [92, letter]) (ne_u : letter ≠ 117)
      (reads : shortEscape? letter = some b) (bytes : String.utf8EncodeChar c = [b])
  /-- A backslash, the letter u and the number of the character. -/
  | unit (x y : UInt8) (form : escapedBytes c = [92, 117, 48, 48, x, y])
      (reads : hexUnit? 48 48 x y = some c.toNat) (low : c.toNat < 32)
  /-- The character as it is. -/
  | plain (form : escapedBytes c = String.utf8EncodeChar c)
      (plain : ∀ b ∈ String.utf8EncodeChar c, Plain b)

theorem hexUnit?_hexDigit : ∀ n < 32,
    hexUnit? 48 48 (UInt8.ofNat (hexDigit (n / 16)).toNat) (UInt8.ofNat (hexDigit (n % 16)).toNat) =
      some n := by
  decide

theorem toNat_hexDigit_lt : ∀ d < 16, (hexDigit d).toNat < 128 := by
  decide

theorem escaped (c : Char) : Escaped c := by
  -- One case for each branch of the writer, in its order.
  by_cases h1 : c = '"'
  · subst h1
    exact .short 34 34 (by decide) (by decide) (by decide) (by decide)
  by_cases h2 : c = '\\'
  · subst h2
    exact .short 92 92 (by decide) (by decide) (by decide) (by decide)
  by_cases h3 : c.toNat = 8
  · rw [← Char.ofNat_toNat c, h3]
    exact .short 98 8 (by decide) (by decide) (by decide) (by decide)
  by_cases h4 : c = '\t'
  · subst h4
    exact .short 116 9 (by decide) (by decide) (by decide) (by decide)
  by_cases h5 : c = '\n'
  · subst h5
    exact .short 110 10 (by decide) (by decide) (by decide) (by decide)
  by_cases h6 : c.toNat = 12
  · rw [← Char.ofNat_toNat c, h6]
    exact .short 102 12 (by decide) (by decide) (by decide) (by decide)
  by_cases h7 : c = '\r'
  · subst h7
    exact .short 114 13 (by decide) (by decide) (by decide) (by decide)
  by_cases h8 : c.toNat < 32
  · refine .unit _ _ ?_ (hexUnit?_hexDigit c.toNat h8) h8
    simp only [escapedBytes, escape, h1, h2, h3, h4, h5, h6, h7, h8, if_true, if_false,
      List.flatMap_cons, List.flatMap_nil,
      utf8EncodeChar_of_lt (toNat_hexDigit_lt (c.toNat / 16) (by omega)),
      utf8EncodeChar_of_lt (toNat_hexDigit_lt (c.toNat % 16) (by omega))]
    rfl
  · refine .plain ?_ fun b hb => plain_of_mem_utf8EncodeChar h1 h2 h8 hb
    simp only [escapedBytes, escape, h1, h2, h3, h4, h5, h6, h7, h8, if_false, List.flatMap_cons,
      List.flatMap_nil, List.append_nil]

/-! ## Finding the closing quote -/

-- By induction on the bytes, with what has been passed over kept in reverse.
theorem scanQuotedFrom_plain (bytes raw rest : Bytes) (h : ∀ b ∈ bytes, Plain b) :
    scanQuotedFrom raw (bytes ++ rest) = scanQuotedFrom (bytes.reverse ++ raw) rest := by
  induction bytes generalizing raw with
  | nil => rfl
  | cons b bytes ih =>
    rcases h b List.mem_cons_self with ⟨hlow, hquote, hback⟩
    have hlow' : ¬ (b < 32 ∨ b = 92) := by
      rintro (hlt | heq)
      · exact absurd hlow (UInt8.not_le.2 hlt)
      · exact hback heq
    -- The goals that are left say that no earlier pattern of the scanner matches.
    rw [List.cons_append, scanQuotedFrom, if_neg hlow',
      ih (b :: raw) fun d hd => h d (List.mem_cons_of_mem b hd)]
    · simp only [List.reverse_cons, List.append_assoc, List.singleton_append]
    · exact hquote
    · rintro a b c d r rfl
      exact fun _ => hback rfl
    · rintro e r rfl
      exact fun _ => hback rfl

/-- The form of a character is passed over as a whole. -/
theorem scanQuotedFrom_escapedBytes (c : Char) (raw rest : Bytes) :
    scanQuotedFrom raw (escapedBytes c ++ rest) =
      scanQuotedFrom ((escapedBytes c).reverse ++ raw) rest := by
  rcases escaped c with ⟨letter, b, form, ne_u, reads, -⟩ | ⟨x, y, form, reads, -⟩ | ⟨form, plain⟩
  · rw [form]
    simp only [List.cons_append, List.nil_append, List.reverse_cons, List.reverse_nil]
    rw [scanQuotedFrom, reads]
    · simp only [Option.isSome_some, if_true]
    · rintro a b c d r rfl
      exact absurd rfl ne_u
  · rw [form]
    simp only [List.cons_append, List.nil_append, List.reverse_cons, List.reverse_nil]
    rw [scanQuotedFrom, reads]
    simp only [Option.isSome_some, if_true]
  · rw [form]
    exact scanQuotedFrom_plain _ _ _ plain

/-- The bytes between the quotes of a written text. -/
def rawForm (s : String) : Bytes :=
  s.toList.flatMap escapedBytes

theorem scanQuotedFrom_flatMap (cs : List Char) (raw rest : Bytes) :
    scanQuotedFrom raw (cs.flatMap escapedBytes ++ 34 :: rest) =
      some (raw.reverse ++ cs.flatMap escapedBytes, rest) := by
  induction cs generalizing raw with
  | nil => simp only [List.flatMap_nil, List.nil_append, scanQuotedFrom, List.append_nil]
  | cons c cs ih =>
    rw [List.flatMap_cons, List.append_assoc, scanQuotedFrom_escapedBytes, ih]
    simp only [List.reverse_append, List.reverse_reverse, List.append_assoc]

/-- The closing quote of a written text is found, whatever follows it. -/
theorem scanQuoted_rawForm (s : String) (rest : Bytes) :
    scanQuoted (rawForm s ++ 34 :: rest) = some (rawForm s, rest) := by
  rw [scanQuoted, rawForm, scanQuotedFrom_flatMap]
  rfl

/-! ## Undoing the escapes -/

theorem unescapeFrom_plain (bytes done rest : Bytes) (h : ∀ b ∈ bytes, Plain b) :
    unescapeFrom done (bytes ++ rest) = unescapeFrom (bytes.reverse ++ done) rest := by
  induction bytes generalizing done with
  | nil => rfl
  | cons b bytes ih =>
    have hback : b ≠ 92 := (h b List.mem_cons_self).2.2
    -- As above, only a backslash would begin another form.
    rw [List.cons_append, unescapeFrom, ih (b :: done) fun d hd => h d (List.mem_cons_of_mem b hd)]
    · simp only [List.reverse_cons, List.append_assoc, List.singleton_append]
    · rintro a b c d r rfl
      exact fun _ => hback rfl
    · rintro e r rfl
      exact fun _ => hback rfl

/-- The form of a character is turned into the bytes of the character. -/
theorem unescapeFrom_escapedBytes (c : Char) (done rest : Bytes) :
    unescapeFrom done (escapedBytes c ++ rest) =
      unescapeFrom ((String.utf8EncodeChar c).reverse ++ done) rest := by
  rcases escaped c with ⟨letter, b, form, ne_u, reads, bytes⟩ | ⟨x, y, form, reads, low⟩ |
    ⟨form, plain⟩
  · rw [form, bytes]
    simp only [List.cons_append, List.nil_append, List.reverse_singleton]
    rw [unescapeFrom, reads]
    rintro a b c d r rfl
    exact absurd rfl ne_u
  · rw [form]
    simp only [List.cons_append, List.nil_append]
    rw [unescapeFrom, reads]
    -- The number of a control character is no half of a surrogate pair.
    simp only [if_neg (show ¬ (0xDC00 ≤ c.toNat ∧ c.toNat < 0xE000) by omega),
      if_neg (show ¬ (0xD800 ≤ c.toNat ∧ c.toNat < 0xDC00) by omega), pushCodePoint,
      Char.ofNat_toNat]
  · rw [form]
    exact unescapeFrom_plain _ _ _ plain

theorem unescapeFrom_flatMap (cs : List Char) (done : Bytes) :
    unescapeFrom done (cs.flatMap escapedBytes) =
      some (done.reverse ++ cs.flatMap String.utf8EncodeChar) := by
  induction cs generalizing done with
  | nil => simp only [List.flatMap_nil, unescapeFrom, List.append_nil]
  | cons c cs ih =>
    rw [List.flatMap_cons, unescapeFrom_escapedBytes, ih, List.flatMap_cons]
    simp only [List.reverse_append, List.reverse_reverse, List.append_assoc]

/-- A text is read back from its raw form. -/
theorem unquote?_rawForm (s : String) : unquote? (rawForm s) = some s := by
  have hbytes : s.toList.flatMap String.utf8EncodeChar = Text.utf8 s := by
    rw [← Text.utf8_ofList, String.ofList_toList]
  rw [unquote?, rawForm, unescapeFrom_flatMap, List.reverse_nil, List.nil_append, hbytes,
    Option.bind_some, Text.ofUtf8?_utf8]

/-- A written text is its raw form between two quotes. -/
theorem utf8_quote (s : String) : Text.utf8 (quote s) = 34 :: rawForm s ++ [34] := by
  have hraw : Text.utf8 (String.ofList (s.toList.flatMap escape)) = rawForm s := by
    rw [Text.utf8_ofList, List.flatMap_assoc]
    rfl
  rw [quote, Text.utf8_append, Text.utf8_append, hraw]
  rfl

end ChatCluster.Json
