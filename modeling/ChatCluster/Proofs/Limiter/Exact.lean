import ChatCluster.Proofs.Json.Records
import ChatCluster.Proofs.Limiter.Check
import ChatCluster.Proofs.Limiter.Level

/-!
# Buckets of Exact Numbers in Text

The stored form of buckets over the rational numbers. It is the record that is stored for binary
fractions, with every fraction given as a numerator and a denominator, so that nothing is lost in
the text. What is laid down about limits in exact numbers therefore speaks about something that can
be stored.

## Main definitions

* `fractionOf?`, `exactText`: Fractions in text.
* `Bucket.toExactJson`, `Bucket.ofExactJson?`: Buckets in text.

## Theorems

* `fractionOf?_exactText`: A fraction is read back.
* `faithful_exact`: Buckets are read back as they were written.
-/

namespace ChatCluster

open Json Decimal

/-- A fraction, written as a numerator over a denominator. -/
def exactText (q : ℚ) : String :=
  intText q.num ++ "/" ++ natText q.den

/-- The fraction in a text. -/
def fractionOf? (text : String) : Option ℚ :=
  match readNumber (Text.utf8 text) with
  | some (numerator, 47 :: denominator) =>
    numerator.toInt?.map fun n : Int => (n : ℚ) / ofDigitBytes denominator
  | _ => none

/-- A fraction is read back from its text. -/
theorem fractionOf?_exactText (q : ℚ) : fractionOf? (exactText q) = some q := by
  have hbytes : Text.utf8 (exactText q) =
      Text.utf8 (intText q.num) ++ 47 :: digitBytes (digits q.den) := by
    have hslash : Text.utf8 "/" = [47] := rfl
    rw [exactText, Text.utf8_append, Text.utf8_append, hslash, utf8_natText, List.append_assoc,
      List.singleton_append]
  have hends : NumberEnds (47 :: digitBytes (digits q.den)) := by
    rintro b bs heq
    rw [← (List.cons.inj heq).1]
    decide
  rw [fractionOf?, hbytes, readNumber_intText q.num _ hends]
  simp only [toInt?_whole, Option.map_some, ofDigitBytes_digits, Rat.num_div_den]

/-- The written form of a bucket of exact numbers. -/
def Bucket.toExactJson (b : Bucket ℚ) : String :=
  record
    [("tokens", quote (exactText b.tokens)), ("last_refill_ms", int64Text b.lastRefill),
     ("capacity", uint32Text b.capacity), ("refill_rate", quote (exactText b.rate)),
     ("backlog", uint32Text b.backlog)]

/-- A fraction in a field. -/
def Json.Value.fraction? (v : Value) : Option ℚ :=
  v.text?.bind fractionOf?

/-- The bucket of exact numbers a value stands for. -/
def Bucket.ofExactValue? (v : Value) : Option (Bucket ℚ) :=
  match slots
      [⟨"tokens", false⟩, ⟨"last_refill_ms", false⟩, ⟨"capacity", false⟩,
       ⟨"refill_rate", false⟩, ⟨"backlog", true⟩] v with
  | some [tokens, time, capacity, rate, backlog] => do
    let tokens ← required Value.fraction? tokens
    let lastRefill ← required Value.int64? time
    let capacity ← required Value.uint32? capacity
    let rate ← required Value.fraction? rate
    let backlog ← orDefault 0 Value.uint32? backlog
    return { tokens, lastRefill, capacity, rate, backlog }
  | _ => none

/-- The bucket of exact numbers in a text. -/
def Bucket.ofExactJson? (text : String) : Option (Bucket ℚ) :=
  Json.ofText? Bucket.ofExactValue? text

instance : BucketText ℚ where
  write := Bucket.toExactJson
  read? := Bucket.ofExactJson?

/-- The members of a bucket. -/
def Bucket.members (b : Bucket ℚ) : List Member :=
  [⟨"tokens", _, _, reads_quote (exactText b.tokens)⟩,
   ⟨"last_refill_ms", _, _, reads_int64Text b.lastRefill⟩,
   ⟨"capacity", _, _, reads_uint32Text b.capacity⟩,
   ⟨"refill_rate", _, _, reads_quote (exactText b.rate)⟩,
   ⟨"backlog", _, _, reads_uint32Text b.backlog⟩]

/-- The fields are read one by one. What stands in them is left open, so that no number is
    computed. -/
theorem Bucket.ofExactValue?_eq (b : Bucket ℚ) {v tokens time capacity rate backlog : Value}
    (hslots : slots
      [⟨"tokens", false⟩, ⟨"last_refill_ms", false⟩, ⟨"capacity", false⟩,
       ⟨"refill_rate", false⟩, ⟨"backlog", true⟩] v =
      some [some tokens, some time, some capacity, some rate, some backlog])
    (htokens : tokens.fraction? = some b.tokens) (htime : time.int64? = some b.lastRefill)
    (hcapacity : capacity.uint32? = some b.capacity) (hrate : rate.fraction? = some b.rate)
    (hbacklog : backlog.uint32? = some b.backlog) : Bucket.ofExactValue? v = some b := by
  rw [Bucket.ofExactValue?, hslots]
  simp only [required, orDefault, Option.bind_some, htokens, htime, hcapacity, hrate, hbacklog]
  rfl

theorem Bucket.writtenBy :
    WrittenBy Bucket.members
      [⟨"tokens", false⟩, ⟨"last_refill_ms", false⟩, ⟨"capacity", false⟩,
       ⟨"refill_rate", false⟩, ⟨"backlog", true⟩]
      Bucket.ofExactValue? where
  nodup := by decide
  map_name _ := rfl
  ofSlots b _ hslots := by
    have hfraction : ∀ q, (Value.text (rawForm (exactText q))).fraction? = some q := by
      intro q
      rw [Value.fraction?, Value.text?, unquote?_rawForm, Option.bind_some, fractionOf?_exactText]
    have hnumber : ∀ n : UInt32, (Value.number (whole n.toNat)).uint32? = some n := by
      intro n
      rw [Value.uint32?_number, toUInt32?_whole]
    exact b.ofExactValue?_eq hslots (hfraction _) (toInt64?_whole _) (hnumber _) (hfraction _)
      (hnumber _)

/-- Buckets of exact numbers are read back as they were written. -/
theorem faithful_exact : BucketText.Faithful ℚ := by
  intro b
  have hwritten : b.toExactJson = record (writtenMembers b.members) := rfl
  change Bucket.ofExactJson? b.toExactJson = some b
  rw [hwritten, Bucket.ofExactJson?, Bucket.writtenBy.ofText?_members]

end ChatCluster
