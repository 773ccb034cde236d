import ChatCluster.Proofs.Wire.RoundTrip
import Mathlib.Tactic.SplitIfs

/-!
# One Whole Frame

A byte sequence is a frame if it is as long as its first four bytes say, not shorter and not longer.
Whatever arrives is judged by these two lengths alone, its own and the one that it announces, and
only what passes is read. The judgement says by how much a sequence is off: how many bytes it would
need, or how many there are too many.

What one byte sequence announces does not change when something is put behind it. So of two whole
frames neither is the beginning of the other: a frame that is cut short lacks bytes, and a frame
with anything behind it, be it another frame, has bytes left over.

Nothing here depends on what the records are. All of it is shown for any way to write records and
any way to read them, and holds of envelopes and letters as of two cases.

## Main definitions

* `announced`: The length that a byte sequence announces.
* `verdict`: What is to be said of a byte sequence, by its length and the one it announces.
* `IsWhole`: The two lengths agree.
* `openFrame`: Unframes and reads, for records of any type.
* `FramesExactly`: Records of one type are framed exactly.

## Theorems

* `unframe_eq`, `openFrame_eq_verdict`: Every byte sequence is judged by the two lengths.
* `IsWhole.eq_nil_of_append`: No whole frame is the beginning of another.
* `openFrame_of_prefix`, `openFrame_append`: Frames that are cut short, or have something behind.
* `frame_eq_error_iff`: When a record is not framed.
* `frames_exactly`: Envelopes and letters are framed exactly.
-/

namespace ChatCluster.Wire

/-- The length that a byte sequence announces: its first four bytes as one number, most significant
    first. -/
def announced (bytes : Bytes) : Nat :=
  (bytes.take headerSize).foldl (fun n b => 256 * n + b.toNat) 0

/-- The byte sequence is as long as it announces, and that is not too long. -/
def IsWhole (max : Nat) (bytes : Bytes) : Prop :=
  bytes.length = headerSize + announced bytes ∧ announced bytes ≤ max

variable {α : Type}

/-- What is to be said of a byte sequence, by its length and the one it announces. What passes is
    left to those who can read records. -/
def verdict (read : Bytes → Option α) (max : Nat) (bytes : Bytes) : Except FrameError α :=
  if bytes.length < headerSize then .error (.truncated headerSize bytes.length)
  else if max < announced bytes then .error (.tooLarge (announced bytes) max)
  else if bytes.length < headerSize + announced bytes then
    .error (.truncated (headerSize + announced bytes) bytes.length)
  else if headerSize + announced bytes < bytes.length then
    .error (.trailing (bytes.length - (headerSize + announced bytes)))
  else (read (bytes.drop headerSize)).elim (.error .malformed) .ok

/-- The record in a frame, read. -/
def openFrame (read : Bytes → Option α) (bytes : Bytes) (max : Nat) : Except FrameError α :=
  match unframe bytes max with
  | .error e => .error e
  | .ok record =>
    match read record with
    | some a => .ok a
    | none => .error .malformed

/-- Records of one type are framed exactly: all that is not one whole frame is refused, for a reason
    that tells the lengths, and frames are put out that are whole. -/
structure FramesExactly (encode : α → Bytes) (read : Bytes → Option α)
    (toFrame : α → Nat → Except FrameError Bytes) (ofFrame : Bytes → Nat → Except FrameError α)
    (max : Nat) : Prop where
  /-- Every byte sequence is judged by its length and the one it announces. -/
  judged : ∀ bytes, ofFrame bytes max = verdict read max bytes
  /-- What is accepted is not the beginning of anything else that is. -/
  alone : ∀ bytes more a b, ofFrame bytes max = .ok a → ofFrame (bytes ++ more) max = .ok b →
    more = []
  /-- A record is not framed just if it is larger than allowed. -/
  refused : ∀ a e, toFrame a max = .error e ↔
    max < (encode a).length ∧ e = .tooLarge (encode a).length max
  /-- A frame holds its record behind the length. -/
  holds : ∀ a bytes, toFrame a max = .ok bytes → ofFrame bytes max =
    (read (encode a)).elim (.error .malformed) .ok
  /-- A frame that is cut short lacks bytes. -/
  cutShort : ∀ a bytes, toFrame a max = .ok bytes → ∀ start, start <+: bytes → start ≠ bytes →
    ofFrame start max = .error
      (.truncated (if start.length < headerSize then headerSize else bytes.length) start.length)
  /-- A frame with something behind it has bytes left over. -/
  followed : ∀ a bytes, toFrame a max = .ok bytes → ∀ more, more ≠ [] →
    ofFrame (bytes ++ more) max = .error (.trailing more.length)

/-! ## Announced lengths -/

theorem announced_cons (a b c d : UInt8) (record : Bytes) :
    announced (a :: b :: c :: d :: record) = ofBigEndian a b c d := by
  simp only [announced, headerSize, List.take_succ_cons, List.take_zero, List.foldl_cons,
    List.foldl_nil, ofBigEndian]
  omega

/-- What stands behind the first four bytes has no say. -/
theorem announced_append {bytes : Bytes} (h : headerSize ≤ bytes.length) (more : Bytes) :
    announced (bytes ++ more) = announced bytes := by
  rw [announced, List.take_append_of_le_length h, announced]

theorem announced_bigEndian_append {n : Nat} (h : n < UInt32.size) (record : Bytes) :
    announced (bigEndian n ++ record) = n := by
  simp only [bigEndian, List.cons_append, List.nil_append, announced_cons,
    ofBigEndian_bigEndian n h]

/-! ## The judgement -/

/-- Unframing compares two lengths. -/
theorem unframe_eq (bytes : Bytes) (max : Nat) : unframe bytes max = verdict some max bytes := by
  match bytes with
  | [] | [_] | [_, _] | [_, _, _] => rfl
  | a :: b :: c :: d :: record =>
    -- Behind the first four bytes, lengths are counted from there.
    have hheader : ¬(a :: b :: c :: d :: record).length < headerSize := by
      simp only [List.length_cons, headerSize]
      omega
    have hlength : (a :: b :: c :: d :: record).length = headerSize + record.length := by
      simp only [List.length_cons, headerSize]
      omega
    rw [verdict, if_neg hheader, announced_cons, hlength]
    simp only [unframe, Nat.add_lt_add_iff_left, Nat.add_sub_add_left]
    rfl

theorem openFrame_eq_verdict (read : Bytes → Option α) (bytes : Bytes) (max : Nat) :
    openFrame read bytes max = verdict read max bytes := by
  rw [openFrame, unframe_eq, verdict, verdict]
  split_ifs
  · rfl
  · rfl
  · rfl
  · rfl
  · cases hread : read (bytes.drop headerSize) <;> simp [hread]

theorem Envelope.ofFrame_eq_openFrame : Envelope.ofFrame = openFrame Envelope.decode? := by
  funext bytes max
  rw [Envelope.ofFrame, openFrame]
  cases unframe bytes max with
  | error e => rfl
  | ok record =>
    simp only
    cases Envelope.decode? record <;> rfl

theorem Letter.ofFrame_eq_openFrame : Letter.ofFrame = openFrame Letter.decode? := by
  funext bytes max
  rw [Letter.ofFrame, openFrame]
  cases unframe bytes max with
  | error e => rfl
  | ok record =>
    simp only
    cases Letter.decode? record <;> rfl

theorem verdict_of_isWhole (read : Bytes → Option α) {max : Nat} {bytes : Bytes}
    (h : IsWhole max bytes) :
    verdict read max bytes = (read (bytes.drop headerSize)).elim (.error .malformed) .ok := by
  rcases h with ⟨hlength, hmax⟩
  rw [verdict, if_neg (by omega), if_neg (by omega), if_neg (by omega), if_neg (by omega)]

/-- Only whole frames are accepted. -/
theorem isWhole_of_openFrame {read : Bytes → Option α} {max : Nat} {bytes : Bytes} {a : α}
    (h : openFrame read bytes max = .ok a) : IsWhole max bytes := by
  rw [openFrame_eq_verdict, verdict] at h
  split_ifs at h with hheader hmax hshort hlong
  exact ⟨by omega, by omega⟩

/-! ## Beginnings -/

/-- No whole frame is the beginning of another. -/
theorem IsWhole.eq_nil_of_append {max max' : Nat} {bytes more : Bytes} (h : IsWhole max bytes)
    (h' : IsWhole max' (bytes ++ more)) : more = [] := by
  have hheader : headerSize ≤ bytes.length := by
    rw [h.1]
    omega
  have hlength := h'.1
  rw [announced_append hheader, List.length_append, ← h.1] at hlength
  exact List.eq_nil_of_length_eq_zero (by omega)

/-- A frame that is cut short lacks bytes. -/
theorem openFrame_of_prefix (read : Bytes → Option α) {max : Nat} {bytes start : Bytes}
    (h : IsWhole max bytes) (hstart : start <+: bytes) (hne : start ≠ bytes) :
    openFrame read start max = .error
      (.truncated (if start.length < headerSize then headerSize else bytes.length)
        start.length) := by
  rcases hstart with ⟨rest, rfl⟩
  have hrest : 0 < rest.length :=
    List.length_pos_iff.2 fun hnil => hne (by rw [hnil, List.append_nil])
  rw [openFrame_eq_verdict, verdict]
  by_cases hheader : start.length < headerSize
  · rw [if_pos hheader, if_pos hheader]
  · -- The length has arrived, and what it announces has not.
    rcases h with ⟨hlength, hmax⟩
    rw [announced_append (Nat.le_of_not_lt hheader)] at hlength hmax
    rw [if_neg hheader, if_neg (Nat.not_lt.2 hmax), if_neg hheader, ← hlength,
      if_pos (by rw [List.length_append]; omega)]

/-- A frame with something behind it has bytes left over. -/
theorem openFrame_append (read : Bytes → Option α) {max : Nat} {bytes more : Bytes}
    (h : IsWhole max bytes) (hmore : more ≠ []) :
    openFrame read (bytes ++ more) max = .error (.trailing more.length) := by
  rcases h with ⟨hlength, hmax⟩
  have hrest : 0 < more.length := List.length_pos_iff.2 hmore
  have hheader : headerSize ≤ bytes.length := by
    rw [hlength]
    omega
  rw [openFrame_eq_verdict, verdict, announced_append hheader, List.length_append, ← hlength,
    if_neg (by omega), if_neg (by omega), if_neg (by omega), if_pos (by omega),
    Nat.add_sub_cancel_left]

/-! ## Frames that are put out -/

theorem frame_eq_error_iff (record : Bytes) (max : Nat) (e : FrameError) :
    frame record max = .error e ↔ max < record.length ∧ e = .tooLarge record.length max := by
  unfold frame
  by_cases h : max < record.length
  · simp [h, eq_comm]
  · simp [h]

theorem isWhole_of_frame {record bytes : Bytes} {max : Nat} (hmax : max < UInt32.size)
    (h : frame record max = .ok bytes) : IsWhole max bytes := by
  rcases (frame_eq_ok_iff _ _ _).1 h with ⟨hle, rfl⟩
  have hannounced := announced_bigEndian_append (Nat.lt_of_le_of_lt hle hmax) record
  refine ⟨?_, hannounced.symm ▸ hle⟩
  rw [hannounced, List.length_append]
  rfl

/-- Records of any type are framed exactly, however they are written and read. -/
theorem framesExactly_openFrame (encode : α → Bytes) (read : Bytes → Option α) {max : Nat}
    (hmax : max < UInt32.size) :
    FramesExactly encode read (fun a => frame (encode a)) (openFrame read) max where
  judged bytes := openFrame_eq_verdict read bytes max
  alone _ _ _ _ h h' := (isWhole_of_openFrame h).eq_nil_of_append (isWhole_of_openFrame h')
  refused a := frame_eq_error_iff (encode a) max
  holds a bytes h := by
    rw [openFrame_eq_verdict, verdict_of_isWhole read (isWhole_of_frame hmax h),
      ((frame_eq_ok_iff _ _ _).1 h).2]
    rfl
  cutShort _ _ h _ hstart hne := openFrame_of_prefix read (isWhole_of_frame hmax h) hstart hne
  followed _ _ h _ hmore := openFrame_append read (isWhole_of_frame hmax h) hmore

/-- Whatever the limit is below `2 ^ 32`, envelopes and letters are framed exactly: every byte
    sequence is accepted or refused by its length and the one that it announces, no accepted one is
    the beginning of another, and frames that are cut short or have something behind them are
    refused with what they lack or have left over. -/
theorem frames_exactly (max : Nat) (hmax : max < UInt32.size) :
    FramesExactly Envelope.encode Envelope.decode? Envelope.toFrame Envelope.ofFrame max ∧
      FramesExactly Letter.encode Letter.decode? (fun l => frame l.encode) Letter.ofFrame max := by
  rw [Envelope.ofFrame_eq_openFrame, Letter.ofFrame_eq_openFrame]
  exact ⟨framesExactly_openFrame Envelope.encode Envelope.decode? hmax,
    framesExactly_openFrame Letter.encode Letter.decode? hmax⟩

/-- An envelope that takes up two bytes. -/
def shortEnvelope : Envelope :=
  { Envelope.blank with version := 1 }

/-- Two frames in one are refused for the second one, and a frame without its last byte for that
    byte. A limit of one byte is too low for the envelope. -/
theorem frames_exactly_shortEnvelope :
    (2 < UInt32.size ∧ shortEnvelope.toFrame 2 = .ok [0, 0, 0, 2, 8, 1]) ∧
      Envelope.ofFrame [0, 0, 0, 2, 8, 1, 0, 0, 0, 2, 8, 1] 2 = .error (.trailing 6) ∧
      Envelope.ofFrame [0, 0, 0, 2, 8] 2 = .error (.truncated 6 5) ∧
      Envelope.ofFrame [0, 0, 0] 2 = .error (.truncated 4 3) ∧
      shortEnvelope.toFrame 1 = .error (.tooLarge 2 1) := by
  have hframe : shortEnvelope.toFrame 2 = .ok [0, 0, 0, 2, 8, 1] :=
    (frame_eq_ok_iff _ _ _).2 ⟨by decide +kernel, by decide +kernel⟩
  have htwo := (frames_exactly 2 (by decide)).1
  have hone := (frames_exactly 1 (by decide)).1
  refine ⟨⟨by decide, hframe⟩, ?_, ?_, ?_, ?_⟩
  · exact htwo.followed shortEnvelope _ hframe [0, 0, 0, 2, 8, 1] (by decide)
  · exact htwo.cutShort shortEnvelope _ hframe [0, 0, 0, 2, 8] ⟨[1], rfl⟩ (by decide)
  · exact htwo.cutShort shortEnvelope _ hframe [0, 0, 0] ⟨[2, 8, 1], rfl⟩ (by decide)
  · exact (hone.refused shortEnvelope _).2 ⟨by decide +kernel, by decide +kernel⟩

end ChatCluster.Wire
