import ChatCluster.Proofs.Wire.Economy
import ChatCluster.Proofs.Wire.RoundTrip
import Mathlib.Control.Monad.Basic

/-!
# Reading Normalises

Whatever frame is accepted, the message in it has proper names, and it can be published again in a
frame that is no longer than the one it came in. So whoever hands accepted messages on never meets
a frame that is too large because of what others wrote.

A record is measured by the room that its fields take when they are written in the shortest form
(`Letter.size`, `Envelope.size`). Taking one more field into a record adds no more to this measure
than the field itself takes, whatever it replaces, and a second letter that is read into the first
adds no more than its bytes. So the measure of what has been read is bounded by the bytes that it
was read from.

Kinds are the one exception to the measure being the length of the written form. A negative kind is
written in ten bytes, and a reader takes it from five. But a negative kind is not the number of
any, and a letter with one is not accepted.

## Main definitions

* `Letter.size`, `Envelope.size`: The room that a record takes.

## Theorems

* `Letter.size_absorb_le`, `Envelope.size_absorb_le`: What one field adds.
* `Envelope.size_le_of_decode?`: The room of what was read.
* `Wire.Letter.length_ofMessage_le`: A message takes no more room than the letter it was read from.
* `decode_normalises`: Accepted frames have proper names, and are published again in no more room.
-/

namespace ChatCluster.Wire

/-- The low half of a number, without a sign. -/
def low32 (n : Int32) : UInt64 :=
  n.toUInt32.toUInt64

/-- The room that a letter takes, if its kind is the number of one. -/
def Letter.size (l : Letter) : Nat :=
  (textField 1 l.id).length + (textField 2 l.sender).length +
    (optionalTextField 3 l.receiver).length + (optionalTextField 4 l.room).length +
    (numberField 5 (low32 l.kind)).length + (textField 6 l.payload).length +
    (numberField 7 (word64 l.sentAt)).length

/-- The room that the letter of an envelope takes, with its key and its length in front. -/
def letterSize : Option Letter → Nat
  | none => 0
  | some l => (bytesKey 3).length + (varint l.size).length + l.size

/-- The room that an envelope takes. -/
def Envelope.size (e : Envelope) : Nat :=
  (numberField 1 e.version.toUInt64).length + (textField 2 e.origin).length + letterSize e.letter

/-! ## One field -/

theorem length_encode_bytes (k : Nat) (content : Bytes) :
    (Field.encode ⟨k, .bytes content⟩).length =
      (bytesKey k).length + (varint content.length).length + content.length := by
  simp only [Field.encode, bytesField, List.length_append]

/-- A number that is read from a field takes no more room than the field. -/
theorem length_numberField_le (k n : Nat) {m : UInt64} (h : m.toNat ≤ n) :
    (numberField k m).length ≤ (Field.encode ⟨k, .number n⟩).length := by
  have hfield : (Field.encode ⟨k, .number n⟩).length =
      (numberKey k).length + (varint n).length := List.length_append
  rw [hfield, numberField]
  split
  · exact Nat.zero_le _
  · rw [List.length_append]
    exact Nat.add_le_add_left (length_varint_mono h) _

theorem length_textField_le {k : Nat} {content : Bytes} {text : String}
    (h : Text.ofUtf8? content = some text) :
    (textField k text).length ≤ (Field.encode ⟨k, .bytes content⟩).length := by
  rw [← Text.utf8_of_ofUtf8? h, textField]
  split
  · exact Nat.zero_le _
  · exact Nat.le_refl _

theorem length_optionalTextField_le {k : Nat} {content : Bytes} {text : String}
    (h : Text.ofUtf8? content = some text) :
    (optionalTextField k (some text)).length ≤ (Field.encode ⟨k, .bytes content⟩).length := by
  rw [← Text.utf8_of_ofUtf8? h]
  exact Nat.le_refl _

-- Only the low bits of a number that is too large are kept.
theorem toNat_low32_int32OfWord_le (n : Nat) : (low32 (int32OfWord n)).toNat ≤ n := by
  have hword : (low32 (int32OfWord n)).toNat = n % 2 ^ 32 := by
    rw [low32, int32OfWord, UInt32.toNat_toUInt64, UInt32.toUInt32_toInt32, UInt32.toNat_ofNat']
  rw [hword]
  exact Nat.mod_le _ _

theorem toNat_word64_int64OfWord_le (n : Nat) : (word64 (int64OfWord n)).toNat ≤ n := by
  have hword : (word64 (int64OfWord n)).toNat = n % 2 ^ 64 := by
    rw [word64, int64OfWord, UInt64.toUInt64_toInt64, UInt64.toNat_ofNat']
  rw [hword]
  exact Nat.mod_le _ _

theorem toNat_toUInt64_ofNat_le (n : Nat) : (UInt32.ofNat n).toUInt64.toNat ≤ n := by
  rw [UInt32.toNat_toUInt64, UInt32.toNat_ofNat']
  exact Nat.mod_le _ _

theorem Shape.text?_eq_some {shape : Shape} {text : String} (h : shape.text? = some text) :
    ∃ content, shape = .bytes content ∧ Text.ofUtf8? content = some text := by
  cases shape with
  | bytes content => exact ⟨content, rfl, h⟩
  | number | other => cases h

theorem Shape.number?_eq_some {shape : Shape} {n : Nat} (h : shape.number? = some n) :
    shape = .number n := by
  cases shape with
  | number m => exact congrArg Shape.number (Option.some.inj h)
  | bytes | other => cases h

section Folding

variable {α : Type} {absorb : α → Field → Option α} {size : α → Nat} {a b : α}

/-- What fields add one by one they add together. -/
theorem size_foldlM_le (habsorb : ∀ a f b, absorb a f = some b → size b ≤ size a + f.encode.length)
    {fields : List Field} (h : fields.foldlM absorb a = some b) :
    size b ≤ size a + (fields.flatMap Field.encode).length := by
  induction fields generalizing a with
  | nil =>
    cases h
    exact Nat.le_add_right _ _
  | cons f fields ih =>
    rw [List.foldlM_cons, Option.bind_eq_bind, Option.bind_eq_some_iff] at h
    rcases h with ⟨next, hnext, hrest⟩
    have hfirst := habsorb a f next hnext
    have hothers := ih hrest
    rw [List.flatMap_cons, List.length_append]
    omega

end Folding

/-! ## Letters -/

theorem Letter.size_blank : Letter.blank.size = 0 := rfl

/-- What one field adds to a letter is no more than the field takes. -/
theorem Letter.size_absorb_le {l after : Letter} {f : Field} (h : l.absorb f = some after) :
    after.size ≤ l.size + f.encode.length := by
  rcases f with ⟨number, shape⟩
  simp only [Letter.absorb] at h
  -- What the field replaces is gone, and nothing else has changed.
  split at h
  · rcases Option.map_eq_some_iff.1 h with ⟨id, hid, rfl⟩
    rcases Shape.text?_eq_some hid with ⟨content, rfl, htext⟩
    have hle := length_textField_le (k := 1) htext
    simp only [Letter.size]
    omega
  · rcases Option.map_eq_some_iff.1 h with ⟨sender, hsender, rfl⟩
    rcases Shape.text?_eq_some hsender with ⟨content, rfl, htext⟩
    have hle := length_textField_le (k := 2) htext
    simp only [Letter.size]
    omega
  · rcases Option.map_eq_some_iff.1 h with ⟨receiver, hreceiver, rfl⟩
    rcases Shape.text?_eq_some hreceiver with ⟨content, rfl, htext⟩
    have hle := length_optionalTextField_le (k := 3) htext
    simp only [Letter.size]
    omega
  · rcases Option.map_eq_some_iff.1 h with ⟨room, hroom, rfl⟩
    rcases Shape.text?_eq_some hroom with ⟨content, rfl, htext⟩
    have hle := length_optionalTextField_le (k := 4) htext
    simp only [Letter.size]
    omega
  · rcases Option.map_eq_some_iff.1 h with ⟨n, hn, rfl⟩
    cases Shape.number?_eq_some hn
    have hle := length_numberField_le 5 n (toNat_low32_int32OfWord_le n)
    simp only [Letter.size]
    omega
  · rcases Option.map_eq_some_iff.1 h with ⟨payload, hpayload, rfl⟩
    rcases Shape.text?_eq_some hpayload with ⟨content, rfl, htext⟩
    have hle := length_textField_le (k := 6) htext
    simp only [Letter.size]
    omega
  · rcases Option.map_eq_some_iff.1 h with ⟨n, hn, rfl⟩
    cases Shape.number?_eq_some hn
    have hle := length_numberField_le 7 n (toNat_word64_int64OfWord_le n)
    simp only [Letter.size]
    omega
  · cases h
    exact Nat.le_add_right _ _

theorem Letter.size_merge_le {l after : Letter} {limit : Nat} {bytes : Bytes}
    (h : l.merge limit bytes = some after) : after.size ≤ l.size + bytes.length := by
  rw [Letter.merge] at h
  split at h
  · cases h
  · next fields hfields =>
    have hfold := size_foldlM_le (fun _ _ _ => Letter.size_absorb_le) h
    have hbytes := length_flatMap_encode_le_of_readFields hfields
    omega

/-! ## Envelopes -/

/-- A letter that is read into what there was of it takes the room of both, with one length in front
    instead of two. -/
theorem letterSize_merge_le {letter : Option Letter} {after : Letter} {limit : Nat}
    {content : Bytes} (h : (letter.getD .blank).merge limit content = some after) :
    letterSize (some after) ≤ letterSize letter + (Field.encode ⟨3, .bytes content⟩).length := by
  have hmerge := Letter.size_merge_le h
  rw [length_encode_bytes]
  cases letter with
  | none =>
    rw [Option.getD_none, Letter.size_blank, Nat.zero_add] at hmerge
    have hlength := length_varint_mono hmerge
    simp only [letterSize]
    omega
  | some l =>
    rw [Option.getD_some] at hmerge
    have hlength := Nat.le_trans (length_varint_mono hmerge)
      (length_varint_add_le l.size content.length)
    simp only [letterSize]
    omega

theorem Envelope.size_absorb_le {e after : Envelope} {f : Field} (h : e.absorb f = some after) :
    after.size ≤ e.size + f.encode.length := by
  rcases f with ⟨number, shape⟩
  simp only [Envelope.absorb] at h
  split at h
  · rcases Option.map_eq_some_iff.1 h with ⟨n, hn, rfl⟩
    cases Shape.number?_eq_some hn
    have hle := length_numberField_le 1 n (toNat_toUInt64_ofNat_le n)
    simp only [Envelope.size]
    omega
  · rcases Option.map_eq_some_iff.1 h with ⟨origin, horigin, rfl⟩
    rcases Shape.text?_eq_some horigin with ⟨content, rfl, htext⟩
    have hle := length_textField_le (k := 2) htext
    simp only [Envelope.size]
    omega
  · split at h
    · rcases Option.map_eq_some_iff.1 h with ⟨l, hl, rfl⟩
      have hle := letterSize_merge_le hl
      simp only [Envelope.size]
      omega
    · cases h
  · cases h
    exact Nat.le_add_right _ _

/-- An envelope takes no more room than the bytes that it was read from. -/
theorem Envelope.size_le_of_decode? {e : Envelope} {bytes : Bytes}
    (h : Envelope.decode? bytes = some e) : e.size ≤ bytes.length := by
  rw [Envelope.decode?] at h
  split at h
  · cases h
  · next fields hfields =>
    have hfold := size_foldlM_le (fun _ _ _ => Envelope.size_absorb_le) h
    have hbytes := length_flatMap_encode_le_of_readFields hfields
    have hblank : Envelope.blank.size = 0 := rfl
    omega

/-! ## Frames -/

/-- The bytes of a frame are those of its record and the four in front of it. -/
theorem length_of_unframe {bytes record : Bytes} {max : Nat} (h : unframe bytes max = .ok record) :
    bytes.length = headerSize + record.length ∧ record.length ≤ max := by
  unfold unframe at h
  split at h
  · next a b c d rest =>
    simp only at h
    split at h
    · cases h
    · split at h
      · cases h
      · split at h
        · cases h
        · cases h
          simp only [List.length_cons, headerSize]
          omega
  · cases h

theorem Envelope.size_le_of_ofFrame {e : Envelope} {bytes : Bytes} {max : Nat}
    (h : Envelope.ofFrame bytes max = .ok e) :
    headerSize + e.size ≤ bytes.length ∧ e.size ≤ max := by
  rw [Envelope.ofFrame] at h
  split at h
  · cases h
  · next record hrecord =>
    split at h
    · next envelope hdecode =>
      cases h
      have hle := Envelope.size_le_of_decode? hdecode
      have hlen := length_of_unframe hrecord
      omega
    · cases h

end ChatCluster.Wire

namespace ChatCluster

open Wire

/-! ## Messages -/

-- The number of a kind has no sign, so both ways of measuring it agree.
theorem MessageKind.word32_code (kind : MessageKind) : word32 kind.code = low32 kind.code := by
  cases kind <;> rfl

theorem MessageKind.code_of_ofCode? {n : Int32} {kind : MessageKind} (h : ofCode? n = some kind) :
    kind.code = n := by
  unfold ofCode? at h
  grind [code]

theorem MessageId.isBlank_orElse {spare : MessageId} (h : Text.isBlank spare.text = false)
    (text : String) : Text.isBlank (spare.orElse text).text = false := by
  rw [orElse]
  split
  · exact h
  · next hblank => exact Bool.eq_false_iff.2 hblank

theorem MessageId.text_orElse {text : String} (h : Text.isBlank text = false) (spare : MessageId) :
    (spare.orElse text).text = text := by
  rw [orElse, if_neg (Bool.eq_false_iff.1 h)]

-- A name is kept or dropped.
theorem length_optionalTextField_unlessBlank_le {α : Type} {make : String → α} {name : α → String}
    (hmake : ∀ a, make (name a) = a) (hname : ∀ text, name (make text) = text) (k : Nat)
    (text : Option String) :
    (optionalTextField k ((text.bind (unlessBlank make)).map name)).length ≤
      (optionalTextField k text).length := by
  cases hread : text.bind (unlessBlank make) with
  | none => exact Nat.zero_le _
  | some a =>
    rcases Option.bind_eq_some_iff.1 hread with ⟨t, rfl, ht⟩
    have hsame := ((unlessBlank_eq_some_iff hmake hname).1 ht).1
    exact Nat.le_of_eq (by rw [Option.map_some, hsame])

/-- What a message is made of: the kind and the sender that the letter names, and the rest as far as
    it makes sense. -/
theorem Wire.Letter.toMessage_eq_ok_iff {l : Letter} {spare : MessageId} {m : Message} :
    l.toMessage spare = .ok m ↔
      MessageKind.ofCode? l.kind = some m.kind ∧ UserId.ofText? l.sender = some m.sender ∧
        m.id = spare.orElse l.id ∧ m.receiver = l.receiver.bind UserId.ofText? ∧
        m.room = l.room.bind RoomId.ofText? ∧ m.payload = l.payload ∧ m.sentAt = l.sentAt := by
  rcases m with ⟨id, sender, receiver, room, kind, payload, sentAt⟩
  rw [Letter.toMessage]
  cases hkind : MessageKind.ofCode? l.kind with
  | none => simp only [reduceCtorEq, false_and]
  | some kind' =>
    cases hsender : UserId.ofText? l.sender with
    | none => simp only [reduceCtorEq, false_and, and_false]
    | some sender' =>
      simp only [Except.ok.injEq, Message.mk.injEq, Option.some.injEq]
      grind

/-- Names in a message are proper, whatever the letter says, if the spare name is. -/
theorem Wire.Letter.named_of_toMessage {l : Letter} {spare : MessageId} {m : Message}
    (hspare : Text.isBlank spare.text = false) (h : l.toMessage spare = .ok m) : m.Named := by
  rcases Letter.toMessage_eq_ok_iff.1 h with ⟨_, hsender, hid, hreceiver, hroom, _, _⟩
  refine ⟨hid ▸ MessageId.isBlank_orElse hspare l.id,
    (UserId.ofText?_eq_some_iff.1 hsender).2, ?_, ?_⟩
  · intro u hu
    rcases Option.bind_eq_some_iff.1 (hreceiver.symm.trans hu) with ⟨t, _, ht⟩
    exact (UserId.ofText?_eq_some_iff.1 ht).2
  · intro r hr
    rcases Option.bind_eq_some_iff.1 (hroom.symm.trans hr) with ⟨t, _, ht⟩
    exact (RoomId.ofText?_eq_some_iff.1 ht).2

/-- A message takes no more room than the letter that it was read from, unless it has been given the
    spare name. -/
theorem Wire.Letter.length_ofMessage_le {l : Letter} {spare : MessageId} {m : Message}
    (hid : Text.isBlank l.id = false) (h : l.toMessage spare = .ok m) :
    (Letter.ofMessage m).encode.length ≤ l.size := by
  rcases Letter.toMessage_eq_ok_iff.1 h with
    ⟨hkind, hsender, hname, hreceiver, hroom, hpayload, htime⟩
  have hreceiverLength :
      (optionalTextField 3 ((l.receiver.bind UserId.ofText?).map UserId.text)).length ≤
        (optionalTextField 3 l.receiver).length :=
    length_optionalTextField_unlessBlank_le (fun _ => rfl) (fun _ => rfl) 3 l.receiver
  have hroomLength :
      (optionalTextField 4 ((l.room.bind RoomId.ofText?).map RoomId.text)).length ≤
        (optionalTextField 4 l.room).length :=
    length_optionalTextField_unlessBlank_le (fun _ => rfl) (fun _ => rfl) 4 l.room
  have hword : word32 m.kind.code = low32 l.kind := by
    rw [MessageKind.word32_code, MessageKind.code_of_ofCode? hkind]
  have hsenderText := (UserId.ofText?_eq_some_iff.1 hsender).1
  simp only [Letter.encode, Letter.ofMessage, Letter.size, List.length_append, hname,
    MessageId.text_orElse hid, hsenderText, hreceiver, hroom, hword, hpayload, htime]
  omega

/-! ## Frames that are published again -/

/-- How a frame comes to be accepted. -/
theorem BusFrame.decode_eq_ok_iff {spare : MessageId} {bytes : Bytes} {f : BusFrame} :
    BusFrame.decode spare bytes = .ok f ↔
      ∃ envelope letter, Envelope.ofFrame bytes maxFrameSize = .ok envelope ∧
        envelope.version = protocolVersion ∧ envelope.letter = some letter ∧
        InstanceId.ofText? envelope.origin = some f.origin ∧
        letter.toMessage spare = .ok f.message := by
  rcases f with ⟨origin, message⟩
  rw [BusFrame.decode]
  cases Envelope.ofFrame bytes maxFrameSize with
  | error e => simp only [reduceCtorEq, false_and, exists_false]
  | ok envelope =>
    by_cases hversion : envelope.version = protocolVersion
    · cases horigin : InstanceId.ofText? envelope.origin with
      | none => simp [hversion, horigin]
      | some origin' =>
        cases hletter : envelope.letter with
        | none => simp [hversion, horigin, hletter]
        | some letter =>
          cases hm : letter.toMessage spare with
          | error e => simp [hversion, horigin, hletter, hm]
          | ok message' => simp [hversion, horigin, hletter, hm]
    · simp [hversion]

/-- The envelope around a message takes no more room than the one that the message was read from. -/
theorem Wire.Envelope.length_ofMessage_le {e : Envelope} {l : Letter} {f : BusFrame}
    {spare : MessageId} (hversion : e.version = protocolVersion) (hl : e.letter = some l)
    (horigin : InstanceId.ofText? e.origin = some f.origin)
    (hm : l.toMessage spare = .ok f.message) (hid : Text.isBlank l.id = false) :
    (Envelope.ofMessage f.origin f.message).encode.length ≤ e.size := by
  have hletter := Letter.length_ofMessage_le hid hm
  have hlength := length_varint_mono hletter
  simp only [Envelope.ofMessage, Envelope.encode, Envelope.size, letterField, letterSize,
    bytesField, List.length_append, hversion, hl, (InstanceId.ofText?_eq_some_iff.1 horigin).1]
  omega

/-- An accepted frame has proper names, and unless its letter came without a name, the message in it
    can be published again in a frame that is no longer and is read as the same. -/
theorem decode_normalises {spare : MessageId} {bytes : Bytes} {f : BusFrame}
    (hspare : Text.isBlank spare.text = false) (h : BusFrame.decode spare bytes = .ok f) :
    f.Named ∧
      ∃ envelope letter, Envelope.ofFrame bytes maxFrameSize = .ok envelope ∧
        envelope.letter = some letter ∧
        (Text.isBlank letter.id = false →
          ∃ again, f.encode = .ok again ∧ again.length ≤ bytes.length ∧
            ∀ other, BusFrame.decode other again = .ok f) := by
  rcases BusFrame.decode_eq_ok_iff.1 h with
    ⟨envelope, letter, henvelope, hversion, hletter, horigin, hm⟩
  have hnamed : f.Named :=
    { origin := (InstanceId.ofText?_eq_some_iff.1 horigin).2
      message := Letter.named_of_toMessage hspare hm }
  refine ⟨hnamed, envelope, letter, henvelope, hletter, fun hid => ?_⟩
  -- The new record fits into the old one, so the limit is no obstacle.
  have hsize := Envelope.size_le_of_ofFrame henvelope
  have hlength := Envelope.length_ofMessage_le hversion hletter horigin hm hid
  have hround := busFrame_round_trip f hnamed
  rcases hround.1.2 (Nat.le_trans hlength hsize.2) with ⟨again, hagain⟩
  refine ⟨again, hagain, ?_, hround.2 again hagain⟩
  rw [((f.encode_eq_ok_iff again).1 hagain).2, List.length_append]
  exact Nat.le_trans (Nat.add_le_add_left hlength _) hsize.1

/-- The bytes of a frame that nobody would write: fields in no order and written more than once,
    numbers with needless groups, the letter in two pieces, and in between what no reader knows. -/
def untidyFrame : Bytes :=
  bigEndian 58 ++
    [ -- The first piece of the letter: a name, a blank sender, another kind.
      0x1a, 0x09, 0x0a, 0x01, 0x78, 0x12, 0x01, 0x20, 0x28, 0x84, 0x00,
      -- An origin, a group with a number in it, an unknown number, the version.
      0x12, 0x01, 0x42, 0x53, 0x08, 0x07, 0x54, 0x48, 0x01, 0x08, 0x81, 0x80, 0x00,
      -- The second piece: the payload, a blank receiver, a sender, a name, a kind, a time.
      0x1a, 0x1d, 0x32, 0x02, 0x68, 0x69, 0x1a, 0x01, 0x20,
      0x12, 0x05, 0x61, 0x6c, 0x69, 0x63, 0x65, 0x0a, 0x02, 0x6d, 0x31, 0x0a, 0x02, 0x6d, 0x32,
      0x28, 0x81, 0x00, 0x38, 0xff, 0x80, 0x00,
      -- The origin.
      0x12, 0x01, 0x41 ]

/-- What is published in `untidyFrame`. -/
def tidyFrame : BusFrame where
  origin := ⟨"A"⟩
  message :=
    { id := ⟨"m2"⟩
      sender := ⟨"alice"⟩
      receiver := none
      room := none
      kind := .chat
      payload := "hi"
      sentAt := 127 }

/-- The frame that nobody would write is accepted, and the one that takes its place is not
    longer. -/
theorem untidyFrame_normalises :
    Text.isBlank "spare" = false ∧ BusFrame.decode ⟨"spare"⟩ untidyFrame = .ok tidyFrame ∧
      ∃ again, tidyFrame.encode = .ok again ∧ again.length ≤ untidyFrame.length ∧
        ∀ other, BusFrame.decode other again = .ok tidyFrame := by
  have hdecode : BusFrame.decode ⟨"spare"⟩ untidyFrame = .ok tidyFrame := by decide +kernel
  have henvelope : Envelope.ofFrame untidyFrame maxFrameSize =
      .ok ⟨1, "A", some ⟨"m2", "alice", some " ", none, 1, "hi", 127⟩⟩ := by
    decide +kernel
  rcases decode_normalises (by decide) hdecode with ⟨_, envelope, letter, hread, hletter, hagain⟩
  cases henvelope.symm.trans hread
  cases hletter
  exact ⟨by decide, hdecode, hagain (by decide)⟩

end ChatCluster
