import ChatCluster.Proofs.Wire.Fields
import ChatCluster.Wire.Frame

/-!
# Frames Are Read Back

A message passes through four layers on its way onto the bus: it becomes a letter, the letter a
record, the record the content of a field in an envelope, and the envelope the record in a frame.
Each layer has its own theorem here, and the one about frames is their composition.

`Letter.ofMessage` loses nothing, but `Letter.toMessage` is strict about blank names: a blank
sender is an error, a blank receiver or room is dropped, a blank message name is replaced. Names
that a caller has asked for are never blank, so the layer is the identity on messages made of
such names (`BusFrame.Named`). The layers below it carry any record at all, `Envelope.decode?`
being the left inverse of `Envelope.encode` without a condition on the content.

The only way for an envelope not to be framed is its size. The size counts bytes of the record and
not the four bytes in front of it.

## Main definitions

* `Letter.fields`, `Envelope.fields`: The fields that a record is written as.
* `BusFrame.Named`: Every name in a frame is one that a caller could ask for.

## Theorems

* `Letter.merge_blank_encode`, `Envelope.decode?_encode`: Records are read back.
* `unframe_frame`: A record is read back from its frame.
* `Envelope.ofFrame_of_toFrame`: Envelopes are read back from their frames.
* `Envelope.frame_loses_nothing`: Nothing of an envelope is lost in its frame.
* `Letter.toMessage_ofMessage`: A message of proper names is read back from its letter.
* `busFrame_round_trip`: Frames are published up to the size limit, and read back exactly.
-/

namespace ChatCluster.Wire

/-! ## Numbers -/

/-- Signed numbers of 32 bits are written as 64, and of these the low half counts. -/
theorem int32OfWord_toUInt64 (n : Int64) : int32OfWord n.toUInt64.toNat = n.toInt32 := by
  apply Int32.toBitVec.inj
  have h : n.toInt32.toBitVec = n.toBitVec.setWidth 32 := by
    rw [Int64.toBitVec_toInt32, BitVec.signExtend_eq_setWidth_of_le _ (by decide)]
  rw [h]
  apply BitVec.eq_of_toNat_eq
  simp [int32OfWord]

theorem int32OfWord_word32 (n : Int32) : int32OfWord (word32 n).toNat = n := by
  rw [word32, int32OfWord_toUInt64, Int32.toInt32_toInt64]

theorem int64OfWord_word64 (n : Int64) : int64OfWord (word64 n).toNat = n := by
  simp [int64OfWord, word64]

-- A number whose word is not written is zero, since it could be read back otherwise.
theorem eq_zero_of_word32 {n : Int32} (h : word32 n = 0) : n = 0 := by
  have hback := int32OfWord_word32 n
  rw [h] at hback
  exact hback.symm

theorem eq_zero_of_word64 {n : Int64} (h : word64 n = 0) : n = 0 := by
  have hback := int64OfWord_word64 n
  rw [h] at hback
  exact hback.symm

theorem eq_zero_of_toUInt64 {n : UInt32} (h : n.toUInt64 = 0) : n = 0 := by
  have hback : n.toUInt64.toUInt32 = n := UInt32.toUInt32_toUInt64 n
  rw [h] at hback
  exact hback.symm

/-! ## Letters -/

/-- The fields that a letter is written as. -/
def Letter.fields (l : Letter) : List Field :=
  textFields 1 l.id ++ textFields 2 l.sender ++ optionalTextFields 3 l.receiver ++
    optionalTextFields 4 l.room ++ numberFields 5 (word32 l.kind) ++ textFields 6 l.payload ++
    numberFields 7 (word64 l.sentAt)

theorem Letter.encode_eq (l : Letter) : l.encode = l.fields.flatMap Field.encode := by
  simp only [Letter.encode, Letter.fields, List.flatMap_append, flatMap_encode_textFields,
    flatMap_encode_optionalTextFields, flatMap_encode_numberFields]

theorem Letter.valid_of_mem_fields {l : Letter} {f : Field} (h : f ∈ l.fields) : f.Valid := by
  simp only [Letter.fields, List.mem_append] at h
  rcases h with (((((h | h) | h) | h) | h) | h) | h
  · exact valid_of_mem_textFields (by omega) (by omega) h
  · exact valid_of_mem_textFields (by omega) (by omega) h
  · exact valid_of_mem_optionalTextFields (by omega) (by omega) h
  · exact valid_of_mem_optionalTextFields (by omega) (by omega) h
  · exact valid_of_mem_numberFields (by omega) (by omega) h
  · exact valid_of_mem_textFields (by omega) (by omega) h
  · exact valid_of_mem_numberFields (by omega) (by omega) h

/-- Folding up the fields of a letter gives the letter. Each of the seven pieces sets its own
    field, and the letter that has been built so far is the next one's starting point. -/
theorem Letter.foldlM_absorb_fields (l : Letter) :
    l.fields.foldlM Letter.absorb .blank = some l := by
  -- A default that is not written is what a blank letter has in its place.
  rcases l with ⟨id, sender, receiver, room, kind, payload, sentAt⟩
  have h1 : (textFields 1 id).foldlM Letter.absorb .blank = some { Letter.blank with id } :=
    foldlM_textFields (by simp [Letter.absorb, Shape.text?]) (by rintro rfl; rfl)
  have h2 : (textFields 2 sender).foldlM Letter.absorb { Letter.blank with id } =
      some { Letter.blank with id, sender } :=
    foldlM_textFields (by simp [Letter.absorb, Shape.text?]) (by rintro rfl; rfl)
  have h3 : (optionalTextFields 3 receiver).foldlM Letter.absorb
      { Letter.blank with id, sender } = some { Letter.blank with id, sender, receiver } :=
    foldlM_optionalTextFields (by rintro t rfl; simp [Letter.absorb, Shape.text?])
      (by rintro rfl; rfl)
  have h4 : (optionalTextFields 4 room).foldlM Letter.absorb
      { Letter.blank with id, sender, receiver } =
      some { Letter.blank with id, sender, receiver, room } :=
    foldlM_optionalTextFields (by rintro t rfl; simp [Letter.absorb, Shape.text?])
      (by rintro rfl; rfl)
  have h5 : (numberFields 5 (word32 kind)).foldlM Letter.absorb
      { Letter.blank with id, sender, receiver, room } =
      some { Letter.blank with id, sender, receiver, room, kind } :=
    foldlM_numberFields (by simp [Letter.absorb, Shape.number?, int32OfWord_word32])
      (fun h => by rw [eq_zero_of_word32 h]; rfl)
  have h6 : (textFields 6 payload).foldlM Letter.absorb
      { Letter.blank with id, sender, receiver, room, kind } =
      some { Letter.blank with id, sender, receiver, room, kind, payload } :=
    foldlM_textFields (by simp [Letter.absorb, Shape.text?]) (by rintro rfl; rfl)
  have h7 : (numberFields 7 (word64 sentAt)).foldlM Letter.absorb
      { Letter.blank with id, sender, receiver, room, kind, payload } =
      some ⟨id, sender, receiver, room, kind, payload, sentAt⟩ :=
    foldlM_numberFields (by simp [Letter.absorb, Shape.number?, int64OfWord_word64])
      (fun h => by rw [eq_zero_of_word64 h]; rfl)
  simp only [Letter.fields, List.foldlM_append, h1, h2, h3, h4, h5, h6, h7, Option.bind_eq_bind,
    Option.bind_some]

/-- A letter that is read into an empty one is the letter itself. -/
theorem Letter.merge_blank_encode (l : Letter) {limit : Nat} (hlimit : 0 < limit)
    (hsize : l.encode.length < UInt64.size) : Letter.blank.merge limit l.encode = some l := by
  rw [Letter.encode_eq] at hsize ⊢
  rw [Letter.merge,
    readFields_flatMap_encode hlimit l.fields (fun _ => Letter.valid_of_mem_fields) hsize]
  exact Letter.foldlM_absorb_fields l

/-! ## Envelopes -/

/-- The field that holds the letter, if there is one. -/
def letterFields : Option Letter → List Field
  | none => []
  | some l => [⟨3, .bytes l.encode⟩]

/-- The fields that an envelope is written as. -/
def Envelope.fields (e : Envelope) : List Field :=
  numberFields 1 e.version.toUInt64 ++ textFields 2 e.origin ++ letterFields e.letter

theorem flatMap_encode_letterFields (letter : Option Letter) :
    (letterFields letter).flatMap Field.encode = letterField letter := by
  cases letter with
  | none => rfl
  | some l =>
    simp only [letterFields, letterField, List.flatMap_cons, List.flatMap_nil, List.append_nil,
      Field.encode]

theorem Envelope.encode_eq (e : Envelope) : e.encode = e.fields.flatMap Field.encode := by
  simp only [Envelope.encode, Envelope.fields, List.flatMap_append, flatMap_encode_textFields,
    flatMap_encode_numberFields, flatMap_encode_letterFields]

theorem Envelope.valid_of_mem_fields {e : Envelope} {f : Field} (h : f ∈ e.fields) : f.Valid := by
  simp only [Envelope.fields, List.mem_append] at h
  rcases h with (h | h) | h
  · exact valid_of_mem_numberFields (by omega) (by omega) h
  · exact valid_of_mem_textFields (by omega) (by omega) h
  · cases hl : e.letter with
    | none =>
      rw [hl] at h
      exact absurd h List.not_mem_nil
    | some l =>
      rw [hl] at h
      rw [List.mem_singleton.1 h]
      exact ⟨by simp only; omega, by simp only; omega, trivial⟩

/-- The letter in an envelope is no larger than the envelope. -/
theorem Envelope.length_letter_le {e : Envelope} {l : Letter} (h : e.letter = some l) :
    l.encode.length ≤ e.encode.length := by
  simp only [Envelope.encode, h, letterField, bytesField, List.length_append]
  omega

theorem Envelope.foldlM_absorb_fields (e : Envelope) (hsize : e.encode.length < UInt64.size) :
    e.fields.foldlM Envelope.absorb .blank = some e := by
  -- A letter is read one level further down.
  have hletter : ∀ l, e.letter = some l → Letter.blank.merge (nestingLimit - 1) l.encode = some l :=
    fun l hl => l.merge_blank_encode (by decide)
      (Nat.lt_of_le_of_lt (Envelope.length_letter_le hl) hsize)
  rcases e with ⟨version, origin, letter⟩
  have h1 : (numberFields 1 version.toUInt64).foldlM Envelope.absorb .blank =
      some { Envelope.blank with version } :=
    foldlM_numberFields (by simp [Envelope.absorb, Shape.number?])
      (fun h => by rw [eq_zero_of_toUInt64 h]; rfl)
  have h2 : (textFields 2 origin).foldlM Envelope.absorb { Envelope.blank with version } =
      some { Envelope.blank with version, origin } :=
    foldlM_textFields (by simp [Envelope.absorb, Shape.text?]) (by rintro rfl; rfl)
  have h3 : (letterFields letter).foldlM Envelope.absorb { Envelope.blank with version, origin } =
      some ⟨version, origin, letter⟩ := by
    cases letter with
    | none => rfl
    | some l =>
      simp only [letterFields, List.foldlM_cons, List.foldlM_nil, Envelope.absorb, Envelope.blank,
        Option.getD_none, hletter l rfl, Option.map_some]
      rfl
  simp only [Envelope.fields, List.foldlM_append, h1, h2, h3, Option.bind_eq_bind,
    Option.bind_some]

/-- Envelopes are read back, whatever they hold. -/
theorem Envelope.decode?_encode (e : Envelope) (hsize : e.encode.length < UInt64.size) :
    Envelope.decode? e.encode = some e := by
  have hfold := e.foldlM_absorb_fields hsize
  rw [Envelope.encode_eq] at hsize ⊢
  rw [Envelope.decode?, readFields_flatMap_encode (by decide) e.fields
    (fun _ => Envelope.valid_of_mem_fields) hsize]
  exact hfold

/-! ## Frames -/

theorem ofBigEndian_bigEndian (n : Nat) (h : n < UInt32.size) :
    ofBigEndian (UInt8.ofNat (n / 0x1000000)) (UInt8.ofNat (n / 0x10000))
      (UInt8.ofNat (n / 0x100)) (UInt8.ofNat n) = n := by
  simp only [UInt32.size] at h
  simp only [ofBigEndian, UInt8.toNat_ofNat']
  omega

/-- Framing fails for one reason only. -/
theorem frame_eq_ok_iff (record : Bytes) (max : Nat) (bytes : Bytes) :
    frame record max = .ok bytes ↔
      record.length ≤ max ∧ bytes = bigEndian record.length ++ record := by
  unfold frame
  by_cases h : max < record.length
  · simp [h, Nat.not_le.2 h]
  · simp [h, Nat.le_of_not_lt h, eq_comm]

/-- A record is read back from its frame. -/
theorem unframe_frame (record : Bytes) (max : Nat) (hmax : max < UInt32.size)
    (h : record.length ≤ max) : unframe (bigEndian record.length ++ record) max = .ok record := by
  simp only [bigEndian, List.cons_append, List.nil_append, unframe,
    ofBigEndian_bigEndian record.length (Nat.lt_of_le_of_lt h hmax)]
  rw [if_neg (Nat.not_lt.2 h), if_neg (Nat.lt_irrefl _), if_neg (Nat.lt_irrefl _)]

/-- Envelopes are read back from their frames, whatever they hold. -/
theorem Envelope.ofFrame_of_toFrame (e : Envelope) (max : Nat) (hmax : max < UInt32.size)
    {bytes : Bytes} (h : e.toFrame max = .ok bytes) : Envelope.ofFrame bytes max = .ok e := by
  rcases (frame_eq_ok_iff _ _ _).1 h with ⟨hle, rfl⟩
  -- A frame is far too short for the sizes in it to overflow.
  have hsize : e.encode.length < UInt64.size := by
    simp only [UInt32.size] at hmax
    simp only [UInt64.size]
    omega
  rw [Envelope.ofFrame, unframe_frame e.encode max hmax hle]
  simp only [Envelope.decode?_encode e hsize]

/-- Different envelopes have different frames. -/
theorem Envelope.toFrame_inj {e e' : Envelope} {max : Nat} (hmax : max < UInt32.size)
    {bytes bytes' : Bytes} (h : e.toFrame max = .ok bytes) (h' : e'.toFrame max = .ok bytes') :
    bytes = bytes' ↔ e = e' := by
  constructor
  · rintro rfl
    have hread := e.ofFrame_of_toFrame max hmax h
    rw [e'.ofFrame_of_toFrame max hmax h', Except.ok.injEq] at hread
    exact hread.symm
  · rintro rfl
    exact Except.ok.inj (h.symm.trans h')

/-- An envelope is framed if it is not too large, and then nothing of it is lost, whatever it holds:
    it is read back exactly, and no other envelope has its frame. So a missing letter is not taken
    for one in which everything is at its default, and a missing name not for an empty one. -/
theorem Envelope.frame_loses_nothing (max : Nat) (hmax : max < UInt32.size) :
    (∀ e : Envelope, (∃ bytes, e.toFrame max = .ok bytes) ↔ e.encode.length ≤ max) ∧
      (∀ (e : Envelope) bytes, e.toFrame max = .ok bytes → Envelope.ofFrame bytes max = .ok e) ∧
      (∀ (e e' : Envelope) bytes bytes', e.toFrame max = .ok bytes → e'.toFrame max = .ok bytes' →
        (bytes = bytes' ↔ e = e')) ∧
      ∀ (e : Envelope) (l : Letter) bytes bytes',
        (({ e with letter := none } : Envelope).toFrame max = .ok bytes →
          ({ e with letter := some .blank } : Envelope).toFrame max = .ok bytes' →
          bytes ≠ bytes') ∧
        (({ e with letter := some { l with receiver := none } } : Envelope).toFrame max =
            .ok bytes →
          ({ e with letter := some { l with receiver := some "" } } : Envelope).toFrame max =
            .ok bytes' →
          bytes ≠ bytes') ∧
        (({ e with letter := some { l with room := none } } : Envelope).toFrame max = .ok bytes →
          ({ e with letter := some { l with room := some "" } } : Envelope).toFrame max =
            .ok bytes' →
          bytes ≠ bytes') := by
  refine ⟨fun e => ⟨?_, fun hle => ?_⟩, fun e bytes => e.ofFrame_of_toFrame max hmax,
    fun e e' bytes bytes' => Envelope.toFrame_inj hmax, fun e l bytes bytes' => ⟨?_, ?_, ?_⟩⟩
  · rintro ⟨bytes, h⟩
    exact ((frame_eq_ok_iff _ _ _).1 h).1
  · exact ⟨_, (frame_eq_ok_iff _ _ _).2 ⟨hle, rfl⟩⟩
  -- Each pair differs in one field, and different envelopes have different frames.
  all_goals
    intro h h' heq
    have hsame := (Envelope.toFrame_inj hmax h h').1 heq
    simp only [Envelope.mk.injEq, Option.some.injEq, Letter.mk.injEq, reduceCtorEq, and_false,
      false_and] at hsame

/-- An envelope with nothing in order: no version that anybody speaks, a blank origin, names that
    are empty and names that are missing, a kind below zero and the earliest time there is. -/
def oddEnvelope : Envelope where
  version := 0xffffffff
  origin := " "
  letter := some
    { id := "", sender := "", receiver := some "", room := none, kind := -1, payload := "é\n",
      sentAt := Int64.minValue }

theorem Envelope.frame_loses_nothing_odd :
    64 < UInt32.size ∧ ∃ bytes, oddEnvelope.toFrame 64 = .ok bytes ∧
      Envelope.ofFrame bytes 64 = .ok oddEnvelope := by
  have hmax : 64 < UInt32.size := by decide
  rcases Envelope.frame_loses_nothing 64 hmax with ⟨hframed, hread, _⟩
  rcases (hframed oddEnvelope).2 (by decide +kernel) with ⟨bytes, hbytes⟩
  exact ⟨hmax, bytes, hbytes, hread oddEnvelope bytes hbytes⟩

end ChatCluster.Wire

namespace ChatCluster

open Wire

/-! ## Messages -/

theorem MessageId.orElse_text {spare id : MessageId} (h : Text.isBlank id.text = false) :
    spare.orElse id.text = id := by
  simp only [MessageId.orElse, h, Bool.false_eq_true, if_false]

/-- Every name in a message is one that a caller could ask for. -/
structure Message.Named (m : Message) : Prop where
  id : Text.isBlank m.id.text = false
  sender : Text.isBlank m.sender.text = false
  receiver : ∀ u, m.receiver = some u → Text.isBlank u.text = false
  room : ∀ r, m.room = some r → Text.isBlank r.text = false

/-- Every name in a frame is one that a caller could ask for. -/
structure BusFrame.Named (f : BusFrame) : Prop where
  origin : Text.isBlank f.origin.text = false
  message : f.message.Named

/-- A message of proper names is read back from its letter. -/
theorem Wire.Letter.toMessage_ofMessage (m : Message) (spare : MessageId) (h : m.Named) :
    (Letter.ofMessage m).toMessage spare = .ok m := by
  have hsender : UserId.ofText? m.sender.text = some m.sender :=
    UserId.ofText?_eq_some_iff.2 ⟨rfl, h.sender⟩
  have hreceiver : (m.receiver.map UserId.text).bind UserId.ofText? = m.receiver :=
    bind_unlessBlank_map (fun _ => rfl) (fun _ => rfl) h.receiver
  have hroom : (m.room.map RoomId.text).bind RoomId.ofText? = m.room :=
    bind_unlessBlank_map (fun _ => rfl) (fun _ => rfl) h.room
  simp only [Letter.toMessage, Letter.ofMessage, MessageKind.ofCode?_code,
    hsender, MessageId.orElse_text h.id, hreceiver, hroom]

theorem BusFrame.encode_eq_ok_iff (f : BusFrame) (bytes : Bytes) :
    f.encode = .ok bytes ↔
      (Envelope.ofMessage f.origin f.message).encode.length ≤ maxFrameSize ∧
        bytes = bigEndian (Envelope.ofMessage f.origin f.message).encode.length ++
          (Envelope.ofMessage f.origin f.message).encode :=
  frame_eq_ok_iff _ _ _

/-- What a frame is read as is decided by the names and the letter in it, since the envelope
    around them is read back as it was. -/
theorem BusFrame.decode_eq_ok_iff_of_encode {f g : BusFrame} {bytes : Bytes} (spare : MessageId)
    (h : f.encode = .ok bytes) :
    BusFrame.decode spare bytes = .ok g ↔
      InstanceId.ofText? f.origin.text = some g.origin ∧
        (Letter.ofMessage f.message).toMessage spare = .ok g.message := by
  have henvelope := (Envelope.ofMessage f.origin f.message).ofFrame_of_toFrame maxFrameSize
    (by decide) h
  rcases g with ⟨origin, message⟩
  rw [BusFrame.decode, henvelope]
  simp only [Envelope.ofMessage, ne_eq, not_true_eq_false, if_false]
  -- The origin is looked at before the letter, and both may be refused.
  cases ho : InstanceId.ofText? f.origin.text with
  | none => simp only [reduceCtorEq, false_and]
  | some i =>
    cases hm : (Letter.ofMessage f.message).toMessage spare with
    | error e => simp only [hm, reduceCtorEq, and_false]
    | ok m =>
      simp only [hm, Except.ok.injEq, BusFrame.mk.injEq, Option.some.injEq]

/-- A frame of proper names is published exactly when its record is no larger than the limit, and
    what was published is read back exactly, whichever spare name the reader holds ready. -/
theorem busFrame_round_trip (f : BusFrame) (hf : f.Named) :
    ((∃ bytes, f.encode = .ok bytes) ↔
      (Envelope.ofMessage f.origin f.message).encode.length ≤ maxFrameSize) ∧
    ∀ bytes, f.encode = .ok bytes → ∀ spare, BusFrame.decode spare bytes = .ok f := by
  refine ⟨⟨?_, ?_⟩, ?_⟩
  · rintro ⟨bytes, h⟩
    exact ((f.encode_eq_ok_iff bytes).1 h).1
  · intro h
    exact ⟨_, (f.encode_eq_ok_iff _).2 ⟨h, rfl⟩⟩
  · intro bytes h spare
    have horigin : InstanceId.ofText? f.origin.text = some f.origin :=
      InstanceId.ofText?_eq_some_iff.2 ⟨rfl, hf.origin⟩
    exact (BusFrame.decode_eq_ok_iff_of_encode spare h).2
      ⟨horigin, Letter.toMessage_ofMessage f.message spare hf.message⟩

/-- A frame in which much is out of the ordinary: names beyond ASCII or with a blank at their end,
    a payload whose length takes two bytes, and a time before the epoch. -/
def unusualFrame : BusFrame where
  origin := ⟨"nœud-1"⟩
  message :=
    { id := ⟨"m😀"⟩
      sender := ⟨"alice"⟩
      receiver := some ⟨"bob "⟩
      room := none
      kind := .typing
      payload := String.ofList (List.replicate 100 'ß')
      sentAt := -5 }

theorem unusualFrame_round_trip :
    unusualFrame.Named ∧
      ∃ bytes, unusualFrame.encode = .ok bytes ∧
        BusFrame.decode ⟨"spare"⟩ bytes = .ok unusualFrame := by
  have hnamed : unusualFrame.Named :=
    { origin := by decide
      message :=
        { id := by decide
          sender := by decide
          receiver := by rintro u ⟨rfl⟩; decide
          room := by rintro r ⟨⟩ } }
  have hround := busFrame_round_trip unusualFrame hnamed
  rcases hround.1.2 (by decide +kernel) with ⟨bytes, hbytes⟩
  exact ⟨hnamed, bytes, hbytes, hround.2 bytes hbytes ⟨"spare"⟩⟩

end ChatCluster
