import ChatCluster.Message
import ChatCluster.Wire.Field

/-!
# Envelopes

What instances put on the bus: an envelope with the protocol version, the instance that published
it, and one letter, which is a message in the shape of the wire. An envelope may lack its letter,
a letter's texts may be blank and its kind may be any number; all of that is representable here,
and `Letter.toMessage` is where a letter has to make sense.

## Main definitions

* `Letter`, `Envelope`: The records, each with `encode` and `decode?`.
* `Letter.ofMessage`, `Letter.toMessage`: Messages to and from letters.
* `Envelope.ofMessage`: The envelope an instance publishes.
* `LetterError`: What is wrong with a letter.
-/

namespace ChatCluster.Wire

/-- A message in the shape of the wire, nothing in it checked. -/
structure Letter where
  /-- The name of the message. -/
  id : String
  /-- Who sent it. -/
  sender : String
  /-- The one user it is for. -/
  receiver : Option String
  /-- The room it is for. -/
  room : Option String
  /-- The number of its kind. -/
  kind : Int32
  /-- Its content. -/
  payload : String
  /-- When it was sent. -/
  sentAt : Int64
  deriving DecidableEq, Repr

/-- What goes over the bus. -/
structure Envelope where
  /-- The version of the protocol. -/
  version : UInt32
  /-- The name of the instance that published it. -/
  origin : String
  /-- The message. -/
  letter : Option Letter
  deriving DecidableEq, Repr

/-- What is wrong with a letter. -/
inductive LetterError where
  /-- Its kind is not the number of one. -/
  | unknownKind (code : Int32)
  /-- Its sender is blank. -/
  | noSender
  deriving DecidableEq, Repr

/-- The letter in which every field has its default. -/
def Letter.blank : Letter :=
  { id := "", sender := "", receiver := none, room := none, kind := 0, payload := "", sentAt := 0 }

/-- The envelope in which every field has its default. -/
def Envelope.blank : Envelope :=
  { version := 0, origin := "", letter := none }

/-! ## Numbers -/

/-- A signed number of 32 bits, extended to 64. -/
def word32 (n : Int32) : UInt64 :=
  n.toInt64.toUInt64

/-- A signed number of 64 bits. -/
def word64 (n : Int64) : UInt64 :=
  n.toUInt64

/-- The signed number in the low 32 bits. -/
def int32OfWord (n : Nat) : Int32 :=
  (UInt32.ofNat n).toInt32

/-- The signed number of 64 bits. -/
def int64OfWord (n : Nat) : Int64 :=
  (UInt64.ofNat n).toInt64

/-! ## Writing -/

/-- The bytes of a letter. -/
def Letter.encode (l : Letter) : Bytes :=
  textField 1 l.id ++ textField 2 l.sender ++ optionalTextField 3 l.receiver ++
    optionalTextField 4 l.room ++ numberField 5 (word32 l.kind) ++ textField 6 l.payload ++
    numberField 7 (word64 l.sentAt)

/-- The field that holds the letter. -/
def letterField : Option Letter → Bytes
  | none => []
  | some l => bytesField 3 l.encode

/-- The bytes of an envelope. -/
def Envelope.encode (e : Envelope) : Bytes :=
  numberField 1 e.version.toUInt64 ++ textField 2 e.origin ++ letterField e.letter

/-! ## Reading -/

/-- The number in a field. -/
def Shape.number? : Shape → Option Nat
  | .number n => some n
  | _ => none

/-- The text in a field. -/
def Shape.text? : Shape → Option String
  | .bytes content => Text.ofUtf8? content
  | _ => none

/-- Takes one field into a letter. A later value of a field replaces an earlier one, and a number
    that names no field is passed over. -/
def Letter.absorb (l : Letter) (field : Field) : Option Letter :=
  match field.number with
  | 1 => field.shape.text?.map fun id => { l with id }
  | 2 => field.shape.text?.map fun sender => { l with sender }
  | 3 => field.shape.text?.map fun receiver => { l with receiver := some receiver }
  | 4 => field.shape.text?.map fun room => { l with room := some room }
  | 5 => field.shape.number?.map fun n => { l with kind := int32OfWord n }
  | 6 => field.shape.text?.map fun payload => { l with payload }
  | 7 => field.shape.number?.map fun n => { l with sentAt := int64OfWord n }
  | _ => some l

/-- Reads fields into a letter that may hold some already. -/
def Letter.merge (l : Letter) (limit : Nat) (bytes : Bytes) : Option Letter :=
  match readFields limit bytes with
  | none => none
  | some fields => fields.foldlM Letter.absorb l

/-- Takes one field into an envelope. A second letter is read into the first. -/
def Envelope.absorb (e : Envelope) (field : Field) : Option Envelope :=
  match field.number with
  | 1 => field.shape.number?.map fun n => { e with version := UInt32.ofNat n }
  | 2 => field.shape.text?.map fun origin => { e with origin }
  | 3 =>
    match field.shape with
    -- A letter takes up one level of nesting.
    | .bytes content =>
      ((e.letter.getD .blank).merge (nestingLimit - 1) content).map fun l =>
        { e with letter := some l }
    | _ => none
  | _ => some e

/-- The letter in a byte sequence. -/
def Letter.decode? (bytes : Bytes) : Option Letter :=
  Letter.blank.merge nestingLimit bytes

/-- The envelope in a byte sequence. -/
def Envelope.decode? (bytes : Bytes) : Option Envelope :=
  match readFields nestingLimit bytes with
  | none => none
  | some fields => fields.foldlM Envelope.absorb .blank

/-! ## Messages -/

/-- The letter of a message. -/
def Letter.ofMessage (m : Message) : Letter where
  id := m.id.text
  sender := m.sender.text
  receiver := m.receiver.map UserId.text
  room := m.room.map RoomId.text
  kind := m.kind.code
  payload := m.payload
  sentAt := m.sentAt

/-- The message in a letter. The kind is judged before the sender; a blank receiver or room is
    none at all, and a blank name is replaced by the spare one. -/
def Letter.toMessage (l : Letter) (spare : MessageId) : Except LetterError Message :=
  match MessageKind.ofCode? l.kind with
  | none => .error (.unknownKind l.kind)
  | some kind =>
    match UserId.ofText? l.sender with
    | none => .error .noSender
    | some sender =>
      .ok
        { id := spare.orElse l.id
          sender
          receiver := l.receiver.bind UserId.ofText?
          room := l.room.bind RoomId.ofText?
          kind
          payload := l.payload
          sentAt := l.sentAt }

/-- The version of the protocol that instances speak. -/
def protocolVersion : UInt32 := 1

/-- The envelope in which an instance publishes a message. -/
def Envelope.ofMessage (origin : InstanceId) (m : Message) : Envelope where
  version := protocolVersion
  origin := origin.text
  letter := some (.ofMessage m)

end ChatCluster.Wire
