import ChatCluster.Draft
import ChatCluster.Json.Field

/-!
# Written Records

The JSON forms of what the cluster stores and of what clients send and receive. Writing is the
shortest form with the fields in order of declaration. Reading takes that form and every other one
that `Json.Field` allows.

A name is written as its text, and a text read as a name is not checked: what is blank when it is
used was blank when it was written. The kind of a message may also stand as an object with the
kind for its only name.

## Main definitions

* `RegistryEntry`, `LivenessRecord`: What instances store about users and about themselves.
* `RegistryEntry.toJson`, `RegistryEntry.ofJson?`, and so on for `LivenessRecord`, `Message`,
  `Rejection`: Writing and reading.
* `Draft.ofJson?`: What a client sends.
-/

namespace ChatCluster

open Json

/-- A routing fact: the user is attached to the instance. -/
structure RegistryEntry where
  /-- The user. -/
  user : UserId
  /-- The instance that owns the user. -/
  owner : InstanceId
  /-- When the entry was written. -/
  establishedAt : Int64
  deriving DecidableEq, Repr

/-- A sign of life of an instance. -/
structure LivenessRecord where
  /-- The instance. -/
  instanceId : InstanceId
  /-- When it was last seen. -/
  lastSeen : Int64
  deriving DecidableEq, Repr

namespace Json

/-- A signed number, written. -/
def int64Text (n : Int64) : String :=
  Decimal.intText n.toInt

/-- An unsigned number, written. -/
def uint64Text (n : UInt64) : String :=
  Decimal.natText n.toNat

/-- An unsigned number, written. -/
def uint32Text (n : UInt32) : String :=
  Decimal.natText n.toNat

/-- A name of a user in a field. -/
def Value.userId? (v : Value) : Option UserId :=
  v.text?.map UserId.mk

/-- A name of an instance in a field. -/
def Value.instanceId? (v : Value) : Option InstanceId :=
  v.text?.map InstanceId.mk

/-- A name of a room in a field. -/
def Value.roomId? (v : Value) : Option RoomId :=
  v.text?.map RoomId.mk

/-- A name of a message in a field. -/
def Value.messageId? (v : Value) : Option MessageId :=
  v.text?.map MessageId.mk

/-- A kind in a field: its name, or an object with that name for a null. -/
def Value.kind? : Value → Option MessageKind
  | .record [(name, .null)] => (unquote? name).bind MessageKind.ofName?
  | v => v.text?.bind MessageKind.ofName?

/-- Reads a whole text by a reader of values. -/
def ofText? {α : Type} (read : Value → Option α) (text : String) : Option α :=
  (parse? (Text.utf8 text)).bind read

end Json

/-- The written form of an entry. -/
def RegistryEntry.toJson (e : RegistryEntry) : String :=
  record
    [("user_id", quote e.user.text), ("instance_id", quote e.owner.text),
     ("established_at_ms", int64Text e.establishedAt)]

/-- The entry a value stands for. -/
def RegistryEntry.ofValue? (v : Value) : Option RegistryEntry :=
  match slots [⟨"user_id", false⟩, ⟨"instance_id", false⟩, ⟨"established_at_ms", false⟩] v with
  | some [user, owner, time] => do
    let user ← required Value.userId? user
    let owner ← required Value.instanceId? owner
    let establishedAt ← required Value.int64? time
    return { user, owner, establishedAt }
  | _ => none

/-- The entry in a text. -/
def RegistryEntry.ofJson? (text : String) : Option RegistryEntry :=
  Json.ofText? RegistryEntry.ofValue? text

/-- The written form of a sign of life. -/
def LivenessRecord.toJson (r : LivenessRecord) : String :=
  record [("instance_id", quote r.instanceId.text), ("last_seen_ms", int64Text r.lastSeen)]

/-- The sign of life a value stands for. -/
def LivenessRecord.ofValue? (v : Value) : Option LivenessRecord :=
  match slots [⟨"instance_id", false⟩, ⟨"last_seen_ms", false⟩] v with
  | some [instanceId, time] => do
    let instanceId ← required Value.instanceId? instanceId
    let lastSeen ← required Value.int64? time
    return { instanceId, lastSeen }
  | _ => none

/-- The sign of life in a text. -/
def LivenessRecord.ofJson? (text : String) : Option LivenessRecord :=
  Json.ofText? LivenessRecord.ofValue? text

/-- The written form of a message. -/
def Message.toJson (m : Message) : String :=
  record
    [("id", quote m.id.text), ("sender_id", quote m.sender.text),
     ("receiver_id", nullable (fun u => quote u.text) m.receiver),
     ("room_id", nullable (fun r => quote r.text) m.room), ("kind", quote m.kind.name),
     ("payload", quote m.payload), ("timestamp_ms", int64Text m.sentAt)]

/-- The message a value stands for. -/
def Message.ofValue? (v : Value) : Option Message :=
  match slots
      [⟨"id", false⟩, ⟨"sender_id", false⟩, ⟨"receiver_id", false⟩, ⟨"room_id", false⟩,
       ⟨"kind", false⟩, ⟨"payload", false⟩, ⟨"timestamp_ms", false⟩] v with
  | some [id, sender, receiver, room, kind, payload, time] => do
    let id ← required Value.messageId? id
    let sender ← required Value.userId? sender
    let receiver ← optional Value.userId? receiver
    let room ← optional Value.roomId? room
    let kind ← required Value.kind? kind
    let payload ← required Value.text? payload
    let sentAt ← required Value.int64? time
    return { id, sender, receiver, room, kind, payload, sentAt }
  | _ => none

/-- The message in a text. -/
def Message.ofJson? (text : String) : Option Message :=
  Json.ofText? Message.ofValue? text

/-- The written form of a rejection. -/
def Rejection.toJson (r : Rejection) : String :=
  record
    [("code", quote r.code), ("message", quote r.message),
     ("retry_after_secs", nullable uint64Text r.retryAfterSecs)]

/-- The rejection a value stands for. -/
def Rejection.ofValue? (v : Value) : Option Rejection :=
  match slots [⟨"code", false⟩, ⟨"message", false⟩, ⟨"retry_after_secs", false⟩] v with
  | some [code, message, secs] => do
    let code ← required Value.text? code
    let message ← required Value.text? message
    let retryAfterSecs ← optional Value.uint64? secs
    return { code, message, retryAfterSecs }
  | _ => none

/-- The rejection in a text. -/
def Rejection.ofJson? (text : String) : Option Rejection :=
  Json.ofText? Rejection.ofValue? text

/-- The draft a value stands for. Every field has a default. -/
def Draft.ofValue? (v : Value) : Option Draft :=
  match slots
      [⟨"id", true⟩, ⟨"receiver_id", true⟩, ⟨"room_id", true⟩, ⟨"kind", true⟩,
       ⟨"payload", true⟩, ⟨"timestamp_ms", true⟩] v with
  | some [id, receiver, room, kind, payload, time] => do
    let id ← orDefault "" Value.text? id
    let receiver ← optional Value.text? receiver
    let room ← optional Value.text? room
    let kind ← optional Value.kind? kind
    let payload ← orDefault "" Value.text? payload
    let sentAt ← orDefault 0 Value.int64? time
    return { id, receiver, room, kind, payload, sentAt }
  | _ => none

/-- The draft in the bytes a client sent. -/
def Draft.ofJson? (bytes : Bytes) : Option Draft :=
  (parse? bytes).bind Draft.ofValue?

end ChatCluster
