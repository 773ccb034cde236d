import ChatCluster.Identity

/-!
# Messages

A message travels from one user to another, to a room, or to everybody. Its kind decides which:
join, leave and system notices are of the broadcast class and reach every session in the cluster,
the other kinds are directed.

Kinds have two written forms. `MessageKind.name` is the stable one, used in stored text;
`MessageKind.ofText` is what a person may type, so it allows white space around the name and any
ASCII capitals. On the wire a kind is a small number.

A message made by the cluster itself needs a name and a time of its own: its `Postmark`.

## Main definitions

* `MessageKind`: What a message is about.
* `MessageKind.isBroadcast`: The broadcast class.
* `Message`: A message.
* `Message.direct`, `Message.room`, `Message.join`, `Message.leave`, `Message.system`: Messages
  made by the cluster.
* `Message.addressedTo`: A copy for one receiver.
* `Rejection`: What a throttled sender is told.

## Theorems

* `ofName?_name`: A kind is read back from its name.
* `ofCode?_code`: A kind is read back from its wire number.
-/

namespace ChatCluster

/-- What a message is about. -/
inductive MessageKind where
  | chat
  | join
  | leave
  | typing
  | read
  | system
  deriving DecidableEq, Inhabited, Repr

namespace MessageKind

/-- The stable name. -/
def name : MessageKind → String
  | chat => "chat"
  | join => "join"
  | leave => "leave"
  | typing => "typing"
  | read => "read"
  | system => "system"

/-- The kind of exactly that name. -/
def ofName? : String → Option MessageKind
  | "chat" => some chat
  | "join" => some join
  | "leave" => some leave
  | "typing" => some typing
  | "read" => some read
  | "system" => some system
  | _ => none

/-- The kind a person names: white space around the name and ASCII capitals do not matter. -/
def ofText (text : String) : Except IdentityError MessageKind :=
  if Text.isBlank text then
    .error .empty
  else
    let name := Text.lower (Text.trim text)
    match ofName? name with
    | some kind => .ok kind
    | none => .error (.unknownKind name)

/-- The broadcast class goes to every instance instead of to an owner. -/
def isBroadcast : MessageKind → Bool
  | join | leave | system => true
  | chat | typing | read => false

/-- The number of the kind on the wire. -/
def code : MessageKind → Int32
  | chat => 1
  | join => 2
  | leave => 3
  | typing => 4
  | read => 5
  | system => 6

/-- The kind of a wire number. -/
def ofCode? (n : Int32) : Option MessageKind :=
  if n = 1 then some chat
  else if n = 2 then some join
  else if n = 3 then some leave
  else if n = 4 then some typing
  else if n = 5 then some read
  else if n = 6 then some system
  else none

@[simp] theorem ofName?_name (k : MessageKind) : ofName? k.name = some k := by
  cases k <;> rfl

@[simp] theorem ofCode?_code (k : MessageKind) : ofCode? k.code = some k := by
  cases k <;> rfl

end MessageKind

/-- A message. It is not changed once it has been handed over for routing. -/
structure Message where
  /-- Its name. -/
  id : MessageId
  /-- Who sent it. -/
  sender : UserId
  /-- The one user it is for. -/
  receiver : Option UserId
  /-- The room it is for. -/
  room : Option RoomId
  /-- What it is about. -/
  kind : MessageKind
  /-- Its content. -/
  payload : String
  /-- When it was sent, in milliseconds since the Unix epoch. -/
  sentAt : Int64
  deriving DecidableEq, Inhabited, Repr

/-- The name and time of a message that the cluster makes itself. -/
structure Postmark where
  /-- The name of the message. -/
  id : MessageId
  /-- The time, in milliseconds since the Unix epoch. -/
  time : Int64
  deriving DecidableEq, Inhabited, Repr

namespace Message

/-- A message without receiver or room. -/
def plain (mark : Postmark) (kind : MessageKind) (sender : UserId) (payload : String) : Message :=
  { id := mark.id, sender, receiver := none, room := none, kind, payload, sentAt := mark.time }

/-- A chat message for one user. -/
def direct (mark : Postmark) (sender receiver : UserId) (payload : String) : Message :=
  { plain mark .chat sender payload with receiver := some receiver }

/-- A chat message for every member of a room. -/
def toRoom (mark : Postmark) (sender : UserId) (room : RoomId) (payload : String) : Message :=
  { plain mark .chat sender payload with room := some room }

/-- The notice that a user has come. -/
def join (mark : Postmark) (user : UserId) : Message :=
  plain mark .join user (user.text ++ " joined")

/-- The notice that a user has gone. -/
def leave (mark : Postmark) (user : UserId) : Message :=
  plain mark .leave user (user.text ++ " left")

/-- A notice to everybody. -/
def system (mark : Postmark) (sender : UserId) (payload : String) : Message :=
  plain mark .system sender payload

/-- A copy of the message for one receiver. -/
def addressedTo (m : Message) (receiver : UserId) : Message :=
  { m with receiver := some receiver }

/-- The message with another kind. -/
def withKind (m : Message) (kind : MessageKind) : Message :=
  { m with kind }

end Message

/-- What a sender is told about a message that was not accepted. -/
structure Rejection where
  /-- The reason, for programs. -/
  code : String
  /-- The reason, for people. -/
  message : String
  /-- After how many seconds another attempt may succeed. -/
  retryAfterSecs : Option UInt64
  deriving DecidableEq, Inhabited, Repr

/-- The rejection of a message that came too early by so many seconds. -/
def Rejection.rateLimited (secs : UInt64) : Rejection where
  code := "RATE_LIMIT_EXCEEDED"
  message := "message rate exceeded; retry after " ++ Decimal.natText secs.toNat ++ "s"
  retryAfterSecs := some secs

end ChatCluster
