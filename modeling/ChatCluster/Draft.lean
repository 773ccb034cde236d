import ChatCluster.Message

/-!
# Drafts

What a client writes before the server has looked at it. A draft says to whom it goes and what it
says, but never who sent it: the sender is the user of the session that handed it in, and
`Draft.stamp` is the only way from a draft to a message.

## Main definitions

* `Draft`: A message as the client wrote it.
* `Draft.toUser`, `Draft.toRoom`: Drafts for one user and for a room.
* `Draft.stamp`: The message that a draft becomes.
-/

namespace ChatCluster

/-- A message as a client wrote it, nothing in it checked. -/
structure Draft where
  /-- The name the client chose, or blank. -/
  id : String
  /-- The user it is for. -/
  receiver : Option String
  /-- The room it is for. -/
  room : Option String
  /-- What it is about. -/
  kind : Option MessageKind
  /-- Its content. -/
  payload : String
  /-- When the client says it was sent. -/
  sentAt : Int64
  deriving DecidableEq, Repr

namespace Draft

/-- The draft that says nothing. -/
def empty : Draft :=
  { id := "", receiver := none, room := none, kind := none, payload := "", sentAt := 0 }

instance : Inhabited Draft := ⟨empty⟩

/-- A draft for one user. -/
def toUser (receiver payload : String) : Draft :=
  { empty with receiver := some receiver, payload }

/-- A draft for a room. -/
def toRoom (room payload : String) : Draft :=
  { empty with room := some room, payload }

/-- The draft with a kind. -/
def withKind (d : Draft) (kind : MessageKind) : Draft :=
  { d with kind := some kind }

/-- The draft is of the broadcast class, which clients may not use. -/
def isBroadcast (d : Draft) : Bool :=
  d.kind.any MessageKind.isBroadcast

/-- The message a draft becomes when a session of `sender` hands it in at the time `now`. A blank
    name is replaced by the spare one, a blank receiver or room is none at all, chat is the kind
    of a draft without one, and a time that is not positive is replaced by `now`. -/
def stamp (d : Draft) (spare : MessageId) (sender : UserId) (now : Int64) : Message where
  id := spare.orElse d.id
  sender := sender
  receiver := d.receiver.bind UserId.ofText?
  room := d.room.bind RoomId.ofText?
  kind := d.kind.getD .chat
  payload := d.payload
  sentAt := if 0 < d.sentAt then d.sentAt else now

end Draft

end ChatCluster
