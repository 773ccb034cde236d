import ChatCluster.Remote.Reply
import ChatCluster.Store.Memory

/-!
# The Store in a Server

A store that lives in another process. A call sends a command and reads the reply; a call for keys
sends several, since the server hands them out in batches of its own choosing. What matters is
what is said, so a call is described as a function of the replies: given those that arrive, in
order, it yields the commands sent and the result. Where they end before the call does, the server
has fallen silent.

A time to live is never zero, which the server would not take; it is a millisecond at least.

## Main definitions

* `Command`: What is sent.
* `RemoteStore.scan`: All keys with a beginning, batch by batch.
* `RemoteStore.call`: One call.
-/

namespace ChatCluster

/-- What is sent to a server: the name of a command and its arguments. -/
abbrev Command := List Bytes

namespace RemoteStore

/-- A command whose parts are texts. -/
def command (parts : List String) : Command :=
  parts.map Text.utf8

/-- Why a reply is of no use. -/
def badReply : StoreError :=
  .unavailable "unexpected reply"

/-- Reads a reply, which must be no error and fit. -/
def readReply {α : Type} (read : Reply → Option α) (r : Reply) : Except StoreError α :=
  match r.unlessError.bind read with
  | some a => .ok a
  | none => .error badReply

/-- One command, and its reply if there is one. -/
def ask {α : Type} (limit : Nat) (parts : List String) (read : Reply → Option α) :
    List Reply → List Command × Except StoreError α
  | [] => ([command parts], .error (.timeout limit))
  | r :: _ => ([command parts], readReply read r)

/-- A time to live as it is sent. -/
def ttlText (ttl : Nat) : String :=
  Decimal.natText (max 1 ttl)

/-- How many keys a batch should have. -/
def batchSize : Nat := 200

/-- Asks for the next batch of keys with a beginning. -/
def scanCommand (start : String) (cursor : UInt64) : Command :=
  command
    ["SCAN", Decimal.natText cursor.toNat, "MATCH", start ++ "*", "COUNT",
      Decimal.natText batchSize]

/-- A batch of keys, and where to go on. -/
def batch? : Reply → Option (UInt64 × List String)
  | .list [cursor, keys] => do return (← cursor.cursor?, ← keys.texts?)
  | _ => none

/-- Texts in order, each of them once. -/
def sortOnce (texts : List String) : List String :=
  sortTexts texts.eraseDups

/-- Collects keys batch by batch, behind those in `found`, until there is nowhere to go on. -/
def scan (limit : Nat) (start : String) (cursor : UInt64) (found : List String) :
    List Reply → List Command × Except StoreError (List String)
  | [] => ([scanCommand start cursor], .error (.timeout limit))
  | r :: rest =>
    match readReply batch? r with
    | .error e => ([scanCommand start cursor], .error e)
    | .ok (next, keys) =>
      let found := found ++ keys
      if next = 0 then ([scanCommand start cursor], .ok (sortOnce found))
      else
        let (commands, result) := scan limit start next found rest
        (scanCommand start cursor :: commands, result)

/-- One call: the commands it sends, and its result, given the replies and for how long one is
    waited for. -/
def call (limit : Nat) : (call : StoreCall) → List Reply →
    List Command × Except StoreError call.Result
  | .get key => ask limit ["GET", key] Reply.optionalText?
  | .set key value ttl => ask limit ["SET", key, value, "PX", ttlText ttl] fun _ => some ()
  | .delete key => ask limit ["DEL", key] fun r => r.int?.map fun n => decide (0 < n)
  | .expire key ttl =>
    ask limit ["PEXPIRE", key, ttlText ttl] fun r => r.int?.map fun n => decide (n = 1)
  | .keys start => scan limit start 0 []
  | .addMember key member => ask limit ["SADD", key, member] fun r => r.int?.map fun _ => ()
  | .removeMember key member => ask limit ["SREM", key, member] fun r => r.int?.map fun _ => ()
  | .members key => ask limit ["SMEMBERS", key] fun r => r.texts?.map sortTexts

/-- Why a call fails whose connection is lost. Nothing is sent then. -/
def lost : StoreError :=
  .unavailable "connection lost"

end RemoteStore

end ChatCluster
