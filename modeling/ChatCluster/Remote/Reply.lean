import ChatCluster.Decimal.Reading

/-!
# Replies of a Server

A store or bus that lives in another process answers each command with a reply, and what the
reply means depends on the command: the same one may be a number to one caller and a text to
another. An error anywhere in a reply makes all of it an error.

## Main definitions

* `Reply`: A reply.
* `Reply.depth`, `Reply.maxDepth`: How deeply lists are nested in a reply, and how deeply they may
  be.
* `Reply.text?`, `Reply.optionalText?`, `Reply.texts?`: A reply as text.
* `Reply.int?`, `Reply.cursor?`: A reply as a number.
* `Reply.payload?`: A reply as bytes.
-/

namespace ChatCluster

/-- A reply. -/
inductive Reply where
  /-- Nothing. -/
  | nil
  /-- A whole number. -/
  | int (n : Int64)
  /-- Bytes of any kind. -/
  | bulk (bytes : Bytes)
  /-- A short text that says how it went. -/
  | status (text : String)
  /-- An error. -/
  | error (text : String)
  /-- Several replies in one. -/
  | list (items : List Reply)

namespace Reply

mutual

/-- The reply is an error or holds one. -/
def isError : Reply → Bool
  | .error _ => true
  | .list items => anyError items
  | .nil | .int _ | .bulk _ | .status _ => false

/-- One of the replies is an error or holds one. -/
def anyError : List Reply → Bool
  | [] => false
  | r :: rest => r.isError || anyError rest

end

mutual

/-- How deeply lists are nested in the reply. -/
def depth : Reply → Nat
  | .list items => depthWithin items + 1
  | .nil | .int _ | .bulk _ | .status _ | .error _ => 0

/-- How deeply lists are nested in the deepest of the replies. -/
def depthWithin : List Reply → Nat
  | [] => 0
  | r :: rest => max r.depth (depthWithin rest)

end

/-- How deeply lists may be nested in what a server sends. -/
def maxDepth : Nat := 100

/-- Lists are nested too deeply to be read. -/
def isTooDeep (r : Reply) : Bool :=
  maxDepth < r.depth

/-- The reply, unless it is an error or cannot be read. -/
def unlessError (r : Reply) : Option Reply :=
  if r.isError || r.isTooDeep then none else some r

/-- A text: bytes that are one, or a status. -/
def text? : Reply → Option String
  | .bulk bytes => Text.ofUtf8? bytes
  | .status text => some text
  | _ => none

/-- A text or nothing. -/
def optionalText? : Reply → Option (Option String)
  | .nil => some none
  | r => r.text?.map some

/-- A number: as such, or as a text that denotes one. -/
def int? : Reply → Option Int
  | .int n => some n.toInt
  | r => r.text?.bind Decimal.signed?

/-- A place to go on from: a number of 64 bits without a sign. A signed one is taken by its
    bits. -/
def cursor? : Reply → Option UInt64
  | .int n => some n.toUInt64
  | r => (r.text?.bind (Decimal.unsigned? UInt64.size)).map UInt64.ofNat

/-- Texts: a list of them, one alone, or nothing for none. -/
def texts? : Reply → Option (List String)
  | .nil => some []
  | .bulk bytes => (Text.ofUtf8? bytes).map fun s => [s]
  | .list items => items.mapM text?
  | _ => none

/-- A byte: a number, of which the lowest bits count, or a text that denotes one. -/
def byte? : Reply → Option UInt8
  | .int n => some n.toUInt64.toUInt8
  | r => (r.text?.bind (Decimal.unsigned? 256)).map UInt8.ofNat

/-- Bytes: as such, as a list of numbers, or nothing for none. -/
def payload? : Reply → Option Bytes
  | .nil => some []
  | .bulk bytes => some bytes
  | .list items => items.mapM byte?
  | _ => none

end Reply

end ChatCluster
