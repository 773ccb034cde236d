import ChatCluster.Json.Fraction

/-!
# Token Buckets

Each user has a bucket of tokens that fills at a steady rate up to its capacity. A message costs
one token. The bucket is not kept filled: it holds the level at its last admission, and the level
now is computed from the time that has gone by.

A refused attempt costs nothing but is remembered as backlog, so that a sender who keeps trying is
told to wait longer each time, up to the time a whole bucket takes to fill.

The arithmetic is written once over `Amount`, which is all it needs of its numbers. The running
program computes with 64 bit binary fractions. Laws about what is admitted over a span of time are
laws of exact numbers, and hold of the same definitions there.

## Main definitions

* `Amount`: The numbers that levels and rates are made of.
* `LimitSettings`: Capacity, rate and idle time of all buckets.
* `Bucket`: The stored state of one bucket.
* `Bucket.level`: How many tokens are in it at a given time.
* `Bucket.draw`: One attempt to take a token.
* `BucketText`: The stored form.
-/

namespace ChatCluster

/-- The numbers that levels and rates are made of. -/
class Amount (Q : Type) extends Add Q, Sub Q, Mul Q, Div Q where
  /-- A whole number. -/
  ofNat : Nat → Q
  /-- Strict comparison. -/
  lt : Q → Q → Bool
  /-- Comparison. -/
  le : Q → Q → Bool
  /-- The smallest whole number that is not below the given one; zero for a negative one. -/
  ceil : Q → Nat

instance : Amount Float where
  ofNat := Float.ofNat
  lt a b := decide (a < b)
  le a b := decide (a ≤ b)
  ceil x := x.ceil.toUInt64.toNat

/-- Puts a number between two bounds. -/
def Amount.clamp {Q : Type} [Amount Q] (x low high : Q) : Q :=
  if lt x low then low else if lt high x then high else x

/-- The parameters of every bucket. -/
structure LimitSettings (Q : Type) where
  /-- Whether attempts are limited at all. -/
  enabled : Bool
  /-- The most tokens a bucket holds, which is also what a new one starts with. -/
  capacity : UInt32
  /-- How many tokens are added in a second. -/
  rate : Q
  /-- After how many milliseconds without an attempt a stored bucket is forgotten. -/
  idleTtl : Nat
  deriving Repr

/-- The stored state of a bucket. -/
structure Bucket (Q : Type) where
  /-- The level at the last admission. -/
  tokens : Q
  /-- The time of that admission. -/
  lastRefill : Int64
  /-- The capacity it was written under. -/
  capacity : UInt32
  /-- The rate it was written under. -/
  rate : Q
  /-- The attempts refused since then. -/
  backlog : UInt32
  deriving Repr

/-- The answer to an attempt. -/
inductive Admission where
  /-- A token was taken. -/
  | allowed
  /-- There was none; an attempt after so many seconds may find one. -/
  | throttled (retryAfterSecs : UInt64)
  deriving DecidableEq, Repr

/-- A token was taken. -/
def Admission.isAllowed : Admission → Bool
  | .allowed => true
  | .throttled _ => false

section
variable {Q : Type} [Amount Q]

open Amount

/-- The capacity as a level. -/
def LimitSettings.full (s : LimitSettings Q) : Q :=
  ofNat s.capacity.toNat

/-- Limits by the capacity and the tokens that are added in a minute. A bucket is forgotten after
    five minutes. -/
def LimitSettings.perMinute (capacity refill : UInt32) : LimitSettings Q :=
  { enabled := true, capacity, rate := ofNat refill.toNat / ofNat 60, idleTtl := 300000 }

/-- The limits of an instance that is not told otherwise. -/
def LimitSettings.standard : LimitSettings Q :=
  .perMinute 100 200

/-- Attempts are limited: there is a capacity, and a rate above zero. -/
def LimitSettings.limits (s : LimitSettings Q) : Bool :=
  s.enabled && s.capacity != 0 && !le s.rate (ofNat 0)

/-- The full bucket of a user who has none stored. -/
def LimitSettings.fullBucket (s : LimitSettings Q) (now : Int64) : Bucket Q :=
  { tokens := s.full, lastRefill := now, capacity := s.capacity, rate := s.rate, backlog := 0 }

/-- The seconds from one reading of the clock to another; none if the clock was set back. -/
def secondsBetween (earlier later : Int64) : Q :=
  ofNat (later - earlier).toInt.toNat / ofNat 1000

/-- How many tokens are in the bucket at a given time. -/
def Bucket.level (s : LimitSettings Q) (b : Bucket Q) (now : Int64) : Q :=
  let filled := clamp b.tokens (ofNat 0) s.full + secondsBetween b.lastRefill now * s.rate
  if lt filled s.full then filled else s.full

/-- The bucket as it is reported: its level now, under the present settings. -/
def Bucket.report (s : LimitSettings Q) (b : Bucket Q) (now : Int64) : Bucket Q :=
  { tokens := b.level s now, lastRefill := now, capacity := s.capacity, rate := s.rate,
    backlog := b.backlog }

/-- A whole number of seconds, at least one, that fits 64 bits. -/
def wholeSeconds (q : Q) : UInt64 :=
  UInt64.ofNat (min (UInt64.size - 1) (max 1 (ceil q)))

/-- The bucket after an admission that found it at `level`. -/
def Bucket.taken (s : LimitSettings Q) (level : Q) (now : Int64) : Bucket Q :=
  { tokens := level - ofNat 1, lastRefill := now, capacity := s.capacity, rate := s.rate,
    backlog := 0 }

/-- The bucket after a refusal: its level is left alone and the attempt is counted. -/
def Bucket.refused (s : LimitSettings Q) (b : Bucket Q) : Bucket Q :=
  { tokens := clamp b.tokens (ofNat 0) s.full
    lastRefill := b.lastRefill
    capacity := s.capacity
    rate := s.rate
    backlog := UInt32.ofNat (min (b.backlog.toNat + 1) s.capacity.toNat) }

/-- One attempt to take a token. A refusal names the time after which the backlog and one more
    token will have come in. -/
def Bucket.draw (s : LimitSettings Q) (b : Bucket Q) (now : Int64) : Admission × Bucket Q :=
  let level := b.level s now
  if le (ofNat 1) level then
    (.allowed, .taken s level now)
  else
    -- The stored backlog may have been written under a larger capacity.
    let backlog := min b.backlog.toNat s.capacity.toNat
    let missing := ofNat 1 + ofNat backlog - level
    (.throttled (wholeSeconds (missing / s.rate)), b.refused s)

end

/-- The stored form of buckets over some numbers. -/
class BucketText (Q : Type) where
  /-- The written form. -/
  write : Bucket Q → String
  /-- The bucket in a text. -/
  read? : String → Option (Bucket Q)

open Json

/-- The written form of a bucket of binary fractions. -/
def Bucket.toJson (b : Bucket Float) : String :=
  record
    [("tokens", fractionText b.tokens), ("last_refill_ms", int64Text b.lastRefill),
     ("capacity", uint32Text b.capacity), ("refill_rate", fractionText b.rate),
     ("backlog", uint32Text b.backlog)]

/-- The bucket a value stands for. One without a backlog has none. -/
def Bucket.ofValue? (v : Value) : Option (Bucket Float) :=
  match slots
      [⟨"tokens", false⟩, ⟨"last_refill_ms", false⟩, ⟨"capacity", false⟩,
       ⟨"refill_rate", false⟩, ⟨"backlog", true⟩] v with
  | some [tokens, time, capacity, rate, backlog] => do
    let tokens ← required Value.float? tokens
    let lastRefill ← required Value.int64? time
    let capacity ← required Value.uint32? capacity
    let rate ← required Value.float? rate
    let backlog ← orDefault 0 Value.uint32? backlog
    return { tokens, lastRefill, capacity, rate, backlog }
  | _ => none

/-- The bucket in a text. -/
def Bucket.ofJson? (text : String) : Option (Bucket Float) :=
  Json.ofText? Bucket.ofValue? text

instance : BucketText Float where
  write := Bucket.toJson
  read? := Bucket.ofJson?

end ChatCluster
