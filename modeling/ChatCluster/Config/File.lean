import ChatCluster.Text.Utf8
import ChatCluster.Toml.Document

/-!
# The Settings File

What the settings file says, before anything has been made of it. Every setting may be missing. A
setting that is there must be of the right type and range, and anything the file says beside that
is passed over.

A section is a table, or a list of at least as many items as the section has settings, which are
then taken in order. A date in place of a section sets nothing. What is passed over has to be
readable all the same, only the items of a list behind its settings are not even looked at.

## Main definitions

* `FileSettings`: The settings of a file.
* `FileSettings.ofText?`: The settings in a text.
* `FileContent`: What is found where the file should be.
* `LoadError`: Why there are no settings.
* `FileContent.settings`: The settings in what is found.
-/

namespace ChatCluster

open Toml

/-- The settings that a file may hold. Intervals are in seconds but for `opTimeout`, which is in
    milliseconds. -/
structure FileSettings where
  /-- The name of the instance. -/
  id : Option String
  /-- Where shared state is kept. -/
  backend : Option String
  /-- Where the server for shared state is. -/
  redisUrl : Option String
  /-- How long a call to it may take. -/
  opTimeout : Option Nat
  /-- The topic of notices. -/
  broadcastTopic : Option String
  /-- What the topics of instances begin with. -/
  instanceTopicStart : Option String
  /-- The room in the queue of a subscription. -/
  queueCapacity : Option Nat
  /-- How long a registry entry lives. -/
  entryTtl : Option Nat
  /-- The time between two heartbeats. -/
  heartbeat : Option Nat
  /-- How long a liveness record lives. -/
  livenessTtl : Option Nat
  /-- The time between two reap passes. -/
  reap : Option Nat
  /-- Whether senders are limited. -/
  limited : Option Bool
  /-- The size of a token bucket. -/
  limitCapacity : Option UInt32
  /-- The tokens added in a minute. -/
  refillPerMinute : Option UInt32
  /-- How long a token bucket is kept. -/
  idleTtl : Option Nat
  /-- Where metrics are served. -/
  metricsBind : Option String
  /-- Where health is served. -/
  healthBind : Option String
  deriving DecidableEq, Repr

/-- The file that says nothing. -/
def FileSettings.empty : FileSettings where
  id := none
  backend := none
  redisUrl := none
  opTimeout := none
  broadcastTopic := none
  instanceTopicStart := none
  queueCapacity := none
  entryTtl := none
  heartbeat := none
  livenessTtl := none
  reap := none
  limited := none
  limitCapacity := none
  refillPerMinute := none
  idleTtl := none
  metricsBind := none
  healthBind := none

namespace FileSettings

/-- A text. -/
def text? : Value → Option String
  | .text s => some s
  | _ => none

/-- True or false. -/
def flag? : Value → Option Bool
  | .flag b => some b
  | _ => none

/-- A whole number from zero up to a bound. -/
def natBelow? (bound : Nat) : Value → Option Nat
  | .whole (.ofNat n) => if n < bound then some n else none
  | _ => none

/-- A whole number of 64 bits. -/
def wide? : Value → Option Nat :=
  natBelow? UInt64.size

/-- A whole number of 32 bits. -/
def narrow? (v : Value) : Option UInt32 :=
  (natBelow? UInt32.size v).map UInt32.ofNat

/-- The names of the sections. -/
def sections : List String :=
  ["instance", "store", "bus", "registry", "liveness", "rate_limit", "server"]

/-- An entry of a document can be passed over as far as it is not made of settings. The items of
    a list in place of a section are either settings or not looked at. -/
def mayPass : String × Value → Bool
  | (name, .list items) => sections.contains name || areReadable items
  | (_, v) => v.isReadable

/-- The settings of a section, in the order of their names; none of them where the section is
    missing. -/
def part? (document : Entries) (name : String) (names : List String) :
    Option (List (Option Value)) :=
  match document.lookup name with
  | none => some (names.map fun _ => none)
  | some (.table _ entries) => some (names.map fun n => entries.lookup n)
  | some (.list items) =>
    if names.length ≤ items.length then some ((items.take names.length).map some) else none
  | some .moment => some (names.map fun _ => none)
  | some _ => none

/-- A setting that may be missing but must be readable if it is there. -/
def setting {α : Type} (read : Value → Option α) : Option Value → Option (Option α)
  | none => some none
  | some v => (read v).map some

/-- The settings in a document. -/
def ofDocument? (document : Entries) : Option FileSettings := do
  guard (document.all mayPass)
  let [id] ← part? document "instance" ["id"] | none
  let [backend, url, timeout] ←
    part? document "store" ["backend", "redis_url", "op_timeout_ms"] | none
  let [broadcast, start, capacity] ←
    part? document "bus"
      ["broadcast_topic", "instance_topic_prefix", "subscriber_queue_capacity"] | none
  let [entryTtl] ← part? document "registry" ["entry_ttl_secs"] | none
  let [heartbeat, ttl, reap] ←
    part? document "liveness"
      ["heartbeat_interval_secs", "ttl_secs", "reap_interval_secs"] | none
  let [limited, limit, refill, idle] ←
    part? document "rate_limit"
      ["enabled", "capacity", "refill_per_minute", "idle_ttl_secs"] | none
  let [metrics, health] ← part? document "server" ["metrics_bind", "health_bind"] | none
  return {
    id := ← setting text? id
    backend := ← setting text? backend
    redisUrl := ← setting text? url
    opTimeout := ← setting wide? timeout
    broadcastTopic := ← setting text? broadcast
    instanceTopicStart := ← setting text? start
    queueCapacity := ← setting wide? capacity
    entryTtl := ← setting wide? entryTtl
    heartbeat := ← setting wide? heartbeat
    livenessTtl := ← setting wide? ttl
    reap := ← setting wide? reap
    limited := ← setting flag? limited
    limitCapacity := ← setting narrow? limit
    refillPerMinute := ← setting narrow? refill
    idleTtl := ← setting wide? idle
    metricsBind := ← setting text? metrics
    healthBind := ← setting text? health }

/-- The settings in a text. -/
def ofText? (text : String) : Option FileSettings :=
  (Toml.parse? text).bind ofDocument?

end FileSettings

/-- Why there are no settings. -/
inductive LoadError where
  /-- There is something where the file should be, but no text in it. -/
  | unreadable
  /-- The text does not say settings. -/
  | malformed
  /-- The interval to repair another one with is longer than an interval can be. -/
  | overflow
  deriving DecidableEq, Repr

/-- The wording of a failure to read the file. -/
def LoadError.message? : LoadError → Option String
  | .unreadable => some "read config file"
  | .malformed => some "parse TOML"
  | .overflow => none

/-- What is found where the settings file should be. -/
inductive FileContent where
  /-- Nothing. -/
  | missing
  /-- Something that cannot be read as a file. -/
  | unreadable
  /-- A file. -/
  | bytes (content : Bytes)
  deriving DecidableEq, Repr

/-- The settings in what is found. A missing file says nothing, which is no failure. -/
def FileContent.settings : FileContent → Except LoadError FileSettings
  | .missing => .ok .empty
  | .unreadable => .error .unreadable
  | .bytes content =>
    match Text.ofUtf8? content with
    | none => .error .unreadable
    | some text =>
      match FileSettings.ofText? text with
      | none => .error .malformed
      | some settings => .ok settings

end ChatCluster
