import ChatCluster.Config.File
import ChatCluster.Decimal.Reading
import ChatCluster.Instance.Node

/-!
# Settings

How an instance comes by its settings. Each is taken from the environment if it is given there in
a form that can be read, otherwise from the file, otherwise it has a standard value. What is given
but cannot be read counts as not given; only a backend nobody knows is worth a warning.

Then intervals are repaired under which live state would expire between two refreshes. An interval
that is too short gives way to a multiple of the heartbeat; nothing else is touched. The repair
fails only where that multiple is longer than an interval can be.

## Main definitions

* `Backend`, `Settings`: The settings.
* `Environment`: The variables of the process.
* `ConfigWarning`: What people are warned about.
* `Settings.ofFile`: The settings of a file, with standard values for the rest.
* `Settings.override`: What the environment says instead.
* `Settings.repaired?`, `Settings.repairs`: The repair, and what it warns about.
* `Settings.load`: All of it.
* `Settings.profile`: What an instance is told.
-/

namespace ChatCluster

/-- Where shared state is kept. -/
inductive Backend where
  /-- In the process itself. -/
  | memory
  /-- In a server that all instances talk to. -/
  | redis
  deriving DecidableEq, Repr

/-- The backend of a name; white space around it and capitals do not matter. -/
def Backend.ofText? (text : String) : Option Backend :=
  match Text.lower (Text.trim text) with
  | "memory" | "in-memory" | "inmemory" => some .memory
  | "redis" => some .redis
  | _ => none

/-- The name of a backend. -/
def Backend.name : Backend → String
  | .memory => "memory"
  | .redis => "redis"

/-- How a backend is shown. -/
def Backend.label : Backend → String
  | .memory => "Memory"
  | .redis => "Redis"

/-- Everything that can be set. Intervals are in seconds but for `opTimeout`, which is in
    milliseconds. -/
structure Settings where
  /-- The name of the instance. -/
  id : InstanceId
  /-- Where shared state is kept. -/
  backend : Backend
  /-- Where the server for shared state is. -/
  redisUrl : String
  /-- How long a call to it may take. -/
  opTimeout : Nat
  /-- The topic of notices. -/
  broadcastTopic : String
  /-- What the topics of instances begin with. -/
  instanceTopicStart : String
  /-- The room in the queue of a subscription. -/
  queueCapacity : Nat
  /-- How long a registry entry lives. -/
  entryTtl : Nat
  /-- The time between two heartbeats. -/
  heartbeat : Nat
  /-- How long a liveness record lives. -/
  livenessTtl : Nat
  /-- The time between two reap passes. -/
  reap : Nat
  /-- Whether senders are limited. -/
  limited : Bool
  /-- The size of a token bucket. -/
  limitCapacity : UInt32
  /-- The tokens added in a minute. -/
  refillPerMinute : UInt32
  /-- How long a token bucket is kept. -/
  idleTtl : Nat
  /-- Where metrics are served. -/
  metricsBind : Option String
  /-- Where health is served. -/
  healthBind : Option String
  deriving DecidableEq, Repr

/-- The variables of the process that are set to a text. -/
abbrev Environment := String → Option String

namespace Environment

/-- The variables of a process, given as bytes. One that is no text counts as not set. -/
def ofBytes (vars : String → Option Bytes) : Environment :=
  fun name => (vars name).bind Text.ofUtf8?

/-- A variable, trimmed, unless it is blank. -/
def text? (env : Environment) (name : String) : Option String :=
  (env name).bind Text.nonBlank?

/-- A variable that is a whole number below a bound. -/
def natBelow? (env : Environment) (bound : Nat) (name : String) : Option Nat :=
  (env.text? name).bind (Decimal.unsigned? bound)

/-- A variable that is a whole number of 64 bits. -/
def wide? (env : Environment) (name : String) : Option Nat :=
  env.natBelow? UInt64.size name

/-- A variable that is a whole number of 32 bits. -/
def narrow? (env : Environment) (name : String) : Option UInt32 :=
  (env.natBelow? UInt32.size name).map UInt32.ofNat

/-- The truth value of a word. -/
def flagOf? (word : String) : Option Bool :=
  match Text.lower (Text.trim word) with
  | "1" | "true" | "yes" | "on" => some true
  | "0" | "false" | "no" | "off" => some false
  | _ => none

/-- A variable that is a truth value. -/
def flag? (env : Environment) (name : String) : Option Bool :=
  (env.text? name).bind flagOf?

/-- The name of the machine. -/
def machine? (env : Environment) : Option InstanceId :=
  (env.text? "HOSTNAME").map InstanceId.mk

end Environment

/-- What people are warned about while settings are loaded. -/
inductive ConfigWarning where
  | unknownBackend
  | unknownBackendInEnvironment
  | heartbeatTooShort
  | livenessTtlTooShort
  | reapTooShort
  | entryTtlTooShort
  | noOpTimeout
  | zeroLimits
  deriving DecidableEq, Repr

/-- The wording of a warning. -/
def ConfigWarning.text : ConfigWarning → String
  | unknownBackend => "store config: unknown backend; using memory"
  | unknownBackendInEnvironment => "store config: ignoring unknown backend from env"
  | heartbeatTooShort => "liveness config: heartbeat_interval below 1s; using 1s"
  | livenessTtlTooShort =>
    "liveness config: ttl must exceed heartbeat_interval; using twice the interval"
  | reapTooShort =>
    "liveness config: reap_interval shorter than heartbeat_interval; using heartbeat_interval"
  | entryTtlTooShort =>
    "registry config: entry_ttl must exceed heartbeat_interval; using three intervals"
  | noOpTimeout => "store config: op_timeout_ms is 0; using 500ms"
  | zeroLimits => "rate limit config: zero capacity or refill; rate limiting disabled"

/-- A text of the file, trimmed, unless it is blank. -/
def FileSettings.nonBlank? (text : Option String) : Option String :=
  text.bind Text.nonBlank?

namespace Settings

open FileSettings

/-- The settings of a file, with standard values for the rest. An instance without a name is named
    after its machine, or else takes the spare name. -/
def ofFile (file : FileSettings) (env : Environment) (spare : InstanceId) : Settings where
  id := ((nonBlank? file.id).map InstanceId.mk).getD (env.machine?.getD spare)
  backend := ((nonBlank? file.backend).bind Backend.ofText?).getD .memory
  redisUrl := (nonBlank? file.redisUrl).getD "redis://127.0.0.1:6379"
  opTimeout := file.opTimeout.getD 500
  broadcastTopic := (nonBlank? file.broadcastTopic).getD Topics.standard.broadcast
  instanceTopicStart := (nonBlank? file.instanceTopicStart).getD Topics.standard.instanceStart
  queueCapacity := file.queueCapacity.getD 1024
  entryTtl := file.entryTtl.getD 90
  heartbeat := file.heartbeat.getD 30
  livenessTtl := file.livenessTtl.getD 60
  reap := file.reap.getD 60
  limited := file.limited.getD true
  limitCapacity := file.limitCapacity.getD 100
  refillPerMinute := file.refillPerMinute.getD 200
  idleTtl := file.idleTtl.getD 300
  metricsBind := nonBlank? file.metricsBind
  healthBind := nonBlank? file.healthBind

/-- What there is to warn about in a file. -/
def fileWarnings (file : FileSettings) : List ConfigWarning :=
  match nonBlank? file.backend with
  | none => []
  | some name => if (Backend.ofText? name).isSome then [] else [.unknownBackend]

/-- The settings with what the environment says instead. -/
def override (s : Settings) (env : Environment) : Settings where
  id := ((env.text? "CHATMESH_INSTANCE_ID").map InstanceId.mk).getD s.id
  backend := ((env.text? "CHATMESH_STORE_BACKEND").bind Backend.ofText?).getD s.backend
  redisUrl := (env.text? "CHATMESH_REDIS_URL").getD s.redisUrl
  opTimeout := (env.wide? "CHATMESH_STORE_OP_TIMEOUT_MS").getD s.opTimeout
  broadcastTopic := (env.text? "CHATMESH_BROADCAST_TOPIC").getD s.broadcastTopic
  instanceTopicStart := (env.text? "CHATMESH_INSTANCE_TOPIC_PREFIX").getD s.instanceTopicStart
  queueCapacity := s.queueCapacity
  entryTtl := (env.wide? "CHATMESH_REGISTRY_ENTRY_TTL_SECS").getD s.entryTtl
  heartbeat := (env.wide? "CHATMESH_HEARTBEAT_INTERVAL_SECS").getD s.heartbeat
  livenessTtl := (env.wide? "CHATMESH_LIVENESS_TTL_SECS").getD s.livenessTtl
  reap := (env.wide? "CHATMESH_REAP_INTERVAL_SECS").getD s.reap
  limited := (env.flag? "CHATMESH_RATE_LIMIT_ENABLED").getD s.limited
  limitCapacity := (env.narrow? "CHATMESH_RATE_LIMIT_CAPACITY").getD s.limitCapacity
  refillPerMinute := (env.narrow? "CHATMESH_RATE_LIMIT_REFILL_PER_MINUTE").getD s.refillPerMinute
  idleTtl := (env.wide? "CHATMESH_RATE_LIMIT_IDLE_TTL_SECS").getD s.idleTtl
  metricsBind := (env.text? "CHATMESH_METRICS_BIND").or s.metricsBind
  healthBind := (env.text? "CHATMESH_HEALTH_BIND").or s.healthBind

/-- What there is to warn about in the environment. -/
def environmentWarnings (env : Environment) : List ConfigWarning :=
  match env.text? "CHATMESH_STORE_BACKEND" with
  | none => []
  | some name => if (Backend.ofText? name).isSome then [] else [.unknownBackendInEnvironment]

/-- The heartbeat after repair. -/
def soundHeartbeat (s : Settings) : Nat :=
  max 1 s.heartbeat

/-- An interval that has to be longer than the heartbeat, or so many heartbeats if it is not.
    There is none if so many are longer than an interval can be. -/
def longEnough? (interval heartbeat times : Nat) : Option Nat :=
  if interval ≤ heartbeat then
    if times * heartbeat < UInt64.size then some (times * heartbeat) else none
  else some interval

/-- Limits that admit nothing are no limits. -/
def zeroLimits (s : Settings) : Bool :=
  s.limitCapacity = 0 || s.refillPerMinute = 0

/-- The settings with intervals under which nothing that is alive expires. -/
def repaired? (s : Settings) : Option Settings := do
  -- All other intervals are measured against the repaired heartbeat.
  let livenessTtl ← longEnough? s.livenessTtl s.soundHeartbeat 2
  let entryTtl ← longEnough? s.entryTtl s.soundHeartbeat 3
  return { s with
    heartbeat := s.soundHeartbeat
    livenessTtl
    reap := max s.soundHeartbeat s.reap
    entryTtl
    opTimeout := if s.opTimeout = 0 then 500 else s.opTimeout
    limited := s.limited && !s.zeroLimits }

/-- What the repair has to warn about. -/
def repairs (s : Settings) : List ConfigWarning :=
  let found (wrong : Bool) (warning : ConfigWarning) := if wrong then [warning] else []
  found (s.heartbeat < 1) .heartbeatTooShort
    ++ found (s.livenessTtl ≤ s.soundHeartbeat) .livenessTtlTooShort
    ++ found (s.reap < s.soundHeartbeat) .reapTooShort
    ++ found (s.entryTtl ≤ s.soundHeartbeat) .entryTtlTooShort
    ++ found (s.opTimeout = 0) .noOpTimeout
    ++ found (s.limited && s.zeroLimits) .zeroLimits

/-- The settings before repair. -/
def gathered (file : FileSettings) (env : Environment) (spare : InstanceId) : Settings :=
  (ofFile file env spare).override env

/-- The settings of an instance, and what there is to warn about. -/
def load (content : FileContent) (env : Environment) (spare : InstanceId) :
    Except LoadError (Settings × List ConfigWarning) :=
  match content.settings with
  | .error e => .error e
  | .ok file =>
    let gathered := gathered file env spare
    match gathered.repaired? with
    | none => .error .overflow
    | some s => .ok (s, fileWarnings file ++ environmentWarnings env ++ gathered.repairs)

/-- The topics of the cluster. -/
def topics (s : Settings) : Topics :=
  { broadcast := s.broadcastTopic, instanceStart := s.instanceTopicStart }

/-- The intervals of liveness. -/
def liveness (s : Settings) : LivenessSettings :=
  { heartbeat := 1000 * s.heartbeat, ttl := 1000 * s.livenessTtl, reap := 1000 * s.reap }

/-- The limits of senders. -/
def limits {Q : Type} [Amount Q] (s : Settings) : LimitSettings Q :=
  { LimitSettings.perMinute s.limitCapacity s.refillPerMinute with
    enabled := s.limited, idleTtl := 1000 * s.idleTtl }

/-- What an instance is told. -/
def profile (s : Settings) : Profile :=
  { id := s.id, topics := s.topics, entryTtl := 1000 * s.entryTtl, liveness := s.liveness,
    limits := s.limits }

end Settings

end ChatCluster
