import ChatCluster.Config.Settings
import ChatCluster.Service.CommandLine
import ChatCluster.Service.SocketAddress
import ChatCluster.Service.Uri

/-!
# Starting Up

What happens between the start of the program and the start of its instance. Settings are loaded,
the addresses of its two side services are looked at, and the shared store is connected to. A side
service with a bad address is left out with a warning; without settings or store there is no
instance.

Everything that is found outside is part of the question, so the answer is a plain function of it.

## Main definitions

* `Surroundings`: What is found outside.
* `StartWarning`, `StartFailure`: What people are told.
* `Startup`: How far the program gets.
* `Surroundings.start`: Starting up.
-/

namespace ChatCluster

/-- What is found outside the program when it starts. -/
structure Surroundings where
  /-- The variables of the process. -/
  env : Environment
  /-- The home directory. -/
  home : Option String
  /-- What is found at a path. -/
  file : String → FileContent
  /-- Whether a server for shared state answers at an address. -/
  reachable : String → Bool

/-- What people are warned about while the program starts. -/
inductive StartWarning where
  | noTracing
  | settings (w : ConfigWarning)
  | badMetricsAddress
  | badHealthAddress
  deriving DecidableEq, Repr

/-- The wording of a warning. -/
def StartWarning.text : StartWarning → String
  | noTracing => "failed to initialize otlp tracing"
  | settings w => w.text
  | badMetricsAddress => "invalid metrics bind address (expected host:port)"
  | badHealthAddress => "invalid health bind address (expected host:port)"

/-- Why there is no instance. -/
inductive StartFailure where
  /-- There is no home directory to look for settings in. -/
  | noHome
  /-- There are no settings. -/
  | settings (path : String) (e : LoadError)
  /-- The shared store does not answer. -/
  | store
  deriving DecidableEq, Repr

/-- The first line about a failure. -/
def StartFailure.text : StartFailure → String
  | noHome => "Error: could not determine home directory"
  | settings _ .overflow => "overflow when multiplying duration by scalar"
  | settings path _ => "Error: read config from " ++ path
  | store => "Error: connect redis store"

/-- The exit code after a failure. -/
def StartFailure.exitCode : StartFailure → Nat
  | settings _ .overflow => 101
  | _ => 1

/-- How far the program gets. -/
structure Startup where
  /-- Traces are exported. -/
  tracing : Bool
  /-- The settings, if they could be loaded. -/
  settings : Option Settings
  /-- What people are warned about, in order. -/
  warnings : List StartWarning
  /-- Why there is no instance, if there is none. -/
  failure : Option StartFailure

namespace Surroundings

/-- The variables of the process that are ever looked at. -/
def variableNames : List String :=
  ["HOSTNAME", "OTEL_EXPORTER_OTLP_ENDPOINT", "CHATMESH_INSTANCE_ID", "CHATMESH_STORE_BACKEND",
   "CHATMESH_REDIS_URL", "CHATMESH_STORE_OP_TIMEOUT_MS", "CHATMESH_BROADCAST_TOPIC",
   "CHATMESH_INSTANCE_TOPIC_PREFIX", "CHATMESH_REGISTRY_ENTRY_TTL_SECS",
   "CHATMESH_HEARTBEAT_INTERVAL_SECS", "CHATMESH_LIVENESS_TTL_SECS",
   "CHATMESH_REAP_INTERVAL_SECS", "CHATMESH_RATE_LIMIT_ENABLED", "CHATMESH_RATE_LIMIT_CAPACITY",
   "CHATMESH_RATE_LIMIT_REFILL_PER_MINUTE", "CHATMESH_RATE_LIMIT_IDLE_TTL_SECS",
   "CHATMESH_METRICS_BIND", "CHATMESH_HEALTH_BIND"]

/-- Where traces are to be exported to. -/
def tracingEndpoint? (s : Surroundings) : Option String :=
  s.env.text? "OTEL_EXPORTER_OTLP_ENDPOINT"

/-- Traces are exported: there is an endpoint, and it is a web address. -/
def tracing (s : Surroundings) : Bool :=
  (s.tracingEndpoint?.bind Uri.parse?).isSome

/-- Warns about an endpoint that is no web address. -/
def tracingWarnings (s : Surroundings) : List StartWarning :=
  if s.tracingEndpoint?.isSome && !s.tracing then [.noTracing] else []

/-- Warns about an address to listen on that is none. -/
def bindWarnings (bind : Option String) (warning : StartWarning) : List StartWarning :=
  if bind.all SocketAddress.isSocketAddress then [] else [warning]

/-- The shared state that the settings ask for can be had. -/
def connects (s : Surroundings) (settings : Settings) : Bool :=
  match settings.backend with
  | .memory => true
  | .redis => s.reachable settings.redisUrl

/-- Starting up with settings that could be loaded. -/
def startWith (s : Surroundings) (settings : Settings) (warnings : List ConfigWarning) :
    Startup where
  tracing := s.tracing
  settings := some settings
  warnings := s.tracingWarnings ++ warnings.map .settings
    ++ bindWarnings settings.metricsBind .badMetricsAddress
    ++ bindWarnings settings.healthBind .badHealthAddress
  failure := if s.connects settings then none else some .store

/-- Starting up fails before there are settings. -/
def failing (s : Surroundings) (failure : StartFailure) : Startup where
  tracing := s.tracing
  settings := none
  warnings := s.tracingWarnings
  failure := some failure

/-- Starting up, with the path of the settings file if the command line names one. -/
def start (s : Surroundings) (path : Option String) (spare : InstanceId) : Startup :=
  match path.or (s.home.map CommandLine.standardPath) with
  | none => s.failing .noHome
  | some path =>
    match Settings.load (s.file path) s.env spare with
    | .error e => s.failing (.settings path e)
    | .ok (settings, warnings) => s.startWith settings warnings

end Surroundings

end ChatCluster
