import ChatCluster.Decimal.Duration
import ChatCluster.Identity

/-!
# Topics

Instances talk over a bus of topics. Every instance listens on a topic of its own, where the
messages for its users arrive, and all of them listen on one for notices to everybody.

## Main definitions

* `Topics`: The names of the topics.
* `Topics.ofInstance`: The topic of one instance.
* `BusError`: Why a frame was not published, and its wording.
-/

namespace ChatCluster

/-- The names of the topics of one cluster. -/
structure Topics where
  /-- The topic that every instance listens on. -/
  broadcast : String
  /-- What the topic of an instance begins with. -/
  instanceStart : String
  deriving DecidableEq, Repr

/-- The names a cluster uses unless it is told otherwise. -/
def Topics.standard : Topics :=
  { broadcast := "chat.broadcast", instanceStart := "chat.instance." }

instance : Inhabited Topics := ⟨Topics.standard⟩

/-- The topic of one instance. -/
def Topics.ofInstance (t : Topics) (id : InstanceId) : String :=
  t.instanceStart ++ id.text

/-- Why a frame was not published. -/
inductive BusError where
  /-- The bus cannot be reached. -/
  | unavailable (reason : String)
  /-- The bus did not answer within so many milliseconds. -/
  | timeout (limit : Nat)
  deriving DecidableEq, Repr

/-- The wording of a failure. -/
def BusError.message : BusError → String
  | .unavailable reason => "bus unavailable: " ++ reason
  | .timeout limit => "bus call timed out after " ++ Decimal.durationText limit

end ChatCluster
