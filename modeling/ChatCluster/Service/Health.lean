import ChatCluster.Service.Uri

/-!
# Health

What an instance answers when it is asked over the web how it is. It is well as long as it answers
at all, and ready once it has shown itself to the others and until it withdraws.

## Main definitions

* `Health.Response`: An answer.
* `Health.respond`: The answer to a method and a path.
* `Health.respondTo`: The answer to a method and an address.
-/

namespace ChatCluster.Health

/-- An answer. -/
structure Response where
  /-- The status code. -/
  status : Nat
  /-- The body. -/
  body : String
  deriving DecidableEq, Repr

/-- The answer to a method and a path. -/
def respond (ready : Bool) (method path : String) : Response :=
  if method ≠ "GET" then ⟨405, ""⟩
  else if path = "/healthz" then ⟨200, "ok"⟩
  else if path = "/readyz" then if ready then ⟨200, "ready"⟩ else ⟨503, "not-ready"⟩
  else ⟨404, ""⟩

/-- The answer to a method and the address that was asked for, if it is one. -/
def respondTo (ready : Bool) (method address : String) : Option Response :=
  (Uri.parse? address).map fun uri => respond ready method uri.target

end ChatCluster.Health
