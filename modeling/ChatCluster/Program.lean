/-!
# Programs

A computation that asks its surroundings for things is kept as data: either it is done and has a
result, or it asks for one thing and says how it goes on for every possible reply. What asking
means is left open. One reading answers every question at once from a state; another stops after
each one, so that other programs run in between or the reply is a failure. All of them run the
same program.

Every program ends, whatever it is told, because the type is inductive.

## Main definitions

* `Program`: A computation that asks.
* `Program.bind`: One computation after another.
* `Program.request`: The program that asks one thing and returns the reply.

## Theorems

* `Program` is a lawful monad.
-/

namespace ChatCluster

/-- A computation that asks for things of type `Ask`, each of which is answered by a value of its
    own reply type. -/
inductive Program (Ask : Type) (Reply : Ask → Type) (α : Type) where
  /-- The computation is done. -/
  | done (result : α)
  /-- The computation asks, and goes on with the reply. -/
  | ask (question : Ask) (next : Reply question → Program Ask Reply α)

namespace Program

variable {Ask : Type} {Reply : Ask → Type} {α β γ : Type}

/-- One computation, and then another that is given its result. -/
def bind : Program Ask Reply α → (α → Program Ask Reply β) → Program Ask Reply β
  | done a, f => f a
  | ask q next, f => ask q fun reply => (next reply).bind f

instance : Monad (Program Ask Reply) where
  pure := done
  bind := bind

/-- Asks one thing. -/
def request (q : Ask) : Program Ask Reply (Reply q) :=
  ask q done

@[simp] theorem ask_bind (q : Ask) (next : Reply q → Program Ask Reply α)
    (f : α → Program Ask Reply β) : (ask q next >>= f) = ask q fun reply => next reply >>= f := rfl

theorem bind_done (p : Program Ask Reply α) : p >>= done = p := by
  induction p with
  | done a => rfl
  | ask q next ih => exact congrArg (ask q) (funext ih)

theorem bind_assoc (p : Program Ask Reply α) (f : α → Program Ask Reply β)
    (g : β → Program Ask Reply γ) : p >>= f >>= g = p >>= fun a => f a >>= g := by
  induction p with
  | done a => rfl
  | ask q next ih => exact congrArg (ask q) (funext ih)

instance : LawfulMonad (Program Ask Reply) :=
  LawfulMonad.mk' _ bind_done (fun _ _ => rfl) (fun p f g => bind_assoc p f g)

end Program

end ChatCluster
