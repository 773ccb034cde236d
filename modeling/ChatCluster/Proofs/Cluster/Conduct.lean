import ChatCluster.Instance.Effect

/-!
# Conduct

What an operation may do, whatever goes on around it. Between two of its steps other instances act,
so nothing can be said about the replies it gets but what holds in every state. Some things about
its own steps can still be said: that it offers a message only to a session it has looked up, or
that it serves nobody twice. Such rules need a memory, and the memory is all that is carried along
from step to step.

`Rules.Obeys` follows the structure of programs. Every step has to be allowed by what is
remembered, and for each reply that is possible the rest has to obey with what is remembered then.
The state of the cluster does not occur in it, so what obeys goes on obeying while others act.

## Main definitions

* `Rules`: What is allowed, which replies are possible, and what is remembered.
* `Rules.Obeys`: Every step of an operation is allowed.

## Theorems

* `Rules.obeys_bind`: One operation after another.
* `Rules.Obeys.mono`: The result may be forgotten in part.
-/

namespace ChatCluster

/-- Rules for the steps of operations, with a memory of type `σ`. -/
structure Rules (σ : Type) where
  /-- The step is allowed. -/
  allows : σ → Effect → Prop
  /-- The step may have the reply. -/
  possible : (e : Effect) → e.Reply → Prop
  /-- What is remembered after a step and its reply. -/
  after : σ → (e : Effect) → e.Reply → σ

namespace Rules

variable {σ α β : Type} (rules : Rules σ)

/-- Every step of the operation is allowed, and what it ends with is as stated. -/
def Obeys : σ → Operation α → (σ → α → Prop) → Prop
  | s, .done a, post => post s a
  | s, .ask e next, post =>
    rules.allows s e ∧
      ∀ reply, rules.possible e reply → Obeys (rules.after s e reply) (next reply) post

variable {rules} {s : σ} {post : σ → α → Prop}

theorem Obeys.mono {op : Operation α} {weaker : σ → α → Prop} (h : rules.Obeys s op post)
    (himp : ∀ s a, post s a → weaker s a) : rules.Obeys s op weaker := by
  induction op generalizing s with
  | done a => exact himp s a h
  | ask e next ih => exact ⟨h.1, fun reply hreply => ih reply (h.2 reply hreply)⟩

/-- What comes second has to obey with all that may be remembered after what comes first. -/
theorem obeys_bind {op : Operation α} {f : α → Operation β} {goal : σ → β → Prop}
    (h : rules.Obeys s op post) (hf : ∀ s a, post s a → rules.Obeys s (f a) goal) :
    rules.Obeys s (op >>= f) goal := by
  induction op generalizing s with
  | done a => exact hf s a h
  | ask e next ih => exact ⟨h.1, fun reply hreply => ih reply (h.2 reply hreply)⟩

/-- A single step. -/
theorem obeys_perform {e : Effect} {goal : σ → e.Reply → Prop} (hallows : rules.allows s e)
    (hgoal : ∀ reply, rules.possible e reply → goal (rules.after s e reply) reply) :
    rules.Obeys s (Operation.perform e) goal :=
  ⟨hallows, hgoal⟩

end Rules

end ChatCluster
