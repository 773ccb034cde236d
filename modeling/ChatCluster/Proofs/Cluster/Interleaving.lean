import ChatCluster.Proofs.Instance.Footprint
import Mathlib.Data.List.Induction

/-!
# Operations in Any Order

Operations that have been begun, at one instance or at several, take their steps in any order, and
between two steps anything else may happen. What has been done is kept on record: every step, with
the cluster that it met. So what is to be said about such a course can be said about the record,
about which step came before which and what each was told.

Nothing here says when an operation begins. One that has begun and has not taken a step is as good
as one that has not begun, so a fixed list of operations covers all of these cases.

What obeys its rules when it is begun obeys them to the end, whoever acts in between
(`Interplay.conducts_run`). What an operation may do depends on what it remembers, and what it
remembers it has learnt at a step that is on record (`Rules.exists_of_notes`).

## Main definitions

* `Outside`, `Cluster.befall`: What happens apart from the operations.
* `Errand`, `Moment`: An operation that has been begun, and a step that has been taken.
* `Interplay`, `Interplay.turn`, `Interplay.run`: What has been begun, and how it goes on.
* `Rules.notes`: What an operation remembers of the record.
* `Interplay.Conducts`: An operation obeys its rules, and has done so.

## Theorems

* `Interplay.run_induction`: What every turn preserves holds in the end.
* `Interplay.Numbered.run`: Whatever is on record was done by one of the operations.
* `Interplay.conducts_run`: Operations go on obeying.
* `Rules.exists_of_notes`: What is remembered was learnt.
-/

namespace ChatCluster

/-- What happens around it. -/
inductive Outside where
  /-- An instance takes a step of something else. -/
  | step (other : Nat) (e : Effect)
  /-- The client at an outbound queue leaves. -/
  | hangUp (queue : Nat)
  /-- Time passes for the store. -/
  | wait (ms : Nat)
  /-- The clock of an instance shows another time. -/
  | setClock (other : Nat) (time : Int64)

/-- Nobody writes to a key. -/
def Outside.Avoids (key : String) : Outside → Prop
  | .step _ e => e.writes? ≠ some key
  | .hangUp _ | .wait _ | .setClock _ _ => True

namespace Cluster

/-- What comes of it. -/
def befall (c : Cluster) : Outside → Cluster
  | .step other e => (c.perform other e).2
  | .hangUp queue => c.updateQueue queue Mailbox.closeReceiver
  | .wait ms => { c with now := c.now + ms }
  | .setClock other time => c.updateHost other fun h => { h with clock := time }

variable {c : Cluster} {host : Nat} {o : Outside}

theorem profile?_befall (o : Outside) : (c.befall o).profile? host = c.profile? host := by
  cases o with
  | step other e => exact profile?_perform c other host e
  | hangUp | wait => rfl
  | setClock other time => exact profile?_updateHost c other host fun _ => rfl

theorem fault_befall (o : Outside) : (c.befall o).store.fault = c.store.fault := by
  cases o with
  | step other e => exact fault_perform c other e
  | hangUp | wait | setClock => rfl

theorem isOpen_of_befall {session : SessionHandle} (h : (c.befall o).isOpen session = true) :
    c.isOpen session = true := by
  cases o with
  | step other e => exact (isOpen_perform c other e session).symm.trans h
  | hangUp queue => exact isOpen_of_hangUp h
  | wait | setClock => exact h

theorem seen_of_befall {key : String} {slot : Slot} (havoids : o.Avoids key)
    (h : (c.befall o).seen key = some slot) : c.seen key = some slot := by
  cases o with
  | step other e => exact (seen_perform_of_ne havoids c other).symm.trans h
  | hangUp | setClock => exact h
  | wait ms =>
    rw [befall, seen_wait] at h
    exact Option.eq_some_of_filter_eq_some h

end Cluster

/-- An operation that has been begun. -/
structure Errand (α : Type) where
  /-- The number of the instance. -/
  host : Nat
  /-- What is still to be done. -/
  rest : Operation α

/-- A step that has been taken. -/
structure Moment where
  /-- The number of the operation. -/
  errand : Nat
  /-- The number of the instance. -/
  host : Nat
  /-- The cluster that the step met. -/
  before : Cluster
  effect : Effect

namespace Moment

/-- What the step was told. -/
def reply (m : Moment) : m.effect.Reply :=
  (m.before.perform m.host m.effect).1

/-- The cluster that the step left. -/
def after (m : Moment) : Cluster :=
  (m.before.perform m.host m.effect).2

end Moment

/-! ## Positions in the record -/

section Positions

variable {past : List Moment} {m new : Moment} {k : Nat}

theorem getElem?_concat_iff :
    (past ++ [new])[k]? = some m ↔ past[k]? = some m ∨ k = past.length ∧ m = new := by
  rcases Nat.lt_trichotomy k past.length with hlt | heq | hgt
  · rw [List.getElem?_append_left hlt]
    exact ⟨Or.inl, fun h => h.resolve_right fun hlast => by omega⟩
  · subst heq
    rw [List.getElem?_concat_length, List.getElem?_eq_none (Nat.le_refl _)]
    simp only [Option.some.injEq, reduceCtorEq, false_or, true_and, eq_comm]
  · rw [List.getElem?_eq_none (by rw [List.length_append, List.length_singleton]; omega),
      List.getElem?_eq_none (by omega)]
    simp only [reduceCtorEq, false_or, false_iff, not_and]
    omega

theorem getElem?_take_eq_some {n : Nat} (h : (past.take n)[k]? = some m) :
    k < n ∧ past[k]? = some m ∧ (past.take n).take k = past.take k := by
  rw [List.getElem?_take] at h
  split at h
  · next hk => exact ⟨hk, h, by rw [List.take_take, Nat.min_eq_left (Nat.le_of_lt hk)]⟩
  · cases h

theorem take_concat_of_le (h : k ≤ past.length) : (past ++ [new]).take k = past.take k :=
  List.take_append_of_le_length h

end Positions

/-! ## Operations under way -/

/-- Operations that have been begun in a cluster. -/
structure Interplay (α : Type) where
  cluster : Cluster
  /-- The operations, as far as they are still to be done. -/
  errands : List (Errand α)
  /-- The steps that they have taken, earliest first. -/
  past : List Moment

/-- What happens next. -/
inductive Turn where
  | step (i : Nat)
  | outside (o : Outside)

namespace Interplay

variable {α : Type}

/-- Operations that have taken no step. -/
def begin (c : Cluster) (errands : List (Errand α)) : Interplay α :=
  { cluster := c, errands, past := [] }

/-- The next step of an operation. -/
def step (s : Interplay α) (i : Nat) : Interplay α :=
  match s.errands[i]? with
  | some ⟨host, .ask e next⟩ =>
    let m : Moment := ⟨i, host, s.cluster, e⟩
    { cluster := m.after
      errands := s.errands.set i ⟨host, next m.reply⟩
      past := s.past ++ [m] }
  | some ⟨_, .done _⟩ | none => s

/-- What comes of what happens next. -/
def turn (s : Interplay α) : Turn → Interplay α
  | .step i => s.step i
  | .outside o => { s with cluster := s.cluster.befall o }

/-- What comes of several things, one after another. -/
def run (s : Interplay α) (events : List Turn) : Interplay α :=
  events.foldl turn s

/-- The next step of an operation, if it is not done. -/
def next? (s : Interplay α) (i : Nat) : Option Effect :=
  match s.errands[i]? with
  | some ⟨_, .ask e _⟩ => some e
  | some ⟨_, .done _⟩ | none => none

/-- What an operation has ended with. -/
def result? (s : Interplay α) (i : Nat) : Option α :=
  match s.errands[i]? with
  | some ⟨_, .done a⟩ => some a
  | some ⟨_, .ask _ _⟩ | none => none

/-- The step with a given number was taken by an operation. -/
def Took (s : Interplay α) (k i : Nat) (e : Effect) : Prop :=
  ∃ m, s.past[k]? = some m ∧ m.errand = i ∧ m.effect = e

/-! ## Turns -/

variable {s : Interplay α}

/-- A step is taken and put on record, or there is none left to take. -/
theorem step_cases (s : Interplay α) (i : Nat) :
    s.step i = s ∨
      ∃ host e next, s.errands[i]? = some ⟨host, .ask e next⟩ ∧
        s.step i =
          { cluster := (Moment.mk i host s.cluster e).after
            errands := s.errands.set i ⟨host, next (Moment.mk i host s.cluster e).reply⟩
            past := s.past ++ [⟨i, host, s.cluster, e⟩] } := by
  rw [step]
  split
  · next host e next herrand => exact Or.inr ⟨host, e, next, herrand, rfl⟩
  · exact Or.inl rfl
  · exact Or.inl rfl

/-- What every turn preserves holds in the end. -/
theorem run_induction {P : Interplay α → Prop} {events : List Turn} (h : P s)
    (hstep : ∀ s i, .step i ∈ events → P s → P (s.step i))
    (houtside : ∀ (s : Interplay α) o, .outside o ∈ events → P s →
      P { s with cluster := s.cluster.befall o }) : P (s.run events) := by
  induction events generalizing s with
  | nil => exact h
  | cons event rest ih =>
    have hfirst : P (s.turn event) := by
      cases event with
      | step i => exact hstep s i List.mem_cons_self h
      | outside o => exact houtside s o List.mem_cons_self h
    exact ih hfirst (fun s i hi => hstep s i (List.mem_cons_of_mem event hi))
      fun s o ho => houtside s o (List.mem_cons_of_mem event ho)

theorem length_step (s : Interplay α) (i : Nat) :
    (s.step i).errands.length = s.errands.length := by
  rcases s.step_cases i with hsame | ⟨host, e, next, _, hstep⟩
  · rw [hsame]
  · rw [hstep]
    exact List.length_set

/-- Whatever is on record was done by an operation of the list. -/
def Numbered (s : Interplay α) : Prop :=
  ∀ (k : Nat) m, s.past[k]? = some m → m.errand < s.errands.length

theorem numbered_begin (c : Cluster) (errands : List (Errand α)) : (begin c errands).Numbered :=
  fun _ _ hm => by cases hm

theorem Numbered.step (h : s.Numbered) (i : Nat) : (s.step i).Numbered := by
  intro k m hm
  rw [s.length_step i]
  rcases s.step_cases i with hsame | ⟨host, e, next, herrand, hstep⟩
  · rw [hsame] at hm
    exact h k m hm
  · rw [hstep] at hm
    rcases getElem?_concat_iff.1 hm with hold | ⟨_, rfl⟩
    · exact h k m hold
    · exact (List.getElem?_eq_some_iff.1 herrand).1

theorem Numbered.run (h : s.Numbered) (events : List Turn) : (s.run events).Numbered :=
  run_induction (P := Numbered) h (fun _ i _ h => h.step i) fun _ _ _ h => h

theorem fault_step (s : Interplay α) (i : Nat) :
    (s.step i).cluster.store.fault = s.cluster.store.fault := by
  rcases s.step_cases i with hsame | ⟨host, e, next, _, hstep⟩
  · rw [hsame]
  · rw [hstep]
    exact Cluster.fault_perform s.cluster host e

end Interplay

/-! ## What operations remember -/

namespace Rules

variable {σ : Type} (rules : Rules σ) (start : σ) (i : Nat)

/-- What an operation remembers of the record. It remembers its own steps. -/
def notes (past : List Moment) : σ :=
  past.foldl (fun n m => if m.errand = i then rules.after n m.effect m.reply else n) start

theorem notes_concat (past : List Moment) (m : Moment) :
    rules.notes start i (past ++ [m]) =
      if m.errand = i then rules.after (rules.notes start i past) m.effect m.reply
      else rules.notes start i past :=
  List.foldl_concat _ _ _ _

variable {rules start i}

/-- What is remembered now and was not remembered in the beginning was learnt at some step. -/
theorem exists_of_notes {P : σ → Prop} {past : List Moment} (hstart : ¬P start)
    (h : P (rules.notes start i past)) :
    ∃ k m, past[k]? = some m ∧ m.errand = i ∧ ¬P (rules.notes start i (past.take k)) ∧
      P (rules.after (rules.notes start i (past.take k)) m.effect m.reply) := by
  induction past using List.reverseRecOn with
  | nil => exact absurd h hstart
  | append_singleton past new ih =>
    by_cases hbefore : P (rules.notes start i past)
    · rcases ih hbefore with ⟨k, m, hm, hlearnt⟩
      have hk : k < past.length := (List.getElem?_eq_some_iff.1 hm).1
      refine ⟨k, m, getElem?_concat_iff.2 (Or.inl hm), ?_⟩
      rwa [take_concat_of_le (Nat.le_of_lt hk)]
    · rw [notes_concat] at h
      split at h
      · next hnew =>
        refine ⟨past.length, new, getElem?_concat_iff.2 (Or.inr ⟨rfl, rfl⟩), hnew, ?_⟩
        rw [take_concat_of_le (Nat.le_refl _), List.take_length]
        exact ⟨hbefore, h⟩
      · exact absurd h hbefore

end Rules

/-! ## Operations that obey -/

namespace Interplay

variable {σ α : Type} {s : Interplay α} {i host : Nat} {rules : Rules σ} {start : σ}
  {post : σ → α → Prop}

/-- An operation obeys its rules with what it remembers, and each of its steps was allowed. -/
structure Conducts (s : Interplay α) (i host : Nat) (rules : Rules σ) (start : σ)
    (post : σ → α → Prop) : Prop where
  rest : ∃ rest, s.errands[i]? = some ⟨host, rest⟩ ∧
    rules.Obeys (rules.notes start i s.past) rest post
  allowed : ∀ k m, s.past[k]? = some m → m.errand = i →
    m.host = host ∧ rules.allows (rules.notes start i (s.past.take k)) m.effect

theorem conducts_begin {c : Cluster} {errands : List (Errand α)} {op : Operation α}
    (herrand : errands[i]? = some ⟨host, op⟩) (h : rules.Obeys start op post) :
    (begin c errands).Conducts i host rules start post where
  rest := ⟨op, herrand, h⟩
  allowed k m hm := absurd hm (by simp only [begin, List.getElem?_nil, reduceCtorEq,
    not_false_eq_true])

theorem Conducts.step (h : s.Conducts i host rules start post)
    (hpossible : ∀ e, rules.possible e (s.cluster.perform host e).1) (j : Nat) :
    (s.step j).Conducts i host rules start post := by
  rcases s.step_cases j with hsame | ⟨host', e, next, herrand, hstep⟩
  · rw [hsame]
    exact h
  · rcases h.rest with ⟨rest, hrest, hobeys⟩
    have hpast : (s.step j).past = s.past ++ [⟨j, host', s.cluster, e⟩] := congrArg past hstep
    refine ⟨?_, fun k m hm hi => ?_⟩
    · rw [hpast, Rules.notes_concat]
      -- The one that steps is told something possible, and the others remember nothing new.
      by_cases hj : j = i
      · subst hj
        cases herrand.symm.trans hrest
        refine ⟨next (Moment.mk j host s.cluster e).reply, ?_, ?_⟩
        · rw [hstep]
          exact List.getElem?_set_self (List.getElem?_eq_some_iff.1 hrest).1
        · rw [if_pos rfl]
          exact hobeys.2 _ (hpossible e)
      · refine ⟨rest, ?_, ?_⟩
        · rw [hstep]
          exact (List.getElem?_set_ne hj).trans hrest
        · rw [if_neg hj]
          exact hobeys
    · rw [hpast] at hm ⊢
      rcases getElem?_concat_iff.1 hm with hbefore | ⟨rfl, rfl⟩
      · have hk : k < s.past.length := (List.getElem?_eq_some_iff.1 hbefore).1
        rw [take_concat_of_le (Nat.le_of_lt hk)]
        exact h.allowed k m hbefore hi
      · cases hi
        cases herrand.symm.trans hrest
        rw [take_concat_of_le (Nat.le_refl _), List.take_length]
        exact ⟨rfl, hobeys.1⟩

theorem Conducts.outside (h : s.Conducts i host rules start post) (o : Outside) :
    ({ s with cluster := s.cluster.befall o } : Interplay α).Conducts i host rules start post :=
  ⟨h.rest, h.allowed⟩

/-- Operations go on obeying, as long as they are told what is possible on a store that fails as
    this one does. -/
theorem conducts_run (h : s.Conducts i host rules start post)
    (hpossible : ∀ c : Cluster, c.store.fault = s.cluster.store.fault →
      ∀ e, rules.possible e (c.perform host e).1) (events : List Turn) :
    (s.run events).Conducts i host rules start post := by
  have hboth : (s.run events).Conducts i host rules start post ∧
      (s.run events).cluster.store.fault = s.cluster.store.fault := by
    refine run_induction (P := fun t => t.Conducts i host rules start post ∧
      t.cluster.store.fault = s.cluster.store.fault) ⟨h, rfl⟩ ?_ ?_
    · rintro t j _ ⟨hconducts, hfault⟩
      exact ⟨hconducts.step (hpossible t.cluster hfault) j, (t.fault_step j).trans hfault⟩
    · rintro t o _ ⟨hconducts, hfault⟩
      exact ⟨hconducts.outside o, (Cluster.fault_befall o).trans hfault⟩
  exact hboth.1

end Interplay

end ChatCluster
