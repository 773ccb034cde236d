import ChatCluster.Proofs.Cluster.Interleaving
import ChatCluster.Proofs.Liveness.Reaping
import ChatCluster.Proofs.Liveness.Signs
import ChatCluster.Proofs.Registry.Ownership

/-!
# Reaping While Others Act

A reap pass is made of many calls, and others act between them. They give signs of life, they write
entries anew and they delete them. The set of live instances that the pass has read may be out of
date when it gets to an entry, and so may the text that it has read of the entry.

What the pass deletes was due all the same. It has read the entry twice with the same text, and
between these two looks it has looked for the record of the owner and found none, or the text names
no owner. The owner was not listed when the pass began, and is not the one who reaps. All this is
said about the replies that the pass got, so it holds whatever the others do. That a text read
before is still there when the entry is deleted takes one thing more: nobody may come in between the
second look and the deletion.

The pass remembers everything that it was told. What it may do at an entry depends on what it did
there before (`reaping`), and the pass keeps to that by induction on the entries that are left.

## Main definitions

* `Told`, `Moment.told`: A step and its reply.
* `Due`, `reaping`: When an entry may be deleted, and the rules of the pass.
* `Interplay.undisturbed`, `Interplay.Unbroken`: Nobody comes in right before a deletion.
* `Condemned`: Why an entry was deleted.

## Theorems

* `reaping_reapEach`, `reaping_reap`: The pass keeps its rules.
* `condemned_of_deleted`: Whatever is deleted was condemned.
* `reap_under_interference`: What a pass deletes, and what it does not.
-/

namespace ChatCluster

open Operation

/-! ## Rules -/

/-- A step and what it was told. -/
abbrev Told : Type :=
  (e : Effect) × e.Reply

/-- The step is a look at a key, or deletes it. -/
def Effect.IsAt (key : String) (e : Effect) : Prop :=
  e = .store (.get key) ∨ e = .store (.delete key)

/-- A look at a key that found something, or nothing. -/
def Told.read (key : String) (found : Option String) : Told :=
  ⟨.store (.get key), .ok found⟩

/-- A list of the keys of records. -/
def Told.listed (names : List String) : Told :=
  ⟨.store (.keys Key.livenessStart), .ok names⟩

/-- None of the steps is at a key. -/
def Untouched (key : String) (log : List Told) : Prop :=
  ∀ t ∈ log, ¬t.1.IsAt key

/-- An entry may be deleted. It was read for the first time, then its text was judged, and then it
    was read again and had not changed. An owner who is named in it is another instance than the one
    that reaps, was not listed to begin with, and had no record when the text was judged. -/
def Due (watcher : InstanceId) (key : String) (log : List Told) : Prop :=
  Text.startsWith Key.registryStart key = true ∧
    ∃ earlier text judged, log = earlier ++ [.read key (some text), judged, .read key (some text)] ∧
      Untouched key earlier ∧ ¬judged.1.IsAt key ∧
      ∀ entry, RegistryEntry.ofJson? text = some entry →
        entry.owner ≠ watcher ∧ judged = .read (Key.liveness entry.owner.text) none ∧
          ∃ names, log.head? = some (.listed names) ∧
            entry.owner ∉ names.filterMap Monitor.ofLivenessKey?

/-- The rules of a pass. An entry is read once, and then once more when it has been judged. -/
def reaping (watcher : InstanceId) : Rules (List Told) where
  allows
    | log, .store (.get key) =>
      Text.startsWith Key.registryStart key = true →
        Untouched key log ∨
          ∃ earlier text judged, log = earlier ++ [.read key (some text), judged] ∧
            Untouched key earlier
    | log, .store (.delete key) => Due watcher key log
    | _, _ => True
  possible
    | .store (.keys start), reply => ∀ names, reply = .ok names →
      List.Nodup names ∧ ∀ name ∈ names, Text.startsWith start name = true
    | _, _ => True
  after log e reply := log ++ [⟨e, reply⟩]

/-- What holds when some entries are still to come: the one that reaps counts as alive and so do
    those listed to begin with, and nothing has been done yet at the entries to come. -/
structure Ahead (watcher : InstanceId) (live : List InstanceId) (keys : List String)
    (log : List Told) : Prop where
  own : watcher ∈ live
  listed : ∃ names, log.head? = some (.listed names) ∧
    ∀ id ∈ names.filterMap Monitor.ofLivenessKey?, id ∈ live
  nodup : keys.Nodup
  entries : ∀ key ∈ keys, Text.startsWith Key.registryStart key = true
  untouched : ∀ key ∈ keys, Untouched key log

section Pass

variable {watcher : InstanceId} {key text : String} {keys : List String} {live : List InstanceId}
  {log : List Told}

theorem Untouched.concat (h : Untouched key log) {t : Told} (ht : ¬t.1.IsAt key) :
    Untouched key (log ++ [t]) := by
  intro other hother
  rcases List.mem_append.1 hother with hold | hnew
  · exact h other hold
  · rw [List.mem_singleton.1 hnew]
    exact ht

theorem Ahead.concat (h : Ahead watcher live keys log) {t : Told}
    (ht : ∀ key ∈ keys, ¬t.1.IsAt key) : Ahead watcher live keys (log ++ [t]) where
  own := h.own
  listed := by
    rcases h.listed with ⟨names, hhead, hlive⟩
    refine ⟨names, ?_, hlive⟩
    rw [List.head?_append, hhead]
    rfl
  nodup := h.nodup
  entries := h.entries
  untouched key hkey := (h.untouched key hkey).concat (ht key hkey)

theorem Ahead.tail (h : Ahead watcher live (key :: keys) log) : Ahead watcher live keys log where
  own := h.own
  listed := h.listed
  nodup := (List.nodup_cons.1 h.nodup).2
  entries other hother := h.entries other (List.mem_cons_of_mem key hother)
  untouched other hother := h.untouched other (List.mem_cons_of_mem key hother)

theorem Ahead.revived (h : Ahead watcher live keys log) (owner : InstanceId) :
    Ahead watcher (owner :: live) keys log where
  own := List.mem_cons_of_mem owner h.own
  listed := by
    rcases h.listed with ⟨names, hhead, hlive⟩
    exact ⟨names, hhead, fun id hid => List.mem_cons_of_mem owner (hlive id hid)⟩
  nodup := h.nodup
  entries := h.entries
  untouched := h.untouched

-- A step at one entry is none at those to come, since no key is listed twice.
theorem Ahead.not_isAt (h : Ahead watcher live (key :: keys) log) {e : Effect}
    (he : e = .store (.get key) ∨ e = .store (.delete key)) : ∀ other ∈ keys, ¬e.IsAt other := by
  intro other hother
  have hne : key ≠ other := fun heq => (List.nodup_cons.1 h.nodup).1 (heq ▸ hother)
  rcases he with rfl | rfl <;> simp [Effect.IsAt, hne]

theorem liveness_ne (h : Text.startsWith Key.registryStart key = true) (id : String) :
    Key.liveness id ≠ key := by
  rcases Text.exists_of_startsWith h with ⟨user, rfl⟩
  exact (Key.registry_ne_liveness user id).symm

/-- Judging takes no step, and then the entry is kept, or one that is not at an entry. An owner who
    is condemned counts as dead, and was looked for at this step and not found. -/
theorem reaping_judge (watcher : InstanceId) (log : List Told) (live : List InstanceId)
    (text : String) :
    (reaping watcher).Obeys log (Monitor.judge live text) fun log' verdict =>
      (verdict = .ok .keep ∧ log' = log) ∨
        ∃ judged, log' = log ++ [judged] ∧
          (∀ key, Text.startsWith Key.registryStart key = true → ¬judged.1.IsAt key) ∧
          (verdict = .ok .condemn → ∀ entry, RegistryEntry.ofJson? text = some entry →
            entry.owner ∉ live ∧ judged = .read (Key.liveness entry.owner.text) none) := by
  rw [Monitor.judge]
  cases hentry : RegistryEntry.ofJson? text with
  | none =>
    refine ⟨trivial, fun _ _ => Or.inr ⟨_, rfl, fun key _ => ?_, fun _ entry h => by cases h⟩⟩
    simp [Effect.IsAt]
  | some entry =>
    simp only
    split
    · exact Or.inl ⟨rfl, rfl⟩
    · next hlive =>
      have hother : ∀ key, Text.startsWith Key.registryStart key = true →
          ¬(Effect.store (.get (Key.liveness entry.owner.text))).IsAt key := by
        intro key hkey
        simp [Effect.IsAt, liveness_ne hkey]
      refine ⟨fun hstart => absurd rfl (liveness_ne hstart _), fun reply _ => ?_⟩
      rcases reply with e | _ | found
      · exact Or.inr ⟨_, rfl, hother, fun h => by cases h⟩
      · refine Or.inr ⟨_, rfl, hother, fun _ named hnamed => ?_⟩
        cases hnamed
        exact ⟨hlive, rfl⟩
      · exact Or.inr ⟨_, rfl, hother, fun h => by cases h⟩

/-- A condemned entry is read again, and deleted if it has not changed. The entries to come are not
    touched. -/
theorem reaping_deleteUnchanged (h : Ahead watcher live (key :: keys) log) {judged : Told}
    (hjudged : ∀ key, Text.startsWith Key.registryStart key = true → ¬judged.1.IsAt key)
    (hdead : ∀ entry, RegistryEntry.ofJson? text = some entry →
      entry.owner ∉ live ∧ judged = .read (Key.liveness entry.owner.text) none) :
    (reaping watcher).Obeys (log ++ [.read key (some text), judged])
      (Monitor.deleteUnchanged key text) fun log' _ => Ahead watcher live keys log' := by
  have hstart := h.entries key List.mem_cons_self
  have huntouched := h.untouched key List.mem_cons_self
  have hread : Ahead watcher live keys (log ++ [.read key (some text), judged]) := by
    rw [List.append_cons]
    exact (h.tail.concat (h.not_isAt (Or.inl rfl))).concat
      fun other hother => hjudged other (h.tail.entries other hother)
  refine ⟨fun _ => Or.inr ⟨log, text, judged, rfl, huntouched⟩, fun reply _ => ?_⟩
  have hagain := hread.concat (t := ⟨.store (.get key), reply⟩) (h.not_isAt (Or.inl rfl))
  rcases reply with e | current
  · exact hagain
  · change (reaping watcher).Obeys _ (if current = some text then store (.delete key)
      else return .ok false) _
    split
    · next hsame =>
      subst hsame
      have hdue : Due watcher key (log ++ [.read key (some text), judged] ++
          [.read key (some text)]) := by
        refine ⟨hstart, log, text, judged, List.append_assoc _ _ _, huntouched,
          hjudged key hstart, fun entry hentry => ?_⟩
        rcases hdead entry hentry with ⟨hdead, hnone⟩
        rcases hagain.listed with ⟨names, hhead, hlive⟩
        exact ⟨fun heq => hdead (heq ▸ h.own), hnone, names, hhead, fun hid => hdead (hlive _ hid)⟩
      exact ⟨hdue, fun reply _ => hagain.concat (h.not_isAt (Or.inr rfl))⟩
    · exact hagain

/-- The loop, by induction on the entries that are to come. -/
theorem reaping_reapEach (removed : Nat) (h : Ahead watcher live keys log) :
    (reaping watcher).Obeys log (Monitor.reapEach keys live removed) fun _ _ => True := by
  induction keys generalizing live log removed with
  | nil => exact trivial
  | cons key rest ih =>
    have hget : (reaping watcher).Obeys log (store (.get key))
        fun log' reply => log' = log ++ [⟨.store (.get key), reply⟩] :=
      ⟨fun _ => Or.inl (h.untouched key List.mem_cons_self), fun _ _ => rfl⟩
    refine Rules.obeys_bind hget ?_
    rintro _ reply rfl
    have hread := h.tail.concat (t := ⟨.store (.get key), reply⟩) (h.not_isAt (Or.inl rfl))
    rcases reply with e | _ | text
    · exact trivial
    · exact ih removed hread
    · refine Rules.obeys_bind (reaping_judge watcher _ live text) fun log' verdict hverdict => ?_
      have hahead : Ahead watcher live rest log' := by
        rcases hverdict with ⟨_, rfl⟩ | ⟨judged, rfl, hjudged, _⟩
        · exact hread
        · exact hread.concat fun other hother => hjudged other (h.tail.entries other hother)
      rcases verdict with e | _ | owner | _
      · exact trivial
      · exact ih removed hahead
      · exact ih removed (hahead.revived owner)
      · rcases hverdict with ⟨hkeep, _⟩ | ⟨judged, rfl, hjudged, hdead⟩
        · cases hkeep
        · have hdelete : (reaping watcher).Obeys (log ++ [.read key (some text), judged])
              (Monitor.deleteUnchanged key text) fun log' _ => Ahead watcher live rest log' :=
            reaping_deleteUnchanged h hjudged (hdead rfl)
          rw [List.append_cons] at hdelete
          refine Rules.obeys_bind hdelete fun log' reply hafter => ?_
          rcases reply with e | _ | _
          · exact trivial
          · exact ih removed hafter
          · exact ih (removed + 1) hafter

/-- A pass lists the records, lists the entries, and goes through them. -/
theorem reaping_reap (self : Monitor) : (reaping self.id).Obeys [] self.reap fun _ _ => True := by
  have hlist : (reaping self.id).Obeys [] Monitor.liveInstances fun log reply =>
      ∀ live, reply = .ok live → ∃ names, log = [Told.listed names] ∧
        live = names.filterMap Monitor.ofLivenessKey? := by
    refine ⟨trivial, fun reply _ => ?_⟩
    rcases reply with e | names
    · exact fun live h => by cases h
    · exact fun live h => ⟨names, rfl, (Except.ok.inj h).symm⟩
  refine Rules.obeys_bind hlist fun log reply hlisted => ?_
  rcases reply with e | live
  · exact trivial
  · rcases hlisted live rfl with ⟨names, rfl, rfl⟩
    have hentries : (reaping self.id).Obeys [Told.listed names] (store (.keys Key.registryStart))
        fun log reply => log = [Told.listed names, ⟨.store (.keys Key.registryStart), reply⟩] ∧
          (reaping self.id).possible (.store (.keys Key.registryStart)) reply :=
      ⟨trivial, fun _ hpossible => ⟨rfl, hpossible⟩⟩
    refine Rules.obeys_bind hentries ?_
    rintro _ reply ⟨rfl, hkeys⟩
    rcases reply with e | keys
    · exact trivial
    · rcases hkeys keys rfl with ⟨hnodup, hentries⟩
      have hahead : Ahead self.id (self.id :: names.filterMap Monitor.ofLivenessKey?) keys
          [.listed names, ⟨.store (.keys Key.registryStart), .ok keys⟩] :=
        { own := List.mem_cons_self
          listed := ⟨names, rfl, fun id hid => List.mem_cons_of_mem _ hid⟩
          nodup := hnodup
          entries := hentries
          untouched := fun key _ t ht => by
            simp only [List.mem_cons, List.not_mem_nil, or_false] at ht
            rcases ht with rfl | rfl <;> simp [Told.listed, Effect.IsAt] }
      refine Rules.obeys_bind (reaping_reapEach 0 hahead) fun _ reply _ => ?_
      rcases reply with e | removed
      · exact trivial
      · exact ⟨trivial, fun _ _ => trivial⟩

end Pass

/-! ## On record -/

/-- The step deletes a key. -/
def Effect.deletes : Effect → Bool
  | .store (.delete _) => true
  | _ => false

namespace Moment

/-- The step and what it was told. -/
def told (m : Moment) : Told :=
  ⟨m.effect, m.reply⟩

variable {m : Moment} {key : String} {found : Option String} {names : List String}

theorem effect_of_told {t : Told} (h : m.told = t) : m.effect = t.1 :=
  congrArg Sigma.fst h

theorem seen_of_read (h : m.told = .read key found) :
    found = (m.before.seen key).bind Slot.text? ∧ m.after.seen = m.before.seen := by
  rcases m with ⟨i, host, c, e⟩
  cases effect_of_told h
  have hreply : (c.perform host (.store (.get key))).1 = .ok found := eq_of_heq (Sigma.mk.inj h).2
  cases hfault : c.store.fault with
  | some error =>
    simp only [Cluster.perform, MemoryStore.call, hfault] at hreply
    cases hreply
  | none =>
    rcases Cluster.runAlone_get_seen host key hfault with ⟨hget, hseen⟩
    exact ⟨Except.ok.inj (hreply.symm.trans hget), hseen⟩

theorem mem_of_listed (h : m.told = .listed names) (id : InstanceId) :
    id ∈ names.filterMap Monitor.ofLivenessKey? ↔
      (m.before.seen (Key.liveness id.text)).isSome = true ∧ Text.isBlank id.text = false := by
  rcases m with ⟨i, host, c, e⟩
  cases effect_of_told h
  exact Cluster.mem_listed_iff host (eq_of_heq (Sigma.mk.inj h).2)

end Moment

namespace Interplay

variable {α : Type}

/-- Nothing happens around the first operation when it is about to delete something. -/
def undisturbed : Interplay α → List Turn → Bool
  | _, [] => true
  | s, .step i :: rest => undisturbed (s.step i) rest
  | s, .outside o :: rest =>
    !(s.next? 0).any Effect.deletes && undisturbed { s with cluster := s.cluster.befall o } rest

/-- The only operation deletes what it has met at the step before. -/
structure Unbroken (s : Interplay α) : Prop where
  one : s.errands.length = 1
  next : (s.next? 0).any Effect.deletes = true →
    ∃ prev, s.past.getLast? = some prev ∧ prev.after = s.cluster
  past : ∀ (k : Nat) m, s.past[k + 1]? = some m → m.effect.deletes = true →
    ∃ prev, s.past[k]? = some prev ∧ prev.after = m.before

variable {s : Interplay α}

theorem Unbroken.step (h : s.Unbroken) (i : Nat) : (s.step i).Unbroken := by
  rcases s.step_cases i with hsame | ⟨host, e, next, herrand, hstep⟩
  · rw [hsame]
    exact h
  · have hi : i = 0 := by
      have hlt := (List.getElem?_eq_some_iff.1 herrand).1
      rw [h.one] at hlt
      omega
    subst hi
    rw [hstep]
    refine ⟨by rw [List.length_set, h.one], fun _ => ⟨_, List.getLast?_concat, rfl⟩, ?_⟩
    intro k m hm hdeletes
    rcases getElem?_concat_iff.1 hm with hold | ⟨hk, rfl⟩
    · rcases h.past k m hold hdeletes with ⟨prev, hprev, hafter⟩
      exact ⟨prev, getElem?_concat_iff.2 (Or.inl hprev), hafter⟩
    · have hnext : s.next? 0 = some e := by rw [next?, herrand]
      rcases h.next (by rw [hnext]; exact hdeletes) with ⟨prev, hprev, hafter⟩
      rw [List.getLast?_eq_getElem?, ← hk, Nat.add_sub_cancel] at hprev
      exact ⟨prev, getElem?_concat_iff.2 (Or.inl hprev), hafter⟩

theorem Unbroken.outside (h : s.Unbroken) (hquiet : (s.next? 0).any Effect.deletes = false)
    (o : Outside) : ({ s with cluster := s.cluster.befall o } : Interplay α).Unbroken where
  one := h.one
  next hdeletes := absurd (hquiet.symm.trans hdeletes) Bool.false_ne_true
  past := h.past

theorem Unbroken.run (h : s.Unbroken) {events : List Turn} (hquiet : s.undisturbed events = true) :
    (s.run events).Unbroken := by
  induction events generalizing s with
  | nil => exact h
  | cons event rest ih =>
    cases event with
    | step i => exact ih (h.step i) hquiet
    | outside o =>
      rw [undisturbed, Bool.and_eq_true, Bool.not_eq_true'] at hquiet
      exact ih (h.outside hquiet.1 o) hquiet.2

end Interplay

/-! ## What was deleted -/

/-- An entry was deleted, and it had been read first at a given position. -/
structure Condemned (watcher : InstanceId) (past : List Moment) (k : Nat) (key text : String) :
    Prop where
  /-- The pass read it. -/
  first : ∃ m, past[k]? = some m ∧ m.told = .read key (some text)
  /-- It read it again, and it had not changed. -/
  again : ∃ m, past[k + 2]? = some m ∧ m.told = .read key (some text)
  /-- It deleted it, and it had not changed even then. -/
  deleted : ∃ m, past[k + 3]? = some m ∧ m.effect = .store (.delete key) ∧
    (m.before.seen key).bind Slot.text? = some text
  /-- It did nothing else to it. -/
  alone : ∀ (j : Nat) m, past[j]? = some m → m.effect.IsAt key → j = k ∨ j = k + 2 ∨ j = k + 3
  /-- If it names an owner, that is not the one that reaps, was not listed in the beginning, and had
      no record between the two looks. -/
  owner : ∀ entry, RegistryEntry.ofJson? text = some entry →
    entry.owner ≠ watcher ∧
      (∃ look names, past[0]? = some look ∧ look.told = .listed names ∧
        entry.owner ∉ names.filterMap Monitor.ofLivenessKey?) ∧
      ∃ check, past[k + 1]? = some check ∧
        check.told = .read (Key.liveness entry.owner.text) none

section Record

variable {watcher : InstanceId} {past : List Moment} {key text : String} {k d : Nat} {m : Moment}

theorem notes_reaping (hone : ∀ m ∈ past, m.errand = 0) :
    (reaping watcher).notes [] 0 past = past.map Moment.told := by
  induction past using List.reverseRecOn with
  | nil => rfl
  | append_singleton past new ih =>
    rw [Rules.notes_concat, if_pos (hone new (by simp)), List.map_append,
      ih fun m hm => hone m (List.mem_append_left _ hm)]
    rfl

theorem told_of_take {t : Told} (h : ((past.take d).map Moment.told)[k]? = some t) :
    k < d ∧ ∃ m, past[k]? = some m ∧ m.told = t := by
  rw [List.getElem?_map, Option.map_eq_some_iff] at h
  rcases h with ⟨m, hm, htold⟩
  rcases getElem?_take_eq_some hm with ⟨hk, hm, _⟩
  exact ⟨hk, m, hm, htold⟩

-- Where a key was touched, the log up to there cannot say that it was not.
theorem length_le_of_untouched {earlier rest : List Told}
    (hlog : (past.take d).map Moment.told = earlier ++ rest) (huntouched : Untouched key earlier)
    (hk : k < d) (hm : past[k]? = some m) (hat : m.effect.IsAt key) : earlier.length ≤ k := by
  by_contra hlt
  have htold : earlier[k]? = some m.told := by
    have hsame : (earlier ++ rest)[k]? = earlier[k]? :=
      List.getElem?_append_left (Nat.lt_of_not_le hlt)
    rw [← hsame, ← hlog, List.getElem?_map, List.getElem?_take, if_pos hk, hm]
    rfl
  exact huntouched m.told (List.mem_of_getElem? htold) hat

theorem length_take_told (hm : past[d]? = some m) :
    ((past.take d).map Moment.told).length = d := by
  have hlt := (List.getElem?_eq_some_iff.1 hm).1
  rw [List.length_map, List.length_take, Nat.min_eq_left (Nat.le_of_lt hlt)]

-- Three steps after an entry was first read it may be deleted, and later it is not touched at all:
-- both kinds of step ask for a log that begins with steps elsewhere.
theorem le_of_isAt (hstart : Text.startsWith Key.registryStart key = true)
    (hallows : (reaping watcher).allows ((past.take d).map Moment.told) m.effect)
    (hd : past[d]? = some m) (hat : m.effect.IsAt key) {first : Moment} (hk : k < d)
    (hfirst : past[k]? = some first) (hfirstAt : first.effect.IsAt key) : d ≤ k + 3 := by
  have hlength := length_take_told hd
  rcases hat with hget | hdelete
  · rw [hget] at hallows
    rcases hallows hstart with huntouched | ⟨earlier, text, judged, hlog, huntouched⟩
    · have hle := length_le_of_untouched (List.append_nil _).symm huntouched hk hfirst hfirstAt
      omega
    · have hle := length_le_of_untouched hlog huntouched hk hfirst hfirstAt
      rw [hlog, List.length_append, List.length_cons, List.length_singleton] at hlength
      omega
  · rw [hdelete] at hallows
    rcases hallows with ⟨_, earlier, text, judged, hlog, huntouched, _⟩
    have hle := length_le_of_untouched hlog huntouched hk hfirst hfirstAt
    rw [hlog, List.length_append, List.length_cons, List.length_cons,
      List.length_singleton] at hlength
    omega

theorem condemned_of_deleted
    (hallowed : ∀ (k : Nat) m, past[k]? = some m →
      (reaping watcher).allows ((past.take k).map Moment.told) m.effect)
    (hunbroken : ∀ (k : Nat) m, past[k + 1]? = some m → m.effect.deletes = true →
      ∃ prev, past[k]? = some prev ∧ prev.after = m.before)
    (hm : past[d]? = some m) (hdelete : m.effect = .store (.delete key)) :
    ∃ k text, d = k + 3 ∧ Condemned watcher past k key text := by
  have hdue := hallowed d m hm
  rw [hdelete] at hdue
  rcases hdue with ⟨hstart, earlier, text, judged, hlog, huntouched, hjudged, howner⟩
  have hlength : d = earlier.length + 3 := by
    rw [← length_take_told hm, hlog, List.length_append]
    rfl
  have htold : ∀ i, ((past.take d).map Moment.told)[earlier.length + i]? =
      [Told.read key (some text), judged, .read key (some text)][i]? := by
    intro i
    rw [hlog, List.getElem?_append_right (Nat.le_add_right _ _), Nat.add_sub_cancel_left]
  rcases told_of_take (htold 0) with ⟨_, first, hfirst, hfirstTold⟩
  rcases told_of_take (htold 1) with ⟨_, check, hcheck, hcheckTold⟩
  rcases told_of_take (htold 2) with ⟨_, again, hagain, hagainTold⟩
  have hat : first.effect.IsAt key := by
    rw [Moment.effect_of_told hfirstTold]
    exact Or.inl rfl
  refine ⟨earlier.length, text, hlength, ⟨first, hfirst, hfirstTold⟩, ⟨again, hagain, hagainTold⟩,
    ⟨m, hlength ▸ hm, hdelete, ?_⟩, fun j other hother hotherAt => ?_, fun entry hentry => ?_⟩
  · -- Nobody has come in since the second look.
    rcases hunbroken (earlier.length + 2) m (hlength ▸ hm) (by rw [hdelete]; rfl) with
      ⟨prev, hprev, hafter⟩
    cases hprev.symm.trans hagain
    rcases Moment.seen_of_read hagainTold with ⟨hfound, hseen⟩
    rw [← hafter, hseen, ← hfound]
  · have hge : earlier.length ≤ j := by
      by_contra hlt
      exact hlt (length_le_of_untouched hlog huntouched (by omega) hother hotherAt)
    have hle : j ≤ earlier.length + 3 := by
      rcases Nat.eq_or_lt_of_le hge with heq | hlt
      · omega
      · exact le_of_isAt hstart (hallowed j other hother) hother hotherAt hlt hfirst hat
    have hne : j ≠ earlier.length + 1 := by
      rintro rfl
      cases hother.symm.trans hcheck
      rw [Moment.effect_of_told hcheckTold] at hotherAt
      exact hjudged hotherAt
    omega
  · rcases howner entry hentry with ⟨hother, hcheckRead, names, hhead, hlisted⟩
    rw [List.head?_eq_getElem?] at hhead
    rcases told_of_take hhead with ⟨_, look, hlook, hlookTold⟩
    exact ⟨hother, ⟨look, names, hlook, hlookTold, hlisted⟩, check, hcheck,
      hcheckTold.trans hcheckRead⟩

/-- Whenever a condemned entry was read, it had the text that it was condemned for. -/
theorem Condemned.eq_of_read (h : Condemned watcher past k key text) {j : Nat}
    {found : Option String} (hm : past[j]? = some m) (htold : m.told = .read key found) :
    found = some text := by
  have hat : m.effect.IsAt key := Or.inl (Moment.effect_of_told htold)
  have hsame : ∀ other : Moment, past[j]? = some other → other.told = .read key (some text) →
      found = some text := by
    intro other hother hotherTold
    rw [Option.some.inj (hother.symm.trans hm)] at hotherTold
    have hreply := (Sigma.mk.inj (htold.symm.trans hotherTold)).2
    exact Except.ok.inj (eq_of_heq hreply)
  rcases h.alone j m hm hat with rfl | rfl | rfl
  · rcases h.first with ⟨other, hother, hotherTold⟩
    exact hsame other hother hotherTold
  · rcases h.again with ⟨other, hother, hotherTold⟩
    exact hsame other hother hotherTold
  · rcases h.deleted with ⟨other, hother, hdelete, _⟩
    rw [Option.some.inj (hother.symm.trans hm), Moment.effect_of_told htold] at hdelete
    cases hdelete

/-- Nobody has touched a condemned entry before it was first read. -/
theorem Condemned.eq_of_first (h : Condemned watcher past k key text) {j : Nat}
    (hm : past[j]? = some m) (hat : m.effect.IsAt key)
    (hfirst : ∀ (i : Nat) other, i < j → past[i]? = some other → ¬other.effect.IsAt key) :
    j = k := by
  rcases h.first with ⟨first, hk, htold⟩
  have hge : ¬k < j := fun hlt =>
    hfirst k first hlt hk (Or.inl (Moment.effect_of_told htold))
  have halone := h.alone j m hm hat
  omega

end Record

-- Keys are listed once each, and begin as they should.
theorem possible_reaping {watcher : InstanceId} (c : Cluster) (host : Nat) (e : Effect) :
    (reaping watcher).possible e (c.perform host e).1 := by
  cases e with
  | store call =>
    cases call with
    | keys start =>
      intro names hnames
      simp only [Cluster.perform, MemoryStore.call] at hnames
      split at hnames
      · cases hnames
      · cases hnames
        have hperm := Slots.keys_call_perm c.store.slots c.now start
        refine ⟨hperm.nodup_iff.2 (Slots.nodup_visibleKeys _ _ _), fun name hname => ?_⟩
        exact ((Slots.mem_visibleKeys_iff _ _).1 (hperm.mem_iff.1 hname)).2
    | get | set | delete | expire | addMember | removeMember | members => exact trivial
  | publish | clock | postmark | spareId | insertSession | findSession | removeSession
  | removeSessionIf | listSessions | countSessions | isOpen | offer | lifecycle | comeAlive | stop
  | setReady | warn | count | gaugeSessions => exact trivial

/-- A reap pass is under way, and between its steps anything may happen, but nothing right before
    it deletes something. Whatever it deletes it has read twice with the same text, which is still
    there; and an owner who is named in it is another instance, was not listed when the pass began,
    and had no record when the pass asked for it in between. So an entry that has changed between
    the two looks is not deleted, and neither is one whose owner had a record when the pass began
    or when it asked for it. -/
theorem reap_under_interference {self : Monitor} {host : Nat} {c : Cluster} {events : List Turn}
    (hquiet : (Interplay.begin c [⟨host, self.reap⟩]).undisturbed events = true) :
    let s := (Interplay.begin c [⟨host, self.reap⟩]).run events
    (∀ (d : Nat) m key, s.past[d]? = some m → m.effect = .store (.delete key) →
      ∃ k text, d = k + 3 ∧ Condemned self.id s.past k key text) ∧
    (∀ (a b : Nat) first again key before after, a < b → s.past[a]? = some first →
      s.past[b]? = some again → first.told = .read key before → again.told = .read key after →
      before ≠ after → ∀ m ∈ s.past, m.effect ≠ .store (.delete key)) ∧
    (∀ (k : Nat) first key text entry, s.past[k]? = some first →
      first.told = .read key (some text) →
      (∀ (j : Nat) m, j < k → s.past[j]? = some m → ¬m.effect.IsAt key) →
      RegistryEntry.ofJson? text = some entry →
      ((Text.isBlank entry.owner.text = false ∧ ∃ look, s.past[0]? = some look ∧
          (look.before.seen (Key.liveness entry.owner.text)).isSome = true) ∨
        ∃ check, s.past[k + 1]? = some check ∧
          ((check.before.seen (Key.liveness entry.owner.text)).bind Slot.text?).isSome = true) →
      ∀ m ∈ s.past, m.effect ≠ .store (.delete key)) := by
  intro s
  have hunbroken : s.Unbroken := by
    -- In the beginning nothing is about to be deleted.
    refine Interplay.Unbroken.run ⟨rfl, fun hdeletes => ?_, fun k m hm => by cases hm⟩ hquiet
    exact absurd hdeletes Bool.false_ne_true
  have hallowed : ∀ (k : Nat) m, s.past[k]? = some m →
      (reaping self.id).allows ((s.past.take k).map Moment.told) m.effect := by
    intro k m hm
    have hconducts : s.Conducts 0 host (reaping self.id) [] fun _ _ => True :=
      Interplay.conducts_run (Interplay.conducts_begin rfl (reaping_reap self))
        (fun c _ e => possible_reaping c host e) events
    -- The pass is the only operation, so all of the record is its own.
    have hone : ∀ m ∈ s.past, m.errand = 0 := by
      intro m hm
      rcases List.mem_iff_getElem?.1 hm with ⟨j, hj⟩
      have hlt := (Interplay.numbered_begin c [⟨host, self.reap⟩]).run events j m hj
      rw [hunbroken.one] at hlt
      exact Nat.lt_one_iff.1 hlt
    have hnotes : (reaping self.id).notes [] 0 (s.past.take k) =
        (s.past.take k).map Moment.told :=
      notes_reaping fun m hm => hone m (List.mem_of_mem_take hm)
    rw [← hnotes]
    exact (hconducts.allowed k m hm (hone m (List.mem_of_getElem? hm))).2
  have hcondemned : ∀ (d : Nat) m key, s.past[d]? = some m →
      m.effect = .store (.delete key) → ∃ k text, d = k + 3 ∧ Condemned self.id s.past k key text :=
    fun d m key => condemned_of_deleted hallowed hunbroken.past
  refine ⟨hcondemned, ?_, ?_⟩
  · intro a b first again key before after hab hfirst hagain hbefore hafter hne m hm hdelete
    rcases List.mem_iff_getElem?.1 hm with ⟨d, hd⟩
    rcases hcondemned d m key hd hdelete with ⟨k, text, _, h⟩
    rw [h.eq_of_read hfirst hbefore, h.eq_of_read hagain hafter] at hne
    exact hne rfl
  · -- An entry that is deleted was condemned from its first look on, so that look was this one.
    intro k first key text entry hfirst htold huntouched hentry halive m hm hdelete
    rcases List.mem_iff_getElem?.1 hm with ⟨d, hd⟩
    rcases hcondemned d m key hd hdelete with ⟨k', text', _, h⟩
    have hat : first.effect.IsAt key := Or.inl (Moment.effect_of_told htold)
    cases h.eq_of_first hfirst hat huntouched
    cases h.eq_of_read hfirst htold
    rcases h.owner entry hentry with ⟨_, ⟨look, names, hlook, hlisted, hdead⟩, check, hcheck, hnone⟩
    rcases halive with ⟨hblank, other, hother, hseen⟩ | ⟨other, hother, hseen⟩
    · cases hlook.symm.trans hother
      exact hdead ((Moment.mem_of_listed hlisted _).2 ⟨hseen, hblank⟩)
    · cases hcheck.symm.trans hother
      rw [← (Moment.seen_of_read hnone).1] at hseen
      cases hseen

/-- The keys that were deleted. -/
def Interplay.deleted {α : Type} (s : Interplay α) : List String :=
  s.past.filterMap fun m => if m.effect.deletes then m.effect.writes? else none

theorem Interplay.exists_of_mem_deleted {α : Type} {s : Interplay α} {key : String}
    (h : key ∈ s.deleted) :
    ∃ (d : Nat) (m : Moment), s.past[d]? = some m ∧ m.effect = .store (.delete key) := by
  rcases List.mem_filterMap.1 h with ⟨m, hm, hkey⟩
  rcases List.mem_iff_getElem?.1 hm with ⟨d, hd⟩
  refine ⟨d, m, hd, ?_⟩
  split at hkey
  · next hdeletes =>
    unfold Effect.deletes at hdeletes
    split at hdeletes
    · next other heffect =>
      rw [heffect] at hkey ⊢
      rw [Option.some.inj hkey]
    · cases hdeletes
  · cases hkey

/-- Another instance writes a text. -/
def otherWrites (key text : String) : Turn :=
  .outside (.step 1 (.store (.set key text 60000)))

/-- An entry was left behind. The other instance is at work while the pass looks at it. -/
def busyNeighbour : List Turn :=
  let entry (user owner : String) : Turn :=
    otherWrites (Key.registry user)
      (RegistryEntry.toJson { user := ⟨user⟩, owner := ⟨owner⟩, establishedAt := 0 })
  let alive : Turn := otherWrites (Key.liveness "b") ""
  [entry "u" "dead", .step 0, alive, .step 0, entry "v" "b", .step 0, alive, .step 0, entry "v" "b",
    .step 0, .step 0, .step 0]

/-- The pass deletes the entry, which was due. -/
theorem reap_busyNeighbour :
    let self : Monitor := (Profile.standard ⟨"a"⟩).monitor
    let s := Interplay.begin twoInstances [⟨0, self.reap⟩]
    s.undisturbed busyNeighbour = true ∧
      (s.run busyNeighbour).result? 0 = some (.ok { scanned := 1, removed := 1 }) ∧
      (s.run busyNeighbour).deleted = [Key.registry "u"] ∧
      ∃ k text, Condemned ⟨"a"⟩ (s.run busyNeighbour).past k (Key.registry "u") text := by
  intro self s
  have hquiet : s.undisturbed busyNeighbour = true := by decide +kernel
  have hdeleted : (s.run busyNeighbour).deleted = [Key.registry "u"] := by decide +kernel
  have hdelete : Key.registry "u" ∈ (s.run busyNeighbour).deleted := by
    rw [hdeleted]
    exact List.mem_cons_self
  rcases Interplay.exists_of_mem_deleted hdelete with ⟨d, m, hd, heffect⟩
  rcases (reap_under_interference hquiet).1 d m _ hd heffect with ⟨k, text, _, hcondemned⟩
  exact ⟨hquiet, by decide +kernel, hdeleted, k, text, hcondemned⟩

end ChatCluster
