import ChatCluster.Bus.Memory
import Mathlib.Data.List.Nodup

/-!
# What Waits for a Listener

A listener is found by its number, whatever topic it listens to. That makes sense because numbers
are never given twice, which is what `MemoryBus.Sound` says. On a sound bus the frames that wait
for a listener are those in its own mailbox.

`MemoryBus.Waits` is the one fact about a listener that is followed through the operations: it is
there, it listens to a topic, and these frames wait for it. A publication appends its frame for
exactly the listeners that take it (`MemoryBus.takers`), and all of them listen to its topic.

## Main definitions

* `MemoryBus.Sound`: Listeners are told apart by their numbers.
* `MemoryBus.Waits`, `MemoryBus.Takes`: What waits for a listener that is there, and when one takes
  something in.
* `MemoryBus.takers`: The listeners that take a frame.

## Theorems

* `MemoryBus.Waits.publish`, `MemoryBus.Waits.subscribe`, `MemoryBus.Waits.take`: What the
  operations do to what waits.
* `MemoryBus.Sound.publish`, and so on: The bus remains sound.
-/

namespace ChatCluster

/-- A key that alone contributes to a list of values. -/
theorem Table.flatMap_values_eq {κ υ γ : Type} [DecidableEq κ] {t : Table κ υ} {k : κ} {v : υ}
    {f : υ → List γ} (hv : t.find? k = some v)
    (hf : ∀ k' v', t.find? k' = some v' → k' ≠ k → f v' = []) : t.values.flatMap f = f v := by
  rcases t with ⟨entries, hnodup⟩
  simp only [Table.values, Table.find?] at hv hf ⊢
  induction entries with
  | nil => exact absurd hv (by simp only [Table.lookup, reduceCtorEq, not_false_eq_true])
  | cons e es ih =>
    rcases e with ⟨k', v'⟩
    -- The key stands here, and then nothing after it counts, or it stands further on.
    rw [List.map_cons, List.nodup_cons] at hnodup
    rw [List.map_cons, List.flatMap_cons]
    by_cases hk : k' = k
    · subst hk
      have hrest : (es.map Prod.snd).flatMap f = [] := by
        rw [List.flatMap_eq_nil_iff]
        intro w hw
        rcases List.mem_map.1 hw with ⟨⟨j, w'⟩, hmem, rfl⟩
        have hj : j ≠ k' := fun heq => hnodup.1 (heq ▸ List.mem_map.2 ⟨_, hmem, rfl⟩)
        refine hf j w' ?_ hj
        rw [Table.lookup, if_neg (Ne.symm hj)]
        exact (Table.lookup_eq_some_iff hnodup.2).2 hmem
      rw [hrest, List.append_nil]
      rw [Table.lookup, if_pos rfl, Option.some.injEq] at hv
      rw [hv]
    · rw [Table.lookup, if_neg hk] at hv
      have hhead : f v' = [] := hf k' v' (by rw [Table.lookup, if_pos rfl]) hk
      rw [hhead, List.nil_append]
      refine ih hnodup.2 hv fun j w hj hne => ?_
      have hjk : k' ≠ j := by
        rintro rfl
        exact hnodup.1 (List.mem_map.2 ⟨_, (Table.lookup_eq_some_iff hnodup.2).1 hj, rfl⟩)
      exact hf j w (by rw [Table.lookup, if_neg hjk]; exact hj) hne

namespace MemoryBus

/-- Listeners are told apart by their numbers, and the next number is a new one. -/
structure Sound (bus : MemoryBus) : Prop where
  /-- No number stands twice in a topic. -/
  within : ∀ topic c, bus.topics.find? topic = some c →
    (c.subscriptions.map Subscription.id).Nodup
  /-- No number stands in two topics. -/
  across : ∀ topic c topic' c', bus.topics.find? topic = some c →
    bus.topics.find? topic' = some c' → ∀ s ∈ c.subscriptions, ∀ s' ∈ c'.subscriptions,
      s.id = s'.id → topic = topic'
  /-- Numbers to come are new. -/
  fresh : ∀ topic c, bus.topics.find? topic = some c → ∀ s ∈ c.subscriptions, s.id < bus.nextId

/-- A listener is there, and these frames wait for it. -/
def Waits (bus : MemoryBus) (id : Nat) (topic : String) (frames : List Bytes) : Prop :=
  ∃ c, bus.topics.find? topic = some c ∧ ∃ s ∈ c.subscriptions,
    s.id = id ∧ s.box.receiving = true ∧ s.box.items = frames

/-- The listeners that take a frame when it is published. -/
def takers (bus : MemoryBus) (topic : String) : List Nat :=
  if bus.unavailable then []
  else
    match bus.topics.find? topic with
    | none => []
    | some c =>
      (c.subscriptions.filter fun s => s.box.receiving && s.box.hasRoom).map Subscription.id

variable {bus : MemoryBus} {id : Nat} {topic : String} {frames : List Bytes}

theorem sound_new (capacity : Nat) : (new capacity).Sound where
  within _ _ h := absurd h (by simp only [new, Table.find?_empty, reduceCtorEq, not_false_eq_true])
  across _ _ _ _ h :=
    absurd h (by simp only [new, Table.find?_empty, reduceCtorEq, not_false_eq_true])
  fresh _ _ h := absurd h (by simp only [new, Table.find?_empty, reduceCtorEq, not_false_eq_true])

-- By induction on the listeners: the one that is looked for stands first, or the first is another.
theorem filter_id_eq {subscriptions : List Subscription} {s : Subscription}
    (hnodup : (subscriptions.map Subscription.id).Nodup) (hs : s ∈ subscriptions) :
    (subscriptions.filter fun t => t.id = s.id) = [s] := by
  induction subscriptions with
  | nil => exact absurd hs List.not_mem_nil
  | cons t ts ih =>
    rw [List.map_cons, List.nodup_cons] at hnodup
    rcases List.mem_cons.1 hs with rfl | hs
    · have hrest : (ts.filter fun t => t.id = s.id) = [] := by
        rw [List.filter_eq_nil_iff]
        intro t ht heq
        exact hnodup.1 (List.mem_map.2 ⟨t, ht, of_decide_eq_true heq⟩)
      rw [List.filter_cons_of_pos (by simp only [decide_true]), hrest]
    · have hne : t.id ≠ s.id := fun heq => hnodup.1 (heq ▸ List.mem_map.2 ⟨s, hs, rfl⟩)
      rw [List.filter_cons_of_neg (by simp only [hne, decide_false, Bool.false_eq_true,
        not_false_eq_true]), ih hnodup.2 hs]

/-- What waits for a listener is found by its number. -/
theorem Sound.waiting_eq (hsound : bus.Sound) (h : bus.Waits id topic frames) :
    bus.waiting id = frames := by
  rcases h with ⟨c, hc, s, hs, rfl, _, rfl⟩
  -- Of all topics only the one it listens to has anything for it, as numbers are not shared.
  have hone : bus.waiting s.id =
      (c.subscriptions.filter fun t => t.id = s.id).flatMap fun t => t.box.items := by
    refine Table.flatMap_values_eq hc fun topic' c' hc' hne => ?_
    have hnone : (c'.subscriptions.filter fun t => t.id = s.id) = [] := by
      rw [List.filter_eq_nil_iff]
      intro t ht heq
      exact hne (hsound.across topic' c' topic c hc' hc t ht s hs (of_decide_eq_true heq))
    rw [hnone]
    rfl
  rw [hone, filter_id_eq (hsound.within topic c hc) hs]
  exact List.append_nil _

theorem Waits.lt_nextId (h : bus.Waits id topic frames) (hsound : bus.Sound) : id < bus.nextId := by
  rcases h with ⟨c, hc, s, hs, rfl, _⟩
  exact hsound.fresh topic c hc s hs

/-- Losing listeners keeps a bus sound. -/
theorem Sound.of_sublist {bus' : MemoryBus} (h : bus.Sound)
    (hsub : ∀ topic c', bus'.topics.find? topic = some c' →
      ∃ c, bus.topics.find? topic = some c ∧
        (c'.subscriptions.map Subscription.id).Sublist (c.subscriptions.map Subscription.id))
    (hnext : bus'.nextId = bus.nextId) : bus'.Sound := by
  -- Every listener that is left was there before, under the same number.
  have hmem : ∀ topic c', bus'.topics.find? topic = some c' → ∀ s' ∈ c'.subscriptions,
      ∃ c, bus.topics.find? topic = some c ∧ ∃ s ∈ c.subscriptions, s.id = s'.id := by
    intro topic c' hc' s' hs'
    rcases hsub topic c' hc' with ⟨c, hc, hids⟩
    rcases List.mem_map.1 (hids.subset (List.mem_map.2 ⟨s', hs', rfl⟩)) with ⟨s, hs, hid⟩
    exact ⟨c, hc, s, hs, hid⟩
  constructor
  · intro topic c' hc'
    rcases hsub topic c' hc' with ⟨c, hc, hids⟩
    exact (h.within topic c hc).sublist hids
  · intro topic c topic' c' hc hc' s hs s' hs' heq
    rcases hmem topic c hc s hs with ⟨d, hd, t, ht, hid⟩
    rcases hmem topic' c' hc' s' hs' with ⟨d', hd', t', ht', hid'⟩
    exact h.across topic d topic' d' hd hd' t ht t' ht' (by rw [hid, hid', heq])
  · intro topic c' hc' s' hs'
    rcases hmem topic c' hc' s' hs' with ⟨c, hc, s, hs, hid⟩
    rw [hnext, ← hid]
    exact h.fresh topic c hc s hs

/-! ## Publishing -/

theorem Subscription.offered_id (s : Subscription) (frame : Bytes) :
    (Subscription.offered s frame).id = s.id := by
  rw [Subscription.offered]
  split <;> rfl

theorem Subscription.offered_items {s : Subscription} (h : s.box.receiving = true)
    (frame : Bytes) :
    (Subscription.offered s frame).box.receiving = true ∧
      (Subscription.offered s frame).box.items =
        s.box.items ++ if s.box.hasRoom then [frame] else [] := by
  rw [Subscription.offered, Mailbox.offer, Mailbox.hasRoom]
  by_cases hroom : s.box.capacity ≤ s.box.items.length
  · simp only [h, Bool.not_true, Bool.false_eq_true, if_false, if_pos hroom, Nat.not_lt.2 hroom,
      decide_false, List.append_nil, and_self]
  · simp only [h, Bool.not_true, Bool.false_eq_true, if_false, if_neg hroom, Nat.lt_of_not_le hroom,
      decide_true, if_true, and_self]

theorem mem_takers_iff : id ∈ bus.takers topic ↔ bus.unavailable = false ∧
    ∃ c, bus.topics.find? topic = some c ∧ ∃ s ∈ c.subscriptions,
      s.id = id ∧ s.box.receiving = true ∧ s.box.hasRoom = true := by
  rw [takers]
  cases bus.unavailable with
  | true => simp only [if_true, List.not_mem_nil, reduceCtorEq, false_and]
  | false =>
    cases bus.topics.find? topic with
    | none => simp
    | some c =>
      simp only [Bool.false_eq_true, if_false, List.mem_map, List.mem_filter, Bool.and_eq_true,
        true_and, Option.some.injEq, exists_eq_left']
      constructor
      · rintro ⟨s, ⟨hs, hbox⟩, hid⟩
        exact ⟨s, hs, hid, hbox⟩
      · rintro ⟨s, hs, hid, hbox⟩
        exact ⟨s, ⟨hs, hbox⟩, hid⟩

theorem lt_nextId_of_mem_takers (hsound : bus.Sound) (h : id ∈ bus.takers topic) :
    id < bus.nextId := by
  rcases mem_takers_iff.1 h with ⟨_, c, hc, s, hs, rfl, _⟩
  exact hsound.fresh topic c hc s hs

theorem nodup_takers (hsound : bus.Sound) (topic : String) : (bus.takers topic).Nodup := by
  rw [takers]
  split
  · exact List.nodup_nil
  · split
    · exact List.nodup_nil
    · next c hc => exact (hsound.within topic c hc).sublist (List.filter_sublist.map _)

/-- What is known of a topic after a frame was published on some topic. -/
theorem find?_topicsAfterPublish (bus : MemoryBus) (topic : String) (frame : Bytes)
    (other : String) :
    (bus.topicsAfterPublish topic frame).find? other =
      if other = topic then
        (bus.topics.find? topic).bind fun c =>
          if (Channel.afterPublish c frame).subscriptions.isEmpty &&
              (Channel.afterPublish c frame).dropped == 0 then none
          else some (Channel.afterPublish c frame)
      else bus.topics.find? other := by
  rw [topicsAfterPublish]
  cases hc : bus.topics.find? topic with
  | none =>
    by_cases ho : other = topic
    · subst ho
      simp only [hc, if_true, Option.bind_none]
    · simp only [if_neg ho]
  | some c =>
    simp only [Option.bind_some]
    split
    · rw [Table.find?_erase]
    · rw [Table.find?_insert]

theorem publish_snd (bus : MemoryBus) (topic : String) (frame : Bytes) :
    (bus.publish topic frame).2.topics =
        (if bus.unavailable then bus.topics else bus.topicsAfterPublish topic frame) ∧
      (bus.publish topic frame).2.nextId = bus.nextId := by
  rw [publish]
  split
  · exact ⟨rfl, rfl⟩
  · exact ⟨rfl, rfl⟩

-- Those who have left are swept out, and nobody comes, so every topic has lost listeners at most.
theorem Sound.publish (h : bus.Sound) (topic : String) (frame : Bytes) :
    (bus.publish topic frame).2.Sound := by
  refine h.of_sublist (fun other c' hc' => ?_) (publish_snd bus topic frame).2
  rw [(publish_snd bus topic frame).1] at hc'
  split at hc'
  · exact ⟨c', hc', List.Sublist.refl _⟩
  · rw [find?_topicsAfterPublish] at hc'
    split at hc'
    · next ho =>
      subst ho
      rcases Option.bind_eq_some_iff.1 hc' with ⟨c, hc, hafter⟩
      split at hafter
      · simp only [reduceCtorEq] at hafter
      · refine ⟨c, hc, ?_⟩
        rw [← Option.some.inj hafter]
        simp only [Channel.afterPublish, Channel.listening, List.map_map, Function.comp_def,
          Subscription.offered_id]
        exact List.filter_sublist.map _
    · exact ⟨c', hc', List.Sublist.refl _⟩

/-- A listener takes a frame if it stands among those who take it, and else is left as it was. -/
theorem Waits.publish (h : bus.Waits id topic frames) (hsound : bus.Sound) (other : String)
    (frame : Bytes) :
    (bus.publish other frame).2.Waits id topic
      (frames ++ if id ∈ bus.takers other then [frame] else []) := by
  rcases h with ⟨c, hc, s, hs, rfl, hreceiving, rfl⟩
  -- Nobody takes anything on a bus that cannot be reached. On another topic nobody takes it who
  -- listens here, and on the same topic those take it that have room.
  by_cases hunavailable : bus.unavailable = true
  · refine ⟨c, ?_, s, hs, rfl, hreceiving, ?_⟩
    · rw [(publish_snd bus other frame).1, if_pos hunavailable, hc]
    · simp only [takers, hunavailable, if_true, List.not_mem_nil, if_false, List.append_nil]
  · have htopics := (publish_snd bus other frame).1
    rw [if_neg hunavailable] at htopics
    by_cases ho : topic = other
    · subst ho
      have hoffered := Subscription.offered_items hreceiving frame
      have hmem : Subscription.offered s frame ∈ (Channel.afterPublish c frame).subscriptions :=
        List.mem_map.2 ⟨s, List.mem_filter.2 ⟨hs, hreceiving⟩, rfl⟩
      refine ⟨Channel.afterPublish c frame, ?_, _, hmem, Subscription.offered_id s frame,
        hoffered.1, ?_⟩
      -- The topic is kept, since somebody listens.
      · rw [htopics, find?_topicsAfterPublish, if_pos rfl, hc, Option.bind_some, if_neg]
        have hne : (Channel.afterPublish c frame).subscriptions.isEmpty = false :=
          List.isEmpty_eq_false_iff_exists_mem.2 ⟨_, hmem⟩
        rw [hne, Bool.false_and]
        exact Bool.false_ne_true
      · rw [hoffered.2]
        congr 1
        have hiff : s.id ∈ bus.takers topic ↔ s.box.hasRoom = true := by
          rw [mem_takers_iff]
          constructor
          · rintro ⟨_, c', hc', t, ht, hid, _, hroom⟩
            rw [hc, Option.some.injEq] at hc'
            subst hc'
            have heq := List.inj_on_of_nodup_map (hsound.within topic c hc) ht hs hid
            exact heq ▸ hroom
          · exact fun hroom =>
              ⟨Bool.eq_false_iff.2 hunavailable, c, hc, s, hs, rfl, hreceiving, hroom⟩
        simp only [hiff]
    · refine ⟨c, ?_, s, hs, rfl, hreceiving, ?_⟩
      · rw [htopics, find?_topicsAfterPublish, if_neg ho, hc]
      · rw [if_neg, List.append_nil]
        rw [mem_takers_iff]
        rintro ⟨_, c', hc', t, ht, hid, _⟩
        exact ho (hsound.across topic c other c' hc hc' s hs t ht hid.symm)

/-! ## Subscribing -/

-- A topic that was not there is made for the new listener.
theorem find?_subscribe (bus : MemoryBus) (topic other : String) :
    (bus.subscribe topic).2.topics.find? other =
      if other = topic then
        some
          { (bus.topics.find? topic).getD { subscriptions := [], dropped := 0 } with
            subscriptions :=
              Channel.listening
                  ((bus.topics.find? topic).getD { subscriptions := [], dropped := 0 }) ++
                [{ id := bus.nextId, box := .new bus.capacity }] }
      else bus.topics.find? other := by
  simp only [subscribe, Table.find?_insert]

/-- The listeners on a topic to which one was added are the new one and some that were there. -/
theorem mem_subscribe {bus : MemoryBus} {topic other : String} {c' : Channel}
    (hc' : (bus.subscribe topic).2.topics.find? other = some c') {s : Subscription}
    (hs : s ∈ c'.subscriptions) :
    (other = topic ∧ s.id = bus.nextId) ∨
      ∃ c, bus.topics.find? other = some c ∧ s ∈ c.subscriptions := by
  rw [find?_subscribe] at hc'
  split at hc'
  · next ho =>
    rw [← Option.some.inj hc'] at hs
    rcases List.mem_append.1 hs with hold | hnew
    · cases hc : bus.topics.find? topic with
      | none =>
        simp only [hc, Option.getD_none, Channel.listening, List.filter_nil,
          List.not_mem_nil] at hold
      | some c =>
        rw [hc, Option.getD_some] at hold
        exact Or.inr ⟨c, ho ▸ hc, (List.mem_filter.1 hold).1⟩
    · rw [List.mem_singleton.1 hnew]
      exact Or.inl ⟨ho, rfl⟩
  · exact Or.inr ⟨c', hc', hs⟩

theorem Sound.subscribe (h : bus.Sound) (topic : String) : (bus.subscribe topic).2.Sound := by
  constructor
  · intro other c' hc'
    rw [find?_subscribe] at hc'
    split at hc'
    · rw [← Option.some.inj hc', List.map_append, List.nodup_append]
      cases hc : bus.topics.find? topic with
      | none =>
        refine ⟨List.nodup_nil, List.nodup_singleton _, fun a ha => ?_⟩
        exact absurd ha List.not_mem_nil
      | some c =>
        refine ⟨(h.within topic c hc).sublist (List.filter_sublist.map _), List.nodup_singleton _,
          ?_⟩
        intro a ha b hb
        rcases List.mem_map.1 ha with ⟨s, hs, rfl⟩
        have hlt := h.fresh topic c hc s (List.mem_filter.1 hs).1
        rw [List.map_singleton, List.mem_singleton] at hb
        change b = bus.nextId at hb
        omega
    · exact h.within other c' hc'
  -- Two listeners of one number are both new or both from before.
  · intro t c t' c' hc hc' s hs s' hs' heq
    rcases mem_subscribe hc hs with ⟨rfl, hid⟩ | ⟨d, hd, hsd⟩ <;>
      rcases mem_subscribe hc' hs' with ⟨ht', hid'⟩ | ⟨d', hd', hsd'⟩
    · exact ht'.symm
    · have hlt := h.fresh t' d' hd' s' hsd'
      omega
    · have hlt := h.fresh t d hd s hsd
      omega
    · exact h.across t d t' d' hd hd' s hsd s' hsd' heq
  · intro other c' hc' s hs
    change s.id < bus.nextId + 1
    rcases mem_subscribe hc' hs with ⟨_, hid⟩ | ⟨c, hc, hsc⟩
    · omega
    · have hlt := h.fresh other c hc s hsc
      omega

theorem Waits.subscribe (h : bus.Waits id topic frames) (other : String) :
    (bus.subscribe other).2.Waits id topic frames := by
  rcases h with ⟨c, hc, s, hs, rfl, hreceiving, rfl⟩
  by_cases ho : topic = other
  · subst ho
    refine ⟨_, by rw [find?_subscribe, if_pos rfl], s, ?_, rfl, hreceiving, rfl⟩
    simp only [hc, Option.getD_some]
    exact List.mem_append_left _ (List.mem_filter.2 ⟨hs, hreceiving⟩)
  · exact ⟨c, by rw [find?_subscribe, if_neg ho, hc], s, hs, rfl, hreceiving, rfl⟩

/-- Nothing waits for a new listener. -/
theorem waits_subscribe (bus : MemoryBus) (topic : String) :
    (bus.subscribe topic).2.Waits (bus.subscribe topic).1 topic [] := by
  refine ⟨_, by rw [find?_subscribe, if_pos rfl], { id := bus.nextId, box := .new bus.capacity },
    List.mem_append_right _ List.mem_cons_self, rfl, rfl, rfl⟩

/-! ## Listeners -/

theorem find?_updateBox (bus : MemoryBus) (id : Nat) (f : Mailbox Bytes → Mailbox Bytes)
    (topic : String) :
    (bus.updateBox id f).topics.find? topic =
      (bus.topics.find? topic).map fun c =>
        { c with
          subscriptions := c.subscriptions.map fun s =>
            if s.id = id then { s with box := f s.box } else s } :=
  Table.find?_mapValues _ _ _

theorem Sound.updateBox (h : bus.Sound) (id : Nat) (f : Mailbox Bytes → Mailbox Bytes) :
    (bus.updateBox id f).Sound := by
  refine h.of_sublist (fun topic c' hc' => ?_) rfl
  rw [find?_updateBox] at hc'
  rcases Option.map_eq_some_iff.1 hc' with ⟨c, hc, rfl⟩
  refine ⟨c, hc, ?_⟩
  rw [List.map_map]
  have hids : (Subscription.id ∘ fun s : Subscription =>
      if s.id = id then { s with box := f s.box } else s) = Subscription.id := by
    funext s
    simp only [Function.comp_apply]
    split <;> rfl
  rw [hids]

theorem Waits.updateBox_of_ne (h : bus.Waits id topic frames) {other : Nat} (hne : id ≠ other)
    (f : Mailbox Bytes → Mailbox Bytes) : (bus.updateBox other f).Waits id topic frames := by
  rcases h with ⟨c, hc, s, hs, rfl, hreceiving, rfl⟩
  refine ⟨_, by rw [find?_updateBox, hc, Option.map_some], s, ?_, rfl, hreceiving, rfl⟩
  exact List.mem_map.2 ⟨s, hs, by rw [if_neg hne]⟩

/-- One listener has taken a frame in, and these still wait for it. The others do not notice. -/
structure Takes (bus bus' : MemoryBus) (id : Nat) (topic : String) (rest : List Bytes) : Prop where
  waits : bus'.Waits id topic rest
  sound : bus'.Sound
  nextId : bus'.nextId = bus.nextId
  others : ∀ other topic' frames', other ≠ id → bus.Waits other topic' frames' →
    bus'.Waits other topic' frames'

/-- A listener takes the frame that has waited longest. -/
theorem Waits.take (h : bus.Waits id topic frames) (hsound : bus.Sound) {frame : Bytes}
    {bus' : MemoryBus} (htake : bus.take? id = some (frame, bus')) :
    ∃ rest, frames = frame :: rest ∧ bus.Takes bus' id topic rest := by
  rw [take?, hsound.waiting_eq h] at htake
  cases frames with
  | nil => simp only [reduceCtorEq] at htake
  | cons first rest =>
    simp only [Option.some.injEq, Prod.mk.injEq] at htake
    rcases htake with ⟨rfl, rfl⟩
    refine ⟨rest, rfl, ?_, hsound.updateBox _ _, rfl, fun other topic' frames' hne h' =>
      h'.updateBox_of_ne hne _⟩
    rcases h with ⟨c, hc, s, hs, rfl, hreceiving, hitems⟩
    refine ⟨_, by rw [find?_updateBox, hc, Option.map_some],
      { s with box := { s.box with items := rest } }, ?_, rfl, hreceiving, rfl⟩
    refine List.mem_map.2 ⟨s, hs, ?_⟩
    simp only [if_true, hitems, List.tail_cons]

end MemoryBus

end ChatCluster
