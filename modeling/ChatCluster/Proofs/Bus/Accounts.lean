import ChatCluster.Proofs.Bus.Waiting
import Mathlib.Algebra.BigOperators.Group.List.Basic
import Mathlib.Algebra.GroupWithZero.Nat
import Mathlib.Data.List.Induction

/-!
# The Bus Keeps Its Accounts

Whatever is done with a bus, every frame is accounted for. A listener has received, or has waiting
for it, just the frames that were published on its topic since it came and before its receiver left,
in order, without those that met a full queue. These are counted, on a topic that keeps its count
while listeners come and go, and so is everything that was published.

`BusRecord` is the bus together with what somebody would write down who watched it: for every
listener that there ever was, what its receiver got, what was left in the queue when the receiver
went, and which frames it was offered. The bus itself forgets a listener some time after it has
left, so the record is the only place where all this stands together. `BusRecord.Balanced` is what
every step keeps. The one step with anything to it is a publication, where the listeners that the
bus still knows of are those on record whose receiver is there.

## Main definitions

* `Listener`, `BusRecord`: What is written down.
* `BusEvent`, `BusRecord.step`, `BusRecord.after`: What is done with a bus.
* `Listener.due`, `Listener.losses`, `BusRecord.lost`: What a listener should get, and what is lost.
* `BusRecord.Balanced`: The bus agrees with the record.

## Theorems

* `MemoryBus.droppedCount_publish`, `MemoryBus.totalPublishes_publish`: Single counts.
* `BusRecord.losses_eq`: What a publication loses, as told by the record.
* `BusRecord.Balanced.step`: Every step keeps the balance.
* `BusRecord.accounts_balance`: Every frame is accounted for.
-/

namespace ChatCluster

/-! ## What is written down -/

/-- A frame that was published while a listener was there. -/
structure Offer where
  /-- The frame. -/
  frame : Bytes
  /-- The listener's queue was full. -/
  full : Bool

/-- What is on record of a listener. -/
structure Listener where
  /-- Its number. -/
  id : Nat
  /-- The topic it listens to. -/
  topic : String
  /-- What its receiver has got, in order. -/
  received : List Bytes
  /-- What was in the queue when the receiver left, if it has. -/
  abandoned : Option (List Bytes)
  /-- What was published on its topic while the receiver was there, in order. -/
  offers : List Offer

namespace Listener

/-- The receiver is there, and what is published on the topic is for it. -/
def isOn (l : Listener) (topic : String) : Bool :=
  l.topic = topic && l.abandoned.isNone

/-- What it is offered and has room for. -/
def due (l : Listener) : List Bytes :=
  (l.offers.filter fun o => !o.full).map Offer.frame

/-- How often it had no room. -/
def losses (l : Listener) : Nat :=
  l.offers.countP Offer.full

/-- It is offered a frame. -/
def offered (l : Listener) (topic : String) (offer : Offer) : Listener :=
  if l.isOn topic then { l with offers := l.offers ++ [offer] } else l

end Listener

/-- What may be done with a bus. -/
inductive BusEvent where
  /-- Somebody begins to listen. -/
  | subscribe (topic : String)
  /-- Somebody publishes. -/
  | publish (topic : String) (frame : Bytes)
  /-- A receiver asks for the next frame. -/
  | receive (id : Nat)
  /-- A receiver leaves. -/
  | leave (id : Nat)
  /-- The bus is marked unavailable, or no longer. -/
  | setUnavailable (on : Bool)

/-- A bus, and what was written down. -/
structure BusRecord where
  /-- The bus. -/
  bus : MemoryBus
  /-- All listeners that there have been. -/
  listeners : List Listener
  /-- The topics of the publications that succeeded. -/
  accepted : List String

namespace BusRecord

/-- Nothing has been done yet. -/
def new (capacity : Nat) : BusRecord :=
  { bus := .new capacity, listeners := [], accepted := [] }

/-- Writes something down about a listener. -/
def note (r : BusRecord) (id : Nat) (f : Listener → Listener) : List Listener :=
  r.listeners.map fun l => if l.id = id then f l else l

/-- The receiver of a listener is there. -/
def isPresent (r : BusRecord) (id : Nat) : Bool :=
  r.listeners.any fun l => l.id = id && l.abandoned.isNone

/-- The queue of a listener is full. -/
def isFull (r : BusRecord) (l : Listener) : Bool :=
  r.bus.capacity ≤ (r.bus.waiting l.id).length

/-- Something is done with the bus. Nobody asks for a receiver that has left. -/
def step (r : BusRecord) : BusEvent → BusRecord
  | .subscribe topic =>
    { r with
      bus := (r.bus.subscribe topic).2
      listeners := r.listeners ++
        [{ id := (r.bus.subscribe topic).1, topic, received := [], abandoned := none,
           offers := [] }] }
  | .publish topic frame =>
    match r.bus.publish topic frame with
    | (.error _, bus) => { r with bus }
    | (.ok (), bus) =>
      { bus
        listeners := r.listeners.map fun l => l.offered topic { frame, full := r.isFull l }
        accepted := r.accepted ++ [topic] }
  | .receive id =>
    if r.isPresent id then
      match r.bus.take? id with
      | none => r
      | some (frame, bus) =>
        { r with bus, listeners := r.note id fun l => { l with received := l.received ++ [frame] } }
    else r
  | .leave id =>
    if r.isPresent id then
      { r with
        bus := r.bus.close id
        listeners := r.note id fun l => { l with abandoned := some (r.bus.waiting id) } }
    else r
  | .setUnavailable on => { r with bus := { r.bus with unavailable := on } }

/-- A new bus with so much room in its queues, after one thing has been done after another. -/
def after (capacity : Nat) (events : List BusEvent) : BusRecord :=
  events.foldl step (.new capacity)

/-- How many frames have been lost on a topic to full queues. -/
def lost (r : BusRecord) (topic : String) : Nat :=
  ((r.listeners.filter fun l => l.topic = topic).map Listener.losses).sum

end BusRecord

/-! ## Counts -/

/-- A value that is put at a key counts instead of what the key had. -/
theorem Table.sum_values_insert {κ : Type} [DecidableEq κ] (t : Table κ Nat) (k : κ) (n : Nat) :
    (t.insert k n).values.sum + (t.find? k).getD 0 = t.values.sum + n := by
  rw [Table.insert]
  split
  · next hnone =>
    simp only [Table.values, List.map_append, List.map_cons, List.map_nil, List.sum_append,
      List.sum_cons, List.sum_nil, hnone, Option.getD_none]
    omega
  · next hsome =>
    rcases t with ⟨entries, hnodup⟩
    simp only [Table.find?, Table.values, Table.update, Table.mapValues] at hsome ⊢
    induction entries with
    | nil => exact absurd rfl hsome
    | cons e es ih =>
      rcases e with ⟨k', m⟩
      rw [List.map_cons, List.nodup_cons] at hnodup
      by_cases hk : k' = k
      · -- The key stands here and nowhere else.
        subst hk
        have hrest : es.map (fun e => (e.1, if e.1 = k' then n else e.2)) = es := by
          refine (List.map_congr_left fun e he => ?_).trans (List.map_id es)
          have hne : e.1 ≠ k' := fun heq => hnodup.1 (List.mem_map.2 ⟨e, he, heq⟩)
          rw [if_neg hne]
          rfl
        simp only [List.map_cons, List.sum_cons, Table.lookup, if_true, hrest, Option.getD_some]
        omega
      · simp only [Table.lookup, if_neg hk] at hsome
        have hes := ih hnodup.2 hsome
        simp only [List.map_cons, List.sum_cons, Table.lookup, if_neg hk] at hes ⊢
        omega

namespace MemoryBus

variable {bus : MemoryBus} {topic : String} {frame : Bytes}

theorem publish_of_available (h : bus.unavailable = false) (topic : String) (frame : Bytes) :
    bus.publish topic frame =
      (.ok (),
        { bus with
          published := bus.published.insert topic (bus.publishCount topic + 1)
          topics := bus.topicsAfterPublish topic frame }) := by
  rw [publish, h]
  rfl

theorem publish_of_unavailable (h : bus.unavailable = true) (topic : String) (frame : Bytes) :
    ∃ e, bus.publish topic frame = (.error e, bus) := by
  rw [publish, h]
  exact ⟨_, rfl⟩

theorem publishCount_publish (h : bus.unavailable = false) (topic : String) (frame : Bytes)
    (other : String) :
    (bus.publish topic frame).2.publishCount other =
      bus.publishCount other + [topic].count other := by
  rw [publish_of_available h, publishCount, Table.find?_insert, List.count_singleton]
  by_cases ho : other = topic
  · subst ho
    simp
  · have hne : (topic == other) = false := beq_eq_false_iff_ne.2 (Ne.symm ho)
    rw [if_neg ho, hne, if_neg Bool.false_ne_true]
    rfl

theorem totalPublishes_publish (h : bus.unavailable = false) (topic : String) (frame : Bytes) :
    (bus.publish topic frame).2.totalPublishes = bus.totalPublishes + 1 := by
  have hsum := bus.published.sum_values_insert topic (bus.publishCount topic + 1)
  rw [publish_of_available h]
  simp only [totalPublishes, ← List.sum_eq_foldl]
  rw [publishCount] at hsum ⊢
  omega

/-- A publication adds what it loses to the count of its topic, as far as counts go. -/
theorem droppedCount_publish (h : bus.unavailable = false) (topic : String) (frame : Bytes)
    (other : String) :
    (bus.publish topic frame).2.droppedCount other =
      if other = topic then min maxCount (bus.droppedCount topic + bus.losses topic)
      else bus.droppedCount other := by
  rw [publish_of_available h, droppedCount]
  simp only
  rw [find?_topicsAfterPublish]
  by_cases ho : other = topic
  · rw [if_pos ho, if_pos ho, droppedCount, losses]
    cases hc : bus.topics.find? topic with
    | none => simp only [Option.bind_none, Option.map_none, Option.getD_none, Nat.add_zero,
        Nat.min_zero]
    | some c =>
      simp only [Option.bind_some, Option.map_some, Option.getD_some]
      split
      · -- A topic is forgotten only where nothing has been lost.
        next hforgotten =>
        rw [Bool.and_eq_true, beq_iff_eq] at hforgotten
        exact hforgotten.2.symm
      · rfl
  · rw [if_neg ho, if_neg ho, droppedCount]

theorem droppedCount_subscribe (bus : MemoryBus) (topic other : String) :
    (bus.subscribe topic).2.droppedCount other = bus.droppedCount other := by
  rw [droppedCount, find?_subscribe, droppedCount]
  by_cases ho : other = topic
  · rw [if_pos ho, ho]
    cases bus.topics.find? topic <;> rfl
  · rw [if_neg ho]

theorem droppedCount_updateBox (bus : MemoryBus) (id : Nat) (f : Mailbox Bytes → Mailbox Bytes)
    (other : String) : (bus.updateBox id f).droppedCount other = bus.droppedCount other := by
  rw [droppedCount, find?_updateBox, droppedCount]
  cases bus.topics.find? other <;> rfl

/-! ## Queues of one size -/

/-- All queues have the size that new ones get. -/
structure Uniform (bus : MemoryBus) : Prop where
  /-- Something fits into a queue. -/
  pos : 1 ≤ bus.capacity
  /-- The queues that there are. -/
  capacity : ∀ topic c, bus.topics.find? topic = some c → ∀ s ∈ c.subscriptions,
    s.box.capacity = bus.capacity

theorem uniform_new (capacity : Nat) : (new capacity).Uniform where
  pos := Nat.le_max_left _ _
  capacity _ _ h :=
    absurd h (by simp only [new, Table.find?_empty, reduceCtorEq, not_false_eq_true])

theorem offered_box (s : Subscription) (frame : Bytes) :
    (Subscription.offered s frame).box.capacity = s.box.capacity ∧
      (Subscription.offered s frame).box.receiving = s.box.receiving := by
  rw [Subscription.offered]
  cases hoffer : s.box.offer frame with
  | error e => exact ⟨rfl, rfl⟩
  | ok box =>
    rw [(s.box.offer_eq_ok_iff box frame).1 hoffer |>.2.2]
    exact ⟨rfl, rfl⟩

/-- Whoever listens after a publication has listened before, to the same topic. -/
theorem mem_publish {other : String} {c' : Channel}
    (hc' : (bus.publish topic frame).2.topics.find? other = some c') {s' : Subscription}
    (hs' : s' ∈ c'.subscriptions) :
    ∃ c, bus.topics.find? other = some c ∧ ∃ s ∈ c.subscriptions,
      s'.id = s.id ∧ s'.box.capacity = s.box.capacity ∧ s'.box.receiving = s.box.receiving := by
  rw [(publish_snd bus topic frame).1] at hc'
  split at hc'
  · exact ⟨c', hc', s', hs', rfl, rfl, rfl⟩
  · rw [find?_topicsAfterPublish] at hc'
    split at hc'
    · next ho =>
      rcases Option.bind_eq_some_iff.1 hc' with ⟨c, hc, hafter⟩
      split at hafter
      · cases hafter
      · rw [← Option.some.inj hafter] at hs'
        rcases List.mem_map.1 hs' with ⟨s, hs, rfl⟩
        exact ⟨c, ho ▸ hc, s, (List.mem_filter.1 hs).1, Subscription.offered_id s frame,
          offered_box s frame⟩
    · exact ⟨c', hc', s', hs', rfl, rfl, rfl⟩

theorem Uniform.publish (h : bus.Uniform) (topic : String) (frame : Bytes) :
    (bus.publish topic frame).2.Uniform := by
  have hcapacity : (bus.publish topic frame).2.capacity = bus.capacity := by
    rw [MemoryBus.publish]
    split <;> rfl
  constructor
  · rw [hcapacity]
    exact h.pos
  · intro other c' hc' s' hs'
    rcases mem_publish hc' hs' with ⟨c, hc, s, hs, _, hsize, _⟩
    rw [hsize, hcapacity]
    exact h.capacity other c hc s hs

theorem Uniform.subscribe (h : bus.Uniform) (topic : String) :
    (bus.subscribe topic).2.Uniform := by
  refine ⟨h.pos, fun other c' hc' s hs => ?_⟩
  change s.box.capacity = bus.capacity
  rw [find?_subscribe] at hc'
  split at hc'
  · rw [← Option.some.inj hc'] at hs
    rcases List.mem_append.1 hs with hold | hnew
    · cases hc : bus.topics.find? topic with
      | none =>
        rw [hc] at hold
        exact absurd hold List.not_mem_nil
      | some c =>
        rw [hc, Option.getD_some] at hold
        exact h.capacity topic c hc s (List.mem_filter.1 hold).1
    · rw [List.mem_singleton.1 hnew]
      exact Nat.max_eq_right h.pos
  · exact h.capacity other c' hc' s hs

theorem mem_updateBox {id : Nat} {f : Mailbox Bytes → Mailbox Bytes} {other : String}
    {c' : Channel} (hc' : (bus.updateBox id f).topics.find? other = some c') {s' : Subscription}
    (hs' : s' ∈ c'.subscriptions) :
    ∃ c, bus.topics.find? other = some c ∧ ∃ s ∈ c.subscriptions,
      s' = if s.id = id then { s with box := f s.box } else s := by
  rw [find?_updateBox] at hc'
  rcases Option.map_eq_some_iff.1 hc' with ⟨c, hc, rfl⟩
  rcases List.mem_map.1 hs' with ⟨s, hs, rfl⟩
  exact ⟨c, hc, s, hs, rfl⟩

theorem Uniform.updateBox (h : bus.Uniform) (id : Nat) {f : Mailbox Bytes → Mailbox Bytes}
    (hf : ∀ box, (f box).capacity = box.capacity) : (bus.updateBox id f).Uniform := by
  refine ⟨h.pos, fun other c' hc' s' hs' => ?_⟩
  rcases mem_updateBox hc' hs' with ⟨c, hc, s, hs, rfl⟩
  refine Eq.trans ?_ (h.capacity other c hc s hs)
  split
  · exact hf s.box
  · rfl

/-! ## Who takes a frame -/

variable {id : Nat} {frames : List Bytes}

/-- A listener takes what is published on its topic if there is room in its queue. -/
theorem Waits.mem_takers_iff (h : bus.Waits id topic frames) (hsound : bus.Sound)
    (huniform : bus.Uniform) (havailable : bus.unavailable = false) (other : String) :
    id ∈ bus.takers other ↔ topic = other ∧ frames.length < bus.capacity := by
  rcases h with ⟨c, hc, s, hs, rfl, hreceiving, rfl⟩
  have hsize := huniform.capacity topic c hc s hs
  rw [MemoryBus.mem_takers_iff]
  constructor
  · rintro ⟨_, c', hc', t, ht, hid, _, hroom⟩
    have htopic := hsound.across topic c other c' hc hc' s hs t ht hid.symm
    subst htopic
    rw [hc, Option.some.injEq] at hc'
    subst hc'
    have heq := List.inj_on_of_nodup_map (hsound.within topic c hc) ht hs hid
    rw [heq, Mailbox.hasRoom, decide_eq_true_eq, hsize] at hroom
    exact ⟨rfl, hroom⟩
  · rintro ⟨rfl, hroom⟩
    refine ⟨havailable, c, hc, s, hs, rfl, hreceiving, ?_⟩
    rw [Mailbox.hasRoom, decide_eq_true_eq, hsize]
    exact hroom

end MemoryBus

/-! ## What is written down of a publication -/

namespace Listener

variable (l : Listener) (topic : String) (offer : Offer)

theorem isOn_iff : l.isOn topic = true ↔ l.topic = topic ∧ l.abandoned = none := by
  rw [isOn, Bool.and_eq_true, decide_eq_true_eq, Option.isNone_iff_eq_none]

/-- An offer changes nothing about a listener but its offers. -/
theorem offered_parts :
    (l.offered topic offer).id = l.id ∧ (l.offered topic offer).topic = l.topic ∧
      (l.offered topic offer).received = l.received ∧
      (l.offered topic offer).abandoned = l.abandoned := by
  rw [offered]
  split <;> exact ⟨rfl, rfl, rfl, rfl⟩

theorem due_offered :
    (l.offered topic offer).due =
      l.due ++ if l.isOn topic && !offer.full then [offer.frame] else [] := by
  rw [offered]
  cases hon : l.isOn topic with
  | false => simp only [Bool.false_eq_true, if_false, Bool.false_and, List.append_nil]
  | true =>
    cases hfull : offer.full <;> simp [due, List.filter_append, hfull]

theorem losses_offered :
    (l.offered topic offer).losses = l.losses + if l.isOn topic && offer.full then 1 else 0 := by
  rw [offered]
  cases hon : l.isOn topic with
  | false => simp only [Bool.false_eq_true, if_false, Bool.false_and, Nat.add_zero]
  | true => simp [losses, List.countP_append, List.countP_singleton]

end Listener

namespace BusRecord

/-- What a publication adds to the losses, by induction on the listeners. -/
theorem sum_losses_offered (listeners : List Listener) (topic : String) (frame : Bytes)
    (full : Listener → Bool) (other : String) :
    (((listeners.map fun l => l.offered topic { frame, full := full l }).filter
        fun l => l.topic = other).map Listener.losses).sum =
      ((listeners.filter fun l => l.topic = other).map Listener.losses).sum +
        if other = topic then listeners.countP fun l => l.isOn topic && full l else 0 := by
  induction listeners with
  | nil => simp
  | cons l rest ih =>
    have htopic := (l.offered_parts topic { frame, full := full l }).2.1
    have hloss := l.losses_offered topic { frame, full := full l }
    simp only [List.map_cons, List.filter_cons, List.countP_cons, htopic]
    cases hfull : l.isOn topic && full l with
    | false =>
      -- Nothing is lost to this one.
      rw [hfull, if_neg Bool.false_ne_true, Nat.add_zero] at hloss
      simp only [Bool.false_eq_true, if_false, Nat.add_zero]
      split
      · simp only [List.map_cons, List.sum_cons, ih, hloss, Nat.add_assoc]
      · exact ih
    | true =>
      rw [hfull, if_pos rfl] at hloss
      rw [Bool.and_eq_true, Listener.isOn_iff] at hfull
      by_cases ho : other = topic
      · subst ho
        simp only [hfull.1.1, decide_true, if_true, List.map_cons, List.sum_cons, hloss] at ih ⊢
        omega
      · have hne : ¬l.topic = other := fun heq => ho (heq.symm.trans hfull.1.1)
        simp only [hne, decide_false, Bool.false_eq_true, if_false, if_neg ho] at ih ⊢
        exact ih

/-- The bus agrees with what was written down. -/
structure Balanced (r : BusRecord) : Prop where
  sound : r.bus.Sound
  uniform : r.bus.Uniform
  /-- Nobody has two records. -/
  ids : (r.listeners.map Listener.id).Nodup
  /-- Numbers to come are new. -/
  known : ∀ l ∈ r.listeners, l.id < r.bus.nextId
  /-- Whoever is there has got, or has waiting, what it should get. -/
  present : ∀ l ∈ r.listeners, l.abandoned = none →
    ∃ frames, r.bus.Waits l.id l.topic frames ∧ l.received ++ frames = l.due
  /-- Whoever has left had got, or had waiting, what it should get. -/
  gone : ∀ l ∈ r.listeners, ∀ rest, l.abandoned = some rest → l.received ++ rest = l.due
  /-- Everybody whom the bus takes to be there is. -/
  listed : ∀ topic c, r.bus.topics.find? topic = some c → ∀ s ∈ c.subscriptions,
    s.box.receiving = true → ∃ l ∈ r.listeners, l.id = s.id ∧ l.isOn topic = true
  dropped : ∀ topic, r.bus.droppedCount topic = min maxCount (r.lost topic)
  counted : ∀ topic, r.bus.publishCount topic = r.accepted.count topic
  total : r.bus.totalPublishes = r.accepted.length

theorem balanced_new (capacity : Nat) : (new capacity).Balanced where
  sound := MemoryBus.sound_new capacity
  uniform := MemoryBus.uniform_new capacity
  ids := List.nodup_nil
  known _ h := absurd h List.not_mem_nil
  present _ h := absurd h List.not_mem_nil
  gone _ h := absurd h List.not_mem_nil
  listed _ _ h := absurd h
    (by simp only [new, MemoryBus.new, Table.find?_empty, reduceCtorEq, not_false_eq_true])
  dropped _ := rfl
  counted _ := rfl
  total := rfl

variable {r : BusRecord} {topic : String} {frame : Bytes}

/-- What waits for a listener whose receiver is there. -/
theorem Balanced.waits (h : r.Balanced) {l : Listener} (hl : l ∈ r.listeners)
    (hon : l.isOn topic = true) : r.bus.Waits l.id topic (r.bus.waiting l.id) := by
  rcases (l.isOn_iff topic).1 hon with ⟨rfl, hthere⟩
  rcases h.present l hl hthere with ⟨frames, hwaits, _⟩
  rw [h.sound.waiting_eq hwaits]
  exact hwaits

/-- The queue of a listener whose receiver is there is full when the bus has no room in it. -/
theorem Balanced.isFull_eq (h : r.Balanced) {l : Listener} (hl : l ∈ r.listeners)
    (hon : l.isOn topic = true) {c : Channel} (hc : r.bus.topics.find? topic = some c)
    {s : Subscription} (hs : s ∈ c.subscriptions) (hid : l.id = s.id) :
    r.isFull l = !s.box.hasRoom := by
  rcases h.waits hl hon with ⟨c', hc', t, ht, htid, _, hitems⟩
  rw [hc, Option.some.injEq] at hc'
  subst hc'
  have heq := List.inj_on_of_nodup_map (h.sound.within topic c hc) ht hs (htid.trans hid)
  rw [isFull, ← hitems, heq, Mailbox.hasRoom, ← h.uniform.capacity topic c hc s hs, ← decide_not]
  simp only [Nat.not_lt]

/-- A publication loses one frame for each of those on record who are there with a full queue. -/
theorem losses_eq (h : r.Balanced) (topic : String) :
    r.bus.losses topic = r.listeners.countP fun l => l.isOn topic && r.isFull l := by
  rw [List.countP_eq_length_filter, ← List.length_map (f := Listener.id), MemoryBus.losses]
  cases hc : r.bus.topics.find? topic with
  | none =>
    -- Nobody is there, or the bus would know the topic.
    have hnobody : (r.listeners.filter fun l => l.isOn topic && r.isFull l) = [] := by
      rw [List.filter_eq_nil_iff]
      intro l hl hfull
      rw [Bool.and_eq_true] at hfull
      rcases h.waits hl hfull.1 with ⟨c, hc', _⟩
      rw [hc] at hc'
      cases hc'
    rw [hnobody]
    rfl
  | some c =>
    simp only
    rw [← List.length_map (f := Subscription.id)]
    refine List.Perm.length_eq ((List.perm_ext_iff_of_nodup ?_ ?_).2 fun id => ?_)
    · exact (h.sound.within topic c hc).sublist (List.filter_sublist.map _)
    · exact h.ids.sublist (List.filter_sublist.map _)
    · simp only [List.mem_map, List.mem_filter, Bool.and_eq_true]
      constructor
      · rintro ⟨s, ⟨hs, hloses⟩, rfl⟩
        rw [MemoryBus.Subscription.wouldLose, Bool.and_eq_true] at hloses
        rcases h.listed topic c hc s hs hloses.1 with ⟨l, hl, hid, hon⟩
        refine ⟨l, ⟨hl, hon, ?_⟩, hid⟩
        rw [h.isFull_eq hl hon hc hs hid]
        exact hloses.2
      · rintro ⟨l, ⟨hl, hon, hfull⟩, rfl⟩
        rcases h.waits hl hon with ⟨c', hc', s, hs, hid, hthere, _⟩
        rw [hc, Option.some.injEq] at hc'
        subst hc'
        refine ⟨s, ⟨hs, ?_⟩, hid⟩
        rw [MemoryBus.Subscription.wouldLose, hthere, Bool.true_and,
          ← h.isFull_eq hl hon hc hs hid.symm]
        exact hfull

/-! ## Steps -/

section Steps

variable (h : r.Balanced)

include h in
theorem Balanced.publish (topic : String) (frame : Bytes) :
    (r.step (.publish topic frame)).Balanced := by
  by_cases hunavailable : r.bus.unavailable = true
  · rcases MemoryBus.publish_of_unavailable hunavailable topic frame with ⟨e, hfails⟩
    have hsame : r.step (.publish topic frame) = r := by
      simp only [step, hfails]
    rw [hsame]
    exact h
  · have havailable : r.bus.unavailable = false := Bool.eq_false_iff.2 hunavailable
    have hstep : r.step (.publish topic frame) =
        { bus := (r.bus.publish topic frame).2
          listeners := r.listeners.map fun l => l.offered topic { frame, full := r.isFull l }
          accepted := r.accepted ++ [topic] } := by
      simp only [step, MemoryBus.publish_of_available havailable]
    rw [hstep]
    constructor
    · exact h.sound.publish topic frame
    · exact h.uniform.publish topic frame
    · rw [List.map_map]
      have hids : (Listener.id ∘ fun l : Listener =>
          l.offered topic { frame, full := r.isFull l }) = Listener.id :=
        funext fun l => (l.offered_parts topic _).1
      rw [hids]
      exact h.ids
    · intro l' hl'
      rcases List.mem_map.1 hl' with ⟨l, hl, rfl⟩
      rw [(l.offered_parts topic _).1]
      exact Nat.lt_of_lt_of_eq (h.known l hl) (MemoryBus.publish_snd r.bus topic frame).2.symm
    · intro l' hl' hthere
      rcases List.mem_map.1 hl' with ⟨l, hl, rfl⟩
      rcases l.offered_parts topic { frame, full := r.isFull l } with
        ⟨hid, htopic, hreceived, habandoned⟩
      rw [habandoned] at hthere
      rcases h.present l hl hthere with ⟨frames, hwaits, hdue⟩
      refine ⟨frames ++ if l.id ∈ r.bus.takers topic then [frame] else [], ?_, ?_⟩
      · rw [hid, htopic]
        exact hwaits.publish h.sound topic frame
      rw [hreceived, ← List.append_assoc, hdue, l.due_offered]
      congr 1
      -- It takes the frame if it is due.
      have hiff := hwaits.mem_takers_iff h.sound h.uniform havailable topic
      have hfull : r.isFull l = decide (r.bus.capacity ≤ frames.length) := by
        rw [isFull, h.sound.waiting_eq hwaits]
      simp only [hiff, hfull, Listener.isOn, hthere, Option.isNone_none, Bool.and_true,
        Bool.and_eq_true, decide_eq_true_eq, ← decide_not, Nat.not_le]
    · intro l' hl' rest hrest
      rcases List.mem_map.1 hl' with ⟨l, hl, rfl⟩
      rcases l.offered_parts topic { frame, full := r.isFull l } with ⟨_, _, _, habandoned⟩
      rw [habandoned] at hrest
      have hoff : l.isOn topic = false := by
        rw [Listener.isOn, hrest, Option.isNone_some, Bool.and_false]
      rw [Listener.offered, hoff, if_neg Bool.false_ne_true]
      exact h.gone l hl rest hrest
    · intro other c' hc' s' hs' hreceiving
      rcases MemoryBus.mem_publish hc' hs' with ⟨c, hc, s, hs, hid, _, hsame⟩
      rcases h.listed other c hc s hs (hsame ▸ hreceiving) with ⟨l, hl, hlid, hon⟩
      rcases l.offered_parts topic { frame, full := r.isFull l } with
        ⟨hid', htopic, _, habandoned⟩
      refine ⟨_, List.mem_map_of_mem hl, hid'.trans (hlid.trans hid.symm), ?_⟩
      rw [Listener.isOn, htopic, habandoned]
      exact hon
    · intro other
      rw [MemoryBus.droppedCount_publish havailable, lost, sum_losses_offered, losses_eq h topic,
        h.dropped topic, h.dropped other]
      by_cases ho : other = topic
      · subst ho
        simp only [if_true, lost]
        omega
      · simp only [if_neg ho, lost, Nat.add_zero]
    · intro other
      rw [MemoryBus.publishCount_publish havailable, h.counted other, List.count_append]
    · rw [MemoryBus.totalPublishes_publish havailable, h.total, List.length_append]
      rfl

include h in
theorem Balanced.subscribe (topic : String) : (r.step (.subscribe topic)).Balanced := by
  have hid : (r.bus.subscribe topic).1 = r.bus.nextId := rfl
  have hnext : (r.bus.subscribe topic).2.nextId = r.bus.nextId + 1 := rfl
  constructor
  · exact h.sound.subscribe topic
  · exact h.uniform.subscribe topic
  · simp only [step, List.map_append, List.map_cons, List.map_nil]
    rw [List.nodup_append]
    refine ⟨h.ids, List.nodup_singleton _, ?_⟩
    intro a ha b hb heq
    rcases List.mem_map.1 ha with ⟨l, hl, rfl⟩
    have hlt := h.known l hl
    rw [List.mem_singleton.1 hb, hid] at heq
    omega
  · intro l hl
    change l.id < r.bus.nextId + 1
    rcases List.mem_append.1 hl with hold | hnew
    · exact Nat.lt_succ_of_lt (h.known l hold)
    · rw [List.mem_singleton.1 hnew]
      exact Nat.lt_succ_self _
  · intro l hl hthere
    rcases List.mem_append.1 hl with hold | hnew
    · rcases h.present l hold hthere with ⟨frames, hwaits, hdue⟩
      exact ⟨frames, hwaits.subscribe topic, hdue⟩
    · rw [List.mem_singleton.1 hnew]
      exact ⟨[], MemoryBus.waits_subscribe r.bus topic, rfl⟩
  · intro l hl rest hrest
    rcases List.mem_append.1 hl with hold | hnew
    · exact h.gone l hold rest hrest
    · rw [List.mem_singleton.1 hnew] at hrest
      cases hrest
  · intro other c' hc' s hs hreceiving
    rcases MemoryBus.mem_subscribe hc' hs with ⟨rfl, hnew⟩ | ⟨c, hc, hold⟩
    · refine ⟨_, List.mem_append_right _ List.mem_cons_self, hnew.symm, ?_⟩
      exact (Listener.isOn_iff _ _).2 ⟨rfl, rfl⟩
    · rcases h.listed other c hc s hold hreceiving with ⟨l, hl, hlid, hon⟩
      exact ⟨l, List.mem_append_left _ hl, hlid, hon⟩
  · intro other
    have hnothing : (r.step (.subscribe topic)).lost other = r.lost other := by
      simp only [lost, step, List.filter_append, List.map_append, List.sum_append]
      rw [Nat.add_eq_left]
      by_cases ho : topic = other
      · simp [ho, Listener.losses]
      · simp [ho]
    rw [hnothing, ← h.dropped other]
    exact MemoryBus.droppedCount_subscribe r.bus topic other
  · exact h.counted
  · exact h.total

include h in
/-- Something changes in one queue and in what is written down of its listener. -/
theorem Balanced.note {id : Nat} {f : Mailbox Bytes → Mailbox Bytes} {g : Listener → Listener}
    (hsize : ∀ box, (f box).capacity = box.capacity)
    (hg : ∀ l, (g l).id = l.id ∧ (g l).topic = l.topic ∧ (g l).offers = l.offers)
    (hstays : ∀ box l, (f box).receiving = true →
      box.receiving = true ∧ (g l).abandoned = l.abandoned)
    (hpresent : ∀ l ∈ r.listeners, l.id = id → (g l).abandoned = none →
      ∃ frames, (r.bus.updateBox id f).Waits l.id l.topic frames ∧
        (g l).received ++ frames = l.due)
    (hgone : ∀ l ∈ r.listeners, l.id = id → ∀ rest, (g l).abandoned = some rest →
      (g l).received ++ rest = l.due) :
    Balanced { r with bus := r.bus.updateBox id f, listeners := r.note id g } := by
  -- What is written down changes neither numbers nor topics nor offers.
  have hkeeps : ∀ l : Listener, (if l.id = id then g l else l).id = l.id ∧
      (if l.id = id then g l else l).topic = l.topic ∧
      (if l.id = id then g l else l).offers = l.offers := by
    intro l
    split
    · exact hg l
    · exact ⟨rfl, rfl, rfl⟩
  have hdue : ∀ l : Listener, (if l.id = id then g l else l).due = l.due := by
    intro l
    rw [Listener.due, (hkeeps l).2.2, Listener.due]
  constructor
  · exact h.sound.updateBox id f
  · exact h.uniform.updateBox id hsize
  · simp only [BusRecord.note, List.map_map]
    have hids : (Listener.id ∘ fun l : Listener => if l.id = id then g l else l) = Listener.id :=
      funext fun l => (hkeeps l).1
    rw [hids]
    exact h.ids
  · intro l' hl'
    rcases List.mem_map.1 hl' with ⟨l, hl, rfl⟩
    rw [(hkeeps l).1]
    exact h.known l hl
  · intro l' hl' hthere
    rcases List.mem_map.1 hl' with ⟨l, hl, rfl⟩
    rw [(hkeeps l).1, (hkeeps l).2.1, hdue]
    by_cases hid : l.id = id
    · rw [if_pos hid] at hthere ⊢
      exact hpresent l hl hid hthere
    · rw [if_neg hid] at hthere ⊢
      rcases h.present l hl hthere with ⟨frames, hwaits, hframes⟩
      exact ⟨frames, hwaits.updateBox_of_ne hid f, hframes⟩
  · intro l' hl' rest hrest
    rcases List.mem_map.1 hl' with ⟨l, hl, rfl⟩
    rw [hdue]
    by_cases hid : l.id = id
    · rw [if_pos hid] at hrest ⊢
      exact hgone l hl hid rest hrest
    · rw [if_neg hid] at hrest ⊢
      exact h.gone l hl rest hrest
  · intro other c' hc' s' hs' hreceiving
    rcases MemoryBus.mem_updateBox hc' hs' with ⟨c, hc, s, hs, rfl⟩
    have hsid : (if s.id = id then { s with box := f s.box } else s : Subscription).id = s.id := by
      split <;> rfl
    rw [hsid]
    by_cases hid : s.id = id
    · rw [if_pos hid] at hreceiving
      rcases h.listed other c hc s hs (hstays s.box ⟨0, "", [], none, []⟩ hreceiving).1 with
        ⟨l, hl, hlid, hon⟩
      refine ⟨_, List.mem_map_of_mem hl, ((hkeeps l).1).trans hlid, ?_⟩
      rw [Listener.isOn, (hkeeps l).2.1, if_pos (hlid.trans hid), (hstays s.box l hreceiving).2]
      exact hon
    · rw [if_neg hid] at hreceiving
      rcases h.listed other c hc s hs hreceiving with ⟨l, hl, hlid, hon⟩
      have hne : l.id ≠ id := fun heq => hid (hlid.symm.trans heq)
      refine ⟨l, List.mem_map.2 ⟨l, hl, if_neg hne⟩, hlid, hon⟩
  · intro other
    have hlost : ({ r with bus := r.bus.updateBox id f, listeners := r.note id g } :
        BusRecord).lost other = r.lost other := by
      simp only [lost, BusRecord.note, List.filter_map, List.map_map]
      have htopics : ((fun l : Listener => decide (l.topic = other)) ∘
          fun l : Listener => if l.id = id then g l else l) = fun l => decide (l.topic = other) :=
        funext fun l => by rw [Function.comp_apply, (hkeeps l).2.1]
      have hlosses : (Listener.losses ∘ fun l : Listener => if l.id = id then g l else l) =
          Listener.losses :=
        funext fun l => by rw [Function.comp_apply, Listener.losses, (hkeeps l).2.2,
          Listener.losses]
      rw [htopics, hlosses]
    rw [hlost, ← h.dropped other]
    exact MemoryBus.droppedCount_updateBox r.bus id f other
  · exact h.counted
  · exact h.total

include h in
theorem Balanced.abandoned_of_isPresent {id : Nat} (hpresent : r.isPresent id = true)
    {l : Listener} (hl : l ∈ r.listeners) (hid : l.id = id) : l.abandoned = none := by
  rcases List.any_eq_true.1 hpresent with ⟨l', hl', hthere⟩
  rw [Bool.and_eq_true, decide_eq_true_eq, Option.isNone_iff_eq_none] at hthere
  rw [List.inj_on_of_nodup_map h.ids hl hl' (hid.trans hthere.1.symm)]
  exact hthere.2

include h in
theorem Balanced.receive (id : Nat) : (r.step (.receive id)).Balanced := by
  simp only [step]
  split
  · next hpresent =>
    split
    · exact h
    · next frame bus htake =>
      have hbus : bus = r.bus.updateBox id fun box => { box with items := box.items.tail } := by
        rw [MemoryBus.take?] at htake
        split at htake
        · cases htake
        · exact (congrArg Prod.snd (Option.some.inj htake)).symm
      rw [hbus]
      refine h.note (fun _ => rfl) (fun _ => ⟨rfl, rfl, rfl⟩)
        (fun _ _ hreceiving => ⟨hreceiving, rfl⟩) ?_ ?_
      · intro l hl hid hthere
        subst hid
        rcases h.present l hl hthere with ⟨frames, hwaits, hdue⟩
        rcases hwaits.take h.sound htake with ⟨rest, hframes, htakes⟩
        refine ⟨rest, hbus ▸ htakes.waits, ?_⟩
        rw [← hdue, hframes, List.append_assoc]
        rfl
      · intro l hl hid rest hrest
        have hthere := h.abandoned_of_isPresent hpresent hl hid
        rw [hthere] at hrest
        cases hrest
  · exact h

include h in
theorem Balanced.leave (id : Nat) : (r.step (.leave id)).Balanced := by
  simp only [step]
  split
  · next hpresent =>
    refine h.note (fun _ => rfl) (fun _ => ⟨rfl, rfl, rfl⟩)
      (fun _ _ hreceiving => absurd hreceiving Bool.false_ne_true) ?_ ?_
    · intro l hl hid hthere
      cases hthere
    · intro l hl hid rest hrest
      -- What is left behind is what was waiting.
      subst hid
      rcases h.present l hl (h.abandoned_of_isPresent hpresent hl rfl) with
        ⟨frames, hwaits, hdue⟩
      rw [← Option.some.inj hrest, h.sound.waiting_eq hwaits]
      exact hdue
  · exact h

include h in
/-- Every step keeps the balance. -/
theorem Balanced.step (e : BusEvent) : (r.step e).Balanced := by
  cases e with
  | subscribe topic => exact h.subscribe topic
  | publish topic frame => exact h.publish topic frame
  | receive id => exact h.receive id
  | leave id => exact h.leave id
  | setUnavailable on =>
    exact ⟨⟨h.sound.within, h.sound.across, h.sound.fresh⟩, ⟨h.uniform.pos, h.uniform.capacity⟩,
      h.ids, h.known, h.present, h.gone, h.listed, h.dropped, h.counted, h.total⟩

end Steps

theorem balanced_after (capacity : Nat) (events : List BusEvent) :
    (after capacity events).Balanced := by
  induction events using List.reverseRecOn with
  | nil => exact balanced_new capacity
  | append_singleton earlier e ih =>
    rw [after, List.foldl_append]
    exact ih.step e

/-- Whatever is done with a bus, every listener has received, or has waiting for it, or had waiting
    when its receiver left, just the frames that were published on its topic while the receiver was
    there and its queue was not full, in order. The others are counted as lost on that topic, as far
    as counts go, and publications that succeed are counted and no others. One fails exactly while
    the bus is marked unavailable, and then changes nothing. -/
theorem accounts_balance (capacity : Nat) (events : List BusEvent) :
    (∀ l ∈ (after capacity events).listeners,
        l.received ++ l.abandoned.getD ((after capacity events).bus.waiting l.id) = l.due) ∧
      (∀ topic, (after capacity events).bus.droppedCount topic =
        min maxCount ((after capacity events).lost topic)) ∧
      (∀ topic, (after capacity events).bus.publishCount topic =
        (after capacity events).accepted.count topic) ∧
      (after capacity events).bus.totalPublishes = (after capacity events).accepted.length ∧
      ∀ topic frame, (after capacity events).bus.unavailable = true ↔
        ∃ e, (after capacity events).bus.publish topic frame =
          (.error e, (after capacity events).bus) := by
  have h := balanced_after capacity events
  refine ⟨fun l hl => ?_, h.dropped, h.counted, h.total, fun topic frame => ⟨fun hfails => ?_, ?_⟩⟩
  · cases habandoned : l.abandoned with
    | some rest => exact h.gone l hl rest habandoned
    | none =>
      rcases h.present l hl habandoned with ⟨frames, hwaits, hdue⟩
      rw [Option.getD_none, h.sound.waiting_eq hwaits]
      exact hdue
  · exact MemoryBus.publish_of_unavailable hfails topic frame
  · rintro ⟨e, hfails⟩
    by_contra havailable
    rw [MemoryBus.publish_of_available (Bool.eq_false_iff.2 havailable)] at hfails
    cases hfails

/-- A slow listener that leaves, a faster one that gets too much in the end, and a latecomer. -/
def busyTopic : List BusEvent :=
  [.subscribe "t", .subscribe "t", .publish "t" [1], .receive 1, .publish "t" [2], .leave 0,
    .publish "t" [3], .publish "s" [4], .subscribe "t", .setUnavailable true, .publish "t" [5]]

/-- One frame waits for the faster listener when two have been lost on the topic, one to each of the
    first two listeners, and the last publication is refused. -/
theorem accounts_balance_busyTopic :
    (∃ l ∈ (after 1 busyTopic).listeners,
        l.received = [[1]] ∧ (after 1 busyTopic).bus.waiting l.id = [[2]] ∧
        l.due = [[1], [2]] ∧ l.abandoned = none) ∧
      (∃ l ∈ (after 1 busyTopic).listeners, l.abandoned = some [[1]] ∧ l.due = [[1]]) ∧
      (after 1 busyTopic).bus.droppedCount "t" = 2 ∧
      (after 1 busyTopic).bus.publishCount "t" = 3 ∧
      (after 1 busyTopic).bus.totalPublishes = 4 ∧
      ∃ e, (after 1 busyTopic).bus.publish "t" [5] = (.error e, (after 1 busyTopic).bus) := by
  rcases accounts_balance 1 busyTopic with ⟨hlisteners, hdropped, hcounted, htotal, hfails⟩
  refine ⟨?_, ?_, hdropped "t", hcounted "t", htotal, (hfails "t" [5]).1 rfl⟩
  · have hmem : (⟨1, "t", [[1]], none, [⟨[1], false⟩, ⟨[2], false⟩, ⟨[3], true⟩]⟩ : Listener) ∈
        (after 1 busyTopic).listeners := List.mem_cons_of_mem _ List.mem_cons_self
    have hdue := hlisteners _ hmem
    refine ⟨_, hmem, rfl, ?_, rfl, rfl⟩
    exact List.cons_inj_right [1] |>.1 hdue
  · have hmem : (⟨0, "t", [], some [[1]], [⟨[1], false⟩, ⟨[2], true⟩]⟩ : Listener) ∈
        (after 1 busyTopic).listeners := List.mem_cons_self
    exact ⟨_, hmem, rfl, (hlisteners _ hmem).symm⟩

end BusRecord

end ChatCluster
