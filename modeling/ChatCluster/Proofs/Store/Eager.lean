import ChatCluster.Proofs.Store.Visible
import Mathlib.Data.Finset.Sort
import Mathlib.Data.String.Basic

/-!
# A Store That Drops at Once

The store in memory lets expired keys lie until a call happens to touch them. The store that is laid
down here drops every key whose time is up before it does anything else, and it keeps sets as sets.
Nobody who makes calls can tell the two apart, whatever the calls are, at whatever times they are
made, and however the switches stand meanwhile.

What connects them is `Mirrors`: the keys that can be seen hold the same in both, and expire at the
same instants. It says nothing of what has expired, which may lie about in the one store and not in
the other. One lemma says that calls keep it, and one that they are answered alike where nothing
that has expired is left, so the run is an induction on the calls.

## Main definitions

* `Content`, `Record`, `Records`: What a store that drops at once holds.
* `Records.dropExpired`, `Records.answer`, `Records.update`: What it does.
* `StoreVisit`, `MemoryStore.answers`, `Records.answers`: Calls one after another, and how either
  store answers them.
* `Mirrors`: Two stores hold the same, as far as can be seen.

## Theorems

* `Records.answer_eq`: Calls are answered alike.
* `Mirrors.call`: Calls keep the stores alike.
* `MemoryStore.answers_eq_eager`: Nobody can tell the stores apart.
-/

namespace ChatCluster

/-! ## The store -/

/-- What a key holds. -/
inductive Content where
  /-- A text. -/
  | text (value : String)
  /-- A set. -/
  | members (names : Finset String)
  deriving DecidableEq

/-- What a key holds, and until when. -/
structure Record where
  /-- What it holds. -/
  content : Content
  /-- The instant from which on it is gone, if there is one. -/
  expiresAt : Option Nat
  deriving DecidableEq

/-- The instant from which on it is gone has come. -/
def Record.isOver (r : Record) (now : Nat) : Bool :=
  r.expiresAt.any fun deadline => deadline ≤ now

/-- Everything that a store which drops at once holds. -/
abbrev Records := Table String Record

namespace Records

variable (records : Records)

/-- Drops every key that is over. -/
def dropExpired (now : Nat) : Records :=
  records.filter fun _ r => !r.isOver now

/-- The text at a key; a set has none. -/
def text? (key : String) : Option String :=
  match (records.find? key).map Record.content with
  | some (.text value) => some value
  | _ => none

/-- The set at a key; a text counts as an empty one. -/
def names (key : String) : Finset String :=
  match (records.find? key).map Record.content with
  | some (.members names) => names
  | _ => ∅

/-- The reply to a call. -/
def answer : (call : StoreCall) → call.Result
  | .get key => records.text? key
  | .delete key | .expire key _ => (records.find? key).isSome
  | .keys start => (records.keys.toFinset.filter fun key => Text.startsWith start key).sort
  | .members key => (records.names key).sort
  | .set _ _ _ | .addMember _ _ | .removeMember _ _ => ()

/-- What is held after a call. -/
def update (now : Nat) : StoreCall → Records
  | .get _ | .keys _ | .members _ => records
  | .set key value ttl =>
    records.insert key { content := .text value, expiresAt := some (now + ttl) }
  | .delete key => records.erase key
  | .expire key ttl => Table.update records key fun r => { r with expiresAt := some (now + ttl) }
  | .addMember key member =>
    -- A set that takes the place of a text expires when the text would have.
    records.insert key
      { content := .members (insert member (records.names key)),
        expiresAt := (records.find? key).bind Record.expiresAt }
  | .removeMember key member =>
    match records.find? key with
    | some { content := .members names, expiresAt } =>
      if names.erase member = ∅ then records.erase key
      else records.insert key { content := .members (names.erase member), expiresAt }
    | _ => records

end Records

/-! ## Calls one after another -/

/-- A call, and what it meets with. -/
structure StoreVisit where
  /-- How much time has passed since the last call. -/
  pause : Nat
  /-- The store is marked unavailable. -/
  unavailable : Bool
  /-- The store is marked stalled. -/
  stalled : Bool
  /-- What is asked. -/
  call : StoreCall

/-- A call and the reply to it. -/
structure StoreAnswer where
  /-- What was asked. -/
  call : StoreCall
  /-- What was replied. -/
  reply : Except StoreError call.Result

/-- The store with its switches as a call meets them. -/
def MemoryStore.switched (store : MemoryStore) (visit : StoreVisit) : MemoryStore :=
  { store with unavailable := visit.unavailable, stalled := visit.stalled }

/-- How a store in memory answers calls. -/
def MemoryStore.answers (store : MemoryStore) (now : Nat) : List StoreVisit → List StoreAnswer
  | [] => []
  | visit :: rest =>
    let now := now + visit.pause
    let (reply, store) := (store.switched visit).call now visit.call
    ⟨visit.call, reply⟩ :: store.answers now rest

/-- Why a call fails, if it does. -/
def StoreVisit.fault (visit : StoreVisit) (opTimeout : Nat) : Option StoreError :=
  if visit.unavailable then some (.unavailable "in-memory store marked unavailable")
  else if visit.stalled then some (.timeout opTimeout)
  else none

/-- How a store that drops at once answers calls. -/
def Records.answers (opTimeout : Nat) (records : Records) (now : Nat) :
    List StoreVisit → List StoreAnswer
  | [] => []
  | visit :: rest =>
    let now := now + visit.pause
    let records := records.dropExpired now
    match visit.fault opTimeout with
    | some e => ⟨visit.call, .error e⟩ :: Records.answers opTimeout records now rest
    | none =>
      ⟨visit.call, .ok (records.answer visit.call)⟩ ::
        Records.answers opTimeout (records.update now visit.call) now rest

/-! ## Two stores that hold the same -/

/-- What a slot holds, its set as a set. -/
def Slot.record (slot : Slot) : Record where
  content :=
    match slot.held with
    | .text value => .text value
    | .members names => .members names.toFinset
  expiresAt := slot.expiresAt

theorem isOver_record (slot : Slot) (now : Nat) : slot.record.isOver now = !slot.isLive now := by
  simp only [Record.isOver, Slot.record, Slot.isLive]
  cases slot.expiresAt with
  | none => rfl
  | some deadline =>
    simp only [Option.any_some, Option.all_some, ← decide_not, Nat.not_lt]

/-- What can be seen is the same, and nothing else is there. -/
def Records.Shows (records : Records) (slots : Slots) (now : Nat) : Prop :=
  ∀ key, records.find? key = (slots.visible now key).map Slot.record

/-- What can be seen is the same in both stores. -/
def Mirrors (records : Records) (slots : Slots) (now : Nat) : Prop :=
  (records.dropExpired now).Shows slots now

variable {records : Records} {slots : Slots} {now : Nat} {key : String}

theorem find?_dropExpired (records : Records) (now : Nat) (key : String) :
    (records.dropExpired now).find? key = (records.find? key).filter fun r => !r.isOver now :=
  Table.find?_filter _ _ _

/-- What has been dropped stays away. -/
theorem Mirrors.of_shows (h : records.Shows slots now) : Mirrors records slots now := by
  intro key
  rw [find?_dropExpired, h key, Option.filter_map]
  -- Nothing is over that can be seen.
  have hlive : (slots.visible now key).filter ((fun r => !r.isOver now) ∘ Slot.record) =
      slots.visible now key := by
    rw [Slots.visible, Option.filter_filter]
    congr 1
    funext slot
    simp only [Function.comp_apply, isOver_record, Bool.not_not, Bool.and_self]
  rw [hlive]

/-- Time takes the same away from both stores. -/
theorem Mirrors.later {later : Nat} (h : Mirrors records slots now) (hle : now ≤ later) :
    Mirrors records slots later := by
  intro key
  have hkey := h key
  rw [find?_dropExpired] at hkey ⊢
  have hcomp : ((fun r : Record => !r.isOver later) ∘ Slot.record) =
      fun slot => slot.isLive later := by
    funext slot
    rw [Function.comp_apply, isOver_record, Bool.not_not]
  rw [Slots.visible_later _ _ hle, ← hcomp, ← Option.filter_map, ← hkey, Option.filter_filter]
  congr 1
  funext r
  -- Whatever was over then is over later.
  cases hover : r.isOver later with
  | true => rw [Bool.not_true, Bool.and_false]
  | false =>
    have hnow : r.isOver now = false := by
      simp only [Record.isOver] at hover ⊢
      cases hdeadline : r.expiresAt with
      | none => rfl
      | some deadline =>
        simp only [hdeadline, Option.any_some, decide_eq_false_iff_not] at hover ⊢
        omega
    rw [hnow]
    rfl

/-! ## Calls -/

/-- A set is listed in the order of its names. -/
theorem sort_toFinset_eq {names : List String} (h : names.Nodup) :
    names.toFinset.sort = sortTexts names := by
  rw [← List.toFinset_eq_of_perm _ _ (sortTexts_perm names)]
  exact (List.toFinset_sort _ ((sortTexts_perm names).nodup_iff.2 h)).2
    (List.pairwise_mergeSort' (· ≤ ·) names)

namespace Records

variable (h : records.Shows slots now)

include h in
theorem text?_eq (key : String) :
    records.text? key = (slots.visible now key).bind Slot.text? := by
  rw [text?, h key]
  cases slots.visible now key with
  | none => rfl
  | some slot => cases hheld : slot.held <;> simp [Slot.record, Slot.text?, hheld]

include h in
theorem names_eq (key : String) :
    records.names key = (((slots.visible now key).map Slot.members).getD []).toFinset := by
  rw [names, h key]
  cases slots.visible now key with
  | none => rfl
  | some slot => cases hheld : slot.held <;> simp [Slot.record, Slot.members, hheld]

include h in
theorem listed_eq (start : String) :
    (records.keys.toFinset.filter fun key => Text.startsWith start key) =
      (slots.visibleKeys now start).toFinset := by
  ext key
  rw [Finset.mem_filter, List.mem_toFinset, List.mem_toFinset, Slots.mem_visibleKeys_iff,
    Table.mem_keys_iff, h key, Option.isSome_map]

include h in
/-- Where nothing is left that cannot be seen, calls are answered as by the store in memory. -/
theorem answer_eq (hnodup : slots.SetsNodup) (call : StoreCall) :
    records.answer call = (slots.call now call).1 := by
  cases call with
  | get key => rw [answer, text?_eq h, Slots.call_get]
  | delete key => rw [answer, h key, Option.isSome_map, Slots.call_delete]
  | expire key ttl => rw [answer, h key, Option.isSome_map, Slots.call_expire]
  | keys start =>
    rw [answer, listed_eq h, sort_toFinset_eq (slots.nodup_visibleKeys now start)]
    rfl
  | members key =>
    have hnames : (((slots.visible now key).map Slot.members).getD []).Nodup := by
      cases hslot : slots.visible now key with
      | none => exact List.nodup_nil
      | some slot => exact hnodup key slot ((slots.visible_eq_some_iff now).1 hslot).1
    rw [answer, names_eq h, sort_toFinset_eq hnames]
    simp only [Slots.call, Slots.find?_sweep_self]
  | set | addMember | removeMember => rfl

end Records

section Updates

variable {after : Slots} (h : records.Shows slots now)

include h in
theorem mirrors_insert (key : String) (slot : Slot)
    (hafter : after.visible now =
      Function.update (slots.visible now) key ((some slot).filter fun s => s.isLive now)) :
    Mirrors (records.insert key slot.record) after now := by
  intro other
  rw [hafter, Function.update_apply, find?_dropExpired, Table.find?_insert]
  by_cases ho : other = key
  · simp only [if_pos ho, Option.filter_some, isOver_record, Bool.not_not]
    split <;> rfl
  · rw [if_neg ho, if_neg ho, ← find?_dropExpired]
    exact Mirrors.of_shows h other

include h in
theorem mirrors_erase (key : String)
    (hafter : after.visible now = Function.update (slots.visible now) key none) :
    Mirrors (records.erase key) after now := by
  intro other
  rw [hafter, Function.update_apply, find?_dropExpired, Table.find?_erase]
  by_cases ho : other = key
  · rw [if_pos ho, if_pos ho]
    rfl
  · rw [if_neg ho, if_neg ho, ← find?_dropExpired]
    exact Mirrors.of_shows h other

include h in
theorem mirrors_unchanged (hafter : after.visible now = slots.visible now) :
    Mirrors records after now := by
  intro key
  rw [hafter]
  exact Mirrors.of_shows h key

include h in
theorem mirrors_expire (key : String) (ttl : Nat) :
    Mirrors (records.update now (.expire key ttl)) (slots.call now (.expire key ttl)).2 now := by
  intro other
  rw [Slots.visible_expire, Function.update_apply, find?_dropExpired, Records.update,
    Table.find?_update]
  by_cases ho : other = key
  · rw [if_pos ho, if_pos ho, h other, ho]
    cases slots.visible now key with
    | none => rfl
    | some slot =>
      -- The record after is that of the slot after, which can be seen if it lives for any time.
      have hover := isOver_record { slot with expiresAt := some (now + ttl) } now
      rw [Slots.isLive_renewal] at hover
      change (some (Slot.record { slot with expiresAt := some (now + ttl) })).filter _ = _
      rw [Option.filter_some, hover, Bool.not_not, Option.bind_some, Slot.renewed]
      by_cases httl : 0 < ttl
      · simp only [httl, decide_true, if_true, Option.map_some]
      · simp only [httl, decide_false, Bool.false_eq_true, if_false, Option.map_none]
  · rw [if_neg ho, if_neg ho, ← find?_dropExpired]
    exact Mirrors.of_shows h other

theorem record_withMember (slot : Slot) (member : String) :
    (Slots.Slot.withMember slot member).record =
      { content := .members (insert member slot.members.toFinset),
        expiresAt := slot.expiresAt } := by
  rw [Slots.Slot.withMember]
  split
  · next hmem =>
    rw [Finset.insert_eq_of_mem (List.mem_toFinset.2 hmem)]
    rfl
  · simp [Slot.record, Finset.union_comm]

theorem toFinset_filter_ne (names : List String) (member : String) :
    (names.filter (· ≠ member)).toFinset = names.toFinset.erase member := by
  ext name
  simp [and_comm]

include h in
theorem mirrors_addMember (key member : String) :
    Mirrors (records.update now (.addMember key member))
      (slots.call now (.addMember key member)).2 now := by
  rw [Records.update, Records.names_eq h, h key]
  simp only [Slots.call, Slots.find?_sweep_self]
  cases hslot : slots.visible now key with
  | none =>
    exact mirrors_insert h key { held := .members [member], expiresAt := none }
      (by rw [Slots.visible_insert, Slots.visible_sweep])
  | some slot =>
    have hrecord := record_withMember slot member
    simp only [Option.map_some, Option.getD_some, Option.bind_some]
    rw [show slot.record.expiresAt = slot.expiresAt from rfl, ← hrecord]
    exact mirrors_insert h key _ (by rw [Slots.visible_insert, Slots.visible_sweep])

include h in
theorem mirrors_removeMember (key member : String) :
    Mirrors (records.update now (.removeMember key member))
      (slots.call now (.removeMember key member)).2 now := by
  rw [Records.update, h key]
  simp only [Slots.call, Slots.find?_sweep_self]
  rcases hslot : slots.visible now key with _ | ⟨⟨value⟩ | ⟨names⟩, expiresAt⟩
  · exact mirrors_unchanged h (Slots.visible_sweep _ _ _)
  · exact mirrors_unchanged h (Slots.visible_sweep _ _ _)
  · have hempty : names.toFinset.erase member = ∅ ↔ names.filter (· ≠ member) = [] := by
      rw [← toFinset_filter_ne, List.toFinset_eq_empty_iff]
    simp only [Option.map_some, Slot.record, hempty]
    split
    · exact mirrors_erase h key (by rw [Slots.visible_erase, Slots.visible_sweep])
    · rw [← toFinset_filter_ne]
      exact mirrors_insert h key { held := .members (names.filter (· ≠ member)), expiresAt }
        (by rw [Slots.visible_insert, Slots.visible_sweep])

include h in
/-- A call keeps the stores alike. -/
theorem Mirrors.call (call : StoreCall) :
    Mirrors (records.update now call) (slots.call now call).2 now := by
  cases call with
  | get key => exact mirrors_unchanged h (slots.visible_get now key)
  | keys start => exact mirrors_unchanged h (slots.visible_keys now start)
  | members key => exact mirrors_unchanged h (slots.visible_sweep now key)
  | set key value ttl =>
    exact mirrors_insert h key { held := .text value, expiresAt := some (now + ttl) }
      (slots.visible_insert now key _)
  | delete key => exact mirrors_erase h key (slots.visible_delete now key)
  | expire key ttl => exact mirrors_expire h key ttl
  | addMember key member => exact mirrors_addMember h key member
  | removeMember key member => exact mirrors_removeMember h key member

end Updates

/-! ## Runs -/

theorem fault_switched (store : MemoryStore) (visit : StoreVisit) :
    (store.switched visit).fault = visit.fault store.opTimeout := rfl

/-- Stores that are alike go on answering alike. -/
theorem answers_eq_of_mirrors (store : MemoryStore) (records : Records) (now : Nat)
    (visits : List StoreVisit) (h : Mirrors records store.slots now)
    (hnodup : store.slots.SetsNodup) :
    store.answers now visits = records.answers store.opTimeout now visits := by
  induction visits generalizing store records now with
  | nil => rfl
  | cons visit rest ih =>
    have hlater : Mirrors records store.slots (now + visit.pause) := h.later (Nat.le_add_right _ _)
    simp only [MemoryStore.answers, Records.answers, MemoryStore.call, fault_switched]
    cases visit.fault store.opTimeout with
    | some e =>
      congr 1
      exact ih (store.switched visit) _ _ (Mirrors.of_shows hlater) hnodup
    | none =>
      simp only
      rw [Records.answer_eq hlater hnodup]
      congr 1
      exact ih { store.switched visit with slots := _ } _ _ (Mirrors.call hlater visit.call)
        (hnodup.call _ _)

/-- Every reply of the store that drops at once is the answer to a call. -/
theorem exists_answer_of_mem {opTimeout : Nat} {visits : List StoreVisit} {call : StoreCall}
    {result : call.Result} (h : ⟨call, .ok result⟩ ∈ records.answers opTimeout now visits) :
    ∃ held : Records, result = held.answer call := by
  induction visits generalizing records now with
  | nil => exact absurd h List.not_mem_nil
  | cons visit rest ih =>
    simp only [Records.answers] at h
    split at h
    · rcases List.mem_cons.1 h with hfirst | hrest
      · cases visit
        cases hfirst
      · exact ih hrest
    · rcases List.mem_cons.1 h with hfirst | hrest
      · cases visit
        cases hfirst
        exact ⟨_, rfl⟩
      · exact ih hrest

/-- A call that the store does not answer does nothing. -/
theorem call_of_switched {store : MemoryStore} (h : store.unavailable = true ∨ store.stalled = true)
    (now : Nat) (call : StoreCall) : ∃ e, store.call now call = (.error e, store) := by
  obtain ⟨e, he⟩ : ∃ e, store.fault = some e := by
    rw [MemoryStore.fault]
    rcases h with hunavailable | hstalled
    · exact ⟨_, if_pos hunavailable⟩
    · rw [if_pos hstalled]
      split <;> exact ⟨_, rfl⟩
  exact ⟨e, by rw [MemoryStore.call, he]⟩

/-- Nobody who makes calls can tell the store in memory, which lets expired keys lie, from one that
    drops every key as soon as it is over. Whatever it lists is in order, and nothing is listed
    twice. While it is marked unavailable or stalled, every call fails and changes nothing. -/
theorem MemoryStore.answers_eq_eager (opTimeout : Nat) (visits : List StoreVisit) :
    (MemoryStore.new opTimeout).answers 0 visits =
        Records.answers opTimeout .empty 0 visits ∧
      (∀ start listed, ⟨.keys start, .ok listed⟩ ∈ (MemoryStore.new opTimeout).answers 0 visits →
        List.Pairwise (· < ·) listed) ∧
      (∀ key listed, ⟨.members key, .ok listed⟩ ∈ (MemoryStore.new opTimeout).answers 0 visits →
        List.Pairwise (· < ·) listed) ∧
      ∀ (store : MemoryStore) (now : Nat) (call : StoreCall),
        store.unavailable = true ∨ store.stalled = true →
          ∃ e, store.call now call = (.error e, store) := by
  have hempty : Mirrors .empty (MemoryStore.new opTimeout).slots 0 :=
    Mirrors.of_shows fun _ => rfl
  have hsame := answers_eq_of_mirrors (MemoryStore.new opTimeout) .empty 0 visits hempty
    Slots.setsNodup_empty
  refine ⟨hsame, fun start listed hmem => ?_, fun key listed hmem => ?_,
    fun store now call h => call_of_switched h now call⟩
  · rw [hsame] at hmem
    obtain ⟨held, rfl⟩ := exists_answer_of_mem hmem
    exact (Finset.sortedLT_sort _).pairwise
  · rw [hsame] at hmem
    obtain ⟨held, rfl⟩ := exists_answer_of_mem hmem
    exact (Finset.sortedLT_sort _).pairwise

/-- A text that is over at once, a set in its place, and looks at the set while it lasts, while the
    store is stalled and when the set is over. -/
def contestedKey : List StoreVisit :=
  [⟨0, false, false, .set "k" "v" 0⟩, ⟨0, false, false, .addMember "k" "x"⟩,
    ⟨1, false, false, .expire "k" 10⟩, ⟨2, false, false, .addMember "k" "a"⟩,
    ⟨3, false, true, .delete "k"⟩, ⟨3, false, false, .members "k"⟩, ⟨2, false, false, .get "k"⟩]

theorem answers_contestedKey :
    (MemoryStore.new 500).answers 0 contestedKey =
      [⟨.set "k" "v" 0, .ok ()⟩, ⟨.addMember "k" "x", .ok ()⟩, ⟨.expire "k" 10, .ok true⟩,
        ⟨.addMember "k" "a", .ok ()⟩, ⟨.delete "k", .error (.timeout 500)⟩,
        ⟨.members "k", .ok ["a", "x"]⟩, ⟨.get "k", .ok none⟩] := by
  have hsort : sortTexts ["x", "a"] = ["a", "x"] := by simp [sortTexts, List.mergeSort]
  rw [← hsort]
  rfl

/-- The set is listed in order although it came out of order, and the stalled store leaves it. -/
theorem answers_eq_eager_contested :
    Records.answers 500 .empty 0 contestedKey =
        [⟨.set "k" "v" 0, .ok ()⟩, ⟨.addMember "k" "x", .ok ()⟩, ⟨.expire "k" 10, .ok true⟩,
          ⟨.addMember "k" "a", .ok ()⟩, ⟨.delete "k", .error (.timeout 500)⟩,
          ⟨.members "k", .ok ["a", "x"]⟩, ⟨.get "k", .ok none⟩] ∧
      List.Pairwise (· < ·) ["a", "x"] ∧
      ∃ e, ({ MemoryStore.new 500 with stalled := true }).call 6 (.delete "k") =
        (.error e, { MemoryStore.new 500 with stalled := true }) := by
  rcases MemoryStore.answers_eq_eager 500 contestedKey with ⟨hsame, _, hmembers, hfails⟩
  rw [answers_contestedKey] at hsame hmembers
  exact ⟨hsame.symm, hmembers "k" ["a", "x"] (by simp), hfails _ 6 _ (Or.inr rfl)⟩

end ChatCluster
