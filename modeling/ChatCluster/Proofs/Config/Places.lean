import ChatCluster.Config.Settings

/-!
# Places in the Settings File

Everything that can be set, one by one, and where each setting stands in a document: in a part that
is a table, under its name; in a part that is a list, at its position. A file that can be read gives
exactly what stands at these places.

## Main definitions

* `Settings.Field`: Everything that can be set.
* `Settings.Place`, `Settings.Field.place`: Where a setting stands.
* `Settings.Place.value?`: What stands there.
* `FileSettings.ReadFrom`: The settings of a file are what stands at their places.
* `FileContent.document?`: The document in a file.

## Theorems

* `FileSettings.readFrom_of_ofDocument?`, `FileContent.readFrom_of_settings`: They are.
-/

namespace ChatCluster

open Toml

namespace Settings

/-- Everything that can be set. -/
inductive Field where
  | id
  | backend
  | redisUrl
  | opTimeout
  | broadcastTopic
  | instanceTopicStart
  | queueCapacity
  | entryTtl
  | heartbeat
  | livenessTtl
  | reap
  | limited
  | limitCapacity
  | refillPerMinute
  | idleTtl
  | metricsBind
  | healthBind
  deriving DecidableEq, Repr

/-- Where a setting stands in a document. -/
structure Place where
  /-- The part of the document. -/
  part : String
  /-- The position in the part, if that is a list. -/
  position : Nat
  /-- The name in the part, if that is a table. -/
  name : String
  deriving DecidableEq, Repr

/-- Where each setting stands. -/
def Field.place : Field → Place
  | id => ⟨"instance", 0, "id"⟩
  | backend => ⟨"store", 0, "backend"⟩
  | redisUrl => ⟨"store", 1, "redis_url"⟩
  | opTimeout => ⟨"store", 2, "op_timeout_ms"⟩
  | broadcastTopic => ⟨"bus", 0, "broadcast_topic"⟩
  | instanceTopicStart => ⟨"bus", 1, "instance_topic_prefix"⟩
  | queueCapacity => ⟨"bus", 2, "subscriber_queue_capacity"⟩
  | entryTtl => ⟨"registry", 0, "entry_ttl_secs"⟩
  | heartbeat => ⟨"liveness", 0, "heartbeat_interval_secs"⟩
  | livenessTtl => ⟨"liveness", 1, "ttl_secs"⟩
  | reap => ⟨"liveness", 2, "reap_interval_secs"⟩
  | limited => ⟨"rate_limit", 0, "enabled"⟩
  | limitCapacity => ⟨"rate_limit", 1, "capacity"⟩
  | refillPerMinute => ⟨"rate_limit", 2, "refill_per_minute"⟩
  | idleTtl => ⟨"rate_limit", 3, "idle_ttl_secs"⟩
  | metricsBind => ⟨"server", 0, "metrics_bind"⟩
  | healthBind => ⟨"server", 1, "health_bind"⟩

/-- What stands at a place, if anything does. -/
def Place.value? (place : Place) (document : Entries) : Option Value :=
  match document.lookup place.part with
  | some (.table _ entries) => entries.lookup place.name
  | some (.list items) => items[place.position]?
  | _ => none

end Settings

open Settings (Field Place)

namespace FileSettings

theorem natBelow?_eq_some_iff {bound n : Nat} {v : Value} :
    natBelow? bound v = some n ↔ v = .whole n ∧ n < bound := by
  unfold natBelow?
  split
  · next k =>
    simp only [Option.ite_none_right_eq_some, Option.some.injEq, Value.whole.injEq,
      Int.ofNat_eq_natCast, Int.natCast_inj]
    constructor
    · rintro ⟨hlt, rfl⟩
      exact ⟨rfl, hlt⟩
    · rintro ⟨rfl, hlt⟩
      exact ⟨hlt, rfl⟩
  · next hno => exact iff_of_false (Option.some_ne_none _).symm fun h => hno n h.1

/-- A setting that can be read is what is read of its value. -/
theorem eq_bind_of_setting {α : Type} {read : Value → Option α} {given : Option α}
    {slot : Option Value} (h : setting read slot = some given) : given = slot.bind read := by
  cases slot with
  | none => exact (Option.some.inj h).symm
  | some v =>
    rcases Option.map_eq_some_iff.1 h with ⟨a, ha, rfl⟩
    exact ha.symm

/-- The settings of a file are what stands at their places, each read as what it has to be. -/
structure ReadFrom (document : Entries) (file : FileSettings) : Prop where
  id : setting text? (Field.id.place.value? document) = some file.id
  backend : setting text? (Field.backend.place.value? document) = some file.backend
  redisUrl : setting text? (Field.redisUrl.place.value? document) = some file.redisUrl
  opTimeout : setting wide? (Field.opTimeout.place.value? document) = some file.opTimeout
  broadcastTopic : setting text? (Field.broadcastTopic.place.value? document) =
    some file.broadcastTopic
  instanceTopicStart : setting text? (Field.instanceTopicStart.place.value? document) =
    some file.instanceTopicStart
  queueCapacity : setting wide? (Field.queueCapacity.place.value? document) =
    some file.queueCapacity
  entryTtl : setting wide? (Field.entryTtl.place.value? document) = some file.entryTtl
  heartbeat : setting wide? (Field.heartbeat.place.value? document) = some file.heartbeat
  livenessTtl : setting wide? (Field.livenessTtl.place.value? document) = some file.livenessTtl
  reap : setting wide? (Field.reap.place.value? document) = some file.reap
  limited : setting flag? (Field.limited.place.value? document) = some file.limited
  limitCapacity : setting narrow? (Field.limitCapacity.place.value? document) =
    some file.limitCapacity
  refillPerMinute : setting narrow? (Field.refillPerMinute.place.value? document) =
    some file.refillPerMinute
  idleTtl : setting wide? (Field.idleTtl.place.value? document) = some file.idleTtl
  metricsBind : setting text? (Field.metricsBind.place.value? document) = some file.metricsBind
  healthBind : setting text? (Field.healthBind.place.value? document) = some file.healthBind

/-- The settings of a part are what stands at its places. -/
theorem getElem?_of_part? {document : Entries} {part : String} {names : List String}
    {slots : List (Option Value)} (h : part? document part names = some slots) {place : Place}
    (hpart : place.part = part) (hname : names[place.position]? = some place.name) :
    slots[place.position]? = some (place.value? document) := by
  subst hpart
  rw [part?] at h
  rw [Place.value?]
  have habsent : (names.map fun _ => (none : Option Value))[place.position]? = some none := by
    rw [List.getElem?_map, hname, Option.map_some]
  split at h
  · next hlookup =>
    cases h
    rw [hlookup]
    exact habsent
  · next hlookup =>
    cases h
    rw [hlookup, List.getElem?_map, hname, Option.map_some]
  · next items hlookup =>
    -- A list is at least as long as the part has settings.
    split at h
    · next hlong =>
      cases h
      have hlt : place.position < names.length := (List.getElem?_eq_some_iff.1 hname).1
      have hitem : place.position < items.length := Nat.lt_of_lt_of_le hlt hlong
      rw [hlookup, List.getElem?_map, List.getElem?_take_of_lt hlt]
      simp only [List.getElem?_eq_getElem hitem, Option.map_some]
    · cases h
  · next hlookup =>
    cases h
    rw [hlookup]
    exact habsent
  · cases h

/-- So what is read of a setting is read at its place. -/
theorem setting_of_part? {α : Type} {read : Value → Option α} {given : Option α}
    {document : Entries} {part : String} {names : List String} {slots : List (Option Value)}
    {slot : Option Value} (place : Place) (hpart : part? document part names = some slots)
    (hread : setting read slot = some given) (h : place.part = part := by rfl)
    (hname : names[place.position]? = some place.name := by rfl)
    (hslot : slots[place.position]? = some slot := by rfl) :
    setting read (place.value? document) = some given := by
  have hvalue := getElem?_of_part? hpart h hname
  rw [hslot, Option.some.injEq] at hvalue
  exact hvalue ▸ hread

theorem readFrom_of_ofDocument? {document : Entries} {file : FileSettings}
    (h : ofDocument? document = some file) : ReadFrom document file := by
  unfold ofDocument? at h
  replace ⟨_, _, h⟩ := Option.bind_eq_some_iff.1 h
  -- First the parts; one with another number of settings makes for no settings at all.
  replace ⟨_, hinstance, h⟩ := Option.bind_eq_some_iff.1 h
  split at h
  rotate_left
  · cases h
  replace ⟨_, hstore, h⟩ := Option.bind_eq_some_iff.1 h
  split at h
  rotate_left
  · cases h
  replace ⟨_, hbus, h⟩ := Option.bind_eq_some_iff.1 h
  split at h
  rotate_left
  · cases h
  replace ⟨_, hregistry, h⟩ := Option.bind_eq_some_iff.1 h
  split at h
  rotate_left
  · cases h
  replace ⟨_, hliveness, h⟩ := Option.bind_eq_some_iff.1 h
  split at h
  rotate_left
  · cases h
  replace ⟨_, hlimit, h⟩ := Option.bind_eq_some_iff.1 h
  split at h
  rotate_left
  · cases h
  replace ⟨_, hserver, h⟩ := Option.bind_eq_some_iff.1 h
  split at h
  rotate_left
  · cases h
  -- Then the settings, in the order of the record.
  replace ⟨_, hid, h⟩ := Option.bind_eq_some_iff.1 h
  replace ⟨_, hbackend, h⟩ := Option.bind_eq_some_iff.1 h
  replace ⟨_, hurl, h⟩ := Option.bind_eq_some_iff.1 h
  replace ⟨_, htimeout, h⟩ := Option.bind_eq_some_iff.1 h
  replace ⟨_, hbroadcast, h⟩ := Option.bind_eq_some_iff.1 h
  replace ⟨_, hstart, h⟩ := Option.bind_eq_some_iff.1 h
  replace ⟨_, hcapacity, h⟩ := Option.bind_eq_some_iff.1 h
  replace ⟨_, hentry, h⟩ := Option.bind_eq_some_iff.1 h
  replace ⟨_, hheartbeat, h⟩ := Option.bind_eq_some_iff.1 h
  replace ⟨_, httl, h⟩ := Option.bind_eq_some_iff.1 h
  replace ⟨_, hreap, h⟩ := Option.bind_eq_some_iff.1 h
  replace ⟨_, hlimited, h⟩ := Option.bind_eq_some_iff.1 h
  replace ⟨_, hlimitCapacity, h⟩ := Option.bind_eq_some_iff.1 h
  replace ⟨_, hrefill, h⟩ := Option.bind_eq_some_iff.1 h
  replace ⟨_, hidle, h⟩ := Option.bind_eq_some_iff.1 h
  replace ⟨_, hmetrics, h⟩ := Option.bind_eq_some_iff.1 h
  replace ⟨_, hhealth, h⟩ := Option.bind_eq_some_iff.1 h
  cases h
  exact {
    id := setting_of_part? _ hinstance hid
    backend := setting_of_part? _ hstore hbackend
    redisUrl := setting_of_part? _ hstore hurl
    opTimeout := setting_of_part? _ hstore htimeout
    broadcastTopic := setting_of_part? _ hbus hbroadcast
    instanceTopicStart := setting_of_part? _ hbus hstart
    queueCapacity := setting_of_part? _ hbus hcapacity
    entryTtl := setting_of_part? _ hregistry hentry
    heartbeat := setting_of_part? _ hliveness hheartbeat
    livenessTtl := setting_of_part? _ hliveness httl
    reap := setting_of_part? _ hliveness hreap
    limited := setting_of_part? _ hlimit hlimited
    limitCapacity := setting_of_part? _ hlimit hlimitCapacity
    refillPerMinute := setting_of_part? _ hlimit hrefill
    idleTtl := setting_of_part? _ hlimit hidle
    metricsBind := setting_of_part? _ hserver hmetrics
    healthBind := setting_of_part? _ hserver hhealth }

end FileSettings

/-- The document in what is found where the file should be. A missing file is one that says
    nothing. -/
def FileContent.document? : FileContent → Option Entries
  | .missing => some []
  | .unreadable => none
  | .bytes content => (Text.ofUtf8? content).bind Toml.parse?

/-- A file that can be read gives what stands at the places of a document. -/
theorem FileContent.readFrom_of_settings {content : FileContent} {file : FileSettings}
    (h : content.settings = .ok file) :
    ∃ document, content.document? = some document ∧ FileSettings.ReadFrom document file := by
  cases content with
  | missing =>
    cases h
    exact ⟨[], rfl, FileSettings.readFrom_of_ofDocument? rfl⟩
  | unreadable => cases h
  | bytes bytes =>
    rw [FileContent.settings] at h
    cases htext : Text.ofUtf8? bytes with
    | none =>
      rw [htext] at h
      cases h
    | some text =>
      rw [htext] at h
      cases hfile : FileSettings.ofText? text with
      | none =>
        simp only [hfile] at h
        cases h
      | some file' =>
        simp only [hfile] at h
        cases h
        rw [FileSettings.ofText?, Option.bind_eq_some_iff] at hfile
        rcases hfile with ⟨document, hparse, hdocument⟩
        refine ⟨document, ?_, FileSettings.readFrom_of_ofDocument? hdocument⟩
        rw [FileContent.document?, htext, Option.bind_some, hparse]

end ChatCluster
