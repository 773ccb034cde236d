import ChatCluster.Proofs.Config.Places
import ChatCluster.Proofs.Config.Words
import Mathlib.Logic.Function.Basic

/-!
# Where Settings Come From

A setting is taken from the first of three sources that says something about it: its variable, its
place in the file, and what is standard. What the sources say is put here in terms of bytes, words
and places, and in one way for all settings. Particular to a setting are only its kind, its
variable, its place and its standard value.

What a source says is a relation, and a reader says how it is found. Reader and relation agree, so
no source says two things about one setting.

## Main definitions

* `Settings.Choice`, `Settings.choice`: What a setting is set to.
* `Settings.Kind`, `Settings.Field.kind`: What a setting can be set to.
* `Settings.Field.variable?`, `Settings.Kind.Denotes`, `Speaks`: What variables say.
* `Settings.Kind.Means`, `FileContent.Writes`: What a file says.
* `Settings.Field.standard?`, `Settings.Standard`: What is standard.
* `Settings.Settles`: What a setting comes to.

## Theorems

* `Settings.ext_choice`: Nothing can be set but settings.
* `Environment.spoken?_eq_some_iff`, `FileContent.written?_eq_some_iff`,
  `Environment.standard_eq_iff`: How the sources are read.
* `Settings.settles_iff`: The first of three sources.
-/

namespace ChatCluster

open Toml
open Settings (Field)

/-! ## Settings one by one -/

namespace Settings

/-- What a setting is set to. -/
inductive Choice where
  | text (s : String)
  | number (n : Nat)
  | flag (b : Bool)
  | backend (b : Backend)
  /-- It is left out. -/
  | nothing
  deriving DecidableEq, Repr

/-- What each setting is set to. -/
def choice (s : Settings) : Field → Choice
  | .id => .text s.id.text
  | .backend => .backend s.backend
  | .redisUrl => .text s.redisUrl
  | .opTimeout => .number s.opTimeout
  | .broadcastTopic => .text s.broadcastTopic
  | .instanceTopicStart => .text s.instanceTopicStart
  | .queueCapacity => .number s.queueCapacity
  | .entryTtl => .number s.entryTtl
  | .heartbeat => .number s.heartbeat
  | .livenessTtl => .number s.livenessTtl
  | .reap => .number s.reap
  | .limited => .flag s.limited
  | .limitCapacity => .number s.limitCapacity.toNat
  | .refillPerMinute => .number s.refillPerMinute.toNat
  | .idleTtl => .number s.idleTtl
  | .metricsBind => s.metricsBind.elim .nothing .text
  | .healthBind => s.healthBind.elim .nothing .text

theorem Choice.elim_text_injective {a b : Option String}
    (h : a.elim Choice.nothing Choice.text = b.elim Choice.nothing Choice.text) : a = b := by
  cases a <;> cases b <;> cases h <;> rfl

/-- Settings are the same if each setting is set to the same. -/
theorem ext_choice {s t : Settings} (h : ∀ f, s.choice f = t.choice f) : s = t := by
  rcases s with ⟨⟨id⟩⟩
  rcases t with ⟨⟨id'⟩⟩
  cases h .id
  cases h .backend
  cases h .redisUrl
  cases h .opTimeout
  cases h .broadcastTopic
  cases h .instanceTopicStart
  cases h .queueCapacity
  cases h .entryTtl
  cases h .heartbeat
  cases h .livenessTtl
  cases h .reap
  cases h .limited
  cases UInt32.toNat_inj.1 (Choice.number.inj (h .limitCapacity))
  cases UInt32.toNat_inj.1 (Choice.number.inj (h .refillPerMinute))
  cases h .idleTtl
  cases Choice.elim_text_injective (h .metricsBind)
  cases Choice.elim_text_injective (h .healthBind)
  rfl

/-- What a setting can be set to. -/
inductive Kind where
  /-- Any text. -/
  | text
  /-- A whole number below a bound. -/
  | number (bound : Nat)
  | flag
  | backend
  deriving DecidableEq, Repr

/-- The kind of each setting. -/
def Field.kind : Field → Kind
  | id | redisUrl | broadcastTopic | instanceTopicStart | metricsBind | healthBind => .text
  | backend => .backend
  | opTimeout | queueCapacity | entryTtl | heartbeat | livenessTtl | reap | idleTtl =>
    .number UInt64.size
  | limited => .flag
  | limitCapacity | refillPerMinute => .number UInt32.size

end Settings

open Settings (Choice Kind)

/-! ## Variables -/

/-- The variable of each setting, if it has one. -/
def Settings.Field.variable? : Field → Option String
  | id => some "CHATMESH_INSTANCE_ID"
  | backend => some "CHATMESH_STORE_BACKEND"
  | redisUrl => some "CHATMESH_REDIS_URL"
  | opTimeout => some "CHATMESH_STORE_OP_TIMEOUT_MS"
  | broadcastTopic => some "CHATMESH_BROADCAST_TOPIC"
  | instanceTopicStart => some "CHATMESH_INSTANCE_TOPIC_PREFIX"
  | queueCapacity => none
  | entryTtl => some "CHATMESH_REGISTRY_ENTRY_TTL_SECS"
  | heartbeat => some "CHATMESH_HEARTBEAT_INTERVAL_SECS"
  | livenessTtl => some "CHATMESH_LIVENESS_TTL_SECS"
  | reap => some "CHATMESH_REAP_INTERVAL_SECS"
  | limited => some "CHATMESH_RATE_LIMIT_ENABLED"
  | limitCapacity => some "CHATMESH_RATE_LIMIT_CAPACITY"
  | refillPerMinute => some "CHATMESH_RATE_LIMIT_REFILL_PER_MINUTE"
  | idleTtl => some "CHATMESH_RATE_LIMIT_IDLE_TTL_SECS"
  | metricsBind => some "CHATMESH_METRICS_BIND"
  | healthBind => some "CHATMESH_HEALTH_BIND"

/-- What a word comes to in a setting of a kind. Capitals do not matter in the words for truth
    values and backends. -/
inductive Settings.Kind.Denotes : Kind → String → Choice → Prop where
  | text (word : String) : Denotes .text word (.text word)
  | number {bound n : Nat} {word : String} (numeral : Decimal.Numeral word n) (lt : n < bound) :
    Denotes (.number bound) word (.number n)
  | flag {word : String} {b : Bool} (mem : Text.lower word ∈ flagWords b) :
    Denotes .flag word (.flag b)
  | backend {word : String} {b : Backend} (mem : Text.lower word ∈ backendNames b) :
    Denotes .backend word (.backend b)

/-- A variable is set to a text with a word in it. -/
def HoldsWord (vars : String → Option Bytes) (name word : String) : Prop :=
  ∃ text, vars name = some (Text.utf8 text) ∧ Text.WordOf text word

/-- The variable of a setting says what the setting is. -/
def Speaks (vars : String → Option Bytes) (f : Field) (c : Choice) : Prop :=
  ∃ name word, f.variable? = some name ∧ HoldsWord vars name word ∧ f.kind.Denotes word c

/-- What a word comes to. -/
def Settings.Kind.ofWord? : Kind → String → Option Choice
  | .text, word => some (.text word)
  | .number bound, word => (Decimal.unsigned? bound word).map .number
  | .flag, word => (Environment.flagOf? word).map .flag
  | .backend, word => (Backend.ofText? word).map .backend

/-- A word is read as what it denotes. -/
theorem Settings.Kind.ofWord?_eq_some_iff (k : Kind) {word : String} (h : Text.trim word = word)
    {c : Choice} : k.ofWord? word = some c ↔ k.Denotes word c := by
  cases k with
  | text =>
    rw [ofWord?, Option.some.injEq]
    exact ⟨fun heq => heq ▸ .text word, fun hdenotes => by cases hdenotes; rfl⟩
  | number bound =>
    rw [ofWord?, Option.map_eq_some_iff]
    constructor
    · rintro ⟨n, hn, rfl⟩
      have hnumeral := Decimal.unsigned?_eq_some_iff.1 hn
      exact .number hnumeral.1 hnumeral.2
    · rintro (_ | ⟨numeral, lt⟩)
      exact ⟨_, Decimal.unsigned?_eq_some_iff.2 ⟨numeral, lt⟩, rfl⟩
  -- The last two readers trim on their own account, which does nothing to a word.
  | flag =>
    rw [ofWord?, Option.map_eq_some_iff]
    constructor
    · rintro ⟨b, hb, rfl⟩
      rw [flagOf?_eq_some_iff, h] at hb
      exact .flag hb
    · rintro (_ | _ | ⟨mem⟩)
      exact ⟨_, flagOf?_eq_some_iff.2 (h.symm ▸ mem), rfl⟩
  | backend =>
    rw [ofWord?, Option.map_eq_some_iff]
    constructor
    · rintro ⟨b, hb, rfl⟩
      rw [Backend.ofText?_eq_some_iff, h] at hb
      exact .backend hb
    · rintro (_ | _ | _ | ⟨mem⟩)
      exact ⟨_, Backend.ofText?_eq_some_iff.2 (h.symm ▸ mem), rfl⟩

theorem Settings.Kind.ofWord?_eq_none_iff (k : Kind) {word : String} (h : Text.trim word = word) :
    k.ofWord? word = none ↔ ∀ c, ¬k.Denotes word c := by
  simp only [Option.eq_none_iff_forall_ne_some, ne_eq, k.ofWord?_eq_some_iff h]

/-- A variable is read as its word. -/
theorem Environment.text?_eq_some_iff {vars : String → Option Bytes} {name word : String} :
    (Environment.ofBytes vars).text? name = some word ↔ HoldsWord vars name word := by
  rw [Environment.text?, Environment.ofBytes, HoldsWord, Option.bind_eq_some_iff]
  constructor
  · rintro ⟨text, htext, hword⟩
    rcases Option.bind_eq_some_iff.1 htext with ⟨bytes, hbytes, hread⟩
    exact ⟨text, Text.utf8_of_ofUtf8? hread ▸ hbytes, Text.nonBlank?_eq_some_iff.1 hword⟩
  · rintro ⟨text, hset, hword⟩
    exact ⟨text, by rw [hset, Option.bind_some, Text.ofUtf8?_utf8],
      Text.nonBlank?_eq_some_iff.2 hword⟩

theorem Environment.text?_eq_none_iff {vars : String → Option Bytes} {name : String} :
    (Environment.ofBytes vars).text? name = none ↔ ∀ word, ¬HoldsWord vars name word := by
  simp only [Option.eq_none_iff_forall_ne_some, ne_eq, Environment.text?_eq_some_iff]

/-- What the variable of a setting comes to. -/
def Environment.spoken? (env : Environment) (f : Field) : Option Choice :=
  f.variable?.bind fun name => (env.text? name).bind f.kind.ofWord?

/-- It comes to what the variable says. -/
theorem Environment.spoken?_eq_some_iff {vars : String → Option Bytes} {f : Field} {c : Choice} :
    (Environment.ofBytes vars).spoken? f = some c ↔ Speaks vars f c := by
  simp only [Environment.spoken?, Option.bind_eq_some_iff, Environment.text?_eq_some_iff, Speaks]
  constructor
  · rintro ⟨name, hname, word, hword, hread⟩
    rcases hword with ⟨text, hset, hof⟩
    exact ⟨name, word, hname, ⟨text, hset, hof⟩, (f.kind.ofWord?_eq_some_iff hof.trim_eq).1 hread⟩
  · rintro ⟨name, word, hname, ⟨text, hset, hof⟩, hdenotes⟩
    exact ⟨name, hname, word, ⟨text, hset, hof⟩,
      (f.kind.ofWord?_eq_some_iff hof.trim_eq).2 hdenotes⟩

theorem Environment.spoken?_eq_none_iff {vars : String → Option Bytes} {f : Field} :
    (Environment.ofBytes vars).spoken? f = none ↔ ∀ c, ¬Speaks vars f c := by
  simp only [Option.eq_none_iff_forall_ne_some, ne_eq, Environment.spoken?_eq_some_iff]

/-! ## The file -/

/-- What a value in a file comes to in a setting of a kind. A backend that nobody knows is taken for
    memory. -/
inductive Settings.Kind.Means : Kind → Value → Choice → Prop where
  | text {s word : String} (word_of : Text.WordOf s word) : Means .text (.text s) (.text word)
  | number {bound n : Nat} (lt : n < bound) : Means (.number bound) (.whole n) (.number n)
  | flag (b : Bool) : Means .flag (.flag b) (.flag b)
  | backend {s word : String} {c : Choice} (word_of : Text.WordOf s word)
    (denotes : Kind.Denotes .backend word c) : Means .backend (.text s) c
  | unknown {s word : String} (word_of : Text.WordOf s word)
    (denotes : ∀ c, ¬Kind.Denotes .backend word c) : Means .backend (.text s) (.backend .memory)

/-- The file says what the setting is. -/
def FileContent.Writes (content : FileContent) (f : Field) (c : Choice) : Prop :=
  ∃ document value, content.document? = some document ∧ f.place.value? document = some value ∧
    f.kind.Means value c

/-- What a value in a file comes to. -/
def Settings.Kind.ofValue? : Kind → Value → Option Choice
  | .text, v => ((FileSettings.text? v).bind Text.nonBlank?).map .text
  | .number bound, v => (FileSettings.natBelow? bound v).map .number
  | .flag, v => (FileSettings.flag? v).map .flag
  | .backend, v => ((FileSettings.text? v).bind Text.nonBlank?).map fun word =>
    .backend ((Backend.ofText? word).getD .memory)

theorem FileSettings.text?_eq_some_iff {v : Value} {s : String} :
    FileSettings.text? v = some s ↔ v = .text s := by
  cases v <;> simp only [FileSettings.text?, Option.some.injEq, Value.text.injEq, reduceCtorEq]

theorem FileSettings.flag?_eq_some_iff {v : Value} {b : Bool} :
    FileSettings.flag? v = some b ↔ v = .flag b := by
  cases v <;> simp only [FileSettings.flag?, Option.some.injEq, Value.flag.injEq, reduceCtorEq]

/-- A value is read as what it means. -/
theorem Settings.Kind.ofValue?_eq_some_iff (k : Kind) {v : Value} {c : Choice} :
    k.ofValue? v = some c ↔ k.Means v c := by
  cases k with
  | text =>
    simp only [ofValue?, Option.map_eq_some_iff, Option.bind_eq_some_iff,
      FileSettings.text?_eq_some_iff, Text.nonBlank?_eq_some_iff]
    constructor
    · rintro ⟨word, ⟨s, rfl, hword⟩, rfl⟩
      exact .text hword
    · rintro (⟨word_of⟩)
      exact ⟨_, ⟨_, rfl, word_of⟩, rfl⟩
  | number bound =>
    simp only [ofValue?, Option.map_eq_some_iff, FileSettings.natBelow?_eq_some_iff]
    constructor
    · rintro ⟨n, ⟨rfl, hlt⟩, rfl⟩
      exact .number hlt
    · rintro (_ | ⟨lt⟩)
      exact ⟨_, ⟨rfl, lt⟩, rfl⟩
  | flag =>
    simp only [ofValue?, Option.map_eq_some_iff, FileSettings.flag?_eq_some_iff]
    constructor
    · rintro ⟨b, rfl, rfl⟩
      exact .flag b
    · rintro (_ | _ | _)
      exact ⟨_, rfl, rfl⟩
  | backend =>
    simp only [ofValue?, Option.map_eq_some_iff, Option.bind_eq_some_iff,
      FileSettings.text?_eq_some_iff, Text.nonBlank?_eq_some_iff]
    constructor
    · rintro ⟨word, ⟨s, rfl, hword⟩, rfl⟩
      -- A name is known or not, and memory may come of either.
      cases hread : Backend.ofText? word with
      | some b =>
        refine .backend hword ((Kind.backend.ofWord?_eq_some_iff hword.trim_eq).1 ?_)
        rw [ofWord?, hread]
        rfl
      | none =>
        refine .unknown hword ((Kind.backend.ofWord?_eq_none_iff hword.trim_eq).1 ?_)
        rw [ofWord?, hread]
        rfl
    · rintro (_ | _ | _ | ⟨word_of, denotes⟩ | ⟨word_of, denotes⟩)
      · have hread := (Kind.backend.ofWord?_eq_some_iff word_of.trim_eq).2 denotes
        rw [ofWord?, Option.map_eq_some_iff] at hread
        rcases hread with ⟨b, hb, rfl⟩
        exact ⟨_, ⟨_, rfl, word_of⟩, by rw [hb]; rfl⟩
      · have hread := (Kind.backend.ofWord?_eq_none_iff word_of.trim_eq).2 denotes
        rw [ofWord?, Option.map_eq_none_iff] at hread
        exact ⟨_, ⟨_, rfl, word_of⟩, by rw [hread]; rfl⟩

/-- What the place of a setting comes to. -/
def FileContent.written? (content : FileContent) (f : Field) : Option Choice :=
  (content.document?.bind f.place.value?).bind f.kind.ofValue?

/-- It comes to what the file says. -/
theorem FileContent.written?_eq_some_iff {content : FileContent} {f : Field} {c : Choice} :
    content.written? f = some c ↔ content.Writes f c := by
  simp only [written?, Option.bind_eq_some_iff, Kind.ofValue?_eq_some_iff, FileContent.Writes]
  constructor
  · rintro ⟨value, ⟨document, hdocument, hvalue⟩, hmeans⟩
    exact ⟨document, value, hdocument, hvalue, hmeans⟩
  · rintro ⟨document, value, hdocument, hvalue, hmeans⟩
    exact ⟨value, ⟨document, hdocument, hvalue⟩, hmeans⟩

theorem FileContent.written?_eq_none_iff {content : FileContent} {f : Field} :
    content.written? f = none ↔ ∀ c, ¬content.Writes f c := by
  simp only [Option.eq_none_iff_forall_ne_some, ne_eq, written?_eq_some_iff]

/-! ## Standard values -/

/-- The standard value of each setting but the name of the instance, which has none. -/
def Settings.Field.standard? : Field → Option Choice
  | id => none
  | backend => some (.backend .memory)
  | redisUrl => some (.text "redis://127.0.0.1:6379")
  | opTimeout => some (.number 500)
  | broadcastTopic => some (.text "chat.broadcast")
  | instanceTopicStart => some (.text "chat.instance.")
  | queueCapacity => some (.number 1024)
  | entryTtl => some (.number 90)
  | heartbeat => some (.number 30)
  | livenessTtl => some (.number 60)
  | reap => some (.number 60)
  | limited => some (.flag true)
  | limitCapacity => some (.number 100)
  | refillPerMinute => some (.number 200)
  | idleTtl => some (.number 300)
  | metricsBind => some .nothing
  | healthBind => some .nothing

/-- What is standard. An instance is named after its machine, if that has a name. -/
inductive Settings.Standard (vars : String → Option Bytes) (spare : InstanceId) :
    Field → Choice → Prop where
  | value {f : Field} {c : Choice} (standard : f.standard? = some c) : Standard vars spare f c
  | machine {word : String} (holds : HoldsWord vars "HOSTNAME" word) :
    Standard vars spare .id (.text word)
  | spare (holds : ∀ word, ¬HoldsWord vars "HOSTNAME" word) :
    Standard vars spare .id (.text spare.text)

/-- What is standard, as it is found. -/
def Environment.standard (env : Environment) (spare : InstanceId) (f : Field) : Choice :=
  f.standard?.getD (.text (env.machine?.getD spare).text)

theorem Environment.standard_eq_iff {vars : String → Option Bytes} {spare : InstanceId} {f : Field}
    {c : Choice} : (Environment.ofBytes vars).standard spare f = c ↔
      Settings.Standard vars spare f c := by
  cases hstandard : f.standard? with
  | some d =>
    rw [Environment.standard, hstandard, Option.getD_some]
    constructor
    · rintro rfl
      exact .value hstandard
    · intro h
      cases h with
      | value standard => exact Option.some.inj (hstandard.symm.trans standard)
      | machine holds => cases hstandard
      | spare holds => cases hstandard
  | none =>
    -- Only the name of the instance is left, and it depends on the machine.
    have hid : f = .id := by
      cases f <;> cases hstandard
      rfl
    subst hid
    rw [Environment.standard, hstandard, Option.getD_none, Environment.machine?]
    cases hname : (Environment.ofBytes vars).text? "HOSTNAME" with
    | none =>
      have hno := Environment.text?_eq_none_iff.1 hname
      constructor
      · rintro rfl
        exact .spare hno
      · intro h
        cases h with
        | value standard => cases standard
        | machine holds => exact absurd holds (hno _)
        | spare holds => rfl
    | some word =>
      have hword := Environment.text?_eq_some_iff.1 hname
      constructor
      · rintro rfl
        exact .machine hword
      · intro h
        cases h with
        | value standard => cases standard
        | machine holds =>
          rw [Environment.text?_eq_some_iff.2 holds, Option.some.injEq] at hname
          rw [hname]
          rfl
        | spare holds => exact absurd hword (holds word)

/-! ## The first of three -/

/-- What a setting comes to: what its variable says, or what the file says where the variable says
    nothing, or what is standard where neither does. -/
inductive Settings.Settles (content : FileContent) (vars : String → Option Bytes)
    (spare : InstanceId) (f : Field) : Choice → Prop where
  | spoken {c : Choice} (speaks : Speaks vars f c) : Settles content vars spare f c
  | written {c : Choice} (silent : ∀ c, ¬Speaks vars f c) (writes : content.Writes f c) :
    Settles content vars spare f c
  | standard {c : Choice} (silent : ∀ c, ¬Speaks vars f c) (blank : ∀ c, ¬content.Writes f c)
    (standard : Standard vars spare f c) : Settles content vars spare f c

/-- The first of what the sources are read as is what the setting comes to. -/
theorem Settings.settles_iff {content : FileContent} {vars : String → Option Bytes}
    {spare : InstanceId} {f : Field} {c : Choice} :
    (((Environment.ofBytes vars).spoken? f).or (content.written? f)).getD
        ((Environment.ofBytes vars).standard spare f) = c ↔
      Settings.Settles content vars spare f c := by
  cases hspoken : (Environment.ofBytes vars).spoken? f with
  | some d =>
    have hd := Environment.spoken?_eq_some_iff.1 hspoken
    rw [Option.some_or, Option.getD_some]
    constructor
    · rintro rfl
      exact .spoken hd
    · intro h
      cases h with
      | spoken speaks =>
        exact Option.some.inj (hspoken.symm.trans (Environment.spoken?_eq_some_iff.2 speaks))
      | written silent => exact absurd hd (silent d)
      | standard silent => exact absurd hd (silent d)
  | none =>
    have hsilent := Environment.spoken?_eq_none_iff.1 hspoken
    rw [Option.none_or]
    cases hwritten : content.written? f with
    | some d =>
      have hd := FileContent.written?_eq_some_iff.1 hwritten
      rw [Option.getD_some]
      constructor
      · rintro rfl
        exact .written hsilent hd
      · intro h
        cases h with
        | spoken speaks => exact absurd speaks (hsilent c)
        | written silent writes =>
          exact Option.some.inj (hwritten.symm.trans (FileContent.written?_eq_some_iff.2 writes))
        | standard silent blank => exact absurd hd (blank d)
    | none =>
      have hblank := FileContent.written?_eq_none_iff.1 hwritten
      rw [Option.getD_none]
      constructor
      · intro h
        exact .standard hsilent hblank (Environment.standard_eq_iff.1 h)
      · intro h
        cases h with
        | spoken speaks => exact absurd speaks (hsilent c)
        | written silent writes => exact absurd writes (hblank c)
        | standard silent blank standard => exact Environment.standard_eq_iff.2 standard

end ChatCluster
