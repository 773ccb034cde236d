import ChatCluster.Proofs.Config.Sources
import Mathlib.Data.List.Nodup

/-!
# Precedence of Sources

What the readers gather is what the sources come to: each setting is what its variable says, or else
what the file says, or else what is standard. So a variable that says nothing could as well be
missing, the file counts only where variables are silent, and a variable is looked at for one
setting only.

Every setting is read in one of a few ways, which are those of its kind. So the work is done once
for each kind, and of a setting it only remains to be seen that it is read in the way of its kind,
under its own variable and at its own place.

## Main definitions

* `Settings.Field.LooksAt`: The variables that a setting depends on.
* `Mute`: A variable says nothing.
* `Settings.ByPrecedence`: Settings are what the sources come to, and what follows from it.
* `Settings.untidyFile`, `Settings.untidyVariables`: Sources with all kinds of defects.

## Theorems

* `Settings.first_of_three`: One value in place of another is one choice in place of another.
* `Settings.choice_gathered`: What is gathered of a setting, in terms of its sources.
* `Settings.Field.LooksAt.unique`: No variable is looked at for two settings.
* `mute_of_blank`: A blank variable says nothing, nor does one that is no text.
* `Settings.gathered_byPrecedence`: What is gathered is what the sources come to.
-/

namespace ChatCluster

open Toml
open Settings (Field Choice Kind)

/-! ## The file, one kind after another -/

namespace FileSettings

variable {slot : Option Value}

-- On the left the setting as it is gathered, on the right the value as it is read for its kind.
theorem text_of_setting {given : Option String} (h : setting text? slot = some given) :
    (nonBlank? given).map Choice.text = slot.bind Kind.text.ofValue? := by
  rw [eq_bind_of_setting h, nonBlank?, Option.bind_assoc, Option.map_bind]
  rfl

theorem backend_of_setting {given : Option String} (h : setting text? slot = some given) :
    ((nonBlank? given).map fun word => (Backend.ofText? word).getD .memory).map Choice.backend =
      slot.bind Kind.backend.ofValue? := by
  rw [eq_bind_of_setting h, nonBlank?, Option.bind_assoc, Option.map_map, Option.map_bind]
  rfl

theorem flag_of_setting {given : Option Bool} (h : setting flag? slot = some given) :
    given.map Choice.flag = slot.bind Kind.flag.ofValue? := by
  rw [eq_bind_of_setting h, Option.map_bind]
  rfl

theorem wide_of_setting {given : Option Nat} (h : setting wide? slot = some given) :
    given.map Choice.number = slot.bind (Kind.number UInt64.size).ofValue? := by
  rw [eq_bind_of_setting h, Option.map_bind]
  rfl

end FileSettings

/-- A number of 32 bits is the number that has been read. -/
theorem Settings.map_toNat_ofNat {o : Option Nat} (h : ∀ n, o = some n → n < UInt32.size) :
    (o.map UInt32.ofNat).map (fun n => Choice.number n.toNat) = o.map Choice.number := by
  cases o with
  | none => rfl
  | some n => simp only [Option.map_some, UInt32.toNat_ofNat_of_lt' (h n rfl)]

theorem FileSettings.narrow_of_setting {slot : Option Value} {given : Option UInt32}
    (h : setting narrow? slot = some given) :
    (given.map fun n => Choice.number n.toNat) = slot.bind (Kind.number UInt32.size).ofValue? := by
  rw [eq_bind_of_setting h, Option.map_bind]
  refine Option.bind_congr fun v _ => ?_
  exact Settings.map_toNat_ofNat fun n hn => (natBelow?_eq_some_iff.1 hn).2

/-! ## The environment, one kind after another -/

namespace Environment

variable (env : Environment) (name : String)

theorem map_text? :
    (env.text? name).map Choice.text = (env.text? name).bind Kind.text.ofWord? :=
  Option.map_eq_bind

theorem map_backend? :
    ((env.text? name).bind Backend.ofText?).map Choice.backend =
      (env.text? name).bind Kind.backend.ofWord? :=
  Option.map_bind

theorem map_flag? :
    (env.flag? name).map Choice.flag = (env.text? name).bind Kind.flag.ofWord? :=
  Option.map_bind

theorem map_wide? :
    (env.wide? name).map Choice.number =
      (env.text? name).bind (Kind.number UInt64.size).ofWord? :=
  Option.map_bind

theorem map_narrow? :
    ((env.narrow? name).map fun n => Choice.number n.toNat) =
      (env.text? name).bind (Kind.number UInt32.size).ofWord? := by
  refine (Settings.map_toNat_ofNat fun n hn => ?_).trans Option.map_bind
  rcases Option.bind_eq_some_iff.1 hn with ⟨word, -, hword⟩
  exact (Decimal.unsigned?_eq_some_iff.1 hword).2

end Environment

/-! ## All settings -/

namespace Settings

/-- One value in place of another is one choice in place of another. -/
theorem first_of_three {α : Type} (wrap : α → Choice) {first second : Option α} {third : α}
    {spoken written : Option Choice} {standard : Choice} (hfirst : first.map wrap = spoken)
    (hsecond : second.map wrap = written) (hthird : wrap third = standard) :
    wrap (first.getD (second.getD third)) = (spoken.or written).getD standard := by
  subst hfirst hsecond hthird
  cases first <;> cases second <;> rfl

/-- An address is left out if nothing is given for it. -/
theorem first_of_two {first second : Option String} {spoken written : Option Choice}
    (hfirst : first.map Choice.text = spoken) (hsecond : second.map Choice.text = written) :
    (first.or second).elim Choice.nothing Choice.text =
      (spoken.or written).getD Choice.nothing := by
  subst hfirst hsecond
  cases first <;> cases second <;> rfl

theorem getD_bind_ofText? (o : Option String) :
    (o.bind Backend.ofText?).getD .memory =
      (o.map fun word => (Backend.ofText? word).getD .memory).getD .memory := by
  cases o <;> rfl

/-- What is gathered of a setting, in terms of its variable and its place. -/
theorem choice_gathered_of_readFrom {document : Entries} {file : FileSettings}
    (h : FileSettings.ReadFrom document file) (env : Environment) (spare : InstanceId) (f : Field) :
    (gathered file env spare).choice f =
      ((env.spoken? f).or ((f.place.value? document).bind f.kind.ofValue?)).getD
        (env.standard spare f) := by
  cases f with
  | id =>
    exact first_of_three (fun i : InstanceId => Choice.text i.text)
      ((Option.map_map ..).trans (env.map_text? _))
      ((Option.map_map ..).trans (FileSettings.text_of_setting h.id)) rfl
  | backend =>
    refine (congrArg (fun b => Choice.backend (Option.getD _ b)) (getD_bind_ofText? _)).trans ?_
    exact first_of_three Choice.backend (env.map_backend? _)
      (FileSettings.backend_of_setting h.backend) rfl
  | redisUrl =>
    exact first_of_three Choice.text (env.map_text? _) (FileSettings.text_of_setting h.redisUrl) rfl
  | opTimeout =>
    exact first_of_three Choice.number (env.map_wide? _)
      (FileSettings.wide_of_setting h.opTimeout) rfl
  | broadcastTopic =>
    exact first_of_three Choice.text (env.map_text? _)
      (FileSettings.text_of_setting h.broadcastTopic) rfl
  | instanceTopicStart =>
    exact first_of_three Choice.text (env.map_text? _)
      (FileSettings.text_of_setting h.instanceTopicStart) rfl
  | queueCapacity =>
    -- The only setting without a variable.
    exact first_of_three Choice.number (Option.map_none _)
      (FileSettings.wide_of_setting h.queueCapacity) rfl
  | entryTtl =>
    exact first_of_three Choice.number (env.map_wide? _)
      (FileSettings.wide_of_setting h.entryTtl) rfl
  | heartbeat =>
    exact first_of_three Choice.number (env.map_wide? _)
      (FileSettings.wide_of_setting h.heartbeat) rfl
  | livenessTtl =>
    exact first_of_three Choice.number (env.map_wide? _)
      (FileSettings.wide_of_setting h.livenessTtl) rfl
  | reap =>
    exact first_of_three Choice.number (env.map_wide? _) (FileSettings.wide_of_setting h.reap) rfl
  | limited =>
    exact first_of_three Choice.flag (env.map_flag? _) (FileSettings.flag_of_setting h.limited) rfl
  | limitCapacity =>
    exact first_of_three (fun n : UInt32 => Choice.number n.toNat) (env.map_narrow? _)
      (FileSettings.narrow_of_setting h.limitCapacity) rfl
  | refillPerMinute =>
    exact first_of_three (fun n : UInt32 => Choice.number n.toNat) (env.map_narrow? _)
      (FileSettings.narrow_of_setting h.refillPerMinute) rfl
  | idleTtl =>
    exact first_of_three Choice.number (env.map_wide? _)
      (FileSettings.wide_of_setting h.idleTtl) rfl
  | metricsBind =>
    exact first_of_two (env.map_text? _) (FileSettings.text_of_setting h.metricsBind)
  | healthBind =>
    exact first_of_two (env.map_text? _) (FileSettings.text_of_setting h.healthBind)

/-- What is gathered of a setting, in terms of its sources. -/
theorem choice_gathered {content : FileContent} {file : FileSettings}
    (h : content.settings = .ok file) (env : Environment) (spare : InstanceId) (f : Field) :
    (gathered file env spare).choice f =
      ((env.spoken? f).or (content.written? f)).getD (env.standard spare f) := by
  rcases FileContent.readFrom_of_settings h with ⟨document, hdocument, hread⟩
  rw [choice_gathered_of_readFrom hread, FileContent.written?, hdocument, Option.bind_some]

/-! ## What a setting depends on -/

/-- A setting depends on its variable, the name of the instance also on that of the machine. -/
def Field.LooksAt (f : Field) (name : String) : Prop :=
  f.variable? = some name ∨ f = .id ∧ name = "HOSTNAME"

/-- Everything that can be set, in a list. -/
def Field.all : List Field :=
  [.id, .backend, .redisUrl, .opTimeout, .broadcastTopic, .instanceTopicStart, .queueCapacity,
    .entryTtl, .heartbeat, .livenessTtl, .reap, .limited, .limitCapacity, .refillPerMinute,
    .idleTtl, .metricsBind, .healthBind]

theorem Field.mem_all (f : Field) : f ∈ all := by
  cases f <;> decide

theorem Field.variable?_injective : Function.Injective Field.variable? := by
  have hnodup : (all.map Field.variable?).Nodup := by decide +kernel
  exact fun f g heq => List.inj_on_of_nodup_map hnodup f.mem_all g.mem_all heq

theorem Field.variable?_ne_machine (f : Field) : f.variable? ≠ some "HOSTNAME" := by
  cases f <;> decide

/-- No variable is looked at for two settings. -/
theorem Field.LooksAt.unique {f g : Field} {name : String} (hf : f.LooksAt name)
    (hg : g.LooksAt name) : f = g := by
  rcases hf with hf | ⟨rfl, rfl⟩
  · rcases hg with hg | ⟨-, rfl⟩
    · exact variable?_injective (hf.trans hg.symm)
    · exact absurd hf f.variable?_ne_machine
  · rcases hg with hg | ⟨rfl, -⟩
    · exact absurd hg g.variable?_ne_machine
    · rfl

end Settings

namespace Environment

variable {vars : String → Option Bytes} {name : String} {f : Field}

theorem text?_update_of_ne {other : String} (hne : other ≠ name) (bytes : Option Bytes) :
    (ofBytes (Function.update vars name bytes)).text? other = (ofBytes vars).text? other := by
  rw [text?, text?, ofBytes, ofBytes, Function.update_of_ne hne]

theorem text?_update_none :
    (ofBytes (Function.update vars name none)).text? name = none := by
  rw [text?, ofBytes, Function.update_self]
  rfl

theorem spoken?_update_of_ne (hne : f.variable? ≠ some name) (bytes : Option Bytes) :
    (ofBytes (Function.update vars name bytes)).spoken? f = (ofBytes vars).spoken? f := by
  refine Option.bind_congr fun other hother => ?_
  have hother' : other ≠ name := by
    rintro rfl
    exact hne hother
  rw [text?_update_of_ne hother']

theorem spoken?_update_none (h : f.variable? = some name) :
    (ofBytes (Function.update vars name none)).spoken? f = none := by
  rw [spoken?, h, Option.bind_some, text?_update_none]
  rfl

/-- Only the standard name of the instance is a matter of the environment. -/
theorem standard_update_of_ne (hne : ¬(f = .id ∧ name = "HOSTNAME")) (bytes : Option Bytes)
    (spare : InstanceId) :
    (ofBytes (Function.update vars name bytes)).standard spare f =
      (ofBytes vars).standard spare f := by
  by_cases hid : f = .id
  · have hmachine : "HOSTNAME" ≠ name := fun hname => hne ⟨hid, hname.symm⟩
    rw [standard, standard, machine?, machine?, text?_update_of_ne hmachine]
  · cases f <;> first | exact absurd rfl hid | rfl

end Environment

/-- A variable says nothing: neither what its setting is nor, for that of the machine, a name. -/
structure Mute (vars : String → Option Bytes) (name : String) : Prop where
  setting : ∀ f : Field, f.variable? = some name → ∀ c, ¬Speaks vars f c
  machine : name = "HOSTNAME" → ∀ word, ¬HoldsWord vars name word

/-- A variable that is not set says nothing, nor does a blank one or one that is no text. -/
theorem mute_of_blank {vars : String → Option Bytes} {name : String}
    (h : ∀ text, vars name = some (Text.utf8 text) → Text.isBlank text = true) :
    Mute vars name := by
  have hno : ∀ word, ¬HoldsWord vars name word := by
    rintro word ⟨text, hset, hword⟩
    have htrim := (Text.trim_eq_empty_iff text).2 (h text hset)
    exact hword.ne_empty (hword.trim_text.symm.trans htrim)
  refine ⟨?_, fun _ => hno⟩
  rintro f hname c ⟨name', word, hname', hword, -⟩
  cases hname.symm.trans hname'
  exact hno word hword

namespace Settings

/-- Settings are what their sources come to. -/
structure ByPrecedence (content : FileContent) (file : FileSettings)
    (vars : String → Option Bytes) (spare : InstanceId) : Prop where
  /-- Each setting is what its variable says, or else what the file says, or else what is
      standard. -/
  settles : ∀ f c, (gathered file (.ofBytes vars) spare).choice f = c ↔
    Settles content vars spare f c
  /-- A variable that says nothing could as well not be set. -/
  mute : ∀ name, Mute vars name →
    gathered file (.ofBytes vars) spare =
      gathered file (.ofBytes (Function.update vars name none)) spare
  /-- What the file says does not matter where a variable says something. -/
  independent : ∀ (content' : FileContent) file', content'.settings = .ok file' →
    (∀ f, (∀ c, ¬Speaks vars f c) → ∀ c, content.Writes f c ↔ content'.Writes f c) →
      gathered file (.ofBytes vars) spare = gathered file' (.ofBytes vars) spare
  /-- A variable that one setting depends on does not matter to any other. -/
  only : ∀ (f : Field) name, f.LooksAt name → ∀ bytes, ∀ g ≠ f,
    (gathered file (.ofBytes vars) spare).choice g =
      (gathered file (.ofBytes (Function.update vars name bytes)) spare).choice g
  /-- Nor does a variable that no setting depends on. -/
  foreign : ∀ name, (∀ f : Field, ¬f.LooksAt name) → ∀ bytes,
    gathered file (.ofBytes vars) spare =
      gathered file (.ofBytes (Function.update vars name bytes)) spare

section

variable {content : FileContent} {file : FileSettings} (h : content.settings = .ok file)
include h

/-- What is gathered of a setting is the same with another value of a variable that the setting
    does not depend on. -/
theorem choice_gathered_update {f : Field} {name : String} (hno : ¬f.LooksAt name)
    (vars : String → Option Bytes) (bytes : Option Bytes) (spare : InstanceId) :
    (gathered file (.ofBytes vars) spare).choice f =
      (gathered file (.ofBytes (Function.update vars name bytes)) spare).choice f := by
  rw [Field.LooksAt, not_or] at hno
  rw [choice_gathered h, choice_gathered h, Environment.spoken?_update_of_ne hno.1,
    Environment.standard_update_of_ne hno.2]

/-- What is gathered is the same without a variable that says nothing. -/
theorem gathered_update_of_mute {vars : String → Option Bytes} {name : String}
    (hmute : Mute vars name) (spare : InstanceId) :
    gathered file (.ofBytes vars) spare =
      gathered file (.ofBytes (Function.update vars name none)) spare := by
  refine ext_choice fun f => ?_
  by_cases hlooks : f.LooksAt name
  · rw [choice_gathered h, choice_gathered h]
    rcases hlooks with hname | ⟨rfl, rfl⟩
    · -- It is the variable of the setting, which is silent before and missing after.
      have hmachine : ¬(f = .id ∧ name = "HOSTNAME") := by
        rintro ⟨-, rfl⟩
        exact f.variable?_ne_machine hname
      rw [Environment.spoken?_eq_none_iff.2 (hmute.setting f hname),
        Environment.spoken?_update_none hname, Environment.standard_update_of_ne hmachine]
    · -- It is the name of the machine, and there was none.
      have hmachine := Environment.text?_eq_none_iff.2 (hmute.machine rfl)
      rw [Environment.spoken?_update_of_ne (Field.variable?_ne_machine _), Environment.standard,
        Environment.standard, Environment.machine?, Environment.machine?, hmachine,
        Environment.text?_update_none]
  · exact choice_gathered_update h hlooks vars none spare

/-- What is gathered is what the sources come to. -/
theorem gathered_byPrecedence (vars : String → Option Bytes) (spare : InstanceId) :
    ByPrecedence content file vars spare where
  settles f c := by rw [choice_gathered h, settles_iff]
  mute _ hmute := gathered_update_of_mute h hmute spare
  independent content' file' h' hsame := by
    refine ext_choice fun f => ?_
    rw [choice_gathered h, choice_gathered h']
    cases hspoken : (Environment.ofBytes vars).spoken? f with
    | some c => rfl
    | none =>
      have hsilent := Environment.spoken?_eq_none_iff.1 hspoken
      have hwritten : content.written? f = content'.written? f :=
        Option.ext fun c => by
          rw [FileContent.written?_eq_some_iff, FileContent.written?_eq_some_iff]
          exact hsame f hsilent c
      rw [hwritten]
  only f name hf bytes g hne :=
    choice_gathered_update h (fun hg => hne (hg.unique hf)) vars bytes spare
  foreign name hno bytes :=
    ext_choice fun f => choice_gathered_update h (hno f) vars bytes spare

end

/-- A file with a name that has to be trimmed, and a backend that nobody knows. -/
def untidyFile : FileContent :=
  .bytes (Text.utf8 ("[instance]\nid = \"  one \"\n"
    ++ "[store]\nbackend = \"floppy\"\n"
    ++ "[liveness]\nheartbeat_interval_secs = 20\nttl_secs = 70\n"
    ++ "[server]\nmetrics_bind = \" \"\n"))

/-- What is read of it. -/
def untidySettings : FileSettings :=
  { FileSettings.empty with
    id := some "  one ", backend := some "floppy", heartbeat := some 20, livenessTtl := some 70
    metricsBind := some " " }

/-- Variables that are blank, no text, out of range, and in order. -/
def untidyVariables : String → Option Bytes
  | "CHATMESH_INSTANCE_ID" => some (Text.utf8 " \t")
  | "CHATMESH_REDIS_URL" => some [255]
  | "CHATMESH_LIVENESS_TTL_SECS" => some (Text.utf8 "18446744073709551616")
  | "CHATMESH_HEARTBEAT_INTERVAL_SECS" => some (Text.utf8 " +007 ")
  | "CHATMESH_RATE_LIMIT_ENABLED" => some (Text.utf8 "Off")
  | "HOSTNAME" => some (Text.utf8 "machine")
  | _ => none

theorem mute_instanceId_untidy : Mute untidyVariables "CHATMESH_INSTANCE_ID" := by
  refine mute_of_blank fun text hset => ?_
  cases Text.utf8_injective (Option.some.inj hset)
  decide +kernel

theorem mute_livenessTtl_untidy : Mute untidyVariables "CHATMESH_LIVENESS_TTL_SECS" := by
  refine ⟨fun f hname => ?_, fun hname => absurd hname (by decide)⟩
  have hf : f = .livenessTtl := Field.variable?_injective hname
  subst hf
  refine Environment.spoken?_eq_none_iff.1 ?_
  decide +kernel

/-- From such a file and such variables the settings come in all the ways there are. -/
theorem gathered_byPrecedence_untidy :
    untidyFile.settings = .ok untidySettings ∧
      ByPrecedence untidyFile untidySettings untidyVariables ⟨"spare"⟩ ∧
      Settles untidyFile untidyVariables ⟨"spare"⟩ .id (.text "one") ∧
      Settles untidyFile untidyVariables ⟨"spare"⟩ .backend (.backend .memory) ∧
      Settles untidyFile untidyVariables ⟨"spare"⟩ .redisUrl (.text "redis://127.0.0.1:6379") ∧
      Settles untidyFile untidyVariables ⟨"spare"⟩ .livenessTtl (.number 70) ∧
      Settles untidyFile untidyVariables ⟨"spare"⟩ .heartbeat (.number 7) ∧
      Settles untidyFile untidyVariables ⟨"spare"⟩ .limited (.flag false) ∧
      Settles untidyFile untidyVariables ⟨"spare"⟩ .metricsBind .nothing ∧
      ∀ name ∈ ["CHATMESH_INSTANCE_ID", "CHATMESH_LIVENESS_TTL_SECS"],
        gathered untidySettings (.ofBytes untidyVariables) ⟨"spare"⟩ =
          gathered untidySettings (.ofBytes (Function.update untidyVariables name none))
            ⟨"spare"⟩ := by
  have hfile : untidyFile.settings = .ok untidySettings := by decide +kernel
  have hall := gathered_byPrecedence hfile untidyVariables ⟨"spare"⟩
  have hsettles : ∀ f c,
      (gathered untidySettings (.ofBytes untidyVariables) ⟨"spare"⟩).choice f = c →
        Settles untidyFile untidyVariables ⟨"spare"⟩ f c := fun f c => (hall.settles f c).1
  refine ⟨hfile, hall, hsettles _ _ ?_, hsettles _ _ ?_, hsettles _ _ ?_, hsettles _ _ ?_,
    hsettles _ _ ?_, hsettles _ _ ?_, hsettles _ _ ?_, fun name hname => hall.mute name ?_⟩
  rotate_right
  · rw [List.mem_pair] at hname
    rcases hname with rfl | rfl
    · exact mute_instanceId_untidy
    · exact mute_livenessTtl_untidy
  all_goals decide +kernel

end Settings

end ChatCluster
