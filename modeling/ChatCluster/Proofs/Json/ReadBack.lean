import ChatCluster.Proofs.Json.Records
import ChatCluster.Proofs.Liveness.Reaping

/-!
# What Is Stored and Sent Is Read Back

Signs of life, messages and rejections are read back from their texts just as entries are, whatever
stands in them. Nothing is asked of the names, which may be blank or hold quotes, backslashes,
control characters and anything else that a text may hold.

A text that can be read back belongs to one value only. A reap pass relies on that: before it
deletes an entry that it has condemned, it reads the text again and compares it with the one that it
has judged, and by then the user may belong to another instance.

## Main definitions

* `LivenessRecord.members`, `Message.members`, `Rejection.members`: The members of the records.
* `awkwardEntry`, `awkwardTakeover`: A store in which an entry has been written again since it was
  judged.

## Theorems

* `LivenessRecord.writtenBy`, `Message.writtenBy`, `Rejection.writtenBy`: How they are read.
* `RegistryEntry.toJson_injective`: Different entries have different texts.
* `Cluster.runAlone_deleteUnchanged`: What becomes of a condemned entry.
* `records_read_back`: Reading back, and what it means to a reap pass.
-/

namespace ChatCluster

open Json

/-! ## Signs of life -/

/-- The members of a sign of life. -/
def LivenessRecord.members (r : LivenessRecord) : List Member :=
  [⟨"instance_id", _, _, reads_quote r.instanceId.text⟩,
   ⟨"last_seen_ms", _, _, reads_int64Text r.lastSeen⟩]

theorem LivenessRecord.writtenBy :
    WrittenBy LivenessRecord.members [⟨"instance_id", false⟩, ⟨"last_seen_ms", false⟩]
      LivenessRecord.ofValue? where
  nodup := by decide
  map_name _ := rfl
  ofSlots r v hslots := by
    rw [LivenessRecord.ofValue?, hslots]
    simp only [LivenessRecord.members, List.map_cons, List.map_nil, required, Option.bind_some,
      Value.instanceId?, Value.int64?, Value.text?, Value.number?, unquote?_rawForm, toInt64?_whole,
      Option.map_some]
    rfl

/-! ## Messages -/

theorem Json.Value.kind?_text (raw : Bytes) :
    (Value.text raw).kind? = (unquote? raw).bind MessageKind.ofName? := rfl

/-- The members of a message. -/
def Message.members (m : Message) : List Member :=
  [⟨"id", _, _, reads_quote m.id.text⟩, ⟨"sender_id", _, _, reads_quote m.sender.text⟩,
   ⟨"receiver_id", _, _, reads_nullable (fun u : UserId => reads_quote u.text) m.receiver⟩,
   ⟨"room_id", _, _, reads_nullable (fun r : RoomId => reads_quote r.text) m.room⟩,
   ⟨"kind", _, _, reads_quote m.kind.name⟩, ⟨"payload", _, _, reads_quote m.payload⟩,
   ⟨"timestamp_ms", _, _, reads_int64Text m.sentAt⟩]

theorem Message.writtenBy :
    WrittenBy Message.members
      [⟨"id", false⟩, ⟨"sender_id", false⟩, ⟨"receiver_id", false⟩, ⟨"room_id", false⟩,
       ⟨"kind", false⟩, ⟨"payload", false⟩, ⟨"timestamp_ms", false⟩]
      Message.ofValue? where
  nodup := by decide
  map_name _ := rfl
  ofSlots m v hslots := by
    have hnull : ∀ raw, Value.text raw ≠ .null := by
      intro raw h
      cases h
    have huser : ∀ u : UserId, (Value.text (rawForm u.text)).userId? = some u := by
      intro u
      rw [Value.userId?, Value.text?, unquote?_rawForm, Option.map_some]
    have hroom : ∀ r : RoomId, (Value.text (rawForm r.text)).roomId? = some r := by
      intro r
      rw [Value.roomId?, Value.text?, unquote?_rawForm, Option.map_some]
    rw [Message.ofValue?, hslots]
    simp only [Message.members, List.map_cons, List.map_nil, required, Option.bind_some, huser,
      optional_nullableValue huser (fun _ => hnull _),
      optional_nullableValue hroom (fun _ => hnull _), Value.messageId?, Value.kind?_text,
      Value.int64?, Value.text?, Value.number?, unquote?_rawForm, MessageKind.ofName?_name,
      toInt64?_whole, Option.map_some]
    rfl

/-! ## Rejections -/

/-- The members of a rejection. -/
def Rejection.members (r : Rejection) : List Member :=
  [⟨"code", _, _, reads_quote r.code⟩, ⟨"message", _, _, reads_quote r.message⟩,
   ⟨"retry_after_secs", _, _, reads_nullable reads_uint64Text r.retryAfterSecs⟩]

theorem Rejection.writtenBy :
    WrittenBy Rejection.members
      [⟨"code", false⟩, ⟨"message", false⟩, ⟨"retry_after_secs", false⟩]
      Rejection.ofValue? where
  nodup := by decide
  map_name _ := rfl
  ofSlots r v hslots := by
    have hnull : ∀ n : UInt64, Value.number (whole n.toNat) ≠ .null := by
      intro n h
      cases h
    have hsecs : ∀ n : UInt64, (Value.number (whole n.toNat)).uint64? = some n := by
      intro n
      rw [Value.uint64?, Value.number?, Option.bind_some, toUInt64?_whole]
    rw [Rejection.ofValue?, hslots]
    simp only [Rejection.members, List.map_cons, List.map_nil, required, Option.bind_some,
      optional_nullableValue hsecs hnull, Value.text?, unquote?_rawForm]
    rfl

/-! ## Reading back -/

/-- Different entries have different texts. -/
theorem RegistryEntry.toJson_injective : Function.Injective RegistryEntry.toJson := by
  intro e e' h
  have hread := RegistryEntry.ofJson?_toJson e
  rw [h, RegistryEntry.ofJson?_toJson] at hread
  exact (Option.some.inj hread).symm

namespace Cluster

/-- What has been condemned is deleted just if it still reads as it did, and otherwise nothing is
    done. -/
theorem runAlone_deleteUnchanged (host : Nat) {c : Cluster} (h : c.store.fault = none)
    (key text : String) :
    (c.runAlone host (Monitor.deleteUnchanged key text)).1 =
        .ok (decide ((c.seen key).bind Slot.text? = some text)) ∧
      (c.runAlone host (Monitor.deleteUnchanged key text)).2.seen =
        if (c.seen key).bind Slot.text? = some text then Function.update c.seen key none
        else c.seen := by
  by_cases htext : (c.seen key).bind Slot.text? = some text
  · rcases (attempts_deleteUnchanged rfl htext).runAlone h with ⟨removed, hresult, rfl, hseen⟩
    rw [decide_eq_true htext, if_pos htext]
    exact ⟨hresult, hseen⟩
  · have hget := runAlone_get_seen host key h
    rw [Monitor.deleteUnchanged, runAlone_bind, hget.1]
    simp only [if_neg htext, runAlone_pure, decide_eq_false htext, hget.2, and_self]

end Cluster

/-- Whatever is stored about users and instances, and whatever clients are sent, is read back from
    its text. So different entries have different texts, and a reap pass that has condemned an entry
    deletes what it finds when it looks again just if that is the same entry. -/
theorem records_read_back :
    (∀ e : RegistryEntry, RegistryEntry.ofJson? e.toJson = some e) ∧
    (∀ r : LivenessRecord, LivenessRecord.ofJson? r.toJson = some r) ∧
    (∀ m : Message, Message.ofJson? m.toJson = some m) ∧
    (∀ r : Rejection, Rejection.ofJson? r.toJson = some r) ∧
    Function.Injective RegistryEntry.toJson ∧
    ∀ (c : Cluster) (host : Nat) (key : String) (judged found : RegistryEntry),
      c.store.fault = none → (c.seen key).bind Slot.text? = some found.toJson →
        (c.runAlone host (Monitor.deleteUnchanged key judged.toJson)).1 =
            .ok (decide (found = judged)) ∧
          (c.runAlone host (Monitor.deleteUnchanged key judged.toJson)).2.seen =
            if found = judged then Function.update c.seen key none else c.seen := by
  refine ⟨RegistryEntry.ofJson?_toJson, LivenessRecord.writtenBy.ofText?_members,
    Message.writtenBy.ofText?_members, Rejection.writtenBy.ofText?_members,
    RegistryEntry.toJson_injective, ?_⟩
  intro c host key judged found hhealthy hfound
  have hdelete := Cluster.runAlone_deleteUnchanged host hhealthy key judged.toJson
  simp only [hfound, Option.some.injEq, RegistryEntry.toJson_injective.eq_iff] at hdelete
  exact hdelete

/-- The entry of a user with an awkward name. -/
def awkwardEntry (owner : String) : RegistryEntry :=
  { user := ⟨"\"\\\n\u0001😀"⟩, owner := ⟨owner⟩, establishedAt := Int64.minValue }

/-- A store in which the user has gone over to another instance, whose name differs from that of the
    one before in a control character. -/
def awkwardTakeover : Cluster :=
  { Cluster.new 100 8 0 with
    store :=
      { MemoryStore.new 100 with
        slots :=
          { entries :=
              [("registry:u",
                { held := .text (awkwardEntry "\u001f").toJson, expiresAt := some 900 })]
            nodup_keys := by decide } } }

/-- The entry of the new owner is not deleted in place of the one that has been judged. -/
theorem records_read_back_awkward :
    (awkwardTakeover.store.fault = none ∧
      (awkwardTakeover.seen "registry:u").bind Slot.text? = some (awkwardEntry "\u001f").toJson) ∧
    (awkwardTakeover.runAlone 0
      (Monitor.deleteUnchanged "registry:u" (awkwardEntry "\u001e").toJson)).1 = .ok false := by
  have hfound : (awkwardTakeover.seen "registry:u").bind Slot.text? =
      some (awkwardEntry "\u001f").toJson := rfl
  refine ⟨⟨rfl, hfound⟩, ?_⟩
  exact (records_read_back.2.2.2.2.2 awkwardTakeover 0 "registry:u" (awkwardEntry "\u001e")
    (awkwardEntry "\u001f") rfl hfound).1

end ChatCluster
