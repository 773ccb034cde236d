import ChatCluster.Text.Blank
import ChatCluster.Decimal.Digits

/-!
# Identities

Users, instances and rooms are named by texts. A name that a caller asks for must not be blank;
it is then kept exactly as given, white space at its ends included. Names that come out of stored
records or frames are not checked again, so the types themselves admit any text and the check is
the function that makes a name.

Messages are named too, but there a missing name is filled in: `MessageId.orElse` takes a spare
one. Spare names come from a serial number, written in the layout of a random version 4 UUID, so
that two different serials below `16 ^ 30` never share one.

## Main definitions

* `UserId`, `InstanceId`, `RoomId`, `MessageId`, `SessionId`: The names.
* `UserId.ofText`, `InstanceId.ofText`, `RoomId.ofText`: A name asked for by a caller.
* `unlessBlank`: A name that is found, if it is a proper one.
* `IdentityError`: Why a name or a kind was refused.
* `MessageId.orElse`: A message name with a spare for a blank one.
* `uuid`: The text of a serial number.

## Theorems

* `unlessBlank_eq_some_iff`: Names are kept as given, and are not blank.
-/

namespace ChatCluster

/-- Why a name, or the name of a message kind, was refused. -/
inductive IdentityError where
  /-- The text is blank. -/
  | empty
  /-- The text is not the name of a message kind; trimmed and in lower case. -/
  | unknownKind (name : String)
  deriving DecidableEq, Repr

/-- The wording of a refusal. -/
def IdentityError.message : IdentityError → String
  | .empty => "empty value"
  | .unknownKind name => "unknown message kind: " ++ name

/-- A user, as named by the identity provider. -/
structure UserId where
  /-- The name. -/
  text : String
  deriving DecidableEq, Inhabited, Repr

/-- One running server process. -/
structure InstanceId where
  /-- The name. -/
  text : String
  deriving DecidableEq, Inhabited, Repr

/-- A chat room. -/
structure RoomId where
  /-- The name. -/
  text : String
  deriving DecidableEq, Inhabited, Repr

/-- A message. -/
structure MessageId where
  /-- The name. -/
  text : String
  deriving DecidableEq, Inhabited, Repr

/-- A session, numbered by the instance that holds it. -/
structure SessionId where
  /-- The number. -/
  number : UInt64
  deriving DecidableEq, Inhabited, Repr

/-- The text, unless it is blank. -/
def named (text : String) : Except IdentityError String :=
  if Text.isBlank text then .error .empty else .ok text

/-- The user of that name. -/
def UserId.ofText (text : String) : Except IdentityError UserId :=
  (named text).map UserId.mk

/-- The instance of that name. -/
def InstanceId.ofText (text : String) : Except IdentityError InstanceId :=
  (named text).map InstanceId.mk

/-- The room of that name. -/
def RoomId.ofText (text : String) : Except IdentityError RoomId :=
  (named text).map RoomId.mk

/-- What bears a text as its name, or nothing for a blank text. -/
def unlessBlank {α : Type} (make : String → α) (text : String) : Option α :=
  if Text.isBlank text then none else some (make text)

/-- The user of that name, or nobody for a blank one. -/
def UserId.ofText? (text : String) : Option UserId :=
  unlessBlank UserId.mk text

/-- The room of that name, or none for a blank one. -/
def RoomId.ofText? (text : String) : Option RoomId :=
  unlessBlank RoomId.mk text

/-- The instance of that name, or none for a blank one. -/
def InstanceId.ofText? (text : String) : Option InstanceId :=
  unlessBlank InstanceId.mk text

section UnlessBlank

-- What a thing is named, and what is so named, determine each other.
variable {α : Type} {make : String → α} {name : α → String}
  (hmake : ∀ a, make (name a) = a) (hname : ∀ text, name (make text) = text)

include hmake hname

/-- A name that was not refused is the text that was given, and not blank. -/
theorem unlessBlank_eq_some_iff {text : String} {a : α} :
    unlessBlank make text = some a ↔ name a = text ∧ Text.isBlank (name a) = false := by
  rw [unlessBlank]
  constructor
  · intro h
    split at h
    · cases h
    · next hblank =>
      cases h
      rw [hname]
      exact ⟨rfl, Bool.eq_false_iff.2 hblank⟩
  · rintro ⟨rfl, hblank⟩
    rw [hblank, hmake]
    rfl

/-- What may be there is named by its name, if that is a proper one. -/
theorem bind_unlessBlank_map {o : Option α} (h : ∀ a, o = some a → Text.isBlank (name a) = false) :
    (o.map name).bind (unlessBlank make) = o := by
  cases o with
  | none => rfl
  | some a => exact (unlessBlank_eq_some_iff hmake hname).2 ⟨rfl, h a rfl⟩

end UnlessBlank

theorem UserId.ofText?_eq_some_iff {text : String} {user : UserId} :
    UserId.ofText? text = some user ↔ user.text = text ∧ Text.isBlank user.text = false :=
  unlessBlank_eq_some_iff (fun _ => rfl) (fun _ => rfl)

theorem RoomId.ofText?_eq_some_iff {text : String} {room : RoomId} :
    RoomId.ofText? text = some room ↔ room.text = text ∧ Text.isBlank room.text = false :=
  unlessBlank_eq_some_iff (fun _ => rfl) (fun _ => rfl)

theorem InstanceId.ofText?_eq_some_iff {text : String} {id : InstanceId} :
    InstanceId.ofText? text = some id ↔ id.text = text ∧ Text.isBlank id.text = false :=
  unlessBlank_eq_some_iff (fun _ => rfl) (fun _ => rfl)

/-- How a session is written in reports. -/
def SessionId.label (id : SessionId) : String :=
  "s" ++ Decimal.natText id.number.toNat

/-- A message name as it arrived, or the spare one where it is blank. -/
def MessageId.orElse (spare : MessageId) (text : String) : MessageId :=
  if Text.isBlank text then spare else ⟨text⟩

/-- The lower case hexadecimal digit of a number below sixteen. -/
def hexDigit (d : Nat) : Char :=
  if d < 10 then Char.ofNat (48 + d) else Char.ofNat (87 + d)

/-- The last `width` hexadecimal digits of a number, most significant first. -/
def hexDigits : (width : Nat) → (n : Nat) → List Char
  | 0, _ => []
  | width + 1, n => hexDigits width (n / 16) ++ [hexDigit (n % 16)]

/-- A serial number in the layout of a version 4 UUID: thirty hexadecimal digits in groups of
    eight, four, three, three and twelve, with the version and variant digits in front of the
    third and fourth group. -/
def uuid (serial : Nat) : String :=
  let ds := hexDigits 30 serial
  String.ofList
    (ds.take 8 ++ ['-'] ++ (ds.drop 8).take 4 ++ ['-', '4'] ++ (ds.drop 12).take 3 ++
      ['-', '8'] ++ (ds.drop 15).take 3 ++ ['-'] ++ ds.drop 18)

/-- The spare message name of a serial number. -/
def MessageId.spare (serial : Nat) : MessageId :=
  ⟨uuid serial⟩

/-- The name of an instance that was not given one. -/
def InstanceId.spare (serial : Nat) : InstanceId :=
  ⟨"instance-" ++ uuid serial⟩

end ChatCluster
