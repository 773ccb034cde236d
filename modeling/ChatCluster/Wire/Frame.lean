import ChatCluster.Wire.Envelope

/-!
# Frames

A record on the bus is framed: four bytes give its length, most significant first, and its bytes
follow. The bus hands on whole frames, so what stands after the announced length is an error and
not a second frame, and no frame is the beginning of another.

On top of the framing sits the one kind of frame that instances exchange. `BusFrame.decode` checks
a frame from the outside in: its length, its record, the version, the origin, the letter.

## Main definitions

* `frame`: The frame of a record, if it is not too large.
* `unframe`: The record in a frame.
* `BusFrame`: What an instance published, with `BusFrame.encode` and `BusFrame.decode`.
* `FrameError`: What is wrong with a frame, and its wording.
-/

namespace ChatCluster.Wire

/-- The largest record that instances frame. -/
def maxFrameSize : Nat := 256 * 1024

/-- How many bytes announce the length. -/
def headerSize : Nat := 4

/-- What is wrong with a frame. -/
inductive FrameError where
  /-- The record is larger than allowed. -/
  | tooLarge (size max : Nat)
  /-- There are fewer bytes than announced. -/
  | truncated (need given : Nat)
  /-- There are more bytes than announced. -/
  | trailing (extra : Nat)
  /-- The record cannot be read. -/
  | malformed
  /-- The envelope has another version. -/
  | unsupportedVersion (version : UInt32)
  /-- The origin is blank. -/
  | invalidOrigin
  /-- The envelope has no letter. -/
  | missingMessage
  /-- The letter makes no sense. -/
  | badLetter (error : LetterError)
  deriving DecidableEq, Repr

/-- The wording of an error; a record that cannot be read has none. -/
def FrameError.message? : FrameError → Option String
  | .tooLarge size max =>
    some ("frame exceeds maximum size: len=" ++ Decimal.natText size ++ " max=" ++
      Decimal.natText max)
  | .truncated need given =>
    some ("truncated frame: need=" ++ Decimal.natText need ++ " have=" ++ Decimal.natText given)
  | .trailing extra => some ("trailing bytes after frame: " ++ Decimal.natText extra)
  | .malformed => none
  | .unsupportedVersion version =>
    some ("unsupported protocol version " ++ Decimal.natText version.toNat)
  | .invalidOrigin => some "invalid origin instance"
  | .missingMessage => some "envelope without message"
  | .badLetter (.unknownKind code) => some ("unknown message kind " ++ Decimal.intText code.toInt)
  | .badLetter .noSender => some "invalid message: empty sender_id"

/-- A number below `2 ^ 32` in four bytes, most significant first. -/
def bigEndian (n : Nat) : Bytes :=
  [UInt8.ofNat (n / 0x1000000), UInt8.ofNat (n / 0x10000), UInt8.ofNat (n / 0x100), UInt8.ofNat n]

/-- The number in four bytes, most significant first. -/
def ofBigEndian (a b c d : UInt8) : Nat :=
  a.toNat * 0x1000000 + b.toNat * 0x10000 + c.toNat * 0x100 + d.toNat

/-- The frame of a record. -/
def frame (record : Bytes) (max : Nat) : Except FrameError Bytes :=
  let size := record.length
  if max < size then .error (.tooLarge size max) else .ok (bigEndian size ++ record)

/-- The record in a byte sequence that has to be one whole frame. -/
def unframe (bytes : Bytes) (max : Nat) : Except FrameError Bytes :=
  match bytes with
  | a :: b :: c :: d :: record =>
    let size := ofBigEndian a b c d
    let given := record.length
    if max < size then .error (.tooLarge size max)
    else if given < size then .error (.truncated (headerSize + size) (headerSize + given))
    else if size < given then .error (.trailing (given - size))
    else .ok record
  | _ => .error (.truncated headerSize bytes.length)

/-- The envelope in a frame. -/
def Envelope.ofFrame (bytes : Bytes) (max : Nat) : Except FrameError Envelope :=
  match unframe bytes max with
  | .error e => .error e
  | .ok record =>
    match Envelope.decode? record with
    | some envelope => .ok envelope
    | none => .error .malformed

/-- The letter in a frame. -/
def Letter.ofFrame (bytes : Bytes) (max : Nat) : Except FrameError Letter :=
  match unframe bytes max with
  | .error e => .error e
  | .ok record =>
    match Letter.decode? record with
    | some letter => .ok letter
    | none => .error .malformed

/-- The frame of an envelope. -/
def Envelope.toFrame (e : Envelope) (max : Nat) : Except FrameError Bytes :=
  frame e.encode max

end ChatCluster.Wire

namespace ChatCluster

open Wire

/-- What an instance published: a message and where it comes from. -/
structure BusFrame where
  /-- The instance that published it. -/
  origin : InstanceId
  /-- The message. -/
  message : Message
  deriving DecidableEq, Repr

/-- The frame in which an instance publishes a message. -/
def BusFrame.encode (f : BusFrame) : Except FrameError Bytes :=
  (Envelope.ofMessage f.origin f.message).toFrame maxFrameSize

/-- What was published in a frame. The message gets the spare name if it came without one. -/
def BusFrame.decode (spare : MessageId) (bytes : Bytes) : Except FrameError BusFrame :=
  match Envelope.ofFrame bytes maxFrameSize with
  | .error e => .error e
  | .ok envelope =>
    if envelope.version ≠ protocolVersion then
      .error (.unsupportedVersion envelope.version)
    else
      match InstanceId.ofText? envelope.origin, envelope.letter with
      | none, _ => .error .invalidOrigin
      | some _, none => .error .missingMessage
      | some origin, some letter =>
        match letter.toMessage spare with
        | .error e => .error (.badLetter e)
        | .ok message => .ok { origin, message }

end ChatCluster
