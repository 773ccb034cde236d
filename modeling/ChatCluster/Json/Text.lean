import ChatCluster.Identity

/-!
# Quoted Text

How text stands in JSON. Writing escapes the quote, the backslash and the control characters and
leaves every other character as it is. Reading works on bytes, because a client may send any: the
raw form between two quotes is first found (`scanQuoted`, which asks only for well formed escapes)
and decoded where somebody wants its text (`unquote?`, which asks for paired surrogates and valid
UTF-8). Text that nobody reads is never decoded, so what is wrong inside it goes unnoticed.

Only ASCII characters are ever escaped, and no byte of a longer character is ASCII, so the raw
form of a text can be told apart byte by byte.

## Main definitions

* `escape`: What stands for a character.
* `quote`: A text in quotes.
* `scanQuoted`: The raw form up to the closing quote.
* `unquote?`: The text of a raw form.
-/

namespace ChatCluster.Json

/-- What stands for a character in quotes. -/
def escape (c : Char) : List Char :=
  if c = '"' then ['\\', '"']
  else if c = '\\' then ['\\', '\\']
  else if c.toNat = 8 then ['\\', 'b']
  else if c = '\t' then ['\\', 't']
  else if c = '\n' then ['\\', 'n']
  else if c.toNat = 12 then ['\\', 'f']
  else if c = '\r' then ['\\', 'r']
  else if c.toNat < 32 then
    ['\\', 'u', '0', '0', hexDigit (c.toNat / 16), hexDigit (c.toNat % 16)]
  else [c]

/-- A text in quotes. -/
def quote (s : String) : String :=
  "\"" ++ String.ofList (s.toList.flatMap escape) ++ "\""

/-- The value of a byte that is a hexadecimal digit. -/
def hexValue? (b : UInt8) : Option Nat :=
  if 48 ≤ b ∧ b ≤ 57 then some (b.toNat - 48)
  else if 97 ≤ b ∧ b ≤ 102 then some (b.toNat - 87)
  else if 65 ≤ b ∧ b ≤ 70 then some (b.toNat - 55)
  else none

/-- The number that four hexadecimal digits denote. -/
def hexUnit? (a b c d : UInt8) : Option Nat :=
  match hexValue? a, hexValue? b, hexValue? c, hexValue? d with
  | some a, some b, some c, some d => some (((a * 16 + b) * 16 + c) * 16 + d)
  | _, _, _, _ => none

/-- The byte that a short escape stands for. -/
def shortEscape? (b : UInt8) : Option UInt8 :=
  if b = 34 then some 34
  else if b = 92 then some 92
  else if b = 47 then some 47
  else if b = 98 then some 8
  else if b = 102 then some 12
  else if b = 110 then some 10
  else if b = 114 then some 13
  else if b = 116 then some 9
  else none

/-- Finds the closing quote. The result is the raw form in front of it, which continues `raw`
    (latest byte first), and what follows it. Control characters and malformed escapes are
    refused; nothing else is looked at. -/
def scanQuotedFrom (raw : Bytes) : Bytes → Option (Bytes × Bytes)
  | [] => none
  | 34 :: rest => some (raw.reverse, rest)
  | 92 :: 117 :: a :: b :: c :: d :: rest =>
    if (hexUnit? a b c d).isSome then
      scanQuotedFrom (d :: c :: b :: a :: 117 :: 92 :: raw) rest
    else none
  | 92 :: e :: rest =>
    if (shortEscape? e).isSome then scanQuotedFrom (e :: 92 :: raw) rest else none
  | b :: rest => if b < 32 ∨ b = 92 then none else scanQuotedFrom (b :: raw) rest

/-- The raw form up to the closing quote, and what follows the quote. -/
def scanQuoted (bytes : Bytes) : Option (Bytes × Bytes) :=
  scanQuotedFrom [] bytes

/-- Appends the bytes of a code point to bytes that are kept latest first. -/
def pushCodePoint (n : Nat) (done : Bytes) : Bytes :=
  (String.utf8EncodeChar (Char.ofNat n)).reverse ++ done

/-- Undoes the escapes of a raw form. `done` holds what came before, latest byte first. -/
def unescapeFrom (done : Bytes) : Bytes → Option Bytes
  | [] => some done.reverse
  | 92 :: 117 :: a :: b :: c :: d :: rest =>
    match hexUnit? a b c d with
    | none => none
    | some unit =>
      if 0xDC00 ≤ unit ∧ unit < 0xE000 then none
      else if 0xD800 ≤ unit ∧ unit < 0xDC00 then
        -- A leading surrogate is nothing without the trailing one behind it.
        match rest with
        | 92 :: 117 :: a :: b :: c :: d :: rest =>
          match hexUnit? a b c d with
          | none => none
          | some low =>
            if 0xDC00 ≤ low ∧ low < 0xE000 then
              unescapeFrom
                (pushCodePoint (0x10000 + (unit - 0xD800) * 0x400 + (low - 0xDC00)) done) rest
            else none
        | _ => none
      else unescapeFrom (pushCodePoint unit done) rest
  | 92 :: e :: rest =>
    match shortEscape? e with
    | none => none
    | some b => unescapeFrom (b :: done) rest
  | b :: rest => unescapeFrom (b :: done) rest

/-- The text of a raw form. -/
def unquote? (raw : Bytes) : Option String :=
  (unescapeFrom [] raw).bind Text.ofUtf8?

end ChatCluster.Json
