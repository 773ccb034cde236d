import ChatCluster.Toml.Scalar

/-!
# Quoted Text of TOML

Text in quotation marks, of four kinds: with or without escapes, on one line or on several. The
body is found first, up to the marks that end it, and what it stands for is worked out afterwards.

Three marks in a row end a text of several lines; up to two more right in front of them belong to
the text.

## Main definitions

* `takeLine`, `takeLines`: The body of a text, and what follows it.
* `literal?`: What a body without escapes stands for.
* `unescape`: What a body with escapes stands for.
* `readQuoted`: Reads a text of any kind.
-/

namespace ChatCluster.Toml

/-- The character may stand in a text or a comment. -/
def isPlain (c : Char) : Bool :=
  c = '\t' || (' ' ≤ c && c.toNat ≠ 0x7F)

/-- The character is white space within a line. -/
def isBlank (c : Char) : Bool :=
  c = ' ' || c = '\t'

/-- The body of a text on one line, up to the mark that ends it. Where there are escapes, the
    character behind a backslash ends nothing. -/
def takeLine (mark : Char) (escapes : Bool) : List Char → Option (List Char × List Char)
  | [] => none
  | '\\' :: c :: rest =>
    if escapes then (takeLine mark escapes rest).map fun (body, rest) => ('\\' :: c :: body, rest)
    else if c = mark then some (['\\'], rest)
    else (takeLine mark escapes rest).map fun (body, rest) => ('\\' :: c :: body, rest)
  | c :: rest =>
    if c = mark then some ([], rest)
    else (takeLine mark escapes rest).map fun (body, rest) => (c :: body, rest)

/-- Up to two marks behind three that end a text, which belong to the text. -/
def takeMarks (mark : Char) : List Char → List Char × List Char
  | a :: b :: rest =>
    if a = mark then if b = mark then ([mark, mark], rest) else ([mark], b :: rest)
    else ([], a :: b :: rest)
  | [a] => if a = mark then ([mark], []) else ([], [a])
  | [] => ([], [])

/-- The body of a text on several lines, up to the marks that end it. -/
def takeLines (mark : Char) (escapes : Bool) : List Char → Option (List Char × List Char)
  | a :: b :: c :: rest =>
    if a = mark ∧ b = mark ∧ c = mark then some (takeMarks mark rest)
    else if escapes ∧ a = '\\' then
      (takeLines mark escapes (c :: rest)).map fun (body, rest) => (a :: b :: body, rest)
    else (takeLines mark escapes (b :: c :: rest)).map fun (body, rest) => (a :: body, rest)
  | _ => none

/-- What a body without escapes stands for: itself, if all its characters are allowed. -/
def literal? (lines : Bool) : List Char → Option (List Char)
  | [] => some []
  | '\r' :: '\n' :: rest =>
    if lines then (literal? lines rest).map fun cs => '\r' :: '\n' :: cs else none
  | c :: rest =>
    if isPlain c || (lines && c = '\n') then (literal? lines rest).map (c :: ·) else none

/-- The character with a code point, written in sixteens. -/
def codePoint? (cs : List Char) : Option Char :=
  if cs.all fun c => digitValue c < 16 then
    let n := cs.foldl (fun n c => 16 * n + digitValue c) 0
    if n.isValidChar then some (Char.ofNat n) else none
  else none

/-- What a backslash and one character stand for. -/
def shortEscape? : Char → Option Char
  | 'b' => some '\x08'
  | 't' => some '\t'
  | 'n' => some '\n'
  | 'f' => some '\x0C'
  | 'r' => some '\r'
  | 'e' => some '\x1B'
  | '"' => some '"'
  | '\\' => some '\\'
  | _ => none

/-- The escape at the front, its backslash already gone, and what follows it. -/
def readEscape : List Char → Option (Char × List Char)
  | 'x' :: a :: b :: rest => (codePoint? [a, b]).map fun c => (c, rest)
  | 'u' :: a :: b :: c :: d :: rest => (codePoint? [a, b, c, d]).map fun c => (c, rest)
  | 'U' :: a :: b :: c :: d :: e :: f :: g :: h :: rest =>
    (codePoint? [a, b, c, d, e, f, g, h]).map fun c => (c, rest)
  | c :: rest => (shortEscape? c).map fun c => (c, rest)
  | [] => none

/-- The white space at the front, line ends included, is taken away. -/
def skipSpace : List Char → List Char
  | '\r' :: '\n' :: rest => skipSpace rest
  | c :: rest => if isBlank c || c = '\n' then skipSpace rest else c :: rest
  | [] => []

/-- What follows a backslash at the end of a line: the next character that is not white space. -/
def foldLine? (cs : List Char) : Option (List Char) :=
  match cs.dropWhile isBlank with
  | '\n' :: rest => some (skipSpace rest)
  | '\r' :: '\n' :: rest => some (skipSpace rest)
  | _ => none

/-- What a body with escapes stands for. The length of the body is fuel enough. -/
def unescape (lines : Bool) : (fuel : Nat) → List Char → Option (List Char)
  | _, [] => some []
  | 0, _ => none
  | fuel + 1, '\\' :: rest =>
    match readEscape rest with
    | some (c, rest) => (unescape lines fuel rest).map (c :: ·)
    | none => if lines then (foldLine? rest).bind (unescape lines fuel) else none
  | fuel + 1, '\r' :: '\n' :: rest =>
    if lines then (unescape lines fuel rest).map fun cs => '\r' :: '\n' :: cs else none
  | fuel + 1, c :: rest =>
    if isPlain c || (lines && c = '\n') then (unescape lines fuel rest).map (c :: ·) else none

/-- What a body stands for. -/
def meaning? (escapes lines : Bool) (body : List Char) : Option String :=
  (if escapes then unescape lines body.length body else literal? lines body).map String.ofList

/-- The line end right behind the marks that begin a text of several lines is not part of it. -/
def dropFirstLineEnd : List Char → List Char
  | '\n' :: rest => rest
  | '\r' :: '\n' :: rest => rest
  | cs => cs

/-- Reads a text on one line, its first mark already gone. -/
def readLine (mark : Char) (cs : List Char) : Option (String × List Char) :=
  let escapes := mark = '"'
  match takeLine mark escapes cs with
  | none => none
  | some (body, rest) => (meaning? escapes false body).map fun s => (s, rest)

/-- Reads a text of any kind, its first mark already gone. -/
def readQuoted (mark : Char) (cs : List Char) : Option (String × List Char) :=
  match cs with
  | a :: b :: rest =>
    if a = mark ∧ b = mark then
      let escapes := mark = '"'
      match takeLines mark escapes (dropFirstLineEnd rest) with
      | none => none
      | some (body, rest) => (meaning? escapes true body).map fun s => (s, rest)
    else readLine mark cs
  | _ => readLine mark cs

end ChatCluster.Toml
