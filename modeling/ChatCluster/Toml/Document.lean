import ChatCluster.Toml.Quoted

/-!
# TOML Documents

A document is read statement by statement, one a line: a header, a header in double brackets, or
a key with its value. Each takes effect on the tree at once, so a document in which two statements
contradict each other is refused at the second.

Lists and tables in braces may be nested up to a limit, may run over several lines, and may have a
comma behind their last item. In braces a key, its equals sign and its value may stand on lines of
their own, but a key with dots stands on one.

## Main definitions

* `readPath`: Reads a key with dots.
* `readValue`: Reads a value.
* `nameLimit`: How many names a key with dots may have.
* `nestingLimit`: How deeply lists and tables in braces may be nested.
* `parse?`: The entries of a whole document.
-/

namespace ChatCluster.Toml

/-- What follows the white space within a line. -/
def skipBlank (cs : List Char) : List Char :=
  cs.dropWhile isBlank

/-- What follows white space, line ends and comments. -/
def skipGaps : (inComment : Bool) → List Char → Option (List Char)
  | _, [] => some []
  | _, '\n' :: rest => skipGaps false rest
  | _, '\r' :: '\n' :: rest => skipGaps false rest
  | true, c :: rest => if isPlain c then skipGaps true rest else none
  | false, c :: rest =>
    if isBlank c then skipGaps false rest
    else if c = '#' then skipGaps true rest
    else some (c :: rest)

/-- Reads the end of a statement: nothing more on its line but a comment. -/
def readLineEnd (cs : List Char) : Option (List Char) :=
  match skipBlank cs with
  | [] => some []
  | '#' :: rest => skipGaps true rest
  | '\n' :: rest => skipGaps false rest
  | '\r' :: '\n' :: rest => skipGaps false rest
  | _ => none

/-- The character may stand in a key without quotation marks. -/
def isKeyChar (c : Char) : Bool :=
  c.isAlphanum || c = '_' || c = '-'

/-- Reads one name of a key. -/
def readName : List Char → Option (String × List Char)
  | '"' :: rest => readLine '"' rest
  | '\'' :: rest => readLine '\'' rest
  | cs =>
    match cs.span isKeyChar with
    | ([], _) => none
    | (name, rest) => some (String.ofList name, rest)

/-- How many names a key with dots may have. -/
def nameLimit : Nat := 80

/-- Reads a key with dots of at most `limit` names, behind the names in `stages`. -/
def readPathFrom : (limit : Nat) → (stages : List String) → List Char →
    Option (Path × List Char)
  | 0, _, _ => none
  | limit + 1, stages, cs =>
    match readName (skipBlank cs) with
    | none => none
    | some (name, rest) =>
      match skipBlank rest with
      | '.' :: rest => readPathFrom limit (stages ++ [name]) rest
      | rest => some ({ stages, name }, rest)

/-- Reads a key with dots, and the white space behind it. -/
def readPath (cs : List Char) : Option (Path × List Char) :=
  readPathFrom nameLimit [] cs

/-- The character may stand in a value without quotation marks: it does not end one. -/
def isBareChar (c : Char) : Bool :=
  !(isBlank c || "=,[]\x7b\x7d#\r\n".toList.contains c)

/-- Reads a value without quotation marks. A time may follow its date behind a space. -/
def readBare (cs : List Char) : Option (Value × List Char) :=
  let (token, rest) := cs.span isBareChar
  let (token, rest) :=
    match rest with
    | ' ' :: d :: more =>
      -- A space between a date and a time reads like a letter there.
      if isDate token ∧ d.isDigit then
        let (time, rest) := (d :: more).span isBareChar
        (token ++ 'T' :: time, rest)
      else (token, rest)
    | _ => (token, rest)
  (bareValue? token).map fun v => (v, rest)

/-- Reads a key in braces, the equals sign behind it, and all gaps up to its value. -/
def readBracedKey (cs : List Char) : Option (Path × List Char) :=
  match readPath cs with
  | none => none
  | some (path, rest) =>
    match skipGaps false rest with
    | some ('=' :: rest) => (skipGaps false rest).map fun rest => (path, rest)
    | _ => none

mutual

/-- Reads a value. Fuel bounds how many values are begun, `depth` how deeply they are nested. -/
def readValue : (fuel : Nat) → (depth : Nat) → List Char → Option (Value × List Char)
  | 0, _, _ => none
  | fuel + 1, depth, cs =>
    match depth, cs with
    | _, '"' :: rest => (readQuoted '"' rest).map fun (s, rest) => (.text s, rest)
    | _, '\'' :: rest => (readQuoted '\'' rest).map fun (s, rest) => (.text s, rest)
    | 0, '[' :: _ | 0, '{' :: _ => none
    | depth + 1, '[' :: rest => readItems fuel depth [] rest
    | depth + 1, '{' :: rest => readPairs fuel depth [] rest
    | _, cs => readBare cs

/-- Reads the items of a list up to its end, behind those in `found`, latest first. -/
def readItems : (fuel : Nat) → (depth : Nat) → (found : List Value) → List Char →
    Option (Value × List Char)
  | 0, _, _, _ => none
  | fuel + 1, depth, found, cs =>
    match skipGaps false cs with
    | none => none
    | some (']' :: rest) => some (.list found.reverse, rest)
    | some cs =>
      match readValue fuel depth cs with
      | none => none
      | some (item, rest) =>
        match skipGaps false rest with
        | some (',' :: rest) => readItems fuel depth (item :: found) rest
        | some (']' :: rest) => some (.list (item :: found).reverse, rest)
        | _ => none

/-- Reads the entries of a table in braces up to its end, behind those in `found`. -/
def readPairs : (fuel : Nat) → (depth : Nat) → (found : Entries) → List Char →
    Option (Value × List Char)
  | 0, _, _, _ => none
  | fuel + 1, depth, found, cs =>
    match skipGaps false cs with
    | none => none
    | some ('}' :: rest) => some (.table .braces found, rest)
    | some cs =>
      match readBracedKey cs with
      | none => none
      | some (path, rest) =>
        match readValue fuel depth rest with
        | none => none
        | some (value, rest) =>
          match found.assign path value, skipGaps false rest with
          | some found, some (',' :: rest) => readPairs fuel depth found rest
          | some found, some ('}' :: rest) => some (.table .braces found, rest)
          | _, _ => none

end

/-- How deeply lists and tables in braces may be nested. -/
def nestingLimit : Nat := 80

/-- One statement. -/
inductive Statement where
  /-- A header. -/
  | header (path : Path)
  /-- A header in double brackets. -/
  | listHeader (path : Path)
  /-- A key and its value. -/
  | assignment (path : Path) (value : Value)

/-- Reads one statement up to the beginning of the next. -/
def readStatement (cs : List Char) : Option (Statement × List Char) :=
  match cs with
  | '[' :: '[' :: rest =>
    match readPath rest with
    | some (path, ']' :: ']' :: rest) =>
      (readLineEnd rest).map fun rest => (.listHeader path, rest)
    | _ => none
  | '[' :: rest =>
    match readPath rest with
    | some (path, ']' :: rest) => (readLineEnd rest).map fun rest => (.header path, rest)
    | _ => none
  | cs =>
    match readPath cs with
    | some (path, '=' :: rest) =>
      match readValue (rest.length + 1) nestingLimit (skipBlank rest) with
      | none => none
      | some (value, rest) => (readLineEnd rest).map fun rest => (.assignment path value, rest)
    | _ => none

/-- The document so far, and the table that the last header has begun. -/
structure Building where
  /-- The entries. -/
  entries : Entries
  /-- The way to the table. -/
  current : List String

/-- The document after another statement. -/
def Building.add (d : Building) : Statement → Option Building
  | .header path =>
    (d.entries.openTable path).map fun entries =>
      { entries, current := path.stages ++ [path.name] }
  | .listHeader path =>
    (d.entries.appendTable path).map fun entries =>
      { entries, current := path.stages ++ [path.name] }
  | .assignment path value =>
    (d.entries.assignBelow d.current path value).map fun entries => { d with entries }

/-- Reads the statements up to the end of the document. -/
def readStatements : (fuel : Nat) → Building → List Char → Option Entries
  | _, d, [] => some d.entries
  | 0, _, _ => none
  | fuel + 1, d, cs =>
    match readStatement cs with
    | none => none
    | some (statement, rest) => (d.add statement).bind fun d => readStatements fuel d rest

/-- A text without the byte order mark in front. -/
def withoutMark : List Char → List Char
  | '\uFEFF' :: rest => rest
  | cs => cs

/-- The entries of a whole document. -/
def parse? (text : String) : Option Entries :=
  match skipGaps false (withoutMark text.toList) with
  | none => none
  | some cs => readStatements cs.length { entries := [], current := [] } cs

end ChatCluster.Toml
