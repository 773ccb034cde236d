/-!
# TOML Values

What a TOML document says, as a tree, and the rules by which statements build it up. A table may
be spelled out in many places, but not in any way one likes: what may be added to it later depends
on how it came to be.

* A table with a header of its own gets no second header, and no key with dots reaches into it
  from outside.
* A table that was only passed through on the way to a header may still get its own, once.
* A table made by a key with dots grows by more such keys but never gets a header.
* A table in braces is complete.

Of numbers with a fraction, and of dates, only that they are there is kept: the settings ask for
neither. A numeral without a number is kept as well, since it does no harm where nobody looks.

## Main definitions

* `Origin`: How a table came to be.
* `Value`, `Entries`: Values, and the entries of a table.
* `Value.isReadable`: No numeral in a value is unreadable.
* `Entries.openTable`, `Entries.appendTable`, `Entries.assign`: The three kinds of statements.
-/

namespace ChatCluster.Toml

/-- How a table came to be. -/
inductive Origin where
  /-- By a header of its own; the document itself counts as one. -/
  | header
  /-- On the way to another header. -/
  | stage
  /-- On the way of a key with dots. -/
  | dots
  /-- In braces. -/
  | braces
  deriving DecidableEq, Repr

/-- A value. -/
inductive Value where
  | text (s : String)
  | whole (n : Int)
  | flag (b : Bool)
  /-- A number with a fraction or an exponent. -/
  | fraction
  /-- A date, a time, or both. -/
  | moment
  /-- Something written like a number that stands for none, or for one too large to hold. -/
  | unreadable
  | list (items : List Value)
  | table (origin : Origin) (entries : List (String × Value))
  /-- A list of tables that grows by headers in double brackets. -/
  | tables (latest : List (String × Value)) (earlier : List (List (String × Value)))

/-- The entries of a table, no two of which have the same key. -/
abbrev Entries := List (String × Value)

mutual

/-- There is no unreadable numeral in the value. -/
def Value.isReadable : Value → Bool
  | .unreadable => false
  | .list items => areReadable items
  | .table _ entries => Entries.areReadable entries
  | .tables latest earlier => Entries.areReadable latest && Entries.eachReadable earlier
  | .text _ | .whole _ | .flag _ | .fraction | .moment => true

/-- There is no unreadable numeral in any of the values. -/
def areReadable : List Value → Bool
  | [] => true
  | v :: rest => v.isReadable && areReadable rest

/-- There is no unreadable numeral in the entries of a table. -/
def Entries.areReadable : Entries → Bool
  | [] => true
  | (_, v) :: rest => v.isReadable && Entries.areReadable rest

/-- There is no unreadable numeral in the entries of any of the tables. -/
def Entries.eachReadable : List Entries → Bool
  | [] => true
  | entries :: rest => Entries.areReadable entries && Entries.eachReadable rest

end

/-- A key with dots: the tables it passes through, and the name at its end. -/
structure Path where
  /-- The tables on the way. -/
  stages : List String
  /-- The name at the end. -/
  name : String
  deriving DecidableEq, Repr

/-- The table may be passed through, by a key with dots or by a header. -/
def Origin.mayEnter (dotted : Bool) : Origin → Bool
  | .header => !dotted
  | .stage | .dots => true
  | .braces => false

namespace Entries

/-- Puts a value at a key in place of what is there. -/
def alter (f : Option Value → Option Value) (key : String) : Entries → Option Entries
  | [] => (f none).map fun v => [(key, v)]
  | (k, v) :: rest =>
    if k = key then (f (some v)).map fun v => (k, v) :: rest
    else (alter f key rest).map fun rest => (k, v) :: rest

/-- Changes the table at the end of a way, making the tables on the way that are missing. -/
def enter (dotted : Bool) (f : Origin → Entries → Option Entries) :
    (way : List String) → Origin → Entries → Option Entries
  | [], origin, entries => f origin entries
  | key :: way, _, entries =>
    let made := if dotted then Origin.dots else Origin.stage
    let change : Option Value → Option Value
      | none => (enter dotted f way made []).map (.table made)
      | some (.table origin inner) =>
        if origin.mayEnter dotted then (enter dotted f way origin inner).map (.table origin)
        else none
      -- A way through a list goes through its latest table.
      | some (.tables latest earlier) =>
        (enter dotted f way .header latest).map fun latest => .tables latest earlier
      | some _ => none
    entries.alter change key

/-- A header: begins a table. -/
def openTable (document : Entries) (path : Path) : Option Entries :=
  let change : Option Value → Option Value
    | none => some (.table .header [])
    | some (.table .stage inner) => some (.table .header inner)
    | some _ => none
  enter false (fun _ entries => entries.alter change path.name) path.stages .header document

/-- A header in double brackets: begins another table of a list. -/
def appendTable (document : Entries) (path : Path) : Option Entries :=
  let change : Option Value → Option Value
    | none => some (.tables [] [])
    | some (.tables latest earlier) => some (.tables [] (latest :: earlier))
    | some _ => none
  enter false (fun _ entries => entries.alter change path.name) path.stages .header document

/-- Gives a key in a table its value. The last table on the way there has to have been made by
    keys with dots. -/
def assign (entries : Entries) (path : Path) (value : Value) : Option Entries :=
  let change : Option Value → Option Value
    | none => some value
    | some _ => none
  let put (origin : Origin) (inner : Entries) : Option Entries :=
    -- A table that a header began is closed to keys with dots from elsewhere.
    if path.stages ≠ [] ∧ origin ≠ .dots then none else inner.alter change path.name
  enter true put path.stages .header entries

/-- Gives a key its value in the table that a header has begun. -/
def assignBelow (document : Entries) (header : List String) (path : Path) (value : Value) :
    Option Entries :=
  enter false (fun _ entries => entries.assign path value) header .header document

end Entries

end ChatCluster.Toml
