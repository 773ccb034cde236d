/-!
# Web Addresses

The form of a web address, as far as it decides whether a text is one at all and which part of it
is the path. A text is a path that begins with a slash, or a host without anything else, or both
behind a scheme. Nothing is decoded.

## Main definitions

* `Uri`: The parts of an address.
* `Uri.parse?`: The address that a text is.
* `Uri.target`: The path that is asked for.
-/

namespace ChatCluster

/-- The parts of a web address. -/
structure Uri where
  /-- The scheme. -/
  scheme : Option String
  /-- The host, with user and port if there are any. -/
  authority : Option String
  /-- The path, without what follows a question mark or a hash. -/
  path : String
  deriving DecidableEq, Repr

namespace Uri

/-- The character may stand in a scheme. -/
def isSchemeChar (c : Char) : Bool :=
  c.isAlphanum || c = '+' || c = '-' || c = '.' || c = '~'

/-- The character may stand in a host, alone or as one of those with a meaning. -/
def isHostChar (c : Char) : Bool :=
  c.isAlphanum || "!$&'()*+,-.:;=@[]_~".toList.contains c

/-- The character ends a host. -/
def endsHost (c : Char) : Bool :=
  c = '/' || c = '?' || c = '#'

/-- What has been seen of a host so far. -/
structure HostScan where
  /-- The colons that may belong to a port. -/
  colons : Nat
  /-- There was an opening bracket. -/
  opened : Bool
  /-- There was a closing bracket. -/
  closed : Bool
  /-- There was a percent sign that does not belong to a user or stand in brackets. -/
  percent : Bool
  deriving DecidableEq, Repr

/-- Nothing has been seen yet. -/
def HostScan.start : HostScan :=
  { colons := 0, opened := false, closed := false, percent := false }

/-- The scan after one more character. -/
def HostScan.next (s : HostScan) (c : Char) : Option HostScan :=
  if c = ':' then if s.colons < 8 then some { s with colons := s.colons + 1 } else none
  else if c = '[' then if s.percent || s.opened then none else some { s with opened := true }
  else if c = ']' then
    if !s.opened || s.closed then none
    else some { s with closed := true, colons := 0, percent := false }
  else if c = '@' then some { s with colons := 0, percent := false }
  else if c = '%' then some { s with percent := true }
  else if isHostChar c then some s
  else none

/-- What has been seen is a host. -/
def HostScan.isDone (s : HostScan) (host : List Char) : Bool :=
  s.opened = s.closed && s.colons ≤ 1 && host.getLast? ≠ some '@' && !s.percent

/-- The host at the front, and what follows it. -/
def splitHost? (cs : List Char) : Option (List Char × List Char) :=
  let (host, rest) := cs.span fun c => !endsHost c
  match host.foldlM HostScan.next HostScan.start with
  | none => none
  | some s => if s.isDone host then some (host, rest) else none

/-- The character may stand in a path. -/
def isPathChar (c : Char) : Bool :=
  let n := c.toNat
  n = 0x21 || n = 0x22 || (0x24 ≤ n && n ≤ 0x3B) || n = 0x3D || (0x40 ≤ n && n ≤ 0x5F)
    || (0x61 ≤ n && n ≠ 0x7F)

/-- The character may stand behind a question mark. -/
def isQueryChar (c : Char) : Bool :=
  let n := c.toNat
  n = 0x21 || (0x24 ≤ n && n ≤ 0x3B) || n = 0x3D || (0x3F ≤ n && n ≠ 0x7F)

/-- The path at the front of what follows the host, if all of that is allowed. Behind a hash
    anything is. -/
def path? (cs : List Char) : Option String :=
  let (path, rest) := cs.span fun c => c ≠ '?' && c ≠ '#'
  let query :=
    match rest with
    | '?' :: rest => rest.takeWhile fun c => c ≠ '#'
    | _ => []
  if path.all isPathChar && query.all isQueryChar then some (String.ofList path) else none

/-- The longest scheme, in characters. -/
def maxScheme : Nat := 64

/-- The scheme at the front, and what follows it, where there is a scheme. -/
def splitScheme (cs : List Char) : Option (List Char × List Char) :=
  match cs.span isSchemeChar with
  | (scheme, ':' :: '/' :: '/' :: rest) => some (scheme, rest)
  | _ => none

/-- The longest address, in bytes. -/
def maxLength : Nat := 65534

/-- The parts of an address that does not begin with a slash. -/
def parseFull? (cs : List Char) : Option Uri :=
  match splitScheme cs with
  | none =>
    match splitHost? cs with
    -- Without a scheme nothing may follow the host.
    | some (host, []) => some { scheme := none, authority := some (String.ofList host), path := "" }
    | _ => none
  | some (scheme, rest) =>
    if maxScheme < scheme.length then none
    else
      match splitHost? rest with
      | none | some ([], _) => none
      | some (host, rest) =>
        (path? rest).map fun path =>
          { scheme := some (String.ofList scheme), authority := some (String.ofList host), path }

/-- The address that a text is. -/
def parse? (text : String) : Option Uri :=
  if maxLength < text.utf8ByteSize then none
  else
    match text.toList with
    | [] => none
    | ['*'] => some { scheme := none, authority := none, path := "*" }
    | '/' :: rest =>
      (path? ('/' :: rest)).map fun path => { scheme := none, authority := none, path }
    | cs => parseFull? cs

/-- The path that is asked for. An address with a scheme but without a path asks for the root; a
    host alone asks for nothing. -/
def target (uri : Uri) : String :=
  if uri.scheme.isSome && uri.path.isEmpty then "/" else uri.path

end Uri

end ChatCluster
