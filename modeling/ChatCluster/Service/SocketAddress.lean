import ChatCluster.Decimal.Reading

/-!
# Socket Addresses

Where a service listens: an address of the internet protocol, of version 4 or 6, and a port. Host
names are not addresses.

## Main definitions

* `isV4`, `isV6`: The characters are an address.
* `isSocketAddress`: The text is an address with a port.
-/

namespace ChatCluster.SocketAddress

/-- The characters between the marks. -/
def splitOn (mark : Char) : List Char → List (List Char)
  | [] => [[]]
  | c :: rest =>
    match splitOn mark rest with
    | [] => [[c]]
    | part :: parts => if c = mark then [] :: part :: parts else (c :: part) :: parts

/-- The characters denote a number up to a bound. -/
def isNumber (bound : Nat) (cs : List Char) : Bool :=
  (Decimal.allDigits? cs).any (· ≤ bound)

/-- The characters are one of the four numbers of an address. A leading zero is not allowed. -/
def isOctet (cs : List Char) : Bool :=
  cs.length ≤ 3 && isNumber 255 cs && (cs = ['0'] || cs.head? ≠ some '0')

/-- The characters are an address of version 4. -/
def isV4 (cs : List Char) : Bool :=
  let parts := splitOn '.' cs
  parts.length = 4 && parts.all isOctet

/-- The character is a digit to the base sixteen. -/
def isHexDigit (c : Char) : Bool :=
  c.isDigit || ('a' ≤ c && c ≤ 'f') || ('A' ≤ c && c ≤ 'F')

/-- The characters are one of the eight groups of an address. -/
def isGroup (cs : List Char) : Bool :=
  1 ≤ cs.length && cs.length ≤ 4 && cs.all isHexDigit

/-- How many groups some parts stand for, if they are groups. The last part may be an address of
    version 4, which stands for two. -/
def groups? : List (List Char) → Option Nat
  | [] => some 0
  | [last] => if isGroup last then some 1 else if isV4 last then some 2 else none
  | part :: parts => if isGroup part then (groups? parts).map (· + 1) else none

/-- How many groups some characters stand for; no characters stand for none. -/
def groupsOf? (cs : List Char) : Option Nat :=
  if cs = [] then some 0 else groups? (splitOn ':' cs)

/-- The characters before and behind the first double colon. -/
def splitGap : List Char → Option (List Char × List Char)
  | ':' :: ':' :: rest => some ([], rest)
  | c :: rest => (splitGap rest).map fun (head, tail) => (c :: head, tail)
  | [] => none

/-- The characters are an address of version 6. A double colon stands for one group of zeros or
    more, and none of the old kind of address may stand in front of it. -/
def isV6 (cs : List Char) : Bool :=
  match splitGap cs with
  | none => groupsOf? cs = some 8
  | some (head, tail) =>
    match groupsOf? head, groupsOf? tail with
    | some m, some n => m + n ≤ 7 && !head.contains '.'
    | _, _ => false

/-- The characters are an address of version 6, with the number of an interface or without. -/
def isScopedV6 (cs : List Char) : Bool :=
  match cs.span fun c => c ≠ '%' with
  | (address, []) => isV6 address
  | (address, _ :: scope) => isV6 address && isNumber (UInt32.size - 1) scope

/-- The characters are a port. -/
def isPort (cs : List Char) : Bool :=
  isNumber 65535 cs

/-- The text is an address with a port. An address of version 6 stands in brackets. -/
def isSocketAddress (text : String) : Bool :=
  match text.toList with
  | '[' :: rest =>
    match rest.span fun c => c ≠ ']' with
    | (address, ']' :: ':' :: port) => isScopedV6 address && isPort port
    | _ => false
  | cs =>
    match cs.span fun c => c ≠ ':' with
    | (address, _ :: port) => isV4 address && isPort port
    | _ => false

end ChatCluster.SocketAddress
