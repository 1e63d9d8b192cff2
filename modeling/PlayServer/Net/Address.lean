import PlayServer.Bytes

/-!
# Internet addresses

IPv4 and IPv6 addresses and socket addresses, with their usual text forms. An IPv4 address is
four decimal octets without leading zeros. An IPv6 address is eight groups of up to four
hexadecimal digits, of which one run of zero groups may be left out as `::` and the last two may
be written as an IPv4 address. Printing leaves out the first of the longest runs of two zero
groups or more, and writes the IPv4-mapped addresses with their IPv4 part.

A socket address adds a port. An IPv6 address then stands in brackets, and behind a percent sign
may follow the number of the zone that it is meant in.

Each reader takes what it reads off the front of a text and gives the rest, or takes nothing.
-/

namespace PlayServer

/-- An internet address. -/
inductive IpAddress where
  | v4 (a b c d : UInt8)
  | v6 (groups : Vector UInt16 8)
  deriving DecidableEq, Repr

namespace IpAddress

/-- The address of this host itself. -/
def loopback : IpAddress := .v4 127 0 0 1

/-- The address that stands for every address of this host. -/
def unspecified : IpAddress := .v4 0 0 0 0

instance : Inhabited IpAddress := ⟨unspecified⟩

/-- The value of a digit in a base of at most sixteen. -/
def digit? (base : Nat) (c : Char) : Option Nat :=
  let n :=
    if '0' ≤ c && c ≤ '9' then c.toNat - 48
    else if 'a' ≤ c && c ≤ 'f' then c.toNat - 87
    else if 'A' ≤ c && c ≤ 'F' then c.toNat - 55
    else base
  if n < base then some n else none

/-- A numeral of one to `width` digits and a value below `bound`. With `plain`, it must have no
leading zero. -/
def number? (base width bound : Nat) (plain : Bool) (s : List Char) : Option (Nat × List Char) :=
  let digits := s.takeWhile fun c => (digit? base c).isSome
  let value := digits.foldl (fun n c => n * base + (digit? base c).getD 0) 0
  if digits.isEmpty || width < digits.length || bound ≤ value then none
  else if plain && 1 < digits.length && digits.head? == some '0' then none
  else some (value, s.drop digits.length)

/-- One given character. -/
def char? (c : Char) : List Char → Option (List Char)
  | c' :: rest => if c' = c then some rest else none
  | [] => none

/-- A decimal octet. -/
def octet? (s : List Char) : Option (UInt8 × List Char) :=
  (number? 10 3 256 true s).map fun (n, rest) => (UInt8.ofNat n, rest)

/-- Four octets with dots between them. -/
def octets? (s : List Char) : Option ((UInt8 × UInt8 × UInt8 × UInt8) × List Char) := do
  let (a, s) ← octet? s
  let s ← char? '.' s
  let (b, s) ← octet? s
  let s ← char? '.' s
  let (c, s) ← octet? s
  let s ← char? '.' s
  let (d, s) ← octet? s
  return ((a, b, c, d), s)

/-- Some groups, and whether the last two of them were written as four octets. -/
structure GroupRun where
  groups : List UInt16
  endsInOctets : Bool
  rest : List Char

/-- The colon in front of every group but the first. -/
def groupMark? (first : Bool) (s : List Char) : Option (List Char) :=
  if first then some s else char? ':' s

/-- Up to `limit` groups with colons between them. Four octets stand for two groups and end the
run. -/
def groups (first : Bool) : (limit : Nat) → List Char → GroupRun
  | 0, s => ⟨[], false, s⟩
  | limit + 1, s =>
    let octets := if limit = 0 then none else (groupMark? first s).bind octets?
    match octets with
    | some ((a, b, c, d), rest) =>
      ⟨[UInt16.ofNat (a.toNat * 256 + b.toNat), UInt16.ofNat (c.toNat * 256 + d.toNat)], true, rest⟩
    | none =>
      match (groupMark? first s).bind (number? 16 4 65536 false) with
      | some (n, rest) =>
        let run := groups false limit rest
        { run with groups := UInt16.ofNat n :: run.groups }
      | none => ⟨[], false, s⟩

/-- The IPv6 address of eight groups. -/
def ofGroups? (gs : List UInt16) : Option IpAddress :=
  if h : gs.length = 8 then some (.v6 ⟨gs.toArray, by simpa using h⟩) else none

/-- An IPv6 address. -/
def v6? (s : List Char) : Option (IpAddress × List Char) := do
  let head := groups true 8 s
  if head.groups.length = 8 then
    let address ← ofGroups? head.groups
    return (address, head.rest)
  if head.endsInOctets then none
  let s ← char? ':' head.rest
  let s ← char? ':' s
  let tail := groups true (7 - head.groups.length) s
  let zeros := List.replicate (8 - head.groups.length - tail.groups.length) 0
  let address ← ofGroups? (head.groups ++ zeros ++ tail.groups)
  return (address, tail.rest)

/-- An IPv4 address. -/
def v4? (s : List Char) : Option (IpAddress × List Char) :=
  (octets? s).map fun ((a, b, c, d), rest) => (.v4 a b c d, rest)

/-- Reads an address that is the whole of a text. -/
def parse? (s : String) : Option IpAddress :=
  match v4? s.toList <|> v6? s.toList with
  | some (address, []) => some address
  | _ => none

/-- The length of the run of zero groups that a list begins with. -/
def zeroRun (gs : List UInt16) : Nat := (gs.takeWhile (· == 0)).length

/-- The start and length of the first of the longest runs of zero groups. -/
def longestZeroRun (gs : List UInt16) : Nat × Nat :=
  (List.range gs.length).foldl
    (fun best start =>
      let run := zeroRun (gs.drop start)
      if best.2 < run then (start, run) else best)
    (0, 0)

/-- Groups with colons between them. -/
def printGroups (gs : List UInt16) : String :=
  ":".intercalate (gs.map fun g => hexNumeral 1 g.toNat)

/-- Octets with dots between them. -/
def printOctets (a b c d : UInt8) : String := s!"{a.toNat}.{b.toNat}.{c.toNat}.{d.toNat}"

/-- The text of an address. -/
def print : IpAddress → String
  | .v4 a b c d => printOctets a b c d
  | .v6 groups =>
    match groups.toList with
    | [0, 0, 0, 0, 0, 0xFFFF, high, low] =>
      "::ffff:" ++ printOctets (high >>> 8).toUInt8 high.toUInt8 (low >>> 8).toUInt8 low.toUInt8
    | gs =>
      let (start, length) := longestZeroRun gs
      if 1 < length then
        printGroups (gs.take start) ++ "::" ++ printGroups (gs.drop (start + length))
      else printGroups gs

end IpAddress

/-- An address with a port. The zone tells which of a host's networks an IPv6 address is meant in;
0 stands for none. It is no part of the address itself. -/
structure SocketAddress where
  ip : IpAddress
  port : UInt16
  zone : UInt32 := 0
  deriving DecidableEq, Repr, Inhabited

namespace SocketAddress

/-- A colon and a port number in any number of digits. -/
def port? (s : List Char) : Option (UInt16 × List Char) := do
  let s ← IpAddress.char? ':' s
  let (port, rest) ← IpAddress.number? 10 s.length UInt16.size false s
  return (UInt16.ofNat port, rest)

/-- A zone of up to any number of digits, behind its percent sign; none is written for 0. -/
def zonePart (s : List Char) : UInt32 × List Char :=
  match (IpAddress.char? '%' s).bind fun s => IpAddress.number? 10 s.length UInt32.size false s with
  | some (zone, rest) => (UInt32.ofNat zone, rest)
  | none => (0, s)

/-- An IPv4 address with a port. -/
def v4? (s : List Char) : Option (SocketAddress × List Char) := do
  let (ip, s) ← IpAddress.v4? s
  let (port, rest) ← port? s
  return ({ ip, port }, rest)

/-- An IPv6 address in brackets with a port. -/
def v6? (s : List Char) : Option (SocketAddress × List Char) := do
  let s ← IpAddress.char? '[' s
  let (ip, s) ← IpAddress.v6? s
  let (zone, s) := zonePart s
  let s ← IpAddress.char? ']' s
  let (port, rest) ← port? s
  return ({ ip, port, zone }, rest)

/-- Reads a socket address that is the whole of a text. -/
def parse? (s : String) : Option SocketAddress :=
  match v4? s.toList <|> v6? s.toList with
  | some (address, []) => some address
  | _ => none

/-- The text of a socket address. -/
def print (a : SocketAddress) : String :=
  match a.ip with
  | .v4 .. => s!"{a.ip.print}:{a.port.toNat}"
  | .v6 _ =>
    let zone := if a.zone = 0 then "" else s!"%{a.zone.toNat}"
    s!"[{a.ip.print}{zone}]:{a.port.toNat}"

end SocketAddress

end PlayServer
