import StudioRental.Number.Power

/-!
Reading IP addresses, under the two sets of rules a database address meets.

The URL rules read the host of a URL. An IPv4 host is one to four numbers joined by `.` (one
trailing `.` allowed); a number is decimal, octal after a leading `0`, or hexadecimal after
`0x`; every number but the last is below 256, and the last fills the bytes left. A host is
read this way when its last label is a number. An IPv6 host, between brackets, is up to eight
groups of up to four hexadecimal digits joined by `:`, with at most one `::` standing for the
missing groups, and may end in a dotted IPv4 address of four decimal numbers below 256 without
leading zeros.

The strict rules read an address standing alone: IPv4 is exactly four decimal numbers below 256
without leading zeros; IPv6 is groups of one to four hexadecimal digits, the last two of which
may be an IPv4 address, with at most one `::`, and nothing may follow.
-/

namespace StudioRental

open scoped CorePow

namespace Ip

/-- The value of a hexadecimal digit. -/
def digitValue (c : Char) : Option Nat :=
  if '0' ≤ c && c ≤ '9' then some (c.toNat - 48)
  else if 'a' ≤ c && c ≤ 'f' then some (c.toNat - 87)
  else if 'A' ≤ c && c ≤ 'F' then some (c.toNat - 55)
  else none

/-- Whether a character is a decimal digit. -/
def isDigit (c : Char) : Bool := '0' ≤ c && c ≤ '9'

/-- Whether a character is a hexadecimal digit. -/
def isHexDigit (c : Char) : Bool := (digitValue c).isSome

/-- The number that digits of a radix spell. -/
def value (radix : Nat) (ds : List Char) : Nat :=
  ds.foldl (fun acc c => acc * radix + (digitValue c).getD 0) 0

/-! ## URL hosts -/

/-- A number of a URL's IPv4 host: `none` when the text is not one, `some none` when it is one
too large for 32 bits. -/
def hostNumber? (s : List Char) : Option (Option Nat) :=
  if s.isEmpty then none
  else
    let (radix, digits) := match s with
      | '0' :: 'x' :: rest => (16, rest)
      | '0' :: 'X' :: rest => (16, rest)
      | '0' :: c :: rest => (8, c :: rest)
      | _ => (10, s)
    if digits.isEmpty then some (some 0)
    else if digits.all fun c => match digitValue c with
        | some v => decide (v < radix) && (radix == 16 || isDigit c)
        | none => false then
      let n := value radix digits
      some (if n < 2 ^ (32 : Nat) then some n else none)
    else none

/-- Whether a host's last label is a number, so that the host must be an IPv4 address. -/
def endsInNumber (s : List Char) : Bool :=
  let check (l : List Char) := (!l.isEmpty && l.all isDigit) || (hostNumber? l).isSome
  match (s.splitOn '.').reverse with
  | [] => false
  | [l] => check l
  | l :: next :: _ => check (if l.isEmpty then next else l)

/-- Whether a URL host reads as an IPv4 address. -/
def hostIpv4 (s : List Char) : Bool :=
  let parts := s.splitOn '.'
  let parts := if parts.getLast? == some [] then parts.dropLast else parts
  if parts.isEmpty || parts.length > 4 then false
  else
    match parts.mapM hostNumber? with
    | none => false
    | some values =>
      match values.mapM id with
      | none => false
      | some numbers =>
        let front := numbers.dropLast
        let last := numbers.getLastD 0
        decide (last < 2 ^ (32 - 8 * front.length)) && front.all fun n => decide (n < 256)

/-- The dotted IPv4 tail of a URL's IPv6 host, `seen` numbers read so far: four numbers below
256 without leading zeros, and nothing after them. -/
def hostIpv4Tail : Nat → List Char → Nat → Bool
  | 0, _, _ => false
  | _ + 1, [], seen => seen == 4
  | fuel + 1, c :: rest, seen =>
    let body := if seen == 0 then some (c :: rest)
      else if c == '.' && seen < 4 then some rest
      else none
    match body with
    | none => false
    | some cs =>
      let ds := cs.takeWhile isDigit
      if ds.isEmpty || (ds.length > 1 && ds.head? == some '0') || value 10 ds > 255 then false
      else hostIpv4Tail fuel (cs.drop ds.length) (seen + 1)

/-- The groups of a URL's IPv6 host from `pieces` groups on, `compressed` the group a `::`
stood at. -/
def hostIpv6Groups : Nat → List Char → Nat → Option Nat → Bool
  | 0, _, _, _ => false
  | _ + 1, [], pieces, compressed => compressed.isSome || pieces == 8
  | fuel + 1, c :: rest, pieces, compressed =>
    if pieces == 8 then false
    else if c == ':' then
      if compressed.isSome then false
      else hostIpv6Groups fuel rest (pieces + 1) (some (pieces + 1))
    else
      let ds := ((c :: rest).take 4).takeWhile isHexDigit
      match (c :: rest).drop ds.length with
      | [] => hostIpv6Groups fuel [] (pieces + 1) compressed
      | '.' :: _ =>
        if ds.isEmpty || pieces > 6 then false
        else hostIpv4Tail (rest.length + 2) (c :: rest) 0 &&
          (compressed.isSome || pieces + 2 == 8)
      | ':' :: more =>
        if more.isEmpty then false else hostIpv6Groups fuel more (pieces + 1) compressed
      | _ => false

/-- Whether the text between a URL host's brackets reads as an IPv6 address. -/
def hostIpv6 (s : List Char) : Bool :=
  if s.length < 2 then false
  else match s with
    | ':' :: ':' :: rest => hostIpv6Groups (rest.length + 1) rest 1 (some 1)
    | ':' :: _ => false
    | _ => hostIpv6Groups (s.length + 1) s 0 none

/-! ## Addresses standing alone -/

/-- Read a decimal number below 256 of at most three digits without a leading zero; the
characters after it. -/
def octet (cs : List Char) : Option (List Char) :=
  let ds := cs.takeWhile isDigit
  if ds.isEmpty || ds.length > 3 || value 10 ds > 255 || (ds.length > 1 && ds.head? == some '0')
  then none
  else some (cs.drop ds.length)

/-- Read an IPv4 address at the head of the characters; the characters after it. -/
def strictIpv4 (cs : List Char) : Option (List Char) := do
  let r ← octet cs
  let r ← match r with | '.' :: r => octet r | _ => none
  let r ← match r with | '.' :: r => octet r | _ => none
  match r with | '.' :: r => octet r | _ => none

/-- Read a group of one to four hexadecimal digits; the characters after it. -/
def hexGroup (cs : List Char) : Option (List Char) :=
  let ds := cs.takeWhile isHexDigit
  if ds.isEmpty || ds.length > 4 then none else some (cs.drop ds.length)

/-- Read up to `limit` groups from group `index` on, a group after the first following a `:`;
where two groups are left, an IPv4 address may stand for both and ends the reading. The number
of groups read, whether they ended in an IPv4 address, and the characters after them. -/
def strictGroups : Nat → Nat → Nat → List Char → Nat × Bool × List Char
  | 0, index, _, cs => (index, false, cs)
  | fuel + 1, index, limit, cs =>
    let body := if index == 0 then some cs
      else match cs with
        | ':' :: r => some r
        | _ => none
    match (if index + 1 < limit then body.bind strictIpv4 else none) with
    | some r => (index + 2, true, r)
    | none =>
      match body.bind hexGroup with
      | some r => strictGroups fuel (index + 1) limit r
      | none => (index, false, cs)

/-- Read an IPv6 address at the head of the characters; the characters after it. -/
def strictIpv6 (cs : List Char) : Option (List Char) :=
  let (head, headIpv4, r) := strictGroups 8 0 8 cs
  if head == 8 then some r
  else if headIpv4 then none
  else match r with
    | ':' :: ':' :: r =>
      let limit := 8 - (head + 1)
      let (_, _, r) := strictGroups limit 0 limit r
      some r
    | _ => none

/-- Whether a text is an IPv4 or an IPv6 address standing alone. -/
def isAddress (s : String) : Bool :=
  match strictIpv4 s.toList with
  | some r => r.isEmpty
  | none => strictIpv6 s.toList == some []

end Ip

end StudioRental
