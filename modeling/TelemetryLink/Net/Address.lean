import TelemetryLink.Text.Hex

/-!
# Network addresses

IPv4 addresses are four decimal numbers between points, without leading zeros. IPv6 addresses
are eight groups of up to four hexadecimal digits between colons; one run of zero groups may be
written `::`, and the last two groups as an IPv4 address. Neither form has brackets or a zone.
-/

namespace TelemetryLink.Net

/-- An address of a host. -/
inductive IpAddress where
  | v4 (a b c d : UInt8)
  | v6 (groups : { gs : List UInt16 // gs.length = 8 })
  deriving DecidableEq

namespace IpAddress

/-! ## Reading -/

/-- The value of digits in a base, most significant first. -/
def ofDigits (base : Nat) (digits : List Nat) : Nat :=
  digits.foldl (fun n d => n * base + d) 0

/-- Reads all hexadecimal digits below `base` at the start of the text, of which there have to
be one to `most`. -/
def readDigits (base most : Nat) (text : List Char) : Option (List Nat × List Char) :=
  let isDigit c := (Text.Hex.charDigit? c).any (· < base)
  let digits := (text.takeWhile isDigit).filterMap Text.Hex.charDigit?
  if digits.length = 0 ∨ most < digits.length then none
  else some (digits, text.dropWhile isDigit)

/-- Reads a decimal number below 256 without leading zeros. -/
def readOctet (text : List Char) : Option (UInt8 × List Char) := do
  let (digits, rest) ← readDigits 10 3 text
  if 1 < digits.length ∧ digits.head? = some 0 then none
  let n := ofDigits 10 digits
  if n < 256 then some (UInt8.ofNat n, rest) else none

/-- Reads a character. -/
def expect (c : Char) : List Char → Option (List Char)
  | d :: rest => if d = c then some rest else none
  | [] => none

/-- Reads four octets between points. -/
def readV4 (text : List Char) : Option ((UInt8 × UInt8 × UInt8 × UInt8) × List Char) := do
  let (a, text) ← readOctet text
  let (b, text) ← readOctet (← expect '.' text)
  let (c, text) ← readOctet (← expect '.' text)
  let (d, text) ← readOctet (← expect '.' text)
  return ((a, b, c, d), text)

/-- Reads up to four hexadecimal digits. -/
def readGroup (text : List Char) : Option (UInt16 × List Char) := do
  let (digits, rest) ← readDigits 16 4 text
  return (UInt16.ofNat (ofDigits 16 digits), rest)

/-- A run of groups. -/
structure Groups where
  /-- The groups read. -/
  groups : List UInt16
  /-- Whether the last two stand as an IPv4 address, which ends the run. -/
  endsInV4 : Bool
  /-- The text after them. -/
  rest : List Char

/-- Reads as many groups as there are, up to a limit. Every group but the first of the run
follows a colon. -/
def readGroups (isFirst : Bool) : Nat → List Char → Groups
  | 0, text => ⟨[], false, text⟩
  | room + 1, text =>
    match if isFirst then some text else expect ':' text with
    | none => ⟨[], false, text⟩
    | some body =>
      -- An IPv4 address takes the room of two groups. It is tried first, since its first
      -- number alone would do as a group.
      match if room = 0 then none else readV4 body with
      | some ((a, b, c, d), rest) =>
        ⟨[UInt16.ofNat (a.toNat * 256 + b.toNat), UInt16.ofNat (c.toNat * 256 + d.toNat)], true,
          rest⟩
      | none =>
        match readGroup body with
        | none => ⟨[], false, text⟩
        | some (group, rest) =>
          let more := readGroups false room rest
          { more with groups := group :: more.groups }

/-- The address with these groups, if there are eight. -/
def ofGroups (groups : List UInt16) : Option IpAddress :=
  if h : groups.length = 8 then some (v6 ⟨groups, h⟩) else none

/-- Reads an IPv6 address that takes the whole text. An IPv4 address cannot stand before
`::`. -/
def parseV6 (text : List Char) : Option IpAddress := do
  let front := readGroups true 8 text
  if front.groups.length = 8 then
    if front.rest = [] then ofGroups front.groups else none
  else if front.endsInV4 then none
  else
    -- The zeros between the colons fill at least one group.
    let rest ← expect ':' (← expect ':' front.rest)
    let back := readGroups true (7 - front.groups.length) rest
    let zeros := List.replicate (8 - front.groups.length - back.groups.length) 0
    if back.rest = [] then ofGroups (front.groups ++ zeros ++ back.groups) else none

/-- Reads an address that takes the whole text. -/
def parse (text : String) : Option IpAddress :=
  match readV4 text.toList with
  | some ((a, b, c, d), []) => some (v4 a b c d)
  | _ => parseV6 text.toList

/-! ## Writing -/

/-- Four octets between points. -/
def dotted (a b c d : UInt8) : String :=
  ".".intercalate ([a, b, c, d].map fun octet => toString octet.toNat)

/-- Groups between colons, lower case, without leading zeros. -/
def joinGroups (groups : List UInt16) : String :=
  ":".intercalate (groups.map fun group => Text.Hex.ofNat group.toNat)

/-- The start and the length of the first of the longest runs of zero groups. `index` is the
place of the first group, and the run so far ends just before it. -/
def longestZeroRun : List UInt16 → (index run : Nat) → (best : Nat × Nat) → Nat × Nat
  | [], _, _, best => best
  | group :: rest, index, run, best =>
    if group = 0 then
      let run := run + 1
      longestZeroRun rest (index + 1) run (if best.2 < run then (index + 1 - run, run) else best)
    else longestZeroRun rest (index + 1) 0 best

/-- The text of an address. Two or more zero groups are shortened, and an IPv4 address inside
IPv6 is shown as such. -/
def display : IpAddress → String
  | v4 a b c d => dotted a b c d
  | v6 ⟨groups, _⟩ =>
    match groups with
    | [0, 0, 0, 0, 0, 0xFFFF, x, y] =>
      "::ffff:" ++ dotted (UInt8.ofNat (x.toNat / 256)) (UInt8.ofNat x.toNat)
        (UInt8.ofNat (y.toNat / 256)) (UInt8.ofNat y.toNat)
    | groups =>
      let (start, length) := longestZeroRun groups 0 0 (0, 0)
      if 1 < length then
        joinGroups (groups.take start) ++ "::" ++ joinGroups (groups.drop (start + length))
      else joinGroups groups

end IpAddress

/-- An address with a port. -/
structure Endpoint where
  ip : IpAddress
  port : UInt16
  deriving DecidableEq

/-- The text of an endpoint. IPv6 addresses stand in brackets. -/
def Endpoint.display (endpoint : Endpoint) : String :=
  match endpoint.ip with
  | .v4 .. => endpoint.ip.display ++ ":" ++ toString endpoint.port.toNat
  | .v6 .. => "[" ++ endpoint.ip.display ++ "]:" ++ toString endpoint.port.toNat

end TelemetryLink.Net
