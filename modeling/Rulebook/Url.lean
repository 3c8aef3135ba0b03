import Rulebook.Number.Numeral
import Rulebook.Text.Blank

/-!
# Web addresses

An address is split into scheme, authority and the rest; the authority into user, host and port.
Whether a text is an absolute web address is decided by its scheme and its authority.

* `isWebAddress`: the test, on the characters of a text.
* `Authority.accepts`: the part of it that looks at the authority alone.
-/

namespace Rulebook

namespace Url

/-- The characters before the first `c`, and those after it. -/
def cutFirst (c : Char) (cs : List Char) : List Char × List Char :=
  (cs.takeWhile (· != c), (cs.dropWhile (· != c)).drop 1)

/-- The characters after the last `c`, and all of them if there is none. -/
def afterLast (c : Char) (cs : List Char) : List Char :=
  (cs.reverse.takeWhile (· != c)).reverse

/-- The pieces of a text between the separators. -/
def pieces (separator : Char) : List Char → List (List Char)
  | [] => [[]]
  | c :: cs =>
    if c == separator then [] :: pieces separator cs
    else
      match pieces separator cs with
      | [] => [[c]]
      | p :: ps => (c :: p) :: ps

/-! ## Numeric hosts -/

/-- A number of a dotted host: at most three digits, no zero in front, at most 255. -/
def isOctet (cs : List Char) : Bool :=
  !cs.isEmpty && cs.all isAsciiDigit && cs.length ≤ 3 && (cs == ['0'] || cs.head? != some '0') &&
    natOfDigits cs ≤ 255

/-- Four numbers with dots between them. -/
def isDottedHost (cs : List Char) : Bool :=
  let parts := pieces '.' cs
  parts.length == 4 && parts.all isOctet

/-- A group of at most four hexadecimal digits. -/
def isHexGroup (cs : List Char) : Bool :=
  !cs.isEmpty && cs.length ≤ 4 &&
    cs.all fun c => isAsciiDigit c || ('a' ≤ c && c ≤ 'f') || ('A' ≤ c && c ≤ 'F')

/-- Whether groups between colons, the last of which is not dotted, form a numeric host: eight
groups, or fewer with one empty place for those left out. -/
def isGroupList (parts : List (List Char)) : Bool :=
  let n := parts.length
  let gaps := (List.range n).filter fun i => 0 < i && i + 1 < n && (parts[i]?.getD []).isEmpty
  match gaps with
  | [] => n == 8 && parts.all isHexGroup
  | [gap] =>
    let firstEmpty := (parts.head?.getD []).isEmpty
    let lastEmpty := (parts.getLast?.getD []).isEmpty
    let high := if firstEmpty then gap - 1 else gap
    let low := if lastEmpty then n - gap - 2 else n - gap - 1
    n ≤ 9 && (!firstEmpty || high == 0) && (!lastEmpty || low == 0) && high + low ≤ 7 &&
      (parts.take high).all isHexGroup && (parts.drop (n - low)).all isHexGroup
  | _ => false

/-- A host in groups of hexadecimal digits; the last two groups may be dotted, and a zone may
follow a percent sign. -/
def isGroupedHost (cs : List Char) : Bool :=
  let (address, zone) := cutFirst '%' cs
  let zoneFine := !cs.contains '%' || (!zone.isEmpty && !zone.contains '%')
  let parts := pieces ':' address
  let last := parts.getLast?.getD []
  let groups :=
    if last.contains '.' then
      if isDottedHost last then some (parts.dropLast ++ [['0'], ['0']]) else none
    else some parts
  zoneFine && 3 ≤ parts.length && (groups.map isGroupList).getD false

/-- A host of a later kind: `v`, hexadecimal digits, a dot and something more. -/
def isLaterHost (cs : List Char) : Bool :=
  match cs with
  | 'v' :: rest =>
    let isHex (c : Char) := isAsciiDigit c || ('a' ≤ c && c ≤ 'f') || ('A' ≤ c && c ≤ 'F')
    match rest.dropWhile isHex with
    | '.' :: more => !(rest.takeWhile isHex).isEmpty && !more.isEmpty && !more.contains '\n'
    | _ => false
  | _ => false

/-- What may stand in brackets in place of a host name. -/
def isBracketedHost (cs : List Char) : Bool :=
  if cs.head? == some 'v' then isLaterHost cs else isGroupedHost cs

end Url

namespace Authority

open Url

/-- Host and port of an authority, behind the user. -/
def hostInfo (n : List Char) : List Char := afterLast '@' n

/-- The host and the port that the part behind the user gives. -/
def hostAndPort (info : List Char) : List Char × List Char :=
  if info.contains '[' then
    let (host, rest) := cutFirst ']' (cutFirst '[' info).2
    (host, (cutFirst ':' rest).2)
  else cutFirst ':' info

/-- Whether brackets come in a pair around a numeric host with nothing but a port behind it. -/
def bracketsFit (n : List Char) : Bool :=
  if n.contains '[' then
    n.contains ']' &&
      let info := hostInfo n
      if info.contains '[' then
        let (before, inner) := cutFirst '[' info
        let (host, rest) := cutFirst ']' inner
        before.isEmpty && (rest.isEmpty || rest.head? == some ':') && isBracketedHost host
      else isBracketedHost (cutFirst ':' info).1
  else !n.contains ']'

/-- Characters that become, or come to contain, a delimiter of addresses when they are replaced by
their compatible forms. -/
def hidesDelimiter (c : Char) : Bool :=
  c.toNat ∈ [0x2047, 0x2048, 0x2049, 0x2100, 0x2101, 0x2105, 0x2106, 0x2a74, 0xfe13, 0xfe16,
    0xfe55, 0xfe56, 0xfe5f, 0xfe6b, 0xff03, 0xff0f, 0xff1a, 0xff1f, 0xff20]

/-- The greatest port. -/
def maxPort : Nat := 65535

/-- The most digits a port may have. -/
def maxPortDigits : Nat := 4300

/-- A port is nothing, or ASCII digits that form a number in range. -/
def portFits (port : List Char) : Bool :=
  port.isEmpty ||
    (port.all isAsciiDigit && port.length ≤ maxPortDigits && natOfDigits port ≤ maxPort)

/-- Whether an authority names a host, and a port in range if it names one. -/
def accepts (n : List Char) : Bool :=
  let (host, port) := hostAndPort (hostInfo n)
  bracketsFit n && !n.any hidesDelimiter && portFits port && !host.isEmpty

end Authority

namespace Url

/-- Control characters and the space, which are dropped in front of an address. -/
def isLeading (c : Char) : Bool := c.toNat ≤ 0x20

/-- Whether a character ends the authority. -/
def endsAuthority (c : Char) : Bool := c == '/' || c == '?' || c == '#'

/-- Whether letters spell the scheme of web addresses, in any case. -/
def isWebScheme (cs : List Char) : Bool :=
  let lower := cs.map Char.toLower
  lower == ['h', 't', 't', 'p'] || lower == ['h', 't', 't', 'p', 's']

/-- Whether a text is an absolute web address with a host. -/
def isWebAddress (cs : List Char) : Bool :=
  let (scheme, rest) := cutFirst ':' (cs.dropWhile isLeading)
  !cs.any isBlank && isWebScheme scheme &&
    match rest with
    | '/' :: '/' :: after => Authority.accepts (after.takeWhile fun c => !endsAuthority c)
    | _ => false

end Url

end Rulebook
