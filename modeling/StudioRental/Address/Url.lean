import StudioRental.Address.Ip
import StudioRental.Address.Idna
import StudioRental.Text.Utf8
import StudioRental.Text.FormUrl

/-!
Reading a URL: its scheme, user, password, host, port, path and query, with the checks that
make a text fail to read.

Control characters and spaces are trimmed from both ends, and tabs and line breaks dropped
everywhere. The scheme is a letter followed by letters, digits, `+`, `-` or `.`, then `:`; a
text without one is relative, and with no base to resolve it against it does not read. The
schemes `http`, `https`, `ws`, `wss`, `ftp` and `file` are special: after them any run of `/`
and `\` leads to the authority, and `\` ends the authority and separates path segments as `/`
does. Other schemes have an authority only after `//`.

The authority is the text up to the first `/`, `?` or `#`. Up to its last `@` it names the user,
and a password after the user's first `:`. The host runs to a `:` outside brackets. A special
host must not be empty; its escapes are decoded, it is processed as an international domain
name (`Idna.process`), which must leave something, and when its last label is a number it must
read as an IPv4 address. The host of another scheme must not hold a character that ends or
splits hosts. A bracketed host must read as an IPv6 address. The port after the host's `:` is
decimal digits up to 65535, and a special scheme's own port counts as none. A `file` URL has no
user or port, its host `localhost` counts as none, and a host that is a Windows drive letter
(`C:` or `C|`) starts the path instead.

The path is split into segments; a segment `.` is dropped and `..` drops the segment before it
(each also written with `%2e`). In a `file` path a drive letter that starts the path is written
with `:`, is never dropped, and leaves the URL without a host. The query runs from `?` to `#`.
The components are kept as written, so that decoding their escapes gives exactly what decoding
the escaped URL gives.
-/

namespace StudioRental

/-- Why a text does not read as a URL. -/
inductive UrlError where
  | relativeWithoutBase
  | emptyHost
  | invalidIpv4
  | invalidIpv6
  | invalidPort
  | invalidDomainCharacter
  | invalidDomain
  deriving DecidableEq, Repr

namespace UrlError

/-- The text reporting the error. -/
def message : UrlError → String
  | relativeWithoutBase => "relative URL without a base"
  | emptyHost => "empty host"
  | invalidIpv4 => "invalid IPv4 address"
  | invalidIpv6 => "invalid IPv6 address"
  | invalidPort => "invalid port number"
  | invalidDomainCharacter => "invalid domain character"
  | invalidDomain => "invalid international domain name"

end UrlError

/-- The host of a URL. -/
inductive UrlHost where
  /-- A name, as written for other schemes and lower-cased for special ones. -/
  | name (text : String)
  /-- An IPv4 address. -/
  | ipv4 (text : String)
  /-- An IPv6 address, with its brackets. -/
  | ipv6 (text : String)
  deriving DecidableEq, Repr

namespace UrlHost

/-- The host as text. -/
def text : UrlHost → String
  | name t => t
  | ipv4 t => t
  | ipv6 t => t

end UrlHost

/-- A URL read into its components. -/
structure Url where
  scheme : String
  username : String := ""
  password : Option String := none
  host : Option UrlHost := none
  port : Option Nat := none
  /-- The path with its segments, each after a `/`; or the whole text of a path without segments. -/
  path : String := ""
  query : Option String := none
  deriving Repr

namespace Url

/-- The default port of a special scheme. -/
def defaultPort : String → Option Nat
  | "http" => some 80
  | "https" => some 443
  | "ws" => some 80
  | "wss" => some 443
  | "ftp" => some 21
  | _ => none

/-- Whether a scheme is special. -/
def isSpecial (scheme : String) : Bool :=
  scheme == "file" || (defaultPort scheme).isSome

/-- Whether a character is a control character or a space, trimmed from both ends. -/
def isTrimmed (c : Char) : Bool := c.toNat ≤ 32

/-- The scheme, lower-cased, and the text after its `:`. -/
def splitScheme (cs : List Char) : Option (String × List Char) :=
  match cs with
  | c :: rest =>
    if !(c.isAlpha && c.toNat < 128) then none
    else
      let body := rest.takeWhile fun c =>
        (c.isAlphanum && c.toNat < 128) || c == '+' || c == '-' || c == '.'
      match rest.drop body.length with
      | ':' :: tail => some (String.ofList ((c :: body).map Char.toLower), tail)
      | _ => none
  | [] => none

/-- Whether a character ends the authority. -/
def endsAuthority (special : Bool) (c : Char) : Bool :=
  c == '/' || c == '?' || c == '#' || (special && c == '\\')

/-- The position of the last `@` among the characters. -/
def lastAt (cs : List Char) : Option Nat :=
  (((List.range cs.length).zip cs).filter (·.2 == '@')).getLast?.map (·.1)

/-- The host text: up to a `:` outside brackets or the end of the authority; and what follows. -/
def hostSpan (special : Bool) : List Char → Bool → List Char × List Char
  | [], _ => ([], [])
  | c :: rest, inside =>
    if (c == ':' && !inside) || endsAuthority special c then ([], c :: rest)
    else
      let inside := if c == '[' then true else if c == ']' then false else inside
      let (host, after) := hostSpan special rest inside
      (c :: host, after)

/-- Whether a character may not stand in the host of a scheme that is not special. -/
def forbiddenInHost (c : Char) : Bool :=
  c == '\x00' || c == '\t' || c == '\n' || c == '\r' || c == ' ' || c == '#' || c == '/' ||
    c == ':' || c == '<' || c == '>' || c == '?' || c == '@' || c == '[' || c == '\\' ||
    c == ']' || c == '^' || c == '|'

/-- A bracketed host, which must hold an IPv6 address. -/
def bracketed (host : List Char) : Except UrlError UrlHost :=
  if host.getLast? == some ']' && Ip.hostIpv6 (host.drop 1).dropLast then
    .ok (.ipv6 (String.ofList host))
  else .error .invalidIpv6

/-- The host of a special URL: its escapes decoded, then processed as an international domain
name. -/
def specialHost (host : List Char) : Except UrlError UrlHost :=
  if host.head? == some '[' then bracketed host
  else
    match Utf8.decodeStrict (FormUrl.percentDecode (String.ofList host).toUTF8.toList) with
    | .error _ => .error .invalidDomain
    | .ok domain =>
      match Idna.process domain.toList with
      | none => .error .invalidDomain
      | some d =>
        if d.isEmpty then .error .emptyHost
        else if Ip.endsInNumber d then
          if Ip.hostIpv4 d then .ok (.ipv4 (String.ofList d)) else .error .invalidIpv4
        else .ok (.name (String.ofList d))

/-- The host of a URL that is not special. -/
def plainHost (host : List Char) : Except UrlError UrlHost :=
  if host.head? == some '[' then bracketed host
  else if host.any forbiddenInHost then .error .invalidDomainCharacter
  else .ok (.name (String.ofList host))

/-- The port after a host's `:`: decimal digits up to 65535, ended by the end of the text or by
`/`, `\`, `?` or `#`; `acc` is the value of the digits so far. -/
def portDigits : List Char → Option Nat → Except UrlError (Option Nat × List Char)
  | [], acc => .ok (acc, [])
  | c :: rest, acc =>
    if Ip.isDigit c then
      let n := acc.getD 0 * 10 + (c.toNat - 48)
      if n > 65535 then .error .invalidPort else portDigits rest (some n)
    else if c == '/' || c == '\\' || c == '?' || c == '#' then .ok (acc, c :: rest)
    else .error .invalidPort

/-- The user, the password and the characters after the `@` that ends them. -/
structure UserInfo where
  username : String := ""
  password : Option String := none

/-- The user information of an authority, and the characters after it. -/
def userInfo (special : Bool) (cs : List Char) : Except UrlError (UserInfo × List Char) :=
  match lastAt (cs.takeWhile fun c => !endsAuthority special c) with
  | none => .ok ({}, cs)
  | some 0 =>
    let after := cs.drop 1
    if (after.head?.map (endsAuthority special)).getD false then .error .emptyHost
    else .ok ({}, after)
  | some k =>
    let info := cs.take k
    let user := info.takeWhile (· != ':')
    let password := (info.drop (user.length + 1))
    .ok ({ username := String.ofList user,
           password := if password.isEmpty then none else some (String.ofList password) },
      cs.drop (k + 1))

/-- Read an authority: the user information, the host and the port; and the characters after
it. -/
def authority (scheme : String) (cs : List Char) :
    Except UrlError (UserInfo × Option UrlHost × Option Nat × List Char) := do
  let special := isSpecial scheme
  let (info, cs) ← userInfo special cs
  let (hostText, cs) := hostSpan special cs false
  if special && hostText.isEmpty then throw .emptyHost
  let host ← if special then specialHost hostText else plainHost hostText
  let host := if host == .name "" then none else some host
  let (port, cs) ← match cs with
    | ':' :: rest =>
      if host.isNone then throw .emptyHost
      else portDigits rest none
    | _ => pure (none, cs)
  if host.isNone && (!info.username.isEmpty || info.password.isSome) then throw .emptyHost
  let port := if port == defaultPort scheme then none else port
  return (info, host, port, cs)

/-- Whether a segment stands for the current directory. -/
def isSingleDot (s : List Char) : Bool :=
  s == ['.'] || (s.map Char.toLower) == ['%', '2', 'e']

/-- Whether a segment stands for the parent directory. -/
def isDoubleDot (s : List Char) : Bool :=
  match (s.map Char.toLower) with
  | ['.', '.'] | ['.', '%', '2', 'e'] | ['%', '2', 'e', '.'] | ['%', '2', 'e', '%', '2', 'e'] => true
  | _ => false

/-- How a scheme's paths read: in special schemes `\` separates segments as `/` does, and
`file` paths also keep Windows drive letters. -/
inductive PathStyle where
  | plain
  | special
  | file
  deriving DecidableEq

/-- Whether a segment is a Windows drive letter: an ASCII letter, then `:` or `|`. -/
def isDriveLetter (s : List Char) : Bool :=
  match s with
  | [c, d] => c.isAlpha && c.toNat < 128 && (d == ':' || d == '|')
  | _ => false

/-- Whether a segment is a Windows drive letter written with `:`. -/
def isNormalDriveLetter (s : String) : Bool :=
  match s.toList with
  | [c, ':'] => c.isAlpha && c.toNat < 128
  | _ => false

/-- Add a segment to the path's segments; `slash` tells whether a separator follows it. A `file`
path never drops a drive letter, and writes one that starts the path with `:`. -/
def pushSegment (style : PathStyle) (segments : List String) (buffer : List Char)
    (slash : Bool) : List String :=
  if isDoubleDot buffer then
    let kept :=
      if style == .file && (segments.getLast?.map isNormalDriveLetter).getD false then segments
      else segments.dropLast
    kept ++ (if slash then [] else [""])
  else if isSingleDot buffer then segments ++ (if slash then [] else [""])
  else
    match buffer with
    | [c, _] =>
      if style == .file && segments.isEmpty && isDriveLetter buffer then
        segments ++ [String.ofList [c, ':']]
      else segments ++ [String.ofList buffer]
    | _ => segments ++ [String.ofList buffer]

/-- Whether a character separates path segments. -/
def separates (special : Bool) (c : Char) : Bool := c == '/' || (special && c == '\\')

/-- Read path segments up to `?`, `#` or the end; fuel of one more than the characters is
enough, each segment but the last taking its separator. -/
def segmentsFrom (style : PathStyle) : Nat → List Char → List String → List String × List Char
  | 0, cs, segments => (segments, cs)
  | fuel + 1, cs, segments =>
    let special := style != .plain
    let buffer := cs.takeWhile fun c => !(separates special c || c == '?' || c == '#')
    match cs.drop buffer.length with
    | c :: rest =>
      if separates special c then
        segmentsFrom style fuel rest (pushSegment style segments buffer true)
      else (pushSegment style segments buffer false, c :: rest)
    | [] => (pushSegment style segments buffer false, [])

/-- The path after an authority, and the characters after it. -/
def pathAfterHost (style : PathStyle) (cs : List Char) : List String × List Char :=
  if style != .plain then
    match cs with
    | c :: rest => if separates true c then segmentsFrom style (rest.length + 1) rest []
                   else segmentsFrom style (cs.length + 1) cs []
    | [] => ([""], [])
  else
    match cs with
    | [] => ([], [])
    | '?' :: _ => ([], cs)
    | '#' :: _ => ([], cs)
    | '/' :: rest => segmentsFrom .plain (rest.length + 1) rest []
    | _ => segmentsFrom .plain (cs.length + 1) cs []

/-- The text of a path's segments. -/
def joinSegments (segments : List String) : String :=
  String.join (segments.map ("/" ++ ·))

/-- The query of the characters after the path, if they start one. -/
def queryOf : List Char → Option String
  | '?' :: rest => some (String.ofList (rest.takeWhile (· != '#')))
  | _ => none

/-- Read a URL. -/
def parse (input : String) : Except UrlError Url := do
  let cs := ((input.toList.dropWhile isTrimmed).reverse.dropWhile isTrimmed).reverse
  let cs := cs.filter fun c => c != '\t' && c != '\n' && c != '\r'
  let some (scheme, rest) := splitScheme cs | throw .relativeWithoutBase
  if scheme == "file" then
    let finish (host : Option UrlHost) (path : List String × List Char) : Url :=
      let host := if (path.1.head?.map isNormalDriveLetter).getD false then none else host
      { scheme, host, path := joinSegments path.1, query := queryOf path.2 }
    match rest with
    | a :: b :: after =>
      if separates true a && separates true b then
        let hostText := after.takeWhile fun c => !endsAuthority true c
        if isDriveLetter hostText then
          return finish none (segmentsFrom .file (after.length + 1) after [])
        else
          let host ← if hostText.isEmpty then pure none else some <$> specialHost hostText
          let host := if host == some (.name "localhost") then none else host
          return finish host (pathAfterHost .file (after.drop hostText.length))
      else return finish none (pathAfterHost .file rest)
    | _ => return finish none (pathAfterHost .file rest)
  else if isSpecial scheme then
    let (info, host, port, after) ← authority scheme (rest.dropWhile (separates true))
    let (segments, tail) := pathAfterHost .special after
    return { scheme, username := info.username, password := info.password, host, port,
             path := joinSegments segments, query := queryOf tail }
  else
    match rest with
    | '/' :: '/' :: after =>
      let (info, host, port, after) ← authority scheme after
      let (segments, tail) := pathAfterHost .plain after
      return { scheme, username := info.username, password := info.password, host, port,
               path := joinSegments segments, query := queryOf tail }
    | '/' :: after =>
      let (segments, tail) := segmentsFrom .plain (after.length + 1) after []
      return { scheme, path := joinSegments segments, query := queryOf tail }
    | _ =>
      let whole := rest.takeWhile fun c => c != '?' && c != '#'
      return { scheme, path := String.ofList whole, query := queryOf (rest.drop whole.length) }

end Url

end StudioRental
