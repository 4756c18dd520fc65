import TokenEscrow.Text.Utf8

/-!
# Addresses of nodes

Which texts are addresses with a host (`Url.check`), and what is wrong with any
other (`Url.Fault`). An address is a scheme and a colon, then two slashes and an
authority: perhaps a user before an `@`, the host, and perhaps a port. What
follows the authority can be anything.

Schemes of the web want a host and accept backslashes for slashes and any number
of them; other schemes may do without a host, which is a fault here as well.

Letters beyond ASCII are accepted in hosts, and so is every label that begins with
`xn--` and stands for such letters: the tables of international domain names are not
consulted. More hosts are accepted here than these tables allow; `xn--a` stands for a
control character, and they refuse it.
-/

namespace TokenEscrow

namespace Url

/-- Why a text is no address with a host. -/
inductive Fault
  | noScheme
  | emptyHost
  | noHost
  | badPort
  | badDomain
  | badDomainCharacter
  | badIpv4
  | badIpv6
  deriving DecidableEq, Repr

/-- The wording of a fault. -/
def Fault.message : Fault → String
  | noScheme => "relative URL without a base"
  | emptyHost => "empty host"
  | noHost => "no host provided"
  | badPort => "invalid port number"
  | badDomain => "invalid international domain name"
  | badDomainCharacter => "invalid domain character"
  | badIpv4 => "invalid IPv4 address"
  | badIpv6 => "invalid IPv6 address"

/-! ## Schemes -/

/-- The kinds of scheme. -/
inductive SchemeKind
  /-- a scheme of the web -/
  | web
  | file
  | other
  deriving DecidableEq, Repr

/-- The kind of a scheme in small letters. -/
def SchemeKind.ofName (name : String) : SchemeKind :=
  if name ∈ ["http", "https", "ws", "wss", "ftp"] then .web
  else if name = "file" then .file
  else .other

/-- The characters of a text that count: without controls and blanks around it, and without tabs and
line breaks anywhere. -/
def significant (text : String) : List Char :=
  let isEdge (c : Char) : Bool := c.toNat ≤ 0x20
  let trimmed := ((text.toList.dropWhile isEdge).reverse.dropWhile isEdge).reverse
  trimmed.filter fun c => !(c == '\t' || c == '\n' || c == '\r')

/-- The scheme in small letters, and what follows its colon. -/
def scheme? (text : List Char) : Option (String × List Char) :=
  let name := text.takeWhile fun c => c.isAlphanum || c == '+' || c == '-' || c == '.'
  match name, text.drop name.length with
  | first :: _, ':' :: rest =>
    if first.isAlpha then some (String.ofList (name.map Char.toLower), rest) else none
  | _, _ => none

/-- A slash, or a backslash where it counts as one. -/
def isSlash (kind : SchemeKind) (c : Char) : Bool := c == '/' || (kind != .other && c == '\\')

/-- A character that ends the authority. -/
def endsAuthority (kind : SchemeKind) (c : Char) : Bool := isSlash kind c || c == '?' || c == '#'

/-! ## Hosts that are numbers -/

/-- The value of a digit in a base up to sixteen. -/
def digit? (base : Nat) (c : Char) : Option Nat :=
  let value :=
    if c.isDigit then c.toNat - '0'.toNat
    else if 'a' ≤ c ∧ c ≤ 'f' then c.toNat - 'a'.toNat + 10
    else if 'A' ≤ c ∧ c ≤ 'F' then c.toNat - 'A'.toNat + 10
    else 16
  if value < base then some value else none

/-- The number with digits in a base. -/
def number? (base : Nat) (digits : List Char) : Option Nat := do
  let values ← digits.mapM (digit? base)
  return values.foldl (fun n d => n * base + d) 0

/-- One part of an address of four bytes: decimal, octal after `0`, hexadecimal after `0x`. -/
def ipv4Part? : List Char → Option Nat
  | [] => none
  | '0' :: 'x' :: digits | '0' :: 'X' :: digits => number? 16 digits
  | '0' :: d :: digits => number? 8 (d :: digits)
  | digits => number? 10 digits

/-- Cuts characters at a separator. -/
def cut (separator : Char) : List Char → List (List Char)
  | [] => [[]]
  | c :: rest =>
    if c = separator then [] :: cut separator rest
    else match cut separator rest with
      | [] => [[c]]
      | part :: more => (c :: part) :: more

/-- The parts of a host between points, without an empty last one. -/
def parts (host : List Char) : List (List Char) :=
  let all := cut '.' host
  match all.reverse with
  | [] :: others => others.reverse
  | _ => all

/-- Whether the last part of a host is a number, so that all of it has to be an address. -/
def endsInNumber (host : List Char) : Bool :=
  match (parts host).reverse with
  | [] => false
  | final :: _ => (!final.isEmpty && final.all Char.isDigit) || (ipv4Part? final).isSome

/-- Whether a host is an address of four bytes. The last part stands for all bytes that are left. -/
def isIpv4 (host : List Char) : Bool :=
  let ps := parts host
  match ps.mapM ipv4Part? with
  | none => false
  | some values =>
    match values.reverse with
    | [] => false
    | final :: others =>
      ps.length ≤ 4 && decide (final < Nat.pow 256 (4 - others.length)) && others.all (· < 256)

/-- Whether a text is four numbers below 256 without leading zeros, between points. -/
def isDotted (text : List Char) : Bool :=
  let ps := cut '.' text
  ps.length == 4 && ps.all fun p =>
    match number? 10 p with
    | none => false
    | some n => !p.isEmpty && n < 256 && !(1 < p.length && p.head? == some '0')

/-- The number of two-byte groups in a text with colons between groups; `none` when some group is
not one to four hexadecimal digits. The last group may be an address of four bytes. -/
def groupCount? (text : List Char) : Option Nat :=
  if text.isEmpty then some 0
  else
    let groups := cut ':' text
    let plain (g : List Char) : Bool :=
      !g.isEmpty && g.length ≤ 4 && (number? 16 g).isSome
    match groups.reverse with
    | [] => some 0
    | final :: others =>
      if !others.all plain then none
      else if plain final then some groups.length
      else if isDotted final then some (groups.length + 1)
      else none

/-- Cuts a text at its first double colon. -/
def cutDouble (front : List Char) : List Char → Option (List Char × List Char)
  | ':' :: ':' :: rest => some (front.reverse, rest)
  | c :: rest => cutDouble (c :: front) rest
  | [] => none

/-- Whether a text is an address of sixteen bytes. A double colon stands for the groups that are
left out. -/
def isIpv6 (text : List Char) : Bool :=
  match cutDouble [] text with
  | none => groupCount? text == some 8
  | some (front, back) =>
    match groupCount? front, groupCount? back with
    | some m, some n => !front.contains '.' && m + n ≤ 7
    | _, _ => false

/-! ## Hosts -/

/-- Replaces escapes of a percent sign and two hexadecimal digits by the bytes they stand for. -/
def unescape : List Char → Bytes
  | '%' :: a :: b :: rest =>
    match digit? 16 a, digit? 16 b with
    | some m, some n => UInt8.ofNat (16 * m + n) :: unescape rest
    | _, _ => Utf8.encode "%" ++ unescape (a :: b :: rest)
  | c :: rest => Utf8.encode (String.singleton c) ++ unescape rest
  | [] => []

/-- A character that no domain contains. -/
def isForbidden (c : Char) : Bool :=
  c.toNat ≤ 0x20 || c.toNat == 0x7F || "%#/:<>?@[\\]^|".toList.contains c

/-- Checks a host between brackets. -/
def checkBracketed (inner : List Char) : Except Fault Unit :=
  match inner.reverse with
  | ']' :: text => if isIpv6 text.reverse then .ok () else .error .badIpv6
  | _ => .error .badIpv6

/-- Checks a host of a scheme of the web, and returns it as it is compared with others. Labels of
international domain names are not checked, so this accepts more than the tables for them do. -/
def checkDomain (host : List Char) : Except Fault String :=
  match host with
  | '[' :: inner => (checkBracketed inner).map fun _ => String.ofList host
  | _ =>
    match Utf8.decode (unescape host) with
    | .error _ => .error .badDomain
    | .ok domain =>
      let chars := domain.toList.map Char.toLower
      if chars.any isForbidden then .error .badDomain
      else if chars.isEmpty then .error .emptyHost
      else if endsInNumber chars && !isIpv4 chars then .error .badIpv4
      else .ok (String.ofList chars)

/-- A character that no host of any other scheme contains. -/
def isForbiddenElsewhere (c : Char) : Bool :=
  c == '\x00' || " #/:<>?@[\\]^|".toList.contains c

/-- Checks a host of any other scheme. -/
def checkOpaque (host : List Char) : Except Fault Unit :=
  match host with
  | '[' :: inner => checkBracketed inner
  | _ => if host.any isForbiddenElsewhere then .error .badDomainCharacter else .ok ()

/-! ## Authorities -/

/-- The text after the last `@`, and whether there is something before it that names a user. -/
def dropUser (authority : List Char) : Bool × List Char :=
  match (cut '@' authority).reverse with
  | [] => (false, authority)
  | host :: users =>
    let user := List.intercalate ['@'] users.reverse
    (user.any (· != ':'), host)

/-- The host up to a colon outside brackets. -/
def hostOf (inside : Bool) : List Char → List Char
  | [] => []
  | c :: rest =>
    if c = ':' ∧ !inside then []
    else c :: hostOf (if c = '[' then true else if c = ']' then false else inside) rest

/-- Checks what follows the host: nothing, or a colon and a port. -/
def checkPort : List Char → Except Fault Unit
  | [] => .ok ()
  | _ :: port =>
    match number? 10 port with
    | some n => if n < 65536 then .ok () else .error .badPort
    | none => .error .badPort

/-- Checks an authority. -/
def checkAuthority (kind : SchemeKind) (authority : List Char) : Except Fault Unit := do
  let (hasUser, rest) := dropUser authority
  let host := hostOf false rest
  let port := rest.drop host.length
  if host.isEmpty then
    if kind = .web ∨ !port.isEmpty ∨ hasUser ∨ authority.head? = some '@' then throw .emptyHost
    else throw .noHost
  if kind = .web then let _ ← checkDomain host else checkOpaque host
  checkPort port

/-- Checks the part of a file address after its two slashes. -/
def checkFileHost (host : List Char) : Except Fault Unit :=
  let isDrive : Bool := match host with
    | [letter, mark] => letter.isAlpha && (mark == ':' || mark == '|')
    | _ => false
  if host.isEmpty || isDrive then .error .noHost
  else match checkDomain host with
    | .error e => .error e
    | .ok name => if name = "localhost" then .error .noHost else .ok ()

/-- Checks that a text is an address with a host. -/
def check (text : String) : Except Fault Unit :=
  match scheme? (significant text) with
  | none => .error .noScheme
  | some (name, rest) =>
    let kind := SchemeKind.ofName name
    let upToPath (cs : List Char) := cs.takeWhile fun c => !endsAuthority kind c
    match kind with
    | .web => checkAuthority .web (upToPath (rest.dropWhile (isSlash .web)))
    | .file => match rest with
      | a :: b :: more =>
        if isSlash .file a && isSlash .file b then checkFileHost (upToPath more)
        else .error .noHost
      | _ => .error .noHost
    | .other => match rest with
      | '/' :: '/' :: more => checkAuthority .other (upToPath more)
      | _ => .error .noHost

end Url

end TokenEscrow
