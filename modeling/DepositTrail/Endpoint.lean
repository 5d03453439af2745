import DepositTrail.Hex
import DepositTrail.Page

set_option autoImplicit false

/-! # Endpoints

Where the explorer is asked, and what the request line then says. An endpoint is the path and
the query of a web address; the host decides only whether the address can be used at all: its
scheme must be `http` or `https`, and the host must not be empty or malformed. A host with
letters beyond ASCII is taken as it is.

The request line is the path, the address's own query unless it is empty, and the eight
parameters of a page request as a form: letters, digits and the marks `*-._` stand for
themselves, a blank becomes a plus sign, and every other byte is written as a percent sign and
two digits. So no value can be mistaken for the next parameter.
-/

namespace DepositTrail

/-- The path and the query of a web address. -/
structure Endpoint where
  path : Text
  query : Text
deriving Repr, DecidableEq

namespace Endpoint

/-! ## Percent signs -/

def percentByte (b : UInt8) : Text :=
  ['%', (Hex.digit (b.toNat / 16)).toUpper, (Hex.digit (b.toNat % 16)).toUpper]

/-- A character that may not stand as it is, and every one beyond ASCII, byte by byte. -/
def percentChar (stays : Char → Bool) (c : Char) : Text :=
  if c.toNat < 0x80 && stays c then [c] else (String.utf8EncodeChar c).flatMap percentByte

def staysInPath (c : Char) : Bool :=
  0x20 < c.toNat && c.toNat < 0x7f &&
    !(['"', '#', '<', '>', '?', '\x60', '\x7b', '\x7d'].contains c)

def staysInQuery (c : Char) : Bool :=
  0x20 < c.toNat && c.toNat < 0x7f && !(['"', '#', '<', '>', '\''].contains c)

/-- The bytes of a text in which percent signs with two digits stand for bytes. -/
def percentDecode : Text → List UInt8
  | '%' :: a :: b :: t =>
      match Text.hexValue? a, Text.hexValue? b with
      | some x, some y => UInt8.ofNat (16 * x + y) :: percentDecode t
      | _, _ => 0x25 :: percentDecode (a :: b :: t)
  | c :: t => String.utf8EncodeChar c ++ percentDecode t
  | [] => []

/-! ## Hosts -/

def splitAt (isMark : Char → Bool) : Text → List Text
  | [] => [[]]
  | c :: t =>
      if isMark c then [] :: splitAt isMark t
      else
        match splitAt isMark t with
        | [] => [[c]]
        | part :: parts => (c :: part) :: parts

/-- A part of a numeric host: decimal, octal after a zero, hexadecimal after `0x`. -/
def hostNumber? (t : Text) : Option Nat :=
  let (base, digits) : Nat × Text := match t with
    | '0' :: x :: r => if x = 'x' ∨ x = 'X' then (16, r) else (8, x :: r)
    | r => (10, r)
  if t = [] then none
  else
    match digits.mapM (Text.digitValue? base) with
    | none => none
    | some ds => some (ds.foldl (fun n d => base * n + d) 0)

def isNumeric (host : Text) : Bool :=
  let parts := (splitAt (· = '.') host).reverse
  let last := match parts with
    | [] :: r :: _ => r
    | r :: _ => r
    | [] => []
  last ≠ [] && (last.all Text.isDigit || (hostNumber? last).isSome)

def isIpv4 (host : Text) : Bool :=
  let parts := splitAt (· = '.') host
  let parts := if parts.getLast? = some [] then parts.dropLast else parts
  match parts.mapM hostNumber? with
  | none => false
  | some numbers =>
      numbers.length ≤ 4 && numbers.dropLast.all (· < 256) &&
        (numbers.getLast?.getD 0) < Nat.pow 256 (5 - numbers.length)

/-- Whether a text is four decimal numbers below 256 with points between them. -/
def isDotted (t : Text) : Bool :=
  let parts := splitAt (· = '.') t
  parts.length = 4 && parts.all fun p =>
    p ≠ [] && p.all Text.isDigit && p.length ≤ 3 && (p.length = 1 || p.head? ≠ some '0') &&
      Text.valueOf p < 256

/-- How many groups a row of hexadecimal groups between colons has, if it is well-formed; the
last may stand for two as a dotted number where that is allowed. -/
def groupCount? (dotted : Bool) : List Text → Option Nat
  | [] => some 0
  | [g] =>
      if dotted && isDotted g then some 2
      else if g ≠ [] && g.length ≤ 4 && g.all (fun c => (Text.hexValue? c).isSome) then some 1
      else none
  | g :: rest =>
      if g ≠ [] && g.length ≤ 4 && g.all (fun c => (Text.hexValue? c).isSome) then
        (groupCount? dotted rest).map (· + 1)
      else none

/-- The places of a double colon in a text. -/
def doubleColons : Text → List (Text × Text)
  | [] => []
  | c :: t =>
      let later := (doubleColons t).map fun s => (c :: s.1, s.2)
      match c, t with
      | ':', ':' :: r => ([], r) :: later
      | _, _ => later

/-- Whether the text between brackets is a host of eight groups, or of fewer with one double
colon for the missing ones. -/
def isIpv6 (t : Text) : Bool :=
  let groups (s : Text) : List Text := if s = [] then [] else splitAt (· = ':') s
  match doubleColons t with
  | [] => groupCount? true (groups t) = some 8
  | [(front, back)] =>
      match groupCount? false (groups front), groupCount? true (groups back) with
      | some a, some b => a + b < 8
      | _, _ => false
  | _ => false

def isForbidden (c : Char) : Bool :=
  c.toNat ≤ 0x20 || c.toNat = 0x7f ||
    ['#', '/', ':', '<', '>', '?', '@', '[', '\\', ']', '^', '|', '%'].contains c

def isHost (host : Text) : Bool :=
  match host with
  | '[' :: t => t.getLast? = some ']' && isIpv6 t.dropLast
  | _ =>
      let name := Text.decodeLossy (percentDecode host)
      name ≠ [] && !(name.any isForbidden) && (!(isNumeric name) || isIpv4 name)

def isPort (t : Text) : Bool := t.all Text.isDigit && Text.valueOf t < 65536

/-- The host and the port of a text; a colon between brackets belongs to the host. -/
def splitPort (inBrackets : Bool) : Text → Text × Text
  | [] => ([], [])
  | c :: t =>
      if c = ':' ∧ ¬ inBrackets then ([], t)
      else
        let r := splitPort (if c = '[' then true else if c = ']' then false else inBrackets) t
        (c :: r.1, r.2)

def afterUser (t : Text) : Text := (t.reverse.takeWhile (· ≠ '@')).reverse

/-- Whether what stands between the scheme and the path leads to a host. -/
def isAuthority (t : Text) : Bool :=
  let (host, port) := splitPort false (afterUser t)
  isHost host && isPort port

/-! ## Paths -/

/-- Whether a part of a path stands for the part before it, with points or with their codes. -/
def isDots (count : Nat) (part : Text) : Bool :=
  Text.decodeLossy (percentDecode part) = List.replicate count '.' &&
    (part.filter (· = '%')).length + (part.filter (· = '.')).length = count

/-- Walk the parts of a path; a single point stays in place and a double one goes back. -/
def walk : List Text → List Text → List Text
  | done, [] => done
  | done, [part] =>
      if isDots 2 part then done.dropLast ++ [[]]
      else if isDots 1 part then done ++ [[]]
      else done ++ [part.flatMap (percentChar staysInPath)]
  | done, part :: parts =>
      if isDots 2 part then walk done.dropLast parts
      else if isDots 1 part then walk done parts
      else walk (done ++ [part.flatMap (percentChar staysInPath)]) parts

def isSlash (c : Char) : Bool := c = '/' || c = '\\'

def cleanPath (t : Text) : Text :=
  let parts := match t with
    | [] => [[]]
    | c :: r => splitAt isSlash (if isSlash c then r else c :: r)
  (walk [] parts).flatMap fun part => '/' :: part

/-! ## Web addresses -/

/-- What follows the scheme of a web address, if the scheme is one that can be used. -/
def afterScheme? (t : Text) : Option Text :=
  let scheme := t.takeWhile (· ≠ ':')
  match t.dropWhile (· ≠ ':') with
  | _ :: rest =>
      if scheme.map Char.toLower = "http".toList ∨ scheme.map Char.toLower = "https".toList then
        some rest
      else none
  | [] => none

/-- Read a web address; there is none if it cannot be used. -/
def read? (url : Text) : Option Endpoint := do
  let isEdge (c : Char) : Bool := c.toNat ≤ 0x20
  let trimmed := ((url.dropWhile isEdge).reverse.dropWhile isEdge).reverse
  let t := trimmed.filter fun c => c ≠ '\x09' && c ≠ '\x0a' && c ≠ '\x0d'
  let rest ← afterScheme? t
  let rest := rest.dropWhile isSlash
  let ends (c : Char) : Bool := isSlash c || c = '?' || c = '#'
  if isAuthority (rest.takeWhile fun c => !(ends c)) then
    let rest := (rest.dropWhile fun c => !(ends c)).takeWhile (· ≠ '#')
    let path := rest.takeWhile (· ≠ '?')
    let query := (rest.dropWhile (· ≠ '?')).drop 1
    some ⟨cleanPath path, query.flatMap (percentChar staysInQuery)⟩
  else none

/-! ## Forms -/

def staysInForm (b : UInt8) : Bool :=
  let c := Char.ofNat b.toNat
  b < 0x80 && (c.isAlphanum || ['*', '-', '.', '_'].contains c)

def formByte (b : UInt8) : Text :=
  if staysInForm b then [Char.ofNat b.toNat] else if b = 0x20 then ['+'] else percentByte b

def formText (t : Text) : Text := t.utf8.flatMap formByte

def parameters (r : PageRequest) : List (Text × Text) :=
  [("module".toList, "logs".toList), ("action".toList, "getLogs".toList),
    ("address".toList, r.address), ("fromBlock".toList, Text.decimal r.fromBlock),
    ("toBlock".toList, Text.decimal r.toBlock), ("page".toList, Text.decimal r.page),
    ("offset".toList, Text.decimal r.offset), ("apikey".toList, r.apiKey.reveal)]

def formPair (p : Text × Text) : Text := formText p.1 ++ '=' :: formText p.2

def form (ps : List (Text × Text)) : Text := ['&'].intercalate (ps.map formPair)

/-- The query of a page request: the endpoint's own, and then the parameters. -/
def queryOf (e : Endpoint) (r : PageRequest) : Text :=
  (if e.query = [] then [] else e.query ++ ['&']) ++ form (parameters r)

/-- The target of a page request: path and query. -/
def target (e : Endpoint) (r : PageRequest) : Text := e.path ++ '?' :: e.queryOf r

end Endpoint

end DepositTrail
