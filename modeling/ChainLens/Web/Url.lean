import ChainLens.Web.Host

/-!
Web addresses. Reading one drops surrounding blanks and embedded tabs and line breaks, puts scheme
and host into their normal form, removes dot segments and escapes what may not stand in a path.
`Url.sent` is the form that goes out with a request.
-/

namespace ChainLens.Web

structure Url where
  scheme : String
  /-- Name and password that stand before the host, escaped. -/
  user : Option (String × Option String)
  host : Option String
  /-- The number after the host, unless the scheme implies it. -/
  socket : Option Nat
  path : String
  query : Option String
  fragment : Option String
  deriving DecidableEq

namespace Url

open Text

def impliedSocket? (scheme : String) : Option Nat :=
  match scheme with
  | "http" | "ws" => some 80
  | "https" | "wss" => some 443
  | "ftp" => some 21
  | _ => none

def isIgnored (c : Char) : Bool := c == '\t' || c == '\n' || c == '\r'

/-- The text without controls and spaces at its ends and without ignored characters. -/
def clean (text : List Char) : List Char :=
  let isEdge (c : Char) : Bool := c.toNat ≤ 0x20
  let left := text.dropWhile isEdge
  ((left.reverse.dropWhile isEdge).reverse).filter fun c => !isIgnored c

def isSchemeChar (c : Char) : Bool := c.isAlphanum || c == '+' || c == '-' || c == '.'

def splitScheme? (text : List Char) : Option (String × List Char) :=
  match text.dropWhile isSchemeChar with
  | ':' :: rest =>
    let scheme := text.takeWhile isSchemeChar
    if scheme.head?.any Char.isAlpha then some (String.ofList (scheme.map Char.toLower), rest)
    else none
  | _ => none

def escapeByte (b : UInt8) : List Char :=
  '%' :: [Hex.digit (b.toNat / 16), Hex.digit (b.toNat % 16)].map Char.toUpper

/-- Escapes the bytes of characters beyond visible ASCII and of those in `extra`. -/
def escape (extra : List Char) (text : List Char) : List Char :=
  text.flatMap fun c =>
    if 0x20 ≤ c.toNat && c.toNat ≤ 0x7E && !extra.contains c then [c]
    else (Utf8.encode (String.singleton c)).flatMap escapeByte

def fragmentEscapes : List Char := [' ', '"', '<', '>', '\x60']

def pathEscapes : List Char := fragmentEscapes ++ ['#', '?', '\x7b', '\x7d']

def userEscapes : List Char := pathEscapes ++ ['/', ':', ';', '=', '@', '[', '\\', ']', '^', '|']

def queryEscapes (special : Bool) : List Char :=
  [' ', '"', '#', '<', '>'] ++ if special then ['\x27'] else []

def undot : List Char → List Char
  | '%' :: '2' :: 'e' :: rest | '%' :: '2' :: 'E' :: rest => '.' :: undot rest
  | c :: rest => c :: undot rest
  | [] => []

/-- Adds a segment to those before it, the last of which stands first: `..` removes that one and `.`
adds nothing, but either leaves an empty segment when it ends the path. -/
def addSegment (before : List (List Char)) (isLast : Bool) (segment : List Char) :
    List (List Char) :=
  let close (segments : List (List Char)) := if isLast then [] :: segments else segments
  match undot segment with
  | ['.', '.'] => close before.tail
  | ['.'] => close before
  | _ => escape pathEscapes segment :: before

/-- The segments of a path after those before it, the last one first. -/
def addSegments : List (List Char) → List (List Char) → List (List Char)
  | before, [] => before
  | before, [last] => addSegment before true last
  | before, segment :: others => addSegments (addSegment before false segment) others

/-- The segments, the last one first, as a path that begins with a slash. -/
def joinPath (segments : List (List Char)) : List Char := segments.reverse.flatMap fun s => '/' :: s

/-- A path below a host; in a server scheme a backslash is a slash. -/
def parsePath (special : Bool) (text : List Char) : List Char :=
  let text := if special then text.map fun c => if c == '\\' then '/' else c else text
  match text with
  | [] => if special then ['/'] else []
  | '/' :: rest => joinPath (addSegments [] (splitOn '/' rest))
  | rest => joinPath (addSegments [] (splitOn '/' rest))

/-- The host and what follows it, where colons between brackets belong to the host. -/
def splitHost : Bool → List Char → List Char × List Char
  | _, [] => ([], [])
  | inside, c :: rest =>
    if c == ':' && !inside then ([], c :: rest)
    else
      let inside := if c == '[' then true else if c == ']' then false else inside
      let (host, after) := splitHost inside rest
      (c :: host, after)

/-- The number after a host; none is written when it is absent or implied. -/
def parseSocket (implied : Option Nat) : List Char → Except UrlFault (Option Nat)
  | ':' :: digits =>
    if !digits.all Text.isDigit then .error .badSocket
    else
      let n := Text.ofDigits digits
      if 65535 < n then .error .badSocket
      else if digits.isEmpty || some n = implied then .ok none
      else .ok (some n)
  | _ => .ok none

def parseUser (text : List Char) : Option (String × Option String) :=
  let (name, secret) := cut (· == ':') text
  let escaped (part : List Char) := String.ofList (escape userEscapes part)
  let password := if secret.length ≤ 1 then none else some (escaped (secret.drop 1))
  if name.isEmpty && password.isNone then none else some (escaped name, password)

def withTail (special : Bool) (url : Url) (rest : List Char) : Url :=
  let (query, fragment) := cut (· == '#') rest
  { url with
    query := match query with
      | '?' :: q => some (String.ofList (escape (queryEscapes special) q))
      | _ => none
    fragment := match fragment with
      | '#' :: f => some (String.ofList (escape fragmentEscapes f))
      | _ => none }

def isPathEnd (c : Char) : Bool := c == '?' || c == '#'

def isSlash (c : Char) : Bool := c == '/' || c == '\\'

def parseAuthority (scheme : String) (special : Bool) (text : List Char) : Except UrlFault Url := do
  let (authority, rest) := cut (fun c => c == '/' || isPathEnd c || (special && c == '\\')) text
  let (user, place) := match splitLast? '@' authority with
    | some (user, place) => (parseUser user, place)
    | none => (none, authority)
  let (host, number) := splitHost false place
  if host.isEmpty &&
      (special || user.isSome || !number.isEmpty || (authority == ['@'] && !rest.isEmpty)) then
    throw .emptyHost
  let host ← if special then Host.parse host else Host.parseOpaque host
  let socket ← parseSocket (impliedSocket? scheme) number
  let (path, tail) := cut isPathEnd rest
  let path := String.ofList (parsePath special path)
  let url : Url :=
    { scheme, user, host := some host, socket, path, query := none, fragment := none }
  return withTail special url tail

/-- A letter with a colon or a bar after it, which names a drive rather than a host. -/
def isDrive : List Char → Bool
  | [letter, sign] => letter.isAlpha && (sign == ':' || sign == '|')
  | _ => false

def parseFile (text : List Char) : Except UrlFault Url := do
  let (path, tail) := cut isPathEnd text
  let (host, path) ← match path with
    | a :: b :: rest =>
      if isSlash a && isSlash b then
        let (host, below) := cut isSlash rest
        if isDrive host then pure ("", rest)
        else if host.isEmpty then pure ("", below)
        else pure (← Host.parse host, below)
      else pure ("", path)
    | _ => pure ("", path)
  let url := { scheme := "file", user := none, host := some host, socket := none,
               path := String.ofList (parsePath true path), query := none, fragment := none }
  return withTail true url tail

/-- Any other address: with a host after two slashes, else with a path alone. -/
def parseOther (scheme : String) : List Char → Except UrlFault Url
  | '/' :: '/' :: rest => parseAuthority scheme false rest
  | text =>
    let (path, tail) := cut isPathEnd text
    let path := if path.head? = some '/' then parsePath false path else escape [] path
    let path := String.ofList path
    let url : Url :=
      { scheme, user := none, host := none, socket := none, path, query := none, fragment := none }
    .ok (withTail false url tail)

def parse (text : String) : Except UrlFault Url :=
  match splitScheme? (clean text.toList) with
  | none => .error .relative
  | some (scheme, rest) =>
    if scheme = "file" then parseFile rest
    else if (impliedSocket? scheme).isSome then parseAuthority scheme true (rest.dropWhile isSlash)
    else parseOther scheme rest

def sent (u : Url) : String :=
  let user := match u.user with
    | some (name, some password) => s!"{name}:{password}@"
    | some (name, none) => name ++ "@"
    | none => ""
  let host := match u.host with
    | some h => "//" ++ user ++ h
    | none => ""
  let socket := match u.socket with
    | some n => s!":{n}"
    | none => ""
  let query := match u.query with
    | some q => "?" ++ q
    | none => ""
  let fragment := match u.fragment with
    | some f => "#" ++ f
    | none => ""
  u.scheme ++ ":" ++ host ++ socket ++ u.path ++ query ++ fragment

def isUnsendable (c : Char) : Bool := c == '"' || c == '\x60' || c == '\x7b' || c == '\x7d'

def longest : Nat := 65534

def isSendable (u : Url) : Bool :=
  !(u.host.getD "").toList.any isUnsendable && u.sent.utf8ByteSize ≤ longest

end Url
end ChainLens.Web
