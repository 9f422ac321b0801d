import ChainLens.Bytes.Base64
import ChainLens.Failure
import ChainLens.Web.Exchange

/-!
Credentials. Those for JSON-RPC are none, a user with a password, or those of a file that is read
again for every call; the file's first line holds user and password with a colon between them. An
address may hold credentials of its own, which are not sent as a part of it.
-/

namespace ChainLens.Web

structure Credentials where
  user : String
  password : String
  deriving DecidableEq

inductive Authority
  | anonymous
  | basic (credentials : Credentials)
  | cookie (path : String)
  deriving DecidableEq

namespace Credentials

def header (c : Credentials) : String :=
  "Basic " ++ Base64.encode (Utf8.encode (c.user ++ ":" ++ c.password))

def firstLine (text : List Char) : List Char := text.takeWhile (· != '\n')

/-- The two parts of a line around its first colon, neither of them empty. -/
def ofLine? (line : List Char) : Option Credentials :=
  let user := line.takeWhile (· != ':')
  match line.dropWhile (· != ':') with
  | _ :: password =>
    if user.isEmpty || password.isEmpty then none
    else some { user := String.ofList user, password := String.ofList password }
  | [] => none

def ofContent? (content : String) : Option Credentials :=
  ofLine? (Text.trimChars (firstLine content.toList))

def ofFile (path : String) : CookieFile → Except Refusal Credentials
  | none => .error (.unreadableCookie path "No such file or directory (os error 2)")
  | some bytes =>
    match Utf8.decode? bytes with
    | none => .error (.unreadableCookie path "stream did not contain valid UTF-8")
    | some content =>
      match ofContent? content with
      | some c => .ok c
      | none => .error (.badCookie path)

/-- The credentials before the host of an address, if the name there reads as text. A password that
does not is none. -/
def ofUrl? (u : Url) : Option Credentials := do
  let (name, secret) ← u.user
  let plain (text : String) : Option String := Utf8.decode? (Host.percentDecode (Utf8.encode text))
  let user ← plain name
  let password := secret.bind plain
  guard (!user.isEmpty || password.isSome)
  return { user, password := password.getD "" }

end Credentials

/-- The address that a request goes out to: credentials are not a part of it where they can be sent
otherwise. -/
def Url.outgoing (u : Url) : Url :=
  if (Credentials.ofUrl? u).isSome then { u with user := none } else u

/-- The first Authorization header for an address: that of its own credentials if it has any, else
that of the given ones. Where both are there the given ones go out too, in a second header after
this one. -/
def authorization? (u : Url) (given : Option Credentials) : Option String :=
  ((Credentials.ofUrl? u).or given).map Credentials.header

namespace Authority

/-- User and password given together win over a file; one without the other is refused. -/
def ofOptions : Option String → Option String → Option String → Except Refusal Authority
  | some user, some password, _ => .ok (.basic { user, password })
  | some _, none, _ | none, some _, _ => .error .halfCredentials
  | none, none, some path => .ok (.cookie path)
  | none, none, none => .ok .anonymous

def credentials (file : CookieFile) : Authority → Except Refusal (Option Credentials)
  | .anonymous => .ok none
  | .basic c => .ok (some c)
  | .cookie path => (Credentials.ofFile path file).map some

end Authority
end ChainLens.Web
