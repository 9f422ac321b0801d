import ChainLens.Failure

/-!
What is said about a failure, from the outermost statement inwards. Trouble with a connection comes
with a hint, chosen by words in the text of the failure.
-/

namespace ChainLens.CommandLine

def occursIn (words : List Char) : List Char → Bool
  | [] => words.isEmpty
  | c :: rest => words.isPrefixOf (c :: rest) || occursIn words rest

def mentions (text words : String) : Bool := occursIn words.toList text.toList

def hint? (text : String) : Option String :=
  if mentions text "dns error" || mentions text "Could not resolve host" then
    some "hint: hostname resolution failed; verify the backend hostname and your DNS/network"
  else if mentions text "tls" || mentions text "certificate" then
    some "hint: TLS handshake failed; verify certificate trust and that the endpoint uses HTTPS"
  else if mentions text "401" || mentions text "403" then
    some "hint: authentication failed; verify --rpc-user/--rpc-pass or --rpc-cookie-file"
  else if mentions text "404" then
    some "hint: endpoint path is invalid; the node needs -rest=1 and the URL must end in /rest"
  else if mentions text "error sending request for url" then
    some "hint: request could not be sent; verify the URL and that the backend is running"
  else none

def connectionText (url text : String) : String :=
  let lines :=
    [s!"could not query backend `{url}`", s!"backend error: {text}"] ++ (hint? text).toList
  String.intercalate "\n" lines

def chain (failure : Failure) : List String :=
  match failure with
  | .unavailable outage => [failure.message, outage.message]
  | _ => [failure.message]

def explain (url : String) (failure : Failure) : List String :=
  match failure with
  | .unavailable (.undelivered _) | .unavailable (.status _ _) =>
    ["while contacting the backend", connectionText url failure.message]
  | _ => chain failure

def explainSetup (refusal : Refusal) : List String :=
  "configure backend" :: chain (.invalid refusal)

end ChainLens.CommandLine
