import AddressIndex.Api.Route
import AddressIndex.Http.Url

/-!
Visits: requests as they come from outside, with a URL. A relative URL names a place on this server.
Escapes are decoded twice, once where the request is sent and once where it is received; redirects
are followed, up to a limit.
-/

namespace AddressIndex.Api

open Http

/-- Why a visit has no response. -/
inductive VisitFault where
  | url (fault : UrlFault)
  /-- A scheme that is not served. -/
  | unknownScheme (name : String)
  /-- A redirect to a URL that cannot be read. -/
  | redirect (fault : UrlFault)
  | tooManyRedirects
deriving DecidableEq, Repr

namespace VisitFault

def kind : VisitFault → FaultKind
  | .url fault => fault.kind
  | .unknownScheme _ => .missingKey
  | .redirect _ => .badRedirect
  | .tooManyRedirects => .redirects

def message : VisitFault → String
  | .url fault => fault.message
  | .unknownScheme name => Text.quote name
  | .redirect fault => "Invalid URL in location header: " ++ fault.message ++ "."
  | .tooManyRedirects => "Exceeded maximum allowed redirects."

end VisitFault

/-! ### Places -/

/-- A place that a request is sent to: the server with its scheme, the path there and the query. -/
structure Place where
  server : List Char
  path : List Char
  query : List Char
deriving DecidableEq, Repr

namespace Place

/-- The schemes that are served. -/
def servedSchemes : List String := ["http", "https", "ws", "wss"]

/-- This server. -/
def home : List Char := "http://testserver".toList

/-- A path in the form in which it is sent. -/
def sentPath (path : List Char) : List Char := escape Url.isPathChar (withoutDots path)

/-- The place that a URL names. -/
def ofUrl (url : Url) : Except VisitFault Place := do
  if url.isAbsolute then
    url.checkServer.mapError .url
    let scheme := url.scheme.map Char.toLower
    if !servedSchemes.contains (String.ofList scheme) then
      throw (.unknownScheme (String.ofList scheme))
    pure ⟨scheme ++ "://".toList ++ url.server, url.path, url.query.getD []⟩
  else
    let (path, query) ← url.ofRoot.mapError .url
    pure ⟨home, sentPath path, query.getD []⟩

/-- The path as it is received. -/
def received (place : Place) : List Char :=
  unescape (unescape (if place.path.isEmpty then ['/'] else place.path))

/-! ### Redirects -/

/-- The characters that a redirect leaves as they are. -/
def isRedirectChar (c : Char) : Bool := isUnreserved c || ":/%#?=@[]!$&'()*+,;".contains c

/-- The URL of a redirect to another path on the server of a place. All of the path but slashes is
escaped that can be. -/
def redirectUrl (place : Place) (path : List Char) : List Char :=
  let path := path.flatMap (escapeUnless fun c => isUnreserved c || c = '/')
  let query := if place.query.isEmpty then [] else '?' :: place.query
  (place.server ++ path ++ query).flatMap (escapeUnless isRedirectChar)

/-- The place that a redirect to another path leads to. -/
def redirected (place : Place) (path : List Char) : Except VisitFault Place := do
  let url ← (Url.read (Text.ofRaw (place.redirectUrl path))).mapError .redirect
  ofUrl url

/-- The most redirects that are followed. -/
def redirectLimit : Nat := 20

/-- The path where redirects end, `left` of which are followed at most. -/
def settled (left : Nat) (place : Place) : Except VisitFault (List Char) :=
  let path := place.received
  match redirect? path, left with
  | none, _ => pure path
  | some _, 0 => throw .tooManyRedirects
  | some other, left + 1 => do settled left (← place.redirected other)

end Place

/-- The path that a request comes to. -/
def destination (url : String) : Except VisitFault (List Char) := do
  let url ← (Url.read url).mapError .url
  Place.settled Place.redirectLimit (← Place.ofUrl url)

/-! ### Visits -/

/-- Answers a request. -/
def visit (request : Request) : Program (Except VisitFault Response) :=
  match destination request.url with
  | .error fault => pure (.error fault)
  | .ok path => do
    let response ← answer (Text.capitals request.method) path request.body
    pure (.ok response)

end AddressIndex.Api
