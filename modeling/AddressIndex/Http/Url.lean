import AddressIndex.Fault.Kind
import AddressIndex.Http.Escape
import AddressIndex.Http.Host
import AddressIndex.Http.Path
import AddressIndex.Text.Writable

/-!
URLs. `Url.read` takes a URL apart and checks its parts. A URL that names no scheme or no host is
relative: it names a place only on a server that is known already.
-/

namespace AddressIndex.Http

inductive UrlFault where
  | tooLong
  /-- A part is too long once its characters are escaped. -/
  | partTooLong (part : String)
  /-- A character of ASCII that does not print, and its place. -/
  | unprintable (c : Char) (position : Nat)
  | badHost (fault : HostFault) (host : String)
  | badNumber (text : String)
  /-- Two slashes begin the path where no host can be. -/
  | doubleSlash
  /-- A colon begins the path where no scheme can be. -/
  | leadingColon
  /-- A server's address has characters beyond ASCII. -/
  | unencodable (server : String)
deriving DecidableEq, Repr

def UrlFault.kind : UrlFault → FaultKind
  | .unencodable _ => .unencodable
  | _ => .badUrl

def UrlFault.message : UrlFault → String
  | .tooLong => "URL too long"
  | .partTooLong part => "URL component " ++ Text.quote part ++ " too long"
  | .unprintable c position =>
    "Invalid non-printable ASCII character in URL, " ++ Text.quote c.toString ++ " at position " ++
      toString position ++ "."
  | .badHost fault host => "Invalid " ++ fault.word ++ ": " ++ Text.quote host
  | .badNumber text => "Invalid port: " ++ Text.quote text
  | .doubleSlash => "Relative URLs cannot have a path starting with '//'"
  | .leadingColon => "Relative URLs cannot have a path starting with ':'"
  | .unencodable server => Text.Encoding.ascii.refusalMessage server

/-- A URL. What follows a number sign is no part of it. -/
structure Url where
  scheme : List Char
  user : List Char
  /-- The host in the form in which it is sent. -/
  host : List Char
  /-- The number behind the host, unless the scheme implies it. -/
  number : Option Int
  path : List Char
  query : Option (List Char)
deriving DecidableEq, Repr

namespace Url

/-! ### Characters -/

/-- The characters that a query has without escapes. -/
def isQueryChar (c : Char) : Bool := '!' ≤ c && c ≤ '~' && c ∉ ['"', '#', '<', '>']

/-- The characters that a path has without escapes. -/
def isPathChar (c : Char) : Bool := isQueryChar c && c ∉ ['?', '\x60', '\x7b', '\x7d']

def isSchemeChar (c : Char) : Bool := c.isAlphanum || ['+', '.', '-'].contains c

/-! ### Parts -/

/-- The scheme of a URL, which may be blank in front of a colon, and what follows it. -/
def splitScheme (cs : List Char) : List Char × List Char :=
  match cs.span isSchemeChar with
  | ([], ':' :: rest) => ([], rest)
  | (c :: name, ':' :: rest) => if c.isAlpha then (c :: name, rest) else ([], cs)
  | _ => ([], cs)

/-- What names the server, between two slashes and the path, and what follows it. -/
def splitServer : List Char → List Char × List Char
  | '/' :: '/' :: rest => rest.span fun c => c ≠ '/' && c ≠ '?' && c ≠ '#'
  | cs => ([], cs)

/-- The host that a server's name begins with, and what follows it. A host in brackets may have
colons. -/
def splitHost (cs : List Char) : List Char × List Char :=
  match cs, Text.cutLast? ']' cs with
  | '[' :: _, some (inside, rest) => (inside ++ [']'], rest)
  | _, _ => cs.span (· ≠ ':')

/-- The numbers that schemes imply. -/
def impliedNumbers : List (String × Int) :=
  [("ftp", 21), ("http", 80), ("https", 443), ("ws", 80), ("wss", 443)]

/-- The number behind a host. -/
def readNumber (scheme cs : List Char) : Except UrlFault (Option Int) :=
  let cs := match cs with
    | ':' :: rest => rest
    | _ => cs
  let text := Text.ofRaw cs
  if cs.isEmpty then pure none
  else match Text.readInt text with
    | .ok n => pure (if impliedNumbers.lookup (String.ofList scheme) = some n then none else some n)
    | .error _ => throw (.badNumber text)

/-- The longest URL, and the longest part of one. -/
def greatestLength : Nat := 65536

/-- The place of the first character of ASCII that does not print. -/
def unprintable? (cs : List Char) : Option Nat := cs.findIdx? fun c => c.toNat < 32 || c.toNat = 127

/-- Whether a URL names a scheme or a server. -/
def isRooted (url : Url) : Bool :=
  !url.scheme.isEmpty || !url.user.isEmpty || !url.host.isEmpty || url.number.isSome

/-- The path in the form in which it is sent. -/
def settlePath (url : Url) : Except UrlFault Url :=
  let settled (path : List Char) : Url := { url with path := escape isPathChar path }
  if url.isRooted then pure (settled (withoutDots url.path))
  else match url.path with
    | '/' :: '/' :: _ => throw .doubleSlash
    | ':' :: _ => throw .leadingColon
    | path => pure (settled path)

/-- Takes a URL apart. -/
def read (text : String) : Except UrlFault Url := do
  let cs := Text.raw text
  if greatestLength < cs.length then throw .tooLong
  if let some i := unprintable? cs then throw (.unprintable (cs.getD i ' ') i)
  let (scheme, rest) := splitScheme cs
  let (server, rest) := splitServer rest
  let (path, rest) := rest.span fun c => c ≠ '?' && c ≠ '#'
  let query := match rest with
    | '?' :: rest => some (escape isQueryChar (rest.takeWhile (· ≠ '#')))
    | _ => none
  let (user, server) := (Text.cutLast? '@' server).getD ([], server)
  let (host, rest) := splitHost server
  let host ← (sentHost host).mapError (.badHost · (Text.ofRaw host))
  let number ← readNumber scheme rest
  settlePath { scheme, user, host, number, path, query }

/-! ### Places -/

def isAbsolute (url : Url) : Bool := !url.scheme.isEmpty && !url.host.isEmpty

/-- The host and its number, as a request names them. -/
def server (url : Url) : List Char :=
  url.host ++ ((url.number.map fun n => ':' :: (toString n).toList).getD [])

/-- Checks that a server can be named in a request. The name of a zone may have any characters, but
only those of ASCII can be sent. -/
def checkServer (url : Url) : Except UrlFault Unit :=
  let server := Text.ofRaw url.server
  if Text.Encoding.ascii.writes server then pure () else throw (.unencodable server)

/-- The path from a server's root, and the query. -/
def ofRoot (url : Url) : Except UrlFault (List Char × Option (List Char)) :=
  let path := '/' :: withoutRoot url.path
  if greatestLength < path.length then throw (.partTooLong "path")
  else if greatestLength < (url.query.getD []).length then throw (.partTooLong "query")
  else pure (path, url.query)

/-- A path with a query behind it. -/
def target (path : List Char) (query : Option (List Char)) : List Char :=
  match query with
  | some query => path ++ '?' :: query
  | none => path

end Url

end AddressIndex.Http
