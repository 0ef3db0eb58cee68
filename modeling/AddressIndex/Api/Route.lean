import AddressIndex.Api.Basic
import AddressIndex.Api.Manual
import AddressIndex.Http.Path
import AddressIndex.Text.Numeral

/-!
Routes: what the paths of the interface name, and how requests for them are answered.
-/

namespace AddressIndex.Api

open Http

/-! ### Numbers in paths -/

/-- The blanks around a number in a path. -/
def isPathBlank (c : Char) : Bool := Text.isBlank c && !(28 ≤ c.toNat && c.toNat ≤ 31)

/-- The longest number that is read, in digits. -/
def numberLength : Nat := 4300

/-- A numeral behind its first zeros, between which underscores may stand; `previous` is the
character in front. -/
def afterZeros? (previous : Char) : List Char → Option (List Char)
  | [] => some [previous]
  | c :: rest =>
    if c = '0' || c = '_' then afterZeros? c rest
    else if c = '.' then some (previous :: c :: rest)
    else if Text.isDigit c || c = '-' then some (c :: rest)
    else none

/-- A numeral without zeros in front. -/
def withoutZeros? : List Char → Option (List Char)
  | [] => none
  | c :: rest =>
    if c = '0' then afterZeros? c rest
    else if Text.isDigit c then some (c :: rest)
    else none

/-- A numeral with its sign, but without a plus and without zeros in front. -/
def plainNumeral? : List Char → Option (List Char)
  | '+' :: '-' :: _ => none
  | '+' :: rest => withoutZeros? rest
  | '-' :: rest => (withoutZeros? rest).map ('-' :: ·)
  | cs => withoutZeros? cs

/-- A numeral without the zeros behind a point at its end. -/
def withoutFraction (cs : List Char) : List Char :=
  let (whole, rest) := cs.span (· ≠ '.')
  match rest with
  | _ :: '0' :: zeros => if zeros.all (· = '0') then whole else cs
  | _ => cs

/-- A numeral without the underscores in it, each of which stands alone. -/
def withoutGaps? (cs : List Char) : Option (List Char) :=
  let parts := Text.split '_' cs
  if parts.all (!·.isEmpty) then some parts.flatten else none

/-- The integer that digits denote, if no zero is in front of others. -/
def canonicalInteger? (cs : List Char) : Option Int :=
  let (negative, digits) := match cs with
    | '-' :: digits => (true, digits)
    | digits => (false, digits)
  if digits.isEmpty || !digits.all Text.isDigit || numberLength < digits.length then none
  else if digits.head? = some '0' && digits ≠ ['0'] then none
  else some (if negative then -(Text.digitsValue digits : Int) else Text.digitsValue digits)

/-- The integer that a path names: digits with an optional sign, and perhaps a point and zeros. -/
def pathInteger? (cs : List Char) : Option Int := do
  let cs ← plainNumeral? (Text.strip isPathBlank cs)
  let cs ← withoutGaps? (withoutFraction cs)
  canonicalInteger? cs

/-! ### Routes -/

inductive Route where
  | analyze
  | job (id : List Char)
  | health
  /-- The description of the interface. -/
  | description
  /-- A page that shows the description. -/
  | page
deriving DecidableEq, Repr

/-- The paths with nothing to fill in. -/
def fixedRoutes : List (String × Route) := [
  ("/openapi.json", .description), ("/docs", .page), ("/docs/oauth2-redirect", .page),
  ("/redoc", .page), ("/analyze", .analyze), ("/health", .health)]

/-- A path without one line break at its end. -/
def withoutBreak (path : List Char) : List Char :=
  if path.getLast? = some '\n' then path.dropLast else path

namespace Route

/-- The route that a path names. -/
def ofPath? (path : List Char) : Option Route :=
  match fixedRoutes.lookup (String.ofList (withoutBreak path)) with
  | some route => some route
  | none =>
    match Text.after? "/jobs/".toList path with
    | some id => if id.isEmpty || id.contains '/' then none else some (.job id)
    | none => none

def methods : Route → List String
  | .analyze => ["POST"]
  | .job _ | .health => ["GET"]
  | .description | .page => ["GET", "HEAD"]

/-- Answers a request for a route by one of its methods. -/
def serve (route : Route) (body : Option String) : Program Response :=
  match route with
  | .analyze => Api.analyze body
  | .health => pure ⟨200, .json (.obj [("status", .str "ok")])⟩
  | .job id =>
    match pathInteger? id with
    | some id => showJob id
    | none => pure .malformed
  | .description => pure ⟨200, .json Manual.description⟩
  | .page => pure ⟨200, .text ""⟩

end Route

/-- Answers a request for a path. -/
def answer (method : String) (path : List Char) (body : Option String) : Program Response := do
  match Route.ofPath? path with
  | none => pure ((Response.detail 404 "Not Found").forMethod method)
  | some route =>
    if route.methods.contains method then
      let response ← route.serve body
      pure (response.forMethod method)
    else pure ((Response.detail 405 "Method Not Allowed").forMethod method)

/-! ### Redirects -/

/-- The path with slashes at its end instead of without, or the other way round. -/
def otherPath (path : List Char) : List Char :=
  if path.getLast? = some '/' then withoutSlashes path else path ++ ['/']

/-- The path that a request is sent on to: one that names no route may name one with slashes at its
end or without. -/
def redirect? (path : List Char) : Option (List Char) :=
  let other := otherPath path
  if path = ['/'] || (Route.ofPath? path).isSome || (Route.ofPath? other).isNone then none
  else some other

end AddressIndex.Api
