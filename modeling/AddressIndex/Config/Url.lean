import AddressIndex.Fault.Kind
import AddressIndex.Text.Cut

/-!
URLs as log lines show them: without keys and credentials.
-/

namespace AddressIndex.Url

inductive RedactFault where
  /-- The mark of credentials is missing behind the scheme. -/
  | noHost
deriving DecidableEq, Repr

def RedactFault.kind : RedactFault → FaultKind
  | .noHost => .missingIndex

def RedactFault.message : RedactFault → String
  | .noHost => "list index out of range"

/-- A URL without what follows the first key. -/
def withoutKey (url : List Char) : List Char :=
  match Text.cut? "api-key=".toList url with
  | some (before, _) => before ++ "api-key=***".toList
  | none => url

/-- A URL without the credentials behind its scheme. -/
def withoutCredentials (url : List Char) : Except RedactFault (List Char) :=
  if !url.contains '@' then pure url
  else match Text.cut? "://".toList url with
    | none => pure url
    | some (scheme, rest) =>
      match Text.cut? ['@'] rest with
      | some (_, host) => pure (scheme ++ "://***@".toList ++ host)
      | none => throw .noHost

/-- A URL as log lines show it. -/
def redact (url : String) : Except RedactFault String := do
  let shown ← withoutCredentials (withoutKey url.toList)
  pure (String.ofList shown)

end AddressIndex.Url
