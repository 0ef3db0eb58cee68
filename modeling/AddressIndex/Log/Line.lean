import AddressIndex.Json.Basic
import AddressIndex.Text.CodePoint

/-!
Log lines as the parts of the service write them: a level, an event and named facts. Addresses and
signatures appear in them shortened by `mask`.
-/

namespace AddressIndex.Log

inductive Level where
  | debug | info | warning | error | exception | critical
deriving DecidableEq, Repr

def Level.word : Level → String
  | .debug => "debug"
  | .info => "info"
  | .warning => "warning"
  | .error => "error"
  | .exception => "exception"
  | .critical => "critical"

/-- The level that a word names. -/
def Level.ofWord? (word : String) : Option Level :=
  [debug, info, warning, error, exception, critical].find? (·.word = word)

structure Line where
  level : Level
  event : String
  fields : Fields

/-- How many characters of a long address are kept at each end. -/
def kept : Nat := 5

/-- The ends of a long address, a short one as it is. -/
def mask (address : String) : String :=
  if Text.length address ≤ 2 * kept + 3 then address
  else Text.take kept address ++ "..." ++ Text.takeLast kept address

/-- The shortened form of an address that may be missing. -/
def mask? (address : Option String) : String := mask (address.getD "")

end AddressIndex.Log
