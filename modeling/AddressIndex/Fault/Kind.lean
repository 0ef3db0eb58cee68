import AddressIndex.Text.Quoted

/-!
The kinds of fault. A report of a fault shows the word for its kind and, in brackets, what it says.
-/

namespace AddressIndex

inductive FaultKind where
  | missingKey
  | wrongType
  | badValue
  | overflow
  | divisionByZero
  | nesting
  | unforeseen
  | transport
  | protocol
  | emptyPage
  | store
  | missingIndex
  | badArgument
  | unknownModule
  | missingModule
  | missingAttribute
  | badUrl
  | redirects
  | badRedirect
  | unencodable
deriving DecidableEq, Repr

/-- The word for a kind. -/
def FaultKind.word : FaultKind → String
  | .missingKey => "KeyError"
  | .wrongType => "TypeError"
  | .badValue => "ValueError"
  | .overflow => "OverflowError"
  | .divisionByZero => "ZeroDivisionError"
  | .nesting => "RecursionError"
  | .unforeseen => "RuntimeError"
  | .transport => "RpcTransportError"
  | .protocol => "RpcProtocolError"
  | .emptyPage => "EmptyPageError"
  | .store => "StoreError"
  | .missingIndex => "IndexError"
  | .badArgument => "ArgumentError"
  | .unknownModule => "NoSuchModuleError"
  | .missingModule => "ModuleNotFoundError"
  | .missingAttribute => "AttributeError"
  | .badUrl => "InvalidURL"
  | .redirects => "TooManyRedirects"
  | .badRedirect => "RemoteProtocolError"
  | .unencodable => "UnicodeEncodeError"

/-- A fault of this kind with its message, in one line. The message about a missing key is the key
in quotation marks already. -/
def FaultKind.report (kind : FaultKind) (message : String) : String :=
  kind.word ++ "(" ++ (if kind = .missingKey then message else Text.quote message) ++ ")"

/-- The message about what something lacks. -/
def missingAttributeMessage (found name : String) : String :=
  found ++ " has no attribute " ++ Text.quote name

end AddressIndex
