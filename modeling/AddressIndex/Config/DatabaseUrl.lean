import AddressIndex.Fault.Kind
import AddressIndex.Http.Escape
import AddressIndex.Text.Case
import AddressIndex.Text.Cut
import AddressIndex.Text.Numeral
import AddressIndex.Text.Word

/-!
URLs of databases. A URL names a driver, and then perhaps a server, a file and options. `read` takes
one apart, and `shown` is the text of one in messages.
-/

namespace AddressIndex

/-- A URL of a database. -/
structure DatabaseUrl where
  driver : List Char
  user : Option (List Char)
  password : Option (List Char)
  host : Option (List Char)
  number : Option Int
  file : Option (List Char)
  /-- The options in order, each with all its values. -/
  options : List (String × List String)
deriving DecidableEq, Repr

/-- The types of options whose texts are converted. -/
inductive OptionType where
  | flag | decimal | integer
deriving DecidableEq, Repr

inductive DatabaseFault where
  | unreadable
  | badNumber (error : Text.NumeralError)
  | unknownPlugin (name : String)
  /-- The driver's name has more than two parts. -/
  | manyParts
  | unknownDriver (name : String)
  /-- What is named for a driver is something else. -/
  | noDriver (found : String)
  /-- A driver that is known and not installed. -/
  | missingDriver (library : String)
  /-- A server is named. -/
  | server (url : String)
  | badFlag (text : String)
  | badOption (error : Text.NumeralError)
  /-- An option for one value has several. -/
  | repeatedOption (type : OptionType)
  /-- Options for the file, and no file. -/
  | noFile
deriving DecidableEq, Repr

namespace DatabaseFault

def kind : DatabaseFault → FaultKind
  | .unreadable | .server _ => .badArgument
  | .badNumber _ | .manyParts | .badFlag _ | .badOption _ => .badValue
  | .repeatedOption _ | .noFile => .wrongType
  | .unknownPlugin _ | .unknownDriver _ => .unknownModule
  | .noDriver _ => .missingAttribute
  | .missingDriver _ => .missingModule

/-- What a server's URL should have been. -/
def fileForms : String :=
  "\nValid SQLite URL forms are:\n sqlite:///:memory: (or, sqlite://)\n" ++
    " sqlite:///relative/path/to/file.db\n sqlite:////absolute/path/to/file.db"

def repeatedMessage : OptionType → String
  | .integer =>
    "int() argument must be a string, a bytes-like object or a real number, not 'tuple'"
  | _ => "float() argument must be a string or a real number, not 'tuple'"

def message : DatabaseFault → String
  | .unreadable => "Could not parse SQLAlchemy URL from given URL string"
  | .badNumber error | .badOption error => error.message
  | .unknownPlugin name => "Can't load plugin: sqlalchemy.plugins:" ++ name
  | .manyParts => "too many values to unpack (expected 2)"
  | .unknownDriver name => "Can't load plugin: sqlalchemy.dialects:" ++ name
  | .noDriver found => missingAttributeMessage found "dialect"
  | .missingDriver library => "No module named " ++ Text.quote library
  | .server url => "Invalid SQLite URL: " ++ url ++ fileForms
  | .badFlag text => "String is not true/false: " ++ Text.quote text
  | .repeatedOption type => repeatedMessage type
  | .noFile => "unsupported operand type(s) for +=: 'NoneType' and 'str'"

end DatabaseFault

namespace DatabaseUrl

/-! ### Reading -/

/-- The user and the password in front of a host, and what follows them. -/
def splitUser (cs : List Char) : (Option (List Char) × Option (List Char)) × List Char :=
  let (run, rest) := cs.span fun c => c ≠ ':' && c ≠ '/'
  let named : Option ((Option (List Char) × Option (List Char)) × List Char) :=
    match rest with
    | ':' :: rest => (Text.cut? ['@'] rest).map fun p => ((some run, some p.1), p.2)
    | _ => none
  match named, Text.cutLast? '@' run with
  | some named, _ => named
  | none, some (user, behind) => ((some user, none), behind ++ rest)
  | none, none => ((none, none), cs)

def isHostEnd (c : Char) : Bool := c = '/' || c = '?'

/-- A host, in brackets if it has colons, and what follows it. -/
def splitHost (cs : List Char) : Option (List Char) × List Char :=
  let (run, rest) := cs.span fun c => !isHostEnd c
  let bracketed := match run with
    | '[' :: inside => (Text.cutLast? ']' inside).filter fun p => !p.1.isEmpty
    | _ => none
  match bracketed with
  | some (host, behind) => (some host, behind ++ rest)
  | none =>
    let (host, behind) := run.span (· ≠ ':')
    (if host.isEmpty then none else some host, behind ++ rest)

/-- The number behind a host, and what follows it. -/
def splitNumber : List Char → Option (List Char) × List Char
  | ':' :: rest =>
    let (digits, rest) := rest.span fun c => !isHostEnd c
    (some digits, rest)
  | cs => (none, cs)

/-- The file, and what follows it. -/
def splitFile : List Char → Option (List Char) × List Char
  | '/' :: rest =>
    let (file, rest) := rest.span (· ≠ '?')
    (some file, rest)
  | cs => (none, cs)

/-- A text of a query: a plus sign is a space. -/
def queryText (cs : List Char) : String :=
  Text.ofRaw (Http.unescape (cs.map fun c => if c = '+' then ' ' else c))

/-- The option that a part of a query sets, if it has a value. -/
def option? (part : List Char) : Option (String × String) :=
  match Text.cut? ['='] part with
  | some (name, value) => if value.isEmpty then none else some (queryText name, queryText value)
  | none => none

/-- The options with one more value. -/
def addOption (options : List (String × List String)) (p : String × String) :
    List (String × List String) :=
  match options with
  | [] => [(p.1, [p.2])]
  | (name, values) :: rest =>
    if name = p.1 then (name, values ++ [p.2]) :: rest else (name, values) :: addOption rest p

/-- The options behind a question mark, on one line. -/
def readOptions : List Char → List (String × List String)
  | '?' :: rest =>
    ((Text.split '&' (rest.takeWhile (· ≠ '\n'))).filterMap option?).foldl addOption []
  | _ => []

/-- The number that digits behind a host denote. -/
def readNumber (digits : Option (List Char)) : Except DatabaseFault (Option Int) :=
  match digits with
  | none => pure none
  | some cs =>
    match Text.readInt (Text.ofRaw cs) with
    | .ok n => pure (some n)
    | .error error => throw (.badNumber error)

/-- Takes a URL apart. -/
def read (text : String) : Except DatabaseFault DatabaseUrl := do
  let (driver, rest) := (Text.raw text).span fun c => Text.isWordChar c || c = '+'
  match driver.isEmpty, Text.after? "://".toList rest with
  | false, some rest =>
    let ((user, password), rest) := splitUser rest
    let (host, rest) := splitHost rest
    let (digits, rest) := splitNumber rest
    let (file, rest) := splitFile rest
    let number ← readNumber digits
    pure {
      driver, user := user.map Http.unescape, password := password.map Http.unescape, host, number
      file := file.map Http.unescape, options := readOptions rest }
  | _, _ => throw .unreadable

/-! ### Writing -/

/-- A text of a URL with escapes for all that needs one but spaces. -/
def escaped (cs : List Char) : List Char :=
  cs.flatMap (Http.escapeUnless fun c => Http.isUnreserved c || c = ' ')

/-- A character that a name in a URL has without an escape. -/
def isNameChar (c : Char) : Bool := Http.isUnreserved c || c = ' ' || c = '+'

/-- The user and the password, which does not show. -/
def shownUser (url : DatabaseUrl) : List Char :=
  match url.user with
  | none => []
  | some user =>
    user.flatMap (Http.escapeUnless isNameChar) ++
      (if url.password.isSome then ":***".toList else []) ++ ['@']

/-- The file behind a slash. -/
def shownFile (url : DatabaseUrl) : List Char :=
  match url.file with
  | none => []
  | some file => '/' :: file.flatMap (Http.escapeUnless fun c => isNameChar c || c = '/')

/-- The host and its number. -/
def shownHost (url : DatabaseUrl) : List Char :=
  let host := url.host.getD []
  (if host.contains ':' then '[' :: host ++ [']'] else host) ++
    ((url.number.map fun n => ':' :: (toString n).toList).getD [])

/-- A text of a query: a space is a plus sign. -/
def shownOption (name value : String) : List Char :=
  let write (s : String) := (escaped (Text.raw s)).map fun c => if c = ' ' then '+' else c
  write name ++ '=' :: write value

/-- The options in the order of their names. -/
def shownOptions (url : DatabaseUrl) : List Char :=
  let sorted := url.options.mergeSort fun a b => !Text.before b.1 a.1
  let parts := sorted.flatMap fun (name, values) => values.map (shownOption name)
  if parts.isEmpty then [] else '?' :: Text.join '&' parts

/-- A URL in messages. -/
def shown (url : DatabaseUrl) : String :=
  Text.ofRaw (url.driver ++ "://".toList ++ url.shownUser ++ url.shownHost ++ url.shownFile ++
    url.shownOptions)

end DatabaseUrl

end AddressIndex
