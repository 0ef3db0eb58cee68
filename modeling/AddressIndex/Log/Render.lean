import AddressIndex.Config.Environment
import AddressIndex.Fault.Kind
import AddressIndex.Json.Printer
import AddressIndex.Log.Line

/-!
Log lines as they are printed: those of a level that is not too low, with the facts that hold for
all lines of a job, as one JSON object or in a form for the console.
-/

namespace AddressIndex.Log

/-- Why a line cannot be printed. -/
inductive RenderFault where
  /-- The level that is set is the name of a format. -/
  | formatForLevel (format : String)
  /-- The level that is set is the name of a table. -/
  | tableForLevel
  /-- A trace for the console is no text. -/
  | badTrace (kind : Json.Kind)
  /-- A field has a name that what takes the line, its `taker`, has for something else. -/
  | takenName (taker name : String)
deriving DecidableEq, Repr

namespace RenderFault

def kind : RenderFault → FaultKind
  | .formatForLevel _ => .missingKey
  | .tableForLevel | .badTrace _ | .takenName _ _ => .wrongType

def message : RenderFault → String
  | .formatForLevel format => Text.quote format
  | .tableForLevel => "unhashable type: 'dict'"
  | .badTrace kind => "can only concatenate str (not \"" ++ kind.word ++ "\") to str"
  | .takenName taker name => taker ++ "() got multiple values for argument " ++ Text.quote name

end RenderFault

/-! ### Setups -/

/-- The rank of a level. -/
def Level.rank : Level → Nat
  | .debug => 10
  | .info => 20
  | .warning => 30
  | .error | .exception => 40
  | .critical => 50

/-- The word for a level in a printed line. -/
def Level.shown : Level → String
  | .exception => Level.error.word
  | level => level.word

/-- The ranks that a setting can name. -/
def thresholds : List (String × Nat) :=
  [("NOTSET", 0), ("DEBUG", 10), ("INFO", 20), ("WARNING", 30), ("WARN", 30), ("ERROR", 40),
    ("CRITICAL", 50), ("FATAL", 50)]

/-- The format of lines that has a name among the levels. -/
def basicFormat : String := "%(levelname)s:%(name)s:%(message)s"

/-- The rank that a level's name sets; a name that is not known sets the default. -/
def thresholdOf (name : String) : Except RenderFault Nat :=
  let name := Text.capitals (Text.trim name)
  if name = "BASIC_FORMAT" then throw (.formatForLevel basicFormat)
  else if name = "_STYLES" then throw .tableForLevel
  else pure ((thresholds.lookup name).getD Level.info.rank)

inductive Form where
  | json | console
deriving DecidableEq, Repr

/-- Which lines are printed, and how. -/
structure Setup where
  threshold : Nat
  form : Form
deriving DecidableEq, Repr

/-- A text that is given and not empty. -/
def given? (s : Option String) : Option String :=
  match s with
  | some s => if s.isEmpty then none else some s
  | none => none

/-- The setup that a level's name and a form's name make. Variables give what is not given. -/
def Setup.of (level form : Option String) (env : Environment) : Except RenderFault Setup := do
  let level := ((given? level).or (given? (env.get? "LOG_LEVEL"))).getD "INFO"
  let form := ((given? form).or (given? (env.get? "LOG_FORMAT"))).getD "json"
  pure {
    threshold := ← thresholdOf level
    form := if Text.lower (Text.trim form) = "console" then .console else .json }

/-! ### Records -/

/-- The fields without `name`. -/
def without (name : String) (fields : Fields) : Fields := fields.filter (·.1 ≠ name)

/-- The event under its longer name, unless a field of that name is there. -/
def renameEvent (fields : Fields) : Fields :=
  match fields.get? "event", fields.get? "event_type" with
  | some event, none => without "event" fields ++ [("event_type", event)]
  | _, _ => fields

/-- How many characters of an error are printed. -/
def errorLength : Nat := 500

/-- A long error cut off. -/
def truncateError (fields : Fields) : Fields :=
  match fields.get? "error" with
  | some (.str s) =>
    if errorLength < Text.length s then
      fields.set "error" (.str (Text.take errorLength s ++ "..."))
    else fields
  | _ => fields

/-- The fields of a printed line. A fact of the line goes before one of the same name that holds for
the job or the logger, and the level is that of the line. Which fault is being handled does not
show. -/
def record (logger : String) (context : Fields) (line : Line) : Fields :=
  let own := Fields.ofList (("logger", .str logger) :: line.fields)
  let all := without "exc_info" (Fields.ofList (context ++ own))
  renameEvent
    (truncateError ((all.set "event" (.str line.event)).set "level" (.str line.level.shown)))

/-! ### The console -/

/-- A character that makes a text be quoted. -/
def needsQuotes (c : Char) : Bool :=
  c = ' ' || c = '\t' || c = '=' || c = '\r' || c = '\n' || c = '\x22' || c = '\x27'

/-- A value on the console: a text as it is where that is plain. -/
def consoleValue : Json → String
  | .str s => if s.any needsQuotes then Text.quote s else s
  | v => v.quoted

/-- A text with blanks behind it up to a width. -/
def padded (width : Nat) (s : String) : String :=
  s ++ String.ofList (List.replicate (width - Text.length s) ' ')

/-- The columns that stand in front, in brackets or bare, if the line has them. -/
def column (fields : Fields) (name : String) (write : String → String) : List String :=
  (fields.get? name).toList.map fun v => write v.shown

def inBrackets (s : String) : String := "[" ++ s ++ "]"

/-- The fields with a place of their own: in front, or on lines that follow. -/
def placedFields : List String :=
  ["level", "event", "logger", "logger_name", "timestamp", "stack", "exception"]

/-- A line on the console: the level, the event and the logger, and then the other fields in the
order of their names. -/
def consoleLine (fields : Fields) : String :=
  let rest := fields.filter fun p => !placedFields.contains p.1
  let pairs := (rest.mergeSort fun p q => !Text.before q.1 p.1).map fun p =>
    p.1 ++ "=" ++ consoleValue p.2
  let line := " ".intercalate (
    column fields "level" (fun s => inBrackets (padded 9 s)) ++
    column fields "event" (padded 30) ++
    column fields "logger" inBrackets ++
    column fields "logger_name" inBrackets ++ pairs)
  String.ofList (line.toList.reverse.dropWhile (· = ' ')).reverse

/-- A trace on lines of its own, if the line has it. -/
def trace (fields : Fields) (name : String) : Except RenderFault String :=
  match fields.get name with
  | .null => pure ""
  | .str s => pure ("\n" ++ s)
  | v => throw (.badTrace v.kind)

/-- What stands between two traces. -/
def traceRule : String := "\n\n" ++ String.ofList (List.replicate 79 '=') ++ "\n"

/-- A line on the console with the traces that follow it. -/
def consoleText (fields : Fields) : Except RenderFault String := do
  let stack ← trace fields "stack"
  let exception ← trace fields "exception"
  let between := if stack.isEmpty || exception.isEmpty then "" else traceRule
  pure (consoleLine fields ++ stack ++ between ++ exception)

/-! ### Printing -/

/-- A printed line: a record, or a text for the console, which may take several lines. -/
inductive Printed where
  | record (fields : Fields)
  | text (text : String)

/-- Whether lines of the level of `line` are printed. -/
def Setup.prints (setup : Setup) (line : Line) : Bool := setup.threshold ≤ line.level.rank

/-- What takes the lines that are printed, and what takes all others. -/
def Setup.taker (setup : Setup) (line : Line) : String :=
  if setup.prints line then "_make_filtering_bound_logger.<locals>.make_method.<locals>.meth"
  else "_nop"

/-- What is wrong with the names of a line's fields. -/
def Setup.takenName? (setup : Setup) (line : Line) : Option RenderFault :=
  match line.fields.find? fun p => p.1 = "self" || p.1 = "event" with
  | some (name, _) => some (.takenName (setup.taker line) name)
  | none =>
    if setup.prints line && (line.fields.get? "method_name").isSome then
      some (.takenName "BoundLoggerBase._proxy_to_logger" "method_name")
    else none

/-- What is printed of a line, if its level is not too low. -/
def Setup.render? (setup : Setup) (logger : String) (context : Fields) (line : Line) :
    Except RenderFault (Option Printed) :=
  match setup.takenName? line with
  | some fault => throw fault
  | none =>
    if setup.prints line then
      let fields := without "timestamp" (record logger context line)
      match setup.form with
      | .json => pure (some (.record fields))
      | .console => do pure (some (.text (← consoleText fields)))
    else pure none

end AddressIndex.Log
