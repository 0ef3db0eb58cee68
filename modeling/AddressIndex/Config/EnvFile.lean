import AddressIndex.Text.Blank
import AddressIndex.Text.Cut

/-!
Files of variables. Each line names a variable and, behind an equals sign, its value, with or
without marks around it; a comment may follow. A line that cannot be read is passed over. Values may
refer to variables, which are filled in by `resolve`.
-/

namespace AddressIndex.EnvFile

/-- A variable that a line names, with its value if the line has one. -/
structure Binding where
  name : String
  value : Option String
deriving DecidableEq, Repr

/-- The place where reading is stuck. -/
abbrev Stuck := List Char

/-! ### Lines -/

/-- A text in which each line ends in the same way. -/
def withPlainBreaks : List Char → List Char
  | [] => []
  | '\r' :: '\n' :: rest => '\n' :: withPlainBreaks rest
  | c :: rest => (if c = '\r' then '\n' else c) :: withPlainBreaks rest

/-- The text of a file, without a mark of the byte order in front. -/
def textOf (file : String) : List Char :=
  match withPlainBreaks file.toList with
  | '\ufeff' :: rest => rest
  | cs => cs

/-- A blank within a line. -/
def isGap (c : Char) : Bool := Text.isBlank c && c ≠ '\n'

def afterGap (cs : List Char) : List Char := cs.dropWhile isGap

/-- What follows the line. -/
def afterLine (cs : List Char) : List Char := (cs.dropWhile (· ≠ '\n')).drop 1

/-! ### Names -/

/-- What follows the word `export` and a blank, if a line begins with them. -/
def afterExport (cs : List Char) : List Char :=
  match Text.after? "export".toList cs with
  | some rest => if rest.head?.any isGap then afterGap rest else cs
  | none => cs

/-- A character of a name without marks. -/
def isNameChar (c : Char) : Bool := c ≠ '=' && c ≠ '#' && !Text.isBlank c

/-- The name on a line; a comment has none. -/
def readName (cs : List Char) : Except Stuck (Option String × List Char) :=
  match cs with
  | '#' :: _ => pure (none, cs)
  | '\'' :: rest =>
    match rest.span (· ≠ '\'') with
    | (c :: name, _ :: rest) => pure (some (String.ofList (c :: name)), rest)
    | _ => throw cs
  | _ =>
    let (name, rest) := cs.span isNameChar
    if name.isEmpty then throw cs else pure (some (String.ofList name), rest)

/-! ### Values -/

/-- What is before the mark that ends a value, and what is behind it. A backslash keeps a mark from
ending the value, unless no other mark does. -/
def quoted? (mark : Char) : List Char → Option (List Char × List Char)
  | [] => none
  | '\\' :: c :: rest =>
    if c = mark then
      match quoted? mark rest with
      | some (value, rest) => some ('\\' :: c :: value, rest)
      | none => some (['\\'], rest)
    else (quoted? mark (c :: rest)).map fun p => ('\\' :: p.1, p.2)
  | c :: rest =>
    if c = mark then some ([], rest) else (quoted? mark rest).map fun p => (c :: p.1, p.2)

/-- What letters and marks mean behind a backslash, between single marks and between double ones. -/
def escapes (mark : Char) : List (Char × Char) :=
  if mark = '"' then
    [('\\', '\\'), ('\'', '\''), ('"', '"'), ('a', '\x07'), ('b', '\x08'), ('f', '\x0c'),
      ('n', '\n'), ('r', '\r'), ('t', '\t'), ('v', '\x0b')]
  else [('\\', '\\'), ('\'', '\'')]

/-- A value between marks with its escapes decoded. -/
def decoded (mark : Char) : List Char → List Char
  | '\\' :: c :: rest =>
    match (escapes mark).lookup c with
    | some x => x :: decoded mark rest
    | none => '\\' :: decoded mark (c :: rest)
  | c :: rest => c :: decoded mark rest
  | [] => []

/-- A value up to a comment, which follows a blank. -/
def beforeComment : List Char → List Char
  | [] => []
  | c :: rest =>
    if Text.isBlank c && (rest.dropWhile Text.isBlank).head? = some '#' then []
    else c :: beforeComment rest

/-- The value behind an equals sign. -/
def readValue (cs : List Char) : Except Stuck (String × List Char) :=
  let start := afterGap cs
  match start with
  | '\'' :: rest | '"' :: rest =>
    let mark := start.headD '"'
    match quoted? mark rest with
    | some (value, rest) => pure (String.ofList (decoded mark value), rest)
    | none => throw start
  | _ =>
    let (value, rest) := cs.span (· ≠ '\n')
    pure (String.ofList (Text.strip Text.isBlank (beforeComment value)), rest)

/-- The value on a line behind the name, if there is one. -/
def readAssigned (cs : List Char) : Except Stuck (Option String × List Char) :=
  match cs with
  | '=' :: rest => (readValue rest).map fun p => (some p.1, p.2)
  | _ => pure (none, cs)

/-! ### Files -/

/-- What follows a line of which nothing is left but a comment. -/
def endLine (cs : List Char) : Except Stuck (Unit × List Char) :=
  let rest := match afterGap cs with
    | '#' :: rest => rest.dropWhile (· ≠ '\n')
    | _ => cs
  match afterGap rest with
  | [] => pure ((), [])
  | '\n' :: rest => pure ((), rest)
  | _ => throw rest

/-- The binding on a line. -/
def readLine (cs : List Char) : Except Stuck (Option Binding × List Char) := do
  let (name, rest) ← readName (afterExport cs)
  let (value, rest) ← readAssigned (afterGap rest)
  let ((), rest) ← endLine rest
  pure (name.map (⟨·, value⟩), rest)

/-- The bindings in a text, at most `fuel` of them. -/
def bindingsWithin : (fuel : Nat) → List Char → List Binding
  | 0, _ => []
  | fuel + 1, cs =>
    match cs.dropWhile Text.isBlank with
    | [] => []
    | start =>
      match readLine start with
      | .ok (binding, rest) => binding.toList ++ bindingsWithin fuel rest
      | .error stuck => bindingsWithin fuel (afterLine stuck)

/-- The bindings in a file. Each takes a character at least. -/
def bindings (file : String) : List Binding :=
  let cs := textOf file
  bindingsWithin cs.length cs

/-! ### References -/

/-- A reference behind its first brace: the name, what stands for a missing variable, and what
follows the reference. -/
def reference? (cs : List Char) : Option (String × List Char × List Char) :=
  let (name, rest) := cs.span fun c => c ≠ '\x7d' && c ≠ ':'
  let (instead, rest) := match rest with
    | ':' :: '-' :: rest => rest.span (· ≠ '\x7d')
    | _ => ([], rest)
  match rest with
  | '\x7d' :: rest => some (String.ofList name, instead, rest)
  | _ => none

/-- A value with the variables filled in that it refers to; `fuel` bounds its length. -/
def expandWithin (value? : String → Option String) : (fuel : Nat) → List Char → List Char
  | 0, cs => cs
  | _, [] => []
  | fuel + 1, '$' :: '\x7b' :: rest =>
    match reference? rest with
    | some (name, instead, rest) =>
      ((value? name).map (·.toList)).getD instead ++ expandWithin value? fuel rest
    | none => '$' :: expandWithin value? fuel ('\x7b' :: rest)
  | fuel + 1, c :: rest => c :: expandWithin value? fuel rest

/-- A value with the variables filled in that it refers to. -/
def expand (value? : String → Option String) (value : String) : String :=
  let cs := value.toList
  String.ofList (expandWithin value? cs.length cs)

/-- The bindings with one more; a variable keeps its place. -/
def bindOne (known : List Binding) (binding : Binding) : List Binding :=
  match known with
  | [] => [binding]
  | b :: rest => if b.name = binding.name then binding :: rest else b :: bindOne rest binding

/-- The bindings of a file with references filled in: to what `set?` tells, or else to a binding
before. -/
def resolve (set? : String → Option String) (bindings : List Binding) : List Binding :=
  bindings.foldl (fun known binding =>
    let value? (name : String) : Option String :=
      (set? name).or ((known.find? (·.name = name)).map (·.value.getD ""))
    bindOne known { binding with value := binding.value.map (expand value?) }) []

end AddressIndex.EnvFile
