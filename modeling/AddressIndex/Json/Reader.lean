import AddressIndex.Json.Basic
import AddressIndex.Text.CodePoint
import AddressIndex.Text.Cut
import AddressIndex.Text.Numeral

/-!
Reading JSON. `read` accepts the JSON grammar with the words `NaN`, `Infinity` and `-Infinity`; of
the fields of one name the last counts. A refused text gives the fault and the place of it, as a
line, a column and the number of code points before it.

The readers take the rest of the text and give back what they leave. Their fuel is a bound on the
calls, twice the length of the text, and `depth` is how many more containers may open.
-/

namespace AddressIndex.Json

inductive Container where
  | array | object
deriving DecidableEq, Repr

/-- What is wrong with a text. -/
inductive ReadFault where
  | expectingValue
  | extraData
  | expectingName
  | expectingColon
  | expectingComma
  | unterminatedText
  | controlCharacter
  | unknownEscape
  | incompleteEscape
  | byteOrderMark
  | tooManyDigits (count : Nat)
  | tooDeep (container : Container)
deriving DecidableEq, Repr

/-- A fault, and what is left of the text where it lies. -/
structure Stop where
  fault : ReadFault
  rest : List Char

def fail {α : Type} (fault : ReadFault) (rest : List Char) : Except Stop α :=
  .error ⟨fault, rest⟩

/-- The blanks of JSON. -/
def isSpace (c : Char) : Bool := c = ' ' || c = '\t' || c = '\n' || c = '\r'

def skipSpace (cs : List Char) : List Char := cs.dropWhile isSpace

def hexDigit? (c : Char) : Option Nat :=
  let n := c.toNat
  if 48 ≤ n && n ≤ 57 then some (n - 48)
  else if 97 ≤ n && n ≤ 102 then some (n - 87)
  else if 65 ≤ n && n ≤ 70 then some (n - 55)
  else none

/-- The value of four hexadecimal digits. -/
def hex4? : List Char → Option Nat
  | [a, b, c, d] => do
    let a ← hexDigit? a
    let b ← hexDigit? b
    let c ← hexDigit? c
    let d ← hexDigit? d
    pure (((a * 16 + b) * 16 + c) * 16 + d)
  | _ => none

/-- The code unit that the escape after `u` gives. A text cannot end with its digits. -/
def codeUnit (u : List Char) : Except Stop (Nat × List Char) :=
  let ds := u.drop 1
  match hex4? (ds.take 4), ds.drop 4 with
  | some n, rest => if rest.isEmpty then fail .incompleteEscape u else pure (n, rest)
  | none, _ => fail .incompleteEscape u

/-- The second half of a pair of code units, if the text goes on with an escape of four digits and
more. Five code points are ten characters of a text at most. -/
def lowUnit (cs : List Char) : Except Stop (Option Nat × List Char) :=
  match cs with
  | '\\' :: 'u' :: ds =>
    if Text.length (String.ofList (ds.take 10)) < 5 then pure (none, cs)
    else match hex4? (ds.take 4) with
      | none => fail .incompleteEscape ('u' :: ds)
      | some n =>
        if Text.isLowHalf n then pure (some n, ds.drop 4) else pure (none, cs)
  | _ => pure (none, cs)

/-- What an escape, which begins with `u`, stands for: a character as a text keeps it. A half
without its other half is kept alone. -/
def unicodeEscape (u : List Char) : Except Stop (List Char × List Char) := do
  let (n, rest) ← codeUnit u
  if Text.isHighHalf n then
    match ← lowUnit rest with
    | (some low, rest) => pure (Text.spell (Text.joinHalves n low), rest)
    | (none, rest) => pure ([Text.standIn n], rest)
  else if Text.isLowHalf n then pure ([Text.standIn n], rest)
  else pure ([Char.ofNat n], rest)

/-- The character that a backslash and `c` stand for. -/
def shortEscape? (c : Char) : Option Char :=
  if c = '\x22' || c = '\\' || c = '/' then some c
  else if c = 'b' then some '\x08'
  else if c = 'f' then some '\x0c'
  else if c = 'n' then some '\n'
  else if c = 'r' then some '\r'
  else if c = 't' then some '\t'
  else none

/-- The characters up to the closing mark; `opening` is the text from the opening one on. -/
def chars (opening : List Char) : Nat → List Char → List Char → Except Stop (String × List Char)
  | 0, _, _ => fail .unterminatedText opening
  | fuel + 1, acc, cs =>
    match cs with
    | [] => fail .unterminatedText opening
    | c :: rest =>
      if c = '\x22' then pure (String.ofList acc.reverse, rest)
      else if c = '\\' then
        match rest with
        | [] => fail .unterminatedText opening
        | e :: rest' =>
          if e = 'u' then
            match unicodeEscape rest with
            | .error stop => .error stop
            | .ok (xs, rest') => chars opening fuel (xs.reverse ++ acc) rest'
          else match shortEscape? e with
            | some x => chars opening fuel (x :: acc) rest'
            | none => fail .unknownEscape cs
      else if c.toNat < 32 then fail .controlCharacter cs
      else chars opening fuel (c :: acc) rest

/-- The digits at the start, with a point before them. -/
def fractionDigits (cs : List Char) : List Char × List Char :=
  match cs with
  | '.' :: rest =>
    let (ds, rest') := rest.span Text.isDigit
    if ds.isEmpty then ([], cs) else (ds, rest')
  | _ => ([], cs)

/-- The exponent at the start, if there is one with digits. -/
def exponentPart (cs : List Char) : Option Int × List Char :=
  match cs with
  | e :: rest =>
    if e = 'e' || e = 'E' then
      let (negative, ds) := Text.splitSign rest
      let (ds, rest') := ds.span Text.isDigit
      if ds.isEmpty then (none, cs)
      else
        let n : Int := Text.digitsValue ds
        (some (if negative then -n else n), rest')
    else (none, cs)
  | [] => (none, cs)

/-- A number: an integer unless it has a fraction or an exponent. -/
def number (cs : List Char) : Except Stop (Json × List Char) :=
  let (negative, body) := match cs with
    | '-' :: rest => (true, rest)
    | _ => (false, cs)
  let (whole, rest) := match body with
    | '0' :: rest => (['0'], rest)
    | _ => body.span Text.isDigit
  if whole.isEmpty then fail .expectingValue cs
  else
    let (fraction, rest) := fractionDigits rest
    let (exponent, rest) := exponentPart rest
    if fraction.isEmpty && exponent.isNone then
      if Text.digitLimit < whole.length then fail (.tooManyDigits whole.length) cs
      else
        let n : Int := Text.digitsValue whole
        pure (.int (if negative then -n else n), rest)
    else
      pure (.float (.ofDecimal negative (Text.digitsValue (whole ++ fraction))
        (exponent.getD 0 - fraction.length)), rest)

/-- The words that are values. -/
def wordValues : List (List Char × Json) :=
  [("null".toList, .null), ("true".toList, .bool true), ("false".toList, .bool false),
    ("NaN".toList, .float .nan), ("Infinity".toList, .float (.infinity false)),
    ("-Infinity".toList, .float (.infinity true))]

/-- A word that is a value, or a number. -/
def scalar (cs : List Char) : Except Stop (Json × List Char) :=
  match wordValues.findSome? fun (w, v) => (Text.after? w cs).map fun rest => (v, rest) with
  | some r => pure r
  | none => number cs

mutual

/-- A value at the start of the text. -/
def value : Nat → Nat → List Char → Except Stop (Json × List Char)
  | 0, _, cs => fail .expectingValue cs
  | fuel + 1, depth, cs =>
    match cs with
    | '\x22' :: rest => do
      let (s, rest) ← chars cs fuel [] rest
      pure (.str s, rest)
    | '[' :: rest =>
      match depth with
      | 0 => fail (.tooDeep .array) cs
      | depth + 1 =>
        match skipSpace rest with
        | ']' :: rest => pure (.arr [], rest)
        | rest => items fuel depth [] rest
    | '\x7b' :: rest =>
      match depth with
      | 0 => fail (.tooDeep .object) cs
      | depth + 1 =>
        match skipSpace rest with
        | '\x7d' :: rest => pure (.obj [], rest)
        | rest => members fuel depth [] rest
    | cs => scalar cs

/-- The items up to the closing bracket, after those in `acc`. -/
def items : Nat → Nat → List Json → List Char → Except Stop (Json × List Char)
  | 0, _, _, cs => fail .expectingValue cs
  | fuel + 1, depth, acc, cs => do
    let (v, rest) ← value fuel depth cs
    match skipSpace rest with
    | ']' :: rest => pure (.arr (v :: acc).reverse, rest)
    | ',' :: rest => items fuel depth (v :: acc) (skipSpace rest)
    | rest => fail .expectingComma rest

/-- The fields up to the closing brace, after those in `acc`. -/
def members : Nat → Nat → List (String × Json) → List Char → Except Stop (Json × List Char)
  | 0, _, _, cs => fail .expectingName cs
  | fuel + 1, depth, acc, cs =>
    match cs with
    | '\x22' :: rest => do
      let (name, rest) ← chars cs fuel [] rest
      match skipSpace rest with
      | ':' :: rest =>
        let (v, rest) ← value fuel depth (skipSpace rest)
        match skipSpace rest with
        | '\x7d' :: rest => pure (.obj (Fields.ofList ((name, v) :: acc).reverse), rest)
        | ',' :: rest => members fuel depth ((name, v) :: acc) (skipSpace rest)
        | rest => fail .expectingComma rest
      | rest => fail .expectingColon rest
    | cs => fail .expectingName cs

end

/-- How many containers may be open at once. -/
def depthLimit : Nat := 1000

/-- A place in a text; lines and columns count from one. -/
structure Place where
  line : Nat
  column : Nat
  index : Nat
deriving DecidableEq, Repr

/-- The place behind the characters `before`. -/
def Place.behind (before : List Char) : Place :=
  let line := (before.reverse.takeWhile (· ≠ '\n')).reverse
  { line := before.count '\n' + 1
    column := Text.length (String.ofList line) + 1
    index := Text.length (String.ofList before) }

structure ReadError where
  fault : ReadFault
  place : Place
deriving DecidableEq, Repr

/-- The value that is the whole text, with blanks around it, and no more than `depth` deep. -/
def readWithin (depth : Nat) (s : String) : Except ReadError Json :=
  let cs := s.toList
  let locate (stop : Stop) : ReadError :=
    ⟨stop.fault, .behind (cs.take (cs.length - stop.rest.length))⟩
  if cs.head? = some '\ufeff' then .error ⟨.byteOrderMark, .behind []⟩
  else match value (2 * cs.length + 2) depth (skipSpace cs) with
    | .error stop => .error (locate stop)
    | .ok (v, rest) =>
      match skipSpace rest with
      | [] => .ok v
      | rest => .error (locate ⟨.extraData, rest⟩)

def read (s : String) : Except ReadError Json := readWithin depthLimit s

def Container.word : Container → String
  | .array => "array"
  | .object => "object"

/-- What is wrong, in words. -/
def ReadFault.message : ReadFault → String
  | .expectingValue => "Expecting value"
  | .extraData => "Extra data"
  | .expectingName => "Expecting property name enclosed in double quotes"
  | .expectingColon => "Expecting ':' delimiter"
  | .expectingComma => "Expecting ',' delimiter"
  | .unterminatedText => "Unterminated string starting at"
  | .controlCharacter => "Invalid control character at"
  | .unknownEscape => "Invalid \\escape"
  | .incompleteEscape => "Invalid \\uXXXX escape"
  | .byteOrderMark => "Unexpected UTF-8 BOM (decode using utf-8-sig)"
  | .tooManyDigits n => Text.tooManyDigitsMessage n
  | .tooDeep c =>
    "maximum recursion depth exceeded while decoding a JSON " ++ c.word ++ " from a unicode string"

/-- Whether the fault is one of the grammar, and so has a place. -/
def ReadFault.isGrammatical : ReadFault → Bool
  | .tooManyDigits _ | .tooDeep _ => false
  | _ => true

/-- The fault in words, with its place if it has one. -/
def ReadError.message (e : ReadError) : String :=
  if e.fault.isGrammatical then
    e.fault.message ++ ": line " ++ toString e.place.line ++ " column " ++
      toString e.place.column ++ " (char " ++ toString e.place.index ++ ")"
  else e.fault.message

end AddressIndex.Json
