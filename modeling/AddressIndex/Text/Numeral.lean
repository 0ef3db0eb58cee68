import AddressIndex.Binary64.Basic
import AddressIndex.Text.Blank
import AddressIndex.Text.Digit
import AddressIndex.Text.Quoted

/-!
Numbers written by hand, as in a setting: an integer or a floating number with blanks around it,
a sign, digits of any script and underscores between digits. `readInt` and `readFloat` accept
exactly these forms; a numeral of more than `digitLimit` digits is refused as an integer.
-/

namespace AddressIndex.Text

/-- Why a text is not a number. -/
inductive NumeralError where
  | notInteger (text : String)
  | notNumber (text : String)
  | tooManyDigits (count : Nat)
deriving DecidableEq, Repr

/-- The longest integer that is read, in digits; leading zeros count. -/
def digitLimit : Nat := 4300

def tooManyDigitsMessage (count : Nat) : String :=
  "Exceeds the limit (" ++ toString digitLimit ++
    " digits) for integer string conversion: value has " ++ toString count ++
    " digits; use sys.set_int_max_str_digits() to increase the limit"

/-- The message for a refused numeral. It shows at most 200 characters of a text that is not an
integer. -/
def NumeralError.message : NumeralError → String
  | .notInteger s =>
    "invalid literal for int() with base 10: " ++ String.ofList ((quote s).toList.take 200)
  | .notNumber s => "could not convert string to float: " ++ quote s
  | .tooManyDigits n => tooManyDigitsMessage n

/-- `c` in ASCII: a digit of any script as the ASCII digit, a blank as a space, and what is neither
as a character that no numeral holds. -/
def plainChar (c : Char) : Char :=
  if c.toNat < 127 then c
  else if isBlank c then ' '
  else match digit? c with
    | some d => Char.ofNat (48 + d)
    | none => '?'

/-- The characters of a numeral without the blanks around it. -/
def plain (s : String) : List Char := strip isPadding (s.toList.map plainChar)

def isDigit (c : Char) : Bool := (asciiDigit? c).isSome

/-- The number that the digits of `cs` denote. -/
def digitsValue (cs : List Char) : Nat := ofDigits (cs.filterMap asciiDigit?)

/-- Whether each underscore stands between two digits; `before` is the character in front. -/
def separates (before : Char) : List Char → Bool
  | [] => true
  | '_' :: rest => isDigit before && rest.head?.any isDigit && separates '_' rest
  | c :: rest => separates c rest

/-- A sign and what follows it: whether it is a minus, and the rest. -/
def splitSign : List Char → Bool × List Char
  | '-' :: rest => (true, rest)
  | '+' :: rest => (false, rest)
  | cs => (false, cs)

/-- Digits with single underscores between them, after an optional sign. -/
def readInt (s : String) : Except NumeralError Int :=
  let (negative, cs) := splitSign (plain s)
  let (numeral, rest) := cs.span fun c => isDigit c || c = '_'
  let count := (numeral.filter isDigit).length
  if !separates ' ' numeral then throw (.notInteger s)
  else if digitLimit < count then throw (.tooManyDigits count)
  else if count = 0 || !rest.isEmpty then throw (.notInteger s)
  else
    let n : Int := digitsValue numeral
    pure (if negative then -n else n)

/-- `cs` in lower case, for ASCII letters. -/
def lowerAscii (cs : List Char) : List Char := cs.map Char.toLower

/-- The exponent of a numeral: nothing, or `e` with a sign and digits to the end. -/
def readExponent : List Char → Option Int
  | [] => some 0
  | e :: rest =>
    let (negative, ds) := splitSign rest
    if e.toLower = 'e' && !ds.isEmpty && ds.all isDigit then
      some (if negative then -digitsValue ds else digitsValue ds)
    else none

/-- Digits with a point somewhere among them, and an exponent. -/
def readDecimal (negative : Bool) (cs : List Char) : Option Binary64 :=
  let (whole, rest) := cs.span isDigit
  let (fraction, rest) := match rest with
    | '.' :: rest => rest.span isDigit
    | _ => ([], rest)
  if whole.isEmpty && fraction.isEmpty then none
  else (readExponent rest).map fun e =>
    .ofDecimal negative (digitsValue (whole ++ fraction)) (e - fraction.length)

/-- A decimal numeral with an optional sign and exponent, or a word for infinity or no number. -/
def readFloat (s : String) : Except NumeralError Binary64 :=
  let cs := plain s
  let (negative, body) := splitSign (cs.filter (· ≠ '_'))
  let word := String.ofList (lowerAscii body)
  if !separates ' ' cs then throw (.notNumber s)
  else if word = "inf" || word = "infinity" then pure (.infinity negative)
  else if word = "nan" then pure .nan
  else match readDecimal negative body with
    | some x => pure x
    | none => throw (.notNumber s)

end AddressIndex.Text
