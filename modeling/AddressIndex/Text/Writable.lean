import AddressIndex.Text.Quoted

/-!
Texts that an encoding can write. ASCII has the first 128 characters, and UTF-8 has all; no encoding
has halves.
-/

namespace AddressIndex.Text

inductive Encoding where
  | ascii | utf8
deriving DecidableEq, Repr

namespace Encoding

def name : Encoding → String
  | .ascii => "ascii"
  | .utf8 => "utf-8"

/-- Whether the encoding has a code point. -/
def has : Encoding → CodePoint → Bool
  | .ascii, p => p.value < 0x80
  | .utf8, p => !p.isHalf

/-- What the code points are that the encoding has not. -/
def refusal : Encoding → String
  | .ascii => "ordinal not in range(128)"
  | .utf8 => "surrogates not allowed"

/-- The first code points in a row that the encoding has not: how many are in front, and their
numbers. -/
def firstRefused? (encoding : Encoding) (s : String) : Option (Nat × List Nat) :=
  let (front, rest) := (codePoints s).span encoding.has
  match rest.takeWhile (!encoding.has ·) with
  | [] => none
  | refused => some (front.length, refused.map (·.value))

/-- Whether the encoding has all code points of a text. -/
def writes (encoding : Encoding) (s : String) : Bool := (codePoints s).all encoding.has

/-- The number of a code point as an escape. -/
def escapeOf (n : Nat) : String :=
  if n < 0x100 then "\\x" ++ hex 2 n
  else if n < 0x10000 then "\\u" ++ hex 4 n
  else "\\U" ++ hex 8 n

/-- Code points in a row at a position, as a message names them. -/
def shownRefused (position : Nat) : List Nat → String
  | [n] => "character '" ++ escapeOf n ++ "' in position " ++ toString position
  | refused =>
    "characters in position " ++ toString position ++ "-" ++
      toString (position + refused.length - 1)

/-- The message about a text that the encoding cannot write. -/
def refusalMessage (encoding : Encoding) (s : String) : String :=
  let (position, refused) := (encoding.firstRefused? s).getD (0, [])
  "'" ++ encoding.name ++ "' codec can't encode " ++ shownRefused position refused ++ ": " ++
    encoding.refusal

end Encoding

end AddressIndex.Text
