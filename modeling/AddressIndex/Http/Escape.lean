import AddressIndex.Json.Reader
import AddressIndex.Text.Utf

/-!
Escapes in addresses: a percent sign and the two hexadecimal digits of a byte. `escape` writes
escapes for characters that an address cannot hold and `unescape` reads them.
-/

namespace AddressIndex.Http

/-- The escape for a byte. -/
def escapeByte (b : Nat) : List Char := '%' :: (Text.hex 2 b).toUpper.toList

/-- The escapes for a character. -/
def escapeChar (c : Char) : List Char := (Text.utf8Bytes c).flatMap escapeByte

/-- `c` as it is, if that is allowed, or escaped. -/
def escapeUnless (plain : Char → Bool) (c : Char) : List Char :=
  if plain c then [c] else escapeChar c

/-- A text with escapes for all characters but the plain ones. Escapes that are there stay. -/
def escape (plain : Char → Bool) : List Char → List Char
  | [] => []
  | '%' :: a :: b :: rest =>
    if (Json.hexDigit? a).isSome && (Json.hexDigit? b).isSome then
      '%' :: a :: b :: escape plain rest
    else escapeUnless plain '%' ++ escape plain (a :: b :: rest)
  | c :: rest => escapeUnless plain c ++ escape plain rest

/-- A piece of a text with escapes: a byte, or a character that is no single byte. -/
inductive Piece where
  | byte (b : Nat)
  | char (c : Char)
deriving DecidableEq, Repr

/-- A character that is no escape. -/
def Piece.ofChar (c : Char) : Piece := if c.toNat < 0x80 then .byte c.toNat else .char c

/-- The pieces of a text. A percent sign without two hexadecimal digits stands for itself. -/
def pieces : List Char → List Piece
  | [] => []
  | '%' :: a :: b :: rest =>
    match Json.hexDigit? a, Json.hexDigit? b with
    | some x, some y => .byte (16 * x + y) :: pieces rest
    | _, _ => .ofChar '%' :: pieces (a :: b :: rest)
  | c :: rest => .ofChar c :: pieces rest

/-- The characters of pieces. -/
def decodePieces : Option Text.Utf8.Begun → List Piece → List Char
  | c, [] => Text.Utf8.finish c
  | c, .byte b :: rest =>
    let (cs, next) := Text.Utf8.step c b
    cs ++ decodePieces next rest
  | c, .char x :: rest => Text.Utf8.finish c ++ x :: decodePieces none rest

/-- A text with its escapes decoded. -/
def unescape (cs : List Char) : List Char := decodePieces none (pieces cs)

/-- Letters, digits and the marks that need no escape anywhere. -/
def isUnreserved (c : Char) : Bool := c.isAlphanum || "-._~".contains c

end AddressIndex.Http
