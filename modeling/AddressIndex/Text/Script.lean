import AddressIndex.Text.Runs

/-!
Scripts: the runs of those characters of host names that are of one script.
-/

namespace AddressIndex.Text

inductive Script where
  | greek
  | hebrew
  | hiragana
  | katakana
  | han
deriving DecidableEq, Repr

def Script.runs : Script → List (Nat × Nat)
  | .greek => [(0x371, 0x3E1), (0x3F3, 0x3FC), (0x1D26, 0x1D2A), (0x1F00, 0x1FF6), (0xAB65, 0xAB65)]
  | .hebrew => [(0x591, 0x5F4), (0xFB1E, 0xFB1E)]
  | .hiragana => [(0x3041, 0x3096), (0x309D, 0x309E), (0x1B001, 0x1B11F), (0x1B150, 0x1B152)]
  | .katakana => [
    (0x30A1, 0x30FA), (0x30FD, 0x30FE), (0x31F0, 0x31FF), (0x1AFF0, 0x1B000), (0x1B120, 0x1B122),
    (0x1B164, 0x1B167)]
  | .han => [
    (0x3005, 0x3005), (0x3007, 0x3007), (0x3400, 0x9FFF), (0xFA0E, 0xFA29), (0x16FE3, 0x16FE3),
    (0x16FF0, 0x16FF1), (0x20000, 0x3134A)]

/-- Whether a character is of a script. -/
def Script.has (script : Script) (c : Char) : Bool := inRuns c.toNat script.runs

end AddressIndex.Text
