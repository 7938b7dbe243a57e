import ClassSketch.Text.Blank

set_option autoImplicit false

namespace ClassSketch.Text

/-- The zeros of the decimal digits of Unicode 14. The other nine digits follow each. -/
def digitZeros : List Nat := [
    0x30, 0x660, 0x6F0, 0x7C0, 0x966, 0x9E6, 0xA66, 0xAE6, 0xB66, 0xBE6, 0xC66, 0xCE6, 0xD66,
    0xDE6, 0xE50, 0xED0, 0xF20, 0x1040, 0x1090, 0x17E0, 0x1810, 0x1946, 0x19D0, 0x1A80, 0x1A90,
    0x1B50, 0x1BB0, 0x1C40, 0x1C50, 0xA620, 0xA8D0, 0xA900, 0xA9D0, 0xA9F0, 0xAA50, 0xABF0,
    0xFF10, 0x104A0, 0x10D30, 0x11066, 0x110F0, 0x11136, 0x111D0, 0x112F0, 0x11450, 0x114D0,
    0x11650, 0x116C0, 0x11730, 0x118E0, 0x11950, 0x11C50, 0x11D50, 0x11DA0, 0x16A60, 0x16AC0,
    0x16B50, 0x1D7CE, 0x1D7D8, 0x1D7E2, 0x1D7EC, 0x1D7F6, 0x1E140, 0x1E2F0, 0x1E950, 0x1FBF0]

def digitValue? (c : Char) : Option Nat :=
  (digitZeros.find? fun base => base ≤ c.toNat && c.toNat < base + 10).map (c.toNat - ·)

/-- Blanks that may surround a numeral. The four ASCII separators may not. -/
def isNumeralBlank (c : Char) : Bool :=
  isBlank c && !(28 ≤ c.toNat && c.toNat ≤ 31)

/-- Digits in groups, one underscore between two groups. -/
def readDigits (value count : Nat) (afterDigit : Bool) : List Char → Option (Nat × Nat)
  | [] => if afterDigit then some (value, count) else none
  | '_' :: rest => if afterDigit then readDigits value count false rest else none
  | c :: rest =>
    match digitValue? c with
    | some digit => readDigits (value * 10 + digit) (count + 1) true rest
    | none => none

/-- A numeral has at most this many digits. -/
def digitLimit : Nat := 4300

def readNatural? (text : List Char) : Option Nat :=
  match readDigits 0 0 false text with
  | some (value, count) => if count ≤ digitLimit then some value else none
  | none => none

/-- A decimal integer: white space around it, a sign, digits of any script. -/
def readInteger? (text : String) : Option Int :=
  let chars := ((text.toList.dropWhile isNumeralBlank).reverse.dropWhile isNumeralBlank).reverse
  match chars with
  | '+' :: digits => (readNatural? digits).map Int.ofNat
  | '-' :: digits => (readNatural? digits).map fun value => -Int.ofNat value
  | digits => (readNatural? digits).map Int.ofNat

end ClassSketch.Text
