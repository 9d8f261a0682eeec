import Mathlib.Data.List.Basic

/-! What the drivers take from texts: `strip` and `int` of the language. -/

namespace Rawfile

/-- `str.isspace` of one character. -/
def isSpace (c : Char) : Bool :=
  let code := c.toNat
  (0x9 ≤ code && code ≤ 0xd) || (0x1c ≤ code && code ≤ 0x20) || (0x2000 ≤ code && code ≤ 0x200a) ||
    [0x85, 0xa0, 0x1680, 0x2028, 0x2029, 0x202f, 0x205f, 0x3000].contains code

def trim (blank : Char → Bool) (text : List Char) : List Char :=
  ((text.dropWhile blank).reverse.dropWhile blank).reverse

/-- `text.strip()` -/
def strip (text : List Char) : List Char := trim isSpace text

/-- The zeros of the other scripts whose decimal digits `int` knows. -/
def decimalZeros : List Nat :=
  [0x660, 0x6f0, 0x7c0, 0x966, 0x9e6, 0xa66, 0xae6, 0xb66, 0xbe6, 0xc66, 0xce6, 0xd66, 0xde6, 0xe50, 0xed0, 0xf20,
    0x1040, 0x1090, 0x17e0, 0x1810, 0x1946, 0x19d0, 0x1a80, 0x1a90, 0x1b50, 0x1bb0, 0x1c40, 0x1c50, 0xa620, 0xa8d0,
    0xa900, 0xa9d0, 0xa9f0, 0xaa50, 0xabf0, 0xff10, 0x104a0, 0x10d30, 0x10d40, 0x11066, 0x110f0, 0x11136, 0x111d0,
    0x112f0, 0x11450, 0x114d0, 0x11650, 0x116c0, 0x116d0, 0x116da, 0x11730, 0x118e0, 0x11950, 0x11bf0, 0x11c50,
    0x11d50, 0x11da0, 0x11f50, 0x16130, 0x16a60, 0x16ac0, 0x16b50, 0x1ccf0, 0x1d7ce, 0x1d7d8, 0x1d7e2, 0x1d7ec,
    0x1d7f6, 0x1e140, 0x1e2f0, 0x1e4f0, 0x1e5f1, 0x1e950, 0x1fbf0]

def decimal (c : Char) : Option Nat :=
  if c.isDigit then some (c.toNat - '0'.toNat)
  else (decimalZeros.find? fun first => first ≤ c.toNat && c.toNat < first + 10).map (c.toNat - ·)

/-- Digits with single underscores between them. -/
def readDigits : Nat → Bool → List Char → Option Nat
  | value, afterDigit, [] => if afterDigit then some value else none
  | value, afterDigit, c :: rest =>
    match decimal c with
    | some digit => readDigits (10 * value + digit) true rest
    | none => if c = '_' && afterDigit then readDigits value false rest else none

/-- `int(text)`: the separators from `0x1c` to `0x1f` are not blanks to it. -/
def intOf (text : String) : Option Int :=
  match trim (fun c => isSpace c && (c.toNat < 0x1c || 0x20 ≤ c.toNat)) text.toList with
  | '-' :: digits => (readDigits 0 false digits).map fun (number : Nat) => -Int.ofNat number
  | '+' :: digits => (readDigits 0 false digits).map Int.ofNat
  | digits => (readDigits 0 false digits).map Int.ofNat

end Rawfile
