import Mathlib.Data.List.Basic
import Rawfile.Effects.Dict

/-! JSON values and their text, written and read the way Python's `json` module
does: `dumps` with its default separators and ASCII escapes, `loads` with any
white space between tokens. A finite float is kept as its literal, which `repr`
makes unique, and an escaped surrogate outside a pair names no character. -/

namespace Effects
namespace Json

/-- A reader takes a value off the front of a text. -/
abbrev Reader (α : Type) := List Char → Option (α × List Char)

def readNat : Reader Nat
  | [] => none
  | c :: text =>
    if c = '0' then some (0, text)
    else if c.isDigit then
      some (Nat.ofDigitChars 10 (c :: text.takeWhile Char.isDigit) 0, text.dropWhile Char.isDigit)
    else none

def readInt : Reader Int
  | [] => none
  | c :: text =>
    if c = '-' then (readNat text).map fun (number, rest) => (-number, rest)
    else (readNat (c :: text)).map fun (number, rest) => (number, rest)

/-- The digits behind a point. A number that breaks off has no value: what is
left of it would be no continuation of the text either. -/
def readFraction : Reader (List Char)
  | [] => some ([], [])
  | c :: text =>
    if c = '.' then
      if text.takeWhile Char.isDigit = [] then none
      else some (c :: text.takeWhile Char.isDigit, text.dropWhile Char.isDigit)
    else some ([], c :: text)

def readSign : List Char → List Char × List Char
  | [] => ([], [])
  | c :: text => if c = '+' ∨ c = '-' then ([c], text) else ([], c :: text)

def readExponent : Reader (List Char)
  | [] => some ([], [])
  | c :: text =>
    if c = 'e' ∨ c = 'E' then
      let (sign, digits) := readSign text
      if digits.takeWhile Char.isDigit = [] then none
      else some (c :: sign ++ digits.takeWhile Char.isDigit, digits.dropWhile Char.isDigit)
    else some ([], c :: text)

/-- The text of a number in three parts. -/
def readParts (text : List Char) : Option ((Int × List Char × List Char) × List Char) := do
  let (number, rest) ← readInt text
  let (fraction, rest) ← readFraction rest
  let (exponent, rest) ← readExponent rest
  some ((number, fraction, exponent), rest)

/-- A literal with a fraction or an exponent, such as `repr` gives for a float. -/
def isFloat (literal : List Char) : Bool :=
  match readParts literal with
  | some ((_, fraction, exponent), rest) => rest = [] && (fraction ≠ [] || exponent ≠ [])
  | none => false

structure FloatLiteral where
  text : List Char
  literal : isFloat text = true

end Json

inductive Json where
  | null
  | bool (flag : Bool)
  | int (number : Int)
  | float (number : Json.FloatLiteral)
  | str (text : String)
  | arr (items : List Json)
  | obj (fields : List (String × Json))

namespace Json

def hexDigit (n : Nat) : Char := ("0123456789abcdef".toList)[n]?.getD '0'

def hex (unit : Nat) : List Char :=
  [hexDigit (unit / 4096), hexDigit (unit / 256 % 16), hexDigit (unit / 16 % 16), hexDigit (unit % 16)]

def shortEscapes : List (Char × Char) :=
  [('"', '"'), ('\\', '\\'), ('\n', 'n'), ('\r', 'r'), ('\t', 't'), ('\x0c', 'f'), ('\x08', 'b')]

def escape (c : Char) : List Char :=
  match shortEscapes.lookup c with
  | some letter => ['\\', letter]
  | none =>
    if ' ' ≤ c ∧ c ≤ '~' then [c]
    else if c.toNat < 0x10000 then '\\' :: 'u' :: hex c.toNat
    else '\\' :: 'u' :: hex (0xd800 + (c.toNat - 0x10000) / 1024) ++
      '\\' :: 'u' :: hex (0xdc00 + (c.toNat - 0x10000) % 1024)

def quote (text : String) : List Char := '"' :: text.toList.flatMap escape ++ ['"']

def dumpsInt (number : Int) : List Char :=
  if number < 0 then '-' :: Nat.toDigits 10 number.natAbs else Nat.toDigits 10 number.natAbs

def commas : List (List Char) → List Char
  | [] => []
  | [text] => text
  | text :: rest => text ++ ',' :: ' ' :: commas rest

mutual

def dumps : Json → List Char
  | .null => ['n', 'u', 'l', 'l']
  | .bool true => ['t', 'r', 'u', 'e']
  | .bool false => ['f', 'a', 'l', 's', 'e']
  | .int number => dumpsInt number
  | .float number => number.text
  | .str text => quote text
  | .arr items => '[' :: commas (dumpsItems items) ++ [']']
  | .obj fields => '{' :: commas (dumpsFields fields) ++ ['}']

def dumpsItems : List Json → List (List Char)
  | [] => []
  | item :: rest => dumps item :: dumpsItems rest

def dumpsFields : List (String × Json) → List (List Char)
  | [] => []
  | (key, value) :: rest => (quote key ++ ':' :: ' ' :: dumps value) :: dumpsFields rest

end

def isSpace (c : Char) : Bool := c = ' ' || c = '\t' || c = '\n' || c = '\r'

def skipSpace (text : List Char) : List Char := text.dropWhile isSpace

def hexValue (c : Char) : Option Nat :=
  if '0' ≤ c ∧ c ≤ '9' then some (c.toNat - '0'.toNat)
  else if 'a' ≤ c ∧ c ≤ 'f' then some (c.toNat - 'a'.toNat + 10)
  else if 'A' ≤ c ∧ c ≤ 'F' then some (c.toNat - 'A'.toNat + 10)
  else none

def readHex : Reader Nat
  | a :: b :: c :: d :: rest => do
    some ((((← hexValue a) * 16 + (← hexValue b)) * 16 + (← hexValue c)) * 16 + (← hexValue d), rest)
  | _ => none

def readLow (high : Nat) : Reader Char
  | '\\' :: 'u' :: text => do
    let (low, rest) ← readHex text
    if 0xdc00 ≤ low ∧ low ≤ 0xdfff then
      some (Char.ofNat (0x10000 + (high - 0xd800) * 1024 + (low - 0xdc00)), rest)
    else none
  | _ => none

def readUnicode (text : List Char) : Option (Char × List Char) := do
  let (unit, rest) ← readHex text
  if 0xd800 ≤ unit ∧ unit ≤ 0xdbff then readLow unit rest
  else if 0xdc00 ≤ unit ∧ unit ≤ 0xdfff then none
  else some (Char.ofNat unit, rest)

def unescape : Char → Option Char
  | '"' => some '"'
  | '\\' => some '\\'
  | '/' => some '/'
  | 'b' => some '\x08'
  | 'f' => some '\x0c'
  | 'n' => some '\n'
  | 'r' => some '\r'
  | 't' => some '\t'
  | _ => none

def readChar : Reader Char
  | [] => none
  | c :: text =>
    if c = '\\' then
      match text with
      | [] => none
      | letter :: rest => if letter = 'u' then readUnicode rest else (unescape letter).map (·, rest)
    else if c < ' ' then none
    else some (c, text)

def readString : Nat → Reader (List Char)
  | 0, _ => none
  | _ + 1, [] => none
  | fuel + 1, c :: text =>
    if c = '"' then some ([], text)
    else do
      let (first, text) ← readChar (c :: text)
      let (more, rest) ← readString fuel text
      some (first :: more, rest)

def readItems (item : Reader α) (close : Char) : Nat → Reader (List α)
  | 0, _ => none
  | fuel + 1, text => do
    let (first, text) ← item text
    match skipSpace text with
    | [] => none
    | c :: text =>
      if c = close then some ([first], text)
      else if c = ',' then do
        let (more, rest) ← readItems item close fuel (skipSpace text)
        some (first :: more, rest)
      else none

def readGroup (item : Reader α) (close : Char) (text : List Char) : Option (List α × List Char) :=
  match skipSpace text with
  | [] => none
  | c :: rest => if c = close then some ([], rest) else readItems item close text.length (c :: rest)

def readField (value : Reader Json) : Reader (String × Json)
  | [] => none
  | c :: text =>
    if c = '"' then do
      let (key, text) ← readString text.length text
      match skipSpace text with
      | [] => none
      | c :: text =>
        if c = ':' then do
          let (value, rest) ← value (skipSpace text)
          some ((String.ofList key, value), rest)
        else none
    else none

def readWord (word : List Char) (value : Json) (text : List Char) : Option (Json × List Char) :=
  if word <+: text then some (value, text.drop word.length) else none

def readNumber (text : List Char) : Option (Json × List Char) := do
  let ((number, fraction, exponent), rest) ← readParts text
  if fraction = [] ∧ exponent = [] then some (.int number, rest)
  else if literal : isFloat (text.take (text.length - rest.length)) = true then some (.float ⟨_, literal⟩, rest)
  else none

def readValue : Nat → Reader Json
  | 0, _ => none
  | _ + 1, [] => none
  | depth + 1, c :: text =>
    if c = '"' then (readString text.length text).map fun (chars, rest) => (.str (String.ofList chars), rest)
    else if c = '[' then (readGroup (readValue depth) ']' text).map fun (items, rest) => (.arr items, rest)
    else if c = '{' then
      (readGroup (readField (readValue depth)) '}' text).map fun (pairs, rest) => (.obj (Dict.ofPairs pairs), rest)
    else if c = 'n' then readWord ['n', 'u', 'l', 'l'] .null (c :: text)
    else if c = 't' then readWord ['t', 'r', 'u', 'e'] (.bool true) (c :: text)
    else if c = 'f' then readWord ['f', 'a', 'l', 's', 'e'] (.bool false) (c :: text)
    else readNumber (c :: text)

def loads (text : List Char) : Option Json := do
  let (value, rest) ← readValue text.length (skipSpace text)
  if skipSpace rest = [] then some value else none

end Json
end Effects
