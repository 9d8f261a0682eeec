import Mathlib.Data.List.DropRight
import Rawfile.Text

/-! `utils/net.py` and `_parse_nameserver` of the analytics client: which of the
configured nameservers are kept, and the address and port each stands for. A
text is the list of its characters. -/

namespace Rawfile

inductive IpVersion where
  | v4
  | v6
  deriving DecidableEq

/-- What the parser takes from the language: `ip_address`, the characters that
`strip` drops, and `int`. The first knows addresses by their letters; the last
reads decimal digits up to the interpreter's limit on their number. -/
structure TextReaders where
  version : List Char → Option IpVersion
  isSpace : Char → Bool
  int : List Char → Option Int
  unbracketed : ∀ text family, version text = some family → '[' ∉ text ∧ ']' ∉ text
  colonless : ∀ text, version text = some .v4 → ':' ∉ text
  colons : ∀ text, version text = some .v6 → 2 ≤ text.count ':'
  digits : ∀ text, text ≠ [] → (∀ c ∈ text, c.isDigit = true) →
    int text = if text.length ≤ 4300 then some (Nat.ofDigitChars 10 text 0 : Int) else none

namespace TextReaders

variable (readers : TextReaders)

def trim (text : List Char) : List Char := (text.dropWhile readers.isSpace).rdropWhile readers.isSpace

end TextReaders

namespace Net

/-- `text.partition(separator)` without the separator. -/
def partitionAt (separator : Char) (text : List Char) : List Char × List Char :=
  (text.takeWhile (· ≠ separator), (text.dropWhile (· ≠ separator)).drop 1)

/-- `split_host_port` of a text without space around it. -/
def splitEntry (entry : List Char) : List Char × List Char :=
  if entry.head? = some '[' then
    let (host, port) := partitionAt ']' (entry.drop 1)
    (host, port.dropWhile (· = ':'))
  else if entry.count ':' = 1 then partitionAt ':' entry
  else (entry, [])

def splitHostPort (readers : TextReaders) (entry : List Char) : List Char × List Char :=
  splitEntry (readers.trim entry)

inductive Nameservers where
  | text (value : List Char)
  | list (entries : List (List Char))

def Nameservers.entries (readers : TextReaders) : Nameservers → List (List Char)
  | .text value => ((value.splitOn ',').map readers.trim).filter (· ≠ [])
  | .list entries => entries

def inRange (number : Int) : Bool := 0 ≤ number ∧ number ≤ 65535

/-- Whether neither `ip_address` nor the test of the port raises. -/
def isValid (readers : TextReaders) (split : List Char × List Char) : Bool :=
  (readers.version split.1).isSome && (split.2 = [] || (readers.int split.2).any inRange)

/-- `parse_nameservers`, without the warnings about what is dropped. -/
def parseNameservers (readers : TextReaders) (value : Nameservers) : List (List Char) :=
  (value.entries readers).filter fun entry => isValid readers (splitHostPort readers entry)

/-- `_parse_nameserver`: the two arguments of `Do53Nameserver`. -/
def parseNameserver (readers : TextReaders) (entry : List Char) : Option (List Char × Int) :=
  let (host, port) := splitHostPort readers entry
  if port = [] then some (host, 53) else (readers.int port).map fun number => (host, number)

end Net
end Rawfile
