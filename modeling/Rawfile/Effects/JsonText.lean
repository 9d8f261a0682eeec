import Mathlib.Data.List.TakeWhile
import Rawfile.Effects.JsonReaders

/-! What `dumps` writes `loads` reads back, and the text of an object cut short
anywhere after its first character has no value. -/

namespace Effects
namespace Json

variable {rest : List Char} {text : List Char} {value : Json}

/-! ### What the printer writes -/

def dumpsField (field : String × Json) : List Char := quote field.1 ++ ':' :: ' ' :: dumps field.2

theorem dumpsItems_eq (items : List Json) : dumpsItems items = items.map dumps := by
  induction items with
  | nil => rfl
  | cons item rest ih => rw [dumpsItems, ih, List.map_cons]

theorem dumpsFields_eq (fields : List (String × Json)) : dumpsFields fields = fields.map dumpsField := by
  induction fields with
  | nil => rfl
  | cons field rest ih => rw [dumpsFields, ih, List.map_cons]; rfl

theorem dumps_arr (items : List Json) : dumps (.arr items) = '[' :: commas (items.map dumps) ++ [']'] := by
  rw [dumps, dumpsItems_eq]

theorem dumps_obj (fields : List (String × Json)) :
    dumps (.obj fields) = '{' :: commas (fields.map dumpsField) ++ ['}'] := by
  rw [dumps, dumpsFields_eq]

theorem length_le_commas {texts : List (List Char)} (member : text ∈ texts) : text.length ≤ (commas texts).length := by
  induction texts with
  | nil => cases member
  | cons first rest ih =>
    cases rest with
    | nil => simp_all [commas]
    | cons second rest =>
      have longer : (commas (first :: second :: rest)).length = first.length + 2 + (commas (second :: rest)).length := by
        simp [commas]; omega
      rcases List.mem_cons.mp member with rfl | member
      · omega
      · have := ih member
        omega

/-! ### Reading what was written -/

theorem hexValue_hexDigit : ∀ n < 16, hexValue (hexDigit n) = some n := by decide

theorem readHex_hex {unit : Nat} (small : unit < 65536) (rest : List Char) :
    readHex (hex unit ++ rest) = some (unit, rest) := by
  simp only [hex, List.cons_append, List.nil_append, readHex]
  rw [hexValue_hexDigit _ (by omega), hexValue_hexDigit _ (by omega), hexValue_hexDigit _ (by omega),
    hexValue_hexDigit _ (by omega)]
  simp only [Option.bind_eq_bind, Option.bind_some, Option.some.injEq, Prod.mk.injEq, and_true]
  omega

theorem readUnicode_basic {c : Char} (small : c.toNat < 0x10000) (rest : List Char) :
    readUnicode (hex c.toNat ++ rest) = some (c, rest) := by
  have scalar : c.toNat < 0xd800 ∨ 0xdfff < c.toNat ∧ c.toNat < 0x110000 := c.valid
  simp only [readUnicode, readHex_hex small, Option.bind_eq_bind, Option.bind_some]
  rw [if_neg (by omega), if_neg (by omega), Char.ofNat_toNat]

theorem readUnicode_surrogates {high low : Nat} (isHigh : 0xd800 ≤ high ∧ high ≤ 0xdbff)
    (isLow : 0xdc00 ≤ low ∧ low ≤ 0xdfff) (rest : List Char) :
    readUnicode (hex high ++ '\\' :: 'u' :: hex low ++ rest) =
      some (Char.ofNat (0x10000 + (high - 0xd800) * 1024 + (low - 0xdc00)), rest) := by
  rw [List.append_assoc, readUnicode, readHex_hex (by omega)]
  simp only [Option.bind_eq_bind, Option.bind_some]
  rw [if_pos isHigh, List.cons_append, List.cons_append, readLow, readHex_hex (by omega)]
  simp only [Option.bind_eq_bind, Option.bind_some]
  rw [if_pos isLow]

theorem readUnicode_pair {c : Char} (large : 0x10000 ≤ c.toNat) (rest : List Char) :
    readUnicode (hex (0xd800 + (c.toNat - 0x10000) / 1024) ++
      '\\' :: 'u' :: hex (0xdc00 + (c.toNat - 0x10000) % 1024) ++ rest) = some (c, rest) := by
  have scalar : c.toNat < 0xd800 ∨ 0xdfff < c.toNat ∧ c.toNat < 0x110000 := c.valid
  rw [readUnicode_surrogates (by omega) (by omega)]
  have same : ∀ n, 0x10000 ≤ n → 0x10000 + (0xd800 + (n - 0x10000) / 1024 - 0xd800) * 1024 +
      (0xdc00 + (n - 0x10000) % 1024 - 0xdc00) = n := by omega
  rw [same _ large, Char.ofNat_toNat]

theorem unescape_short : ∀ pair ∈ shortEscapes, pair.2 ≠ 'u' ∧ unescape pair.2 = some pair.1 := by decide

theorem readChar_escape (c : Char) (rest : List Char) : readChar (escape c ++ rest) = some (c, rest) := by
  unfold escape
  split
  next letter found =>
    obtain ⟨before, after, shape, _⟩ := List.lookup_eq_some_iff.mp found
    obtain ⟨short, known⟩ := unescape_short (c, letter) (by simp [shape])
    simp [readChar, short, known]
  next plain =>
    split
    next printable =>
      have backslash : c ≠ '\\' := by rintro rfl; cases plain
      have visible : ¬ c < ' ' := Char.not_lt.mpr printable.1
      simp [readChar, backslash, visible]
    next =>
      split
      next small => simpa [readChar] using readUnicode_basic small rest
      next large => simpa [readChar] using readUnicode_pair (Nat.not_lt.mp large) rest

theorem escape_head (c : Char) : ∃ first others, escape c = first :: others ∧ first ≠ '"' := by
  unfold escape
  split
  next => exact ⟨_, _, rfl, by decide⟩
  next plain =>
    split
    next => exact ⟨c, [], rfl, by rintro rfl; cases plain⟩
    next =>
      split
      next => exact ⟨_, _, rfl, by decide⟩
      next => exact ⟨_, _, rfl, by decide⟩

theorem readString_escape {chars : List Char} {fuel : Nat} (enough : chars.length < fuel) (rest : List Char) :
    readString fuel (chars.flatMap escape ++ '"' :: rest) = some (chars, rest) := by
  induction chars generalizing fuel with
  | nil =>
    obtain ⟨fuel, rfl⟩ : ∃ less, fuel = less + 1 := ⟨fuel - 1, by simp at enough; omega⟩
    simp [readString]
  | cons c chars ih =>
    obtain ⟨fuel, rfl⟩ : ∃ less, fuel = less + 1 := ⟨fuel - 1, by simp at enough; omega⟩
    have read := readChar_escape c (chars.flatMap escape ++ '"' :: rest)
    obtain ⟨first, others, shape, quote⟩ := escape_head c
    rw [List.flatMap_cons, List.append_assoc]
    simp only [shape, List.cons_append] at read ⊢
    rw [readString, if_neg quote, read]
    simp only [Option.bind_eq_bind, Option.bind_some]
    rw [ih (by simp at enough; omega)]
    rfl

theorem length_le_escape (chars : List Char) : chars.length ≤ (chars.flatMap escape).length := by
  induction chars with
  | nil => simp
  | cons c chars ih =>
    obtain ⟨first, others, shape, _⟩ := escape_head c
    simp only [List.flatMap_cons, List.length_append, List.length_cons, shape]
    omega

theorem readString_quoted (text : String) (rest : List Char) :
    readString (text.toList.flatMap escape ++ '"' :: rest).length (text.toList.flatMap escape ++ '"' :: rest) =
      some (text.toList, rest) := by
  have := length_le_escape text.toList
  exact readString_escape (by simp only [List.length_append, List.length_cons]; omega) rest

/-- Nothing that follows can belong to a number. -/
def Delimited (rest : List Char) : Prop := ∀ c ∈ rest.head?, c.isDigit = false ∧ c ≠ '.' ∧ c ≠ 'e' ∧ c ≠ 'E'

theorem delimited_nil : Delimited [] := by simp [Delimited]

theorem digits_span {digits rest : List Char} (all : ∀ c ∈ digits, c.isDigit = true) (delimited : Delimited rest) :
    (digits ++ rest).takeWhile Char.isDigit = digits ∧ (digits ++ rest).dropWhile Char.isDigit = rest := by
  induction digits with
  | nil =>
    cases rest with
    | nil => simp
    | cons c rest =>
      have := (delimited c rfl).1
      simp [this]
  | cons c digits ih =>
    have := ih fun other member => all other (by simp [member])
    simpa [all c (by simp)] using this

theorem digitChar_ne_zero : ∀ n < 10, 0 < n → [Nat.digitChar n].head? ≠ some '0' := by decide

theorem toDigits_head {n : Nat} (positive : 0 < n) : (Nat.toDigits 10 n).head? ≠ some '0' := by
  induction n using Nat.strongRecOn with
  | ind n ih =>
    rw [Nat.toDigits_eq_if (by omega)]
    split
    next small => exact digitChar_ne_zero n small positive
    next large =>
      rw [List.head?_append_of_ne_nil _ Nat.toDigits_ne_nil]
      exact ih (n / 10) (by omega) (by omega)

theorem readNat_toDigits (n : Nat) (delimited : Delimited rest) :
    readNat (Nat.toDigits 10 n ++ rest) = some (n, rest) := by
  have all : ∀ c ∈ Nat.toDigits 10 n, c.isDigit = true := fun c member =>
    Nat.isDigit_of_mem_toDigits (by omega) (by omega) member
  have value : Nat.ofDigitChars 10 (Nat.toDigits 10 n) 0 = n := Nat.ofDigitChars_toDigits (by omega) (by omega)
  rcases Nat.eq_zero_or_pos n with rfl | positive
  · simp [readNat]
  · have head := toDigits_head positive
    cases shape : Nat.toDigits 10 n with
    | nil => exact absurd shape Nat.toDigits_ne_nil
    | cons c digits =>
      rw [shape] at all value head
      have nonzero : c ≠ '0' := by simpa using head
      have later : ∀ other ∈ digits, other.isDigit = true := fun other member => all other (by simp [member])
      obtain ⟨taken, dropped⟩ := digits_span later delimited
      rw [List.cons_append, readNat, if_neg nonzero, if_pos (all c (by simp)), taken, dropped, value]

theorem readInt_dumps (number : Int) (delimited : Delimited rest) :
    readInt (dumpsInt number ++ rest) = some (number, rest) := by
  unfold dumpsInt
  split
  next negative =>
    simp only [List.cons_append, readInt, if_true, readNat_toDigits _ delimited, Option.map_some,
      Option.some.injEq, Prod.mk.injEq, and_true]
    omega
  next positive =>
    cases shape : Nat.toDigits 10 number.natAbs with
    | nil => exact absurd shape Nat.toDigits_ne_nil
    | cons c digits =>
      have digit : c.isDigit = true :=
        Nat.isDigit_of_mem_toDigits (by omega) (by omega) (show c ∈ Nat.toDigits 10 number.natAbs by simp [shape])
      have minus : c ≠ '-' := by rintro rfl; cases digit
      rw [List.cons_append, readInt, if_neg minus, ← List.cons_append, ← shape, readNat_toDigits _ delimited]
      simp only [Option.map_some, Option.some.injEq, Prod.mk.injEq, and_true]
      omega

theorem dropWhile_onward {digits rest : List Char} (delimited : Delimited rest) :
    (digits ++ rest).takeWhile Char.isDigit = digits.takeWhile Char.isDigit ∧
      (digits ++ rest).dropWhile Char.isDigit = digits.dropWhile Char.isDigit ++ rest := by
  by_cases left : digits.dropWhile Char.isDigit = []
  · have all : ∀ c ∈ digits, c.isDigit = true := List.dropWhile_eq_nil_iff.mp left
    have whole : digits.takeWhile Char.isDigit = digits := List.takeWhile_eq_self_iff.mpr all
    obtain ⟨taken, dropped⟩ := digits_span all delimited
    exact ⟨by rw [taken, whole], by rw [dropped, left, List.nil_append]⟩
  · exact dropWhile_continues left rest

theorem readNat_onward {text last rest : List Char} {number : Nat} (read : readNat text = some (number, last))
    (delimited : Delimited rest) : readNat (text ++ rest) = some (number, last ++ rest) := by
  match text with
  | [] => cases read
  | c :: text =>
    obtain ⟨taken, dropped⟩ := @dropWhile_onward text rest delimited
    simp only [List.cons_append, readNat, taken, dropped] at read ⊢
    split at read
    next zero => cases read; rw [if_pos zero]
    next positive =>
      split at read
      next digit => cases read; rw [if_neg positive, if_pos digit]
      next => cases read

theorem readInt_onward {text last rest : List Char} {number : Int} (read : readInt text = some (number, last))
    (delimited : Delimited rest) : readInt (text ++ rest) = some (number, last ++ rest) := by
  match text with
  | [] => cases read
  | c :: text =>
    simp only [List.cons_append, readInt] at read ⊢
    split at read
    next negative =>
      obtain ⟨⟨natural, left⟩, digits, same⟩ := Option.map_eq_some_iff.mp read
      cases same
      rw [if_pos negative, readNat_onward digits delimited]
      rfl
    next positive =>
      obtain ⟨⟨natural, left⟩, digits, same⟩ := Option.map_eq_some_iff.mp read
      cases same
      rw [if_neg positive, ← List.cons_append, readNat_onward digits delimited]
      rfl

theorem readFraction_onward {text fraction last rest : List Char} (read : readFraction text = some (fraction, last))
    (delimited : Delimited rest) : readFraction (text ++ rest) = some (fraction, last ++ rest) := by
  match text with
  | [] =>
    cases read
    match rest with
    | [] => rfl
    | c :: rest => exact if_neg (delimited c rfl).2.1
  | c :: text =>
    obtain ⟨taken, dropped⟩ := @dropWhile_onward text rest delimited
    simp only [List.cons_append, readFraction, taken, dropped] at read ⊢
    split at read
    next point =>
      split at read
      next => cases read
      next digits => cases read; rw [if_pos point, if_neg digits]
    next whole => cases read; rw [if_neg whole, List.cons_append]

theorem readExponent_onward {text exponent last rest : List Char} (read : readExponent text = some (exponent, last))
    (delimited : Delimited rest) : readExponent (text ++ rest) = some (exponent, last ++ rest) := by
  match text with
  | [] =>
    cases read
    match rest with
    | [] => rfl
    | c :: rest =>
      have other := (delimited c rfl).2.2
      exact if_neg (by simp [other.1, other.2])
  | c :: text =>
    simp only [List.cons_append, readExponent] at read ⊢
    split at read
    next marked =>
      split at read
      next => cases read
      next digits =>
        cases read
        have signed : text ≠ [] := by rintro rfl; exact digits rfl
        obtain ⟨taken, dropped⟩ := @dropWhile_onward (readSign text).2 rest delimited
        rw [if_pos marked, readSign_append signed, taken, dropped, if_neg digits]
    next whole => cases read; rw [if_neg whole, List.cons_append]

theorem readParts_onward {text last rest : List Char} {parts : Int × List Char × List Char}
    (read : readParts text = some (parts, last)) (delimited : Delimited rest) :
    readParts (text ++ rest) = some (parts, last ++ rest) := by
  simp only [readParts, Option.bind_eq_bind, Option.bind_eq_some_iff, Prod.exists] at read
  obtain ⟨number, first, readFirst, fraction, second, readSecond, exponent, third, readThird, same⟩ := read
  cases same
  simp only [readParts, readInt_onward readFirst delimited, readFraction_onward readSecond delimited,
    readExponent_onward readThird delimited, Option.bind_eq_bind, Option.bind_some]

theorem readNumber_dumpsInt (number : Int) (delimited : Delimited rest) :
    readNumber (dumpsInt number ++ rest) = some (.int number, rest) := by
  have whole : readParts (dumpsInt number) = some ((number, [], []), []) := by
    have read := readInt_dumps number delimited_nil
    rw [List.append_nil] at read
    simp only [readParts, read, readFraction, readExponent, Option.bind_eq_bind, Option.bind_some]
  simp only [readNumber, readParts_onward whole delimited, Option.bind_eq_bind, Option.bind_some, List.nil_append,
    and_self, if_true]

theorem FloatLiteral.parts (number : FloatLiteral) : ∃ whole fraction exponent,
    readParts number.text = some ((whole, fraction, exponent), []) ∧ ¬ (fraction = [] ∧ exponent = []) := by
  have literal := number.literal
  unfold isFloat at literal
  split at literal
  next whole fraction exponent rest read =>
    simp only [Bool.and_eq_true, decide_eq_true_eq, Bool.or_eq_true, ne_eq] at literal
    obtain ⟨rfl, parts⟩ := literal
    exact ⟨whole, fraction, exponent, read, by tauto⟩
  next => cases literal

theorem readNumber_float (number : FloatLiteral) (delimited : Delimited rest) :
    readNumber (number.text ++ rest) = some (.float number, rest) := by
  obtain ⟨whole, fraction, exponent, read, part⟩ := number.parts
  have literal : (number.text ++ rest).take ((number.text ++ rest).length - rest.length) = number.text := by simp
  simp only [readNumber, readParts_onward read delimited, Option.bind_eq_bind, Option.bind_some, List.nil_append,
    literal, if_neg part, dif_pos number.literal]

theorem readInt_head {c : Char} {number : Int} (read : readInt (c :: text) = some (number, rest)) :
    c = '-' ∨ c.isDigit = true := by
  simp only [readInt] at read
  split at read
  next minus => exact .inl minus
  next =>
    obtain ⟨⟨natural, last⟩, digits, _⟩ := Option.map_eq_some_iff.mp read
    simp only [readNat] at digits
    split at digits
    next zero => subst zero; exact .inr rfl
    next =>
      split at digits
      next digit => exact .inr digit
      next => cases digits

theorem readNumber_head {c : Char} (read : readNumber (c :: text) = some (value, rest)) : c = '-' ∨ c.isDigit = true := by
  simp only [readNumber, readParts, Option.bind_eq_bind, Option.bind_eq_some_iff, Prod.exists] at read
  obtain ⟨_, _, _, _, ⟨_, _, first, _⟩, _⟩ := read
  exact readInt_head first

theorem skipSpace_solid {c : Char} (solid : isSpace c = false) (rest : List Char) :
    skipSpace (c :: rest) = c :: rest := by
  simp [skipSpace, solid]

/-- A printed value does not begin with white space or a closing bracket. -/
def Solid (text : List Char) : Prop :=
  ∃ first others, text = first :: others ∧ isSpace first = false ∧ first ≠ ']' ∧ first ≠ '}'

theorem solid_quote (text : String) : Solid (quote text) := ⟨_, _, rfl, by decide⟩

theorem isDigit_solid {c : Char} (digit : c.isDigit = true) : isSpace c = false ∧ c ≠ ']' ∧ c ≠ '}' := by
  refine ⟨?_, ?_, ?_⟩
  · simp only [isSpace, Bool.or_eq_false_iff, decide_eq_false_iff_not]
    refine ⟨⟨⟨?_, ?_⟩, ?_⟩, ?_⟩ <;> (rintro rfl; cases digit)
  · rintro rfl; cases digit
  · rintro rfl; cases digit

theorem solid_dumpsInt (number : Int) : Solid (dumpsInt number) := by
  unfold dumpsInt
  split
  next => exact ⟨_, _, rfl, by decide⟩
  next =>
    cases shape : Nat.toDigits 10 number.natAbs with
    | nil => exact absurd shape Nat.toDigits_ne_nil
    | cons c digits =>
      exact ⟨c, digits, rfl, isDigit_solid
        (Nat.isDigit_of_mem_toDigits (by omega) (by omega) (show c ∈ Nat.toDigits 10 number.natAbs by simp [shape]))⟩

theorem solid_float (number : FloatLiteral) : Solid number.text := by
  have read := readNumber_float number delimited_nil
  rw [List.append_nil] at read
  match shape : number.text with
  | [] => rw [shape] at read; cases read
  | c :: others =>
    rw [shape] at read
    rcases readNumber_head read with rfl | digit
    · exact ⟨_, _, rfl, by decide⟩
    · exact ⟨c, others, rfl, isDigit_solid digit⟩

theorem solid_dumps (value : Json) : Solid (dumps value) := by
  cases value with
  | null => exact ⟨_, _, rfl, by decide⟩
  | bool flag => cases flag <;> exact ⟨_, _, rfl, by decide⟩
  | int number => rw [dumps]; exact solid_dumpsInt number
  | float number => rw [dumps]; exact solid_float number
  | str text => rw [dumps]; exact solid_quote text
  | arr items => rw [dumps]; exact ⟨_, _, rfl, by decide⟩
  | obj fields => rw [dumps]; exact ⟨_, _, rfl, by decide⟩

theorem solid_dumpsField (field : String × Json) : Solid (dumpsField field) := ⟨_, _, rfl, by decide⟩

theorem Solid.skip (solid : Solid text) (rest : List Char) : skipSpace (text ++ rest) = text ++ rest := by
  obtain ⟨first, others, rfl, visible, _⟩ := solid
  exact skipSpace_solid visible _

theorem solid_commas {texts : List (List Char)} (solid : Solid text) : Solid (commas (text :: texts)) := by
  obtain ⟨first, others, rfl, visible⟩ := solid
  cases texts with
  | nil => exact ⟨first, others, rfl, visible⟩
  | cons second texts => exact ⟨first, _, rfl, visible⟩

theorem commas_cons (text next : List Char) (texts : List (List Char)) :
    commas (text :: next :: texts) = text ++ ',' :: ' ' :: commas (next :: texts) := rfl

theorem readItems_commas {item : Reader α} {print : α → List Char} {close : Char} (bracket : close = ']' ∨ close = '}')
    {items : List α} (nonempty : items ≠ []) (solid : ∀ value ∈ items, Solid (print value))
    (reads : ∀ value ∈ items, ∀ rest, Delimited rest → item (print value ++ rest) = some (value, rest))
    {fuel : Nat} (enough : items.length ≤ fuel) (rest : List Char) :
    readItems item close fuel (commas (items.map print) ++ close :: rest) = some (items, rest) := by
  have visible : isSpace close = false := by rcases bracket with rfl | rfl <;> rfl
  have delimited : Delimited (close :: rest) := by rcases bracket with rfl | rfl <;> simp [Delimited]
  have noComma : ',' ≠ close := by rcases bracket with rfl | rfl <;> decide
  induction items generalizing fuel with
  | nil => exact absurd rfl nonempty
  | cons value items ih =>
    obtain ⟨fuel, rfl⟩ : ∃ less, fuel = less + 1 := ⟨fuel - 1, by simp at enough; omega⟩
    cases items with
    | nil => simp [readItems, commas, reads value (by simp) _ delimited, skipSpace_solid visible]
    | cons next items =>
      have read := reads value (by simp) (',' :: ' ' :: (commas ((next :: items).map print) ++ close :: rest))
        (by simp [Delimited])
      have others := ih (by simp) (fun other member => solid other (by simp_all))
        (fun other member => reads other (by simp_all)) (by simpa using enough)
      have skipped : skipSpace (' ' :: (commas ((next :: items).map print) ++ close :: rest)) =
          commas ((next :: items).map print) ++ close :: rest := by
        rw [List.map_cons]
        exact (solid_commas (solid next (by simp))).skip (close :: rest)
      rw [List.map_cons, List.map_cons, commas_cons, ← List.map_cons, List.append_assoc, List.cons_append,
        List.cons_append, readItems, read]
      simp only [Option.bind_eq_bind, Option.bind_some, skipSpace_solid (show isSpace ',' = false from rfl),
        if_neg noComma, if_true, skipped, others]

theorem count_le_commas {texts : List (List Char)} (solid : ∀ text ∈ texts, Solid text) :
    texts.length ≤ (commas texts).length := by
  induction texts with
  | nil => simp
  | cons text texts ih =>
    obtain ⟨first, others, rfl, _⟩ := solid text (by simp)
    cases texts with
    | nil => simp [commas]
    | cons next texts =>
      have := ih fun other member => solid other (by simp_all)
      simp only [commas_cons, List.length_append, List.length_cons] at this ⊢
      omega

theorem readGroup_commas {item : Reader α} {print : α → List Char} {close : Char} (bracket : close = ']' ∨ close = '}')
    {items : List α} (solid : ∀ value ∈ items, Solid (print value))
    (reads : ∀ value ∈ items, ∀ rest, Delimited rest → item (print value ++ rest) = some (value, rest))
    (rest : List Char) :
    readGroup item close (commas (items.map print) ++ close :: rest) = some (items, rest) := by
  cases items with
  | nil =>
    have visible : isSpace close = false := by rcases bracket with rfl | rfl <;> rfl
    simp [readGroup, commas, skipSpace_solid visible]
  | cons value items =>
    have whole : Solid (commas ((value :: items).map print)) := by
      rw [List.map_cons]
      exact solid_commas (solid value (by simp))
    have count : ((value :: items).map print).length ≤ (commas ((value :: items).map print)).length :=
      count_le_commas (by simpa using solid)
    have back : readItems item close (commas ((value :: items).map print) ++ close :: rest).length
        (commas ((value :: items).map print) ++ close :: rest) = some (value :: items, rest) :=
      readItems_commas bracket (by simp) solid reads (by simp at count ⊢; omega) rest
    obtain ⟨first, others, shape, visible, array, object⟩ := whole
    have open_ : first ≠ close := by rcases bracket with rfl | rfl <;> assumption
    rw [shape] at back ⊢
    rw [readGroup, List.cons_append, skipSpace_solid visible]
    simp only [if_neg open_]
    exact back

theorem readField_dumps {value : Reader Json} {field : String × Json}
    (reads : value (dumps field.2 ++ rest) = some (field.2, rest)) :
    readField value (dumpsField field ++ rest) = some (field, rest) := by
  have key := readString_quoted field.1 (':' :: ' ' :: (dumps field.2 ++ rest))
  have skipped : skipSpace (' ' :: (dumps field.2 ++ rest)) = dumps field.2 ++ rest := (solid_dumps field.2).skip rest
  have shape : dumpsField field ++ rest =
      '"' :: (field.1.toList.flatMap escape ++ '"' :: ':' :: ' ' :: (dumps field.2 ++ rest)) := by
    simp [dumpsField, quote]
  rw [shape, readField, if_pos rfl, key]
  simp only [Option.bind_eq_bind, Option.bind_some, skipSpace_solid (show isSpace ':' = false from rfl), if_true,
    skipped, reads, String.ofList_toList]

theorem length_dumps_item {item : Json} {items : List Json} (member : item ∈ items) :
    (dumps item).length < (dumps (.arr items)).length := by
  have := length_le_commas (List.mem_map_of_mem (f := dumps) member)
  rw [dumps_arr]
  simp
  omega

theorem length_dumps_field {field : String × Json} {fields : List (String × Json)} (member : field ∈ fields) :
    (dumps field.2).length < (dumps (.obj fields)).length := by
  have := length_le_commas (List.mem_map_of_mem (f := dumpsField) member)
  rw [dumps_obj]
  simp [dumpsField] at this ⊢
  omega

theorem readWord_word (word : List Char) (value : Json) (rest : List Char) :
    readWord word value (word ++ rest) = some (value, rest) := by
  simp [readWord]

theorem readValue_number {text : List Char} {value : Json} {rest : List Char} (depth : Nat)
    (read : readNumber text = some (value, rest)) : readValue (depth + 1) text = some (value, rest) := by
  match text with
  | [] => cases read
  | c :: text =>
    have other : ∀ letter, letter.isDigit = false → letter ≠ '-' → c ≠ letter := by
      intro letter noDigit noMinus same
      subst same
      rcases readNumber_head read with minus | digit
      · exact noMinus minus
      · rw [noDigit] at digit; cases digit
    simp only [readValue, if_neg (other '"' rfl (by decide)), if_neg (other '[' rfl (by decide)),
      if_neg (other '{' rfl (by decide)), if_neg (other 'n' rfl (by decide)), if_neg (other 't' rfl (by decide)),
      if_neg (other 'f' rfl (by decide)), read]

theorem dumps_positive {depth : Nat} (enough : (dumps value).length ≤ depth) : ∃ less, depth = less + 1 := by
  obtain ⟨first, others, shape, _⟩ := solid_dumps value
  exact ⟨depth - 1, by simp [shape] at enough; omega⟩

theorem readValue_dumps {value : Json} (valid : Valid value) {depth : Nat} (enough : (dumps value).length ≤ depth)
    {rest : List Char} (delimited : Delimited rest) : readValue depth (dumps value ++ rest) = some (value, rest) := by
  induction valid generalizing depth rest with
  | null =>
    obtain ⟨depth, rfl⟩ := dumps_positive enough
    exact readWord_word ['n', 'u', 'l', 'l'] .null rest
  | bool flag =>
    obtain ⟨depth, rfl⟩ := dumps_positive enough
    cases flag with
    | false => exact readWord_word ['f', 'a', 'l', 's', 'e'] (.bool false) rest
    | true => exact readWord_word ['t', 'r', 'u', 'e'] (.bool true) rest
  | int number =>
    obtain ⟨depth, rfl⟩ := dumps_positive enough
    rw [dumps]
    exact readValue_number depth (readNumber_dumpsInt number delimited)
  | float number =>
    obtain ⟨depth, rfl⟩ := dumps_positive enough
    rw [dumps]
    exact readValue_number depth (readNumber_float number delimited)
  | str text =>
    obtain ⟨depth, rfl⟩ := dumps_positive enough
    have read := readString_quoted text rest
    rw [dumps, quote, List.append_assoc, List.cons_append, readValue, if_pos rfl]
    simp only [List.cons_append, List.nil_append, read, Option.map_some, String.ofList_toList]
  | @arr items each ih =>
    obtain ⟨depth, rfl⟩ := dumps_positive enough
    have reads : ∀ item ∈ items, ∀ rest, Delimited rest → readValue depth (dumps item ++ rest) = some (item, rest) := by
      intro item member rest delimited
      have shorter := length_dumps_item member
      exact ih item member (by omega) delimited
    have read := readGroup_commas (.inl rfl) (fun item _ => solid_dumps item) reads rest
    have shape : dumps (.arr items) ++ rest = '[' :: (commas (items.map dumps) ++ ']' :: rest) := by
      simp [dumps_arr]
    rw [shape, readValue, if_neg (by decide), if_pos rfl, read]
    rfl
  | @obj fields nodup each ih =>
    obtain ⟨depth, rfl⟩ := dumps_positive enough
    have reads : ∀ field ∈ fields, ∀ rest, Delimited rest →
        readField (readValue depth) (dumpsField field ++ rest) = some (field, rest) := by
      intro field member rest delimited
      have shorter := length_dumps_field member
      exact readField_dumps (ih field member (by omega) delimited)
    have read := readGroup_commas (.inr rfl) (fun field _ => solid_dumpsField field) reads rest
    have shape : dumps (.obj fields) ++ rest = '{' :: (commas (fields.map dumpsField) ++ '}' :: rest) := by
      simp [dumps_obj]
    rw [shape, readValue, if_neg (by decide), if_neg (by decide), if_pos rfl, read]
    simp only [Option.map_some, Dict.ofPairs_of_nodup nodup]

theorem loads_dumps (valid : Valid value) : loads (dumps value) = some value := by
  have read := readValue_dumps valid (Nat.le_refl _) delimited_nil
  have skipped := (solid_dumps value).skip []
  rw [List.append_nil] at read skipped
  simp only [loads, skipped, read, Option.bind_eq_bind, Option.bind_some]
  rfl

theorem readValue_object {depth deeper : Nat} (enough : depth ≤ deeper) {text rest : List Char} {value : Json}
    (read : readValue depth ('{' :: text) = some (value, rest)) (more : List Char) :
    readValue deeper ('{' :: text ++ more) = some (value, rest ++ more) := by
  match depth, deeper with
  | 0, _ => cases read
  | depth + 1, 0 => omega
  | depth + 1, deeper + 1 =>
    rw [readValue, if_neg (by decide), if_neg (by decide), if_pos rfl] at read
    obtain ⟨⟨pairs, last⟩, found, same⟩ := Option.map_eq_some_iff.mp read
    cases same
    have further := readGroup_closes (readField_continues (readValue_continues (show depth ≤ deeper by omega))) more found
    rw [List.cons_append, readValue, if_neg (by decide), if_neg (by decide), if_pos rfl, further]
    rfl

/-- The text of an object cut after at least one character is no JSON. -/
theorem loads_cut {fields : List (String × Json)} (valid : Valid (.obj fields)) {start more : List Char}
    (whole : start ++ more = dumps (.obj fields)) (begun : start ≠ []) (cut : more ≠ []) : loads start = none := by
  match start with
  | [] => exact absurd rfl begun
  | c :: text =>
    have brace : c = '{' := by
      rw [dumps_obj] at whole
      exact (List.cons.inj whole).1
    subst brace
    cases loaded : loads ('{' :: text) with
    | none => rfl
    | some value =>
      simp only [loads, Option.bind_eq_bind, Option.bind_eq_some_iff, Prod.exists] at loaded
      obtain ⟨result, rest, read, _⟩ := loaded
      rw [skipSpace_solid rfl] at read
      have longer : ('{' :: text).length ≤ (dumps (.obj fields)).length := by rw [← whole]; simp
      have further := readValue_object longer read more
      have back := readValue_dumps valid (Nat.le_refl _) delimited_nil
      rw [List.append_nil, ← whole] at back
      rw [whole] at further
      rw [whole, further] at back
      have left : rest ++ more = [] := (Prod.mk.inj (Option.some.inj back)).2
      exact absurd (List.append_eq_nil_iff.mp left).2 cut

end Json
end Effects
