import Rawfile.Text

/-! A number is read back from the text it is written as. -/

namespace Rawfile

private theorem trim_solid {blank : Char → Bool} {text : List Char} (solid : ∀ c ∈ text, blank c = false) :
    trim blank text = text := by
  have front : text.dropWhile blank = text := by
    cases text with
    | nil => rfl
    | cons c rest => simp [solid c (by simp)]
  have back : text.reverse.dropWhile blank = text.reverse := by
    cases shape : text.reverse with
    | nil => rfl
    | cons c rest =>
      have member : c ∈ text := List.mem_reverse.mp (by simp [shape])
      simp [solid c member]
  rw [trim, front, back, List.reverse_reverse]

theorem isDigit_solid {c : Char} (digit : c.isDigit = true) : isSpace c = false := by
  simp only [Char.isDigit, Bool.and_eq_true, decide_eq_true_eq] at digit
  have low : 48 ≤ c.toNat := UInt32.le_iff_toNat_le.mp digit.1
  have high : c.toNat ≤ 57 := UInt32.le_iff_toNat_le.mp digit.2
  simp only [isSpace, List.contains_cons, List.contains_nil, Bool.or_false]
  grind

private theorem readDigits_digits {digits : List Char} (all : ∀ c ∈ digits, c.isDigit = true) (value : Nat) :
    readDigits value true digits = some (Nat.ofDigitChars 10 digits value) := by
  induction digits generalizing value with
  | nil => rfl
  | cons c rest ih =>
    rw [readDigits, decimal, if_pos (all c (by simp))]
    exact ih (fun other member => all other (by simp [member])) _

theorem digits_all (number : Nat) : ∀ c ∈ Nat.toDigits 10 number, c.isDigit = true :=
  fun _ member => Nat.isDigit_of_mem_toDigits (by omega) (by omega) member

private theorem readDigits_start {digits : List Char} (some : digits ≠ []) (all : ∀ c ∈ digits, c.isDigit = true) :
    readDigits 0 false digits = Option.some (Nat.ofDigitChars 10 digits 0) := by
  cases digits with
  | nil => exact absurd rfl some
  | cons c rest =>
    rw [readDigits, decimal, if_pos (all c (by simp))]
    exact readDigits_digits (fun other member => all other (by simp [member])) _

private theorem readDigits_toDigits (number : Nat) : readDigits 0 false (Nat.toDigits 10 number) = some number := by
  rw [readDigits_start Nat.toDigits_ne_nil (digits_all number), Nat.ofDigitChars_toDigits (by omega) (by omega)]

theorem intOf_digits {text : String} (some : text.toList ≠ []) (all : ∀ c ∈ text.toList, c.isDigit = true) :
    intOf text = Option.some (Nat.ofDigitChars 10 text.toList 0 : Int) := by
  have read := readDigits_start some all
  rw [intOf, trim_solid fun c member => by rw [isDigit_solid (all c member), Bool.false_and]]
  cases shape : text.toList with
  | nil => exact absurd shape some
  | cons c rest =>
    have digit := all c (by simp [shape])
    rw [shape] at read
    split
    next same => cases same; exact absurd digit (by decide)
    next same => cases same; exact absurd digit (by decide)
    next => rw [read]; rfl

/-- A number is read back from its text. -/
theorem intOf_toString (number : Int) : intOf (toString number) = some number := by
  cases number with
  | ofNat number =>
    have text : (toString (Int.ofNat number)).toList = Nat.toDigits 10 number := Nat.toList_repr
    rw [intOf_digits (by rw [text]; exact Nat.toDigits_ne_nil) (by rw [text]; exact digits_all number), text,
      Nat.ofDigitChars_toDigits (by omega) (by omega)]
    rfl
  | negSucc number =>
    have text : (toString (Int.negSucc number)).toList = '-' :: Nat.toDigits 10 (number + 1) := by
      show ("-" ++ (number + 1).repr).toList = _
      rw [String.toList_append, Nat.toList_repr]
      rfl
    rw [intOf, text, trim_solid]
    · show (readDigits 0 false _).map _ = _
      rw [readDigits_toDigits]
      rfl
    · intro c member
      rcases List.mem_cons.mp member with rfl | member
      · decide
      · rw [isDigit_solid (digits_all _ c member), Bool.false_and]

end Rawfile
