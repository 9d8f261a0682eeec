import Mathlib.Data.List.Induction
import Rawfile.Effects.Json

/-! The values `loads` can build, and readers that do not look ahead: what they
found at the front of a text they find at the front of every longer text. -/

namespace Effects

namespace Json

/-- No object names a key twice, as in every value Python can build. -/
inductive Valid : Json → Prop
  | null : Valid .null
  | bool (flag : Bool) : Valid (.bool flag)
  | int (number : Int) : Valid (.int number)
  | float (number : FloatLiteral) : Valid (.float number)
  | str (text : String) : Valid (.str text)
  | arr {items : List Json} (each : ∀ item ∈ items, Valid item) : Valid (.arr items)
  | obj {fields : List (String × Json)} (nodup : (fields.map Prod.fst).Nodup) (each : ∀ field ∈ fields, Valid field.2) :
    Valid (.obj fields)

theorem Valid.set {key : String} {value : Json} {fields : List (String × Json)} (valid : Valid (.obj fields))
    (added : Valid value) : Valid (.obj (Dict.set key value fields)) := by
  cases valid with
  | obj nodup each =>
    refine .obj (Dict.nodup_set nodup) fun field member => ?_
    rcases Dict.mem_set member with rfl | member
    · exact added
    · exact each field member

/-! ### Readers that do not look ahead -/

/-- On a longer text the wider reader reads the same value, if something was
left of the shorter one. -/
structure Continues (read wider : Reader α) : Prop where
  empty : read [] = none
  further : ∀ {text value rest} more, read text = some (value, rest) → rest ≠ [] →
    wider (text ++ more) = some (value, rest ++ more)

def Closes (read wider : Reader α) : Prop :=
  ∀ {text value rest} more, read text = some (value, rest) → wider (text ++ more) = some (value, rest ++ more)

theorem skipSpace_append {text : List Char} (some : skipSpace text ≠ []) (more : List Char) :
    skipSpace (text ++ more) = skipSpace text ++ more := by
  simp only [skipSpace, List.dropWhile_append]
  split
  next all => exact absurd (List.isEmpty_iff.mp all) some
  next => rfl

theorem readHex_closes : Closes readHex readHex := by
  intro text value rest more read
  match text with
  | a :: b :: c :: d :: rest =>
    simp only [readHex, Option.bind_eq_bind, Option.bind_eq_some_iff, Option.some.injEq, Prod.mk.injEq] at read
    obtain ⟨first, hexA, second, hexB, third, hexC, fourth, hexD, rfl, rfl⟩ := read
    simp [readHex, hexA, hexB, hexC, hexD]
  | [] | [_] | [_, _] | [_, _, _] => cases read

theorem readLow_closes (high : Nat) : Closes (readLow high) (readLow high) := by
  intro text value rest more read
  unfold readLow at read
  split at read
  next text =>
    simp only [Option.bind_eq_bind, Option.bind_eq_some_iff, Prod.exists] at read
    obtain ⟨low, left, hexed, read⟩ := read
    simp only [List.cons_append, readLow, readHex_closes more hexed, Option.bind_eq_bind, Option.bind_some]
    split at read
    next paired =>
      obtain ⟨rfl, rfl⟩ : _ = value ∧ left = rest := by simpa only [Option.some.injEq, Prod.mk.injEq] using read
      rw [if_pos paired]
    next => cases read
  next => cases read

theorem readUnicode_closes : Closes readUnicode readUnicode := by
  intro text value rest more read
  simp only [readUnicode, Option.bind_eq_bind, Option.bind_eq_some_iff, Prod.exists] at read
  obtain ⟨unit, left, hexed, read⟩ := read
  simp only [readUnicode, readHex_closes more hexed, Option.bind_eq_bind, Option.bind_some]
  split at read
  next paired => rw [if_pos paired]; exact readLow_closes unit more read
  next alone =>
    rw [if_neg alone]
    split at read
    next => cases read
    next whole => cases read; rw [if_neg whole]

theorem readChar_closes : Closes readChar readChar := by
  intro text value rest more read
  match text with
  | [] => cases read
  | c :: text =>
    simp only [List.cons_append, readChar] at read ⊢
    split at read
    next escaped =>
      rw [if_pos escaped]
      match text with
      | [] => cases read
      | letter :: left =>
        simp only [List.cons_append] at read ⊢
        split at read
        next unicode => rw [if_pos unicode]; exact readUnicode_closes more read
        next short =>
          rw [if_neg short]
          obtain ⟨c, known, same⟩ := Option.map_eq_some_iff.mp read
          cases same
          rw [known]; rfl
    next plain =>
      rw [if_neg plain]
      split at read
      next => cases read
      next printable => cases read; rw [if_neg printable]

theorem readString_closes {fuel wider : Nat} (enough : fuel ≤ wider) : Closes (readString fuel) (readString wider) := by
  intro text value rest more read
  induction fuel generalizing text value wider with
  | zero => cases read
  | succ fuel ih =>
    obtain ⟨wider, rfl⟩ : ∃ less, wider = less + 1 := ⟨wider - 1, by omega⟩
    match text with
    | [] => cases read
    | c :: text =>
      simp only [List.cons_append, readString] at read ⊢
      split at read
      next quoted => cases read; rw [if_pos quoted]
      next inside =>
        simp only [Option.bind_eq_bind, Option.bind_eq_some_iff, Prod.exists] at read
        obtain ⟨first, left, charRead, others, last, stringRead, same⟩ := read
        cases same
        rw [if_neg inside, ← List.cons_append, readChar_closes more charRead]
        simp only [Option.bind_eq_bind, Option.bind_some]
        rw [ih (by omega) stringRead]
        rfl

theorem dropWhile_continues {p : Char → Bool} {text : List Char} (left : text.dropWhile p ≠ []) (more : List Char) :
    (text ++ more).takeWhile p = text.takeWhile p ∧ (text ++ more).dropWhile p = text.dropWhile p ++ more := by
  induction text with
  | nil => cases left rfl
  | cons c rest ih =>
    by_cases passes : p c = true
    · have := ih (by simpa [passes] using left)
      simpa [passes] using this
    · simp [passes]

theorem readNat_continues : Continues readNat readNat where
  empty := rfl
  further := by
    intro text value rest more read left
    match text with
    | [] => cases read
    | c :: text =>
      simp only [List.cons_append, readNat] at read ⊢
      split at read
      next zero => cases read; rw [if_pos zero]
      next positive =>
        rw [if_neg positive]
        split at read
        next digit =>
          cases read
          obtain ⟨taken, dropped⟩ := dropWhile_continues left more
          rw [if_pos digit, taken, dropped]
        next => cases read

theorem readInt_continues : Continues readInt readInt where
  empty := rfl
  further := by
    intro text value rest more read left
    match text with
    | [] => cases read
    | c :: text =>
      simp only [List.cons_append, readInt] at read ⊢
      split at read
      next negative =>
        obtain ⟨⟨number, last⟩, digits, same⟩ := Option.map_eq_some_iff.mp read
        cases same
        rw [if_pos negative, readNat_continues.further more digits left]; rfl
      next positive =>
        obtain ⟨⟨number, last⟩, digits, same⟩ := Option.map_eq_some_iff.mp read
        cases same
        rw [if_neg positive, ← List.cons_append, readNat_continues.further more digits left]; rfl

theorem readFraction_further {text fraction rest : List Char} (more : List Char)
    (read : readFraction text = some (fraction, rest)) (left : rest ≠ []) :
    readFraction (text ++ more) = some (fraction, rest ++ more) := by
  match text with
  | [] => cases read; exact absurd rfl left
  | c :: text =>
    simp only [List.cons_append, readFraction] at read ⊢
    split at read
    next point =>
      rw [if_pos point]
      split at read
      next => cases read
      next digits =>
        cases read
        obtain ⟨taken, dropped⟩ := dropWhile_continues left more
        rw [taken, dropped, if_neg digits]
    next whole => cases read; rw [if_neg whole, List.cons_append]

theorem readSign_append {text : List Char} (some : text ≠ []) (more : List Char) :
    readSign (text ++ more) = ((readSign text).1, (readSign text).2 ++ more) := by
  match text with
  | [] => exact absurd rfl some
  | c :: text =>
    simp only [List.cons_append, readSign]
    split <;> rfl

theorem readExponent_further {text exponent rest : List Char} (more : List Char)
    (read : readExponent text = some (exponent, rest)) (left : rest ≠ []) :
    readExponent (text ++ more) = some (exponent, rest ++ more) := by
  match text with
  | [] => cases read; exact absurd rfl left
  | c :: text =>
    simp only [List.cons_append, readExponent] at read ⊢
    split at read
    next marked =>
      rw [if_pos marked]
      split at read
      next => cases read
      next digits =>
        cases read
        have signed : text ≠ [] := by rintro rfl; exact left rfl
        obtain ⟨taken, dropped⟩ := dropWhile_continues left more
        rw [readSign_append signed, taken, dropped, if_neg digits]
    next whole => cases read; rw [if_neg whole, List.cons_append]

theorem readParts_further {text rest : List Char} {parts : Int × List Char × List Char} (more : List Char)
    (read : readParts text = some (parts, rest)) (left : rest ≠ []) :
    readParts (text ++ more) = some (parts, rest ++ more) := by
  simp only [readParts, Option.bind_eq_bind, Option.bind_eq_some_iff, Prod.exists] at read
  obtain ⟨number, first, readFirst, fraction, second, readSecond, exponent, third, readThird, same⟩ := read
  cases same
  have secondLeft : second ≠ [] := by rintro rfl; cases readThird; exact left rfl
  have firstLeft : first ≠ [] := by rintro rfl; cases readSecond; exact secondLeft rfl
  simp only [readParts, readInt_continues.further more readFirst firstLeft, readFraction_further more readSecond secondLeft,
    readExponent_further more readThird left, Option.bind_eq_bind, Option.bind_some]

theorem readNumber_continues : Continues readNumber readNumber where
  empty := rfl
  further := by
    intro text value rest more read left
    simp only [readNumber, Option.bind_eq_bind, Option.bind_eq_some_iff, Prod.exists] at read
    obtain ⟨number, fraction, exponent, last, parts, read⟩ := read
    have literal : (text ++ more).take ((text ++ more).length - (last ++ more).length) =
        text.take (text.length - last.length) := by
      rw [List.length_append, List.length_append, Nat.add_sub_add_right]
      exact List.take_append_of_le_length (by omega)
    have further : readParts (text ++ more) = some ((number, fraction, exponent), last ++ more) := by
      apply readParts_further more parts
      rintro rfl
      split at read
      · cases read; exact left rfl
      · split at read
        · cases read; exact left rfl
        · cases read
    simp only [readNumber, further, Option.bind_eq_bind, Option.bind_some, literal]
    split at read
    next whole => cases read; rw [if_pos whole]
    next part =>
      rw [if_neg part]
      split at read
      next float => cases read; rw [dif_pos float]
      next => cases read

theorem readItems_closes {item wide : Reader α} (continues : Continues item wide) {close : Char} {fuel wider : Nat}
    (enough : fuel ≤ wider) : Closes (readItems item close fuel) (readItems wide close wider) := by
  intro text value rest more read
  induction fuel generalizing text value wider with
  | zero => cases read
  | succ fuel ih =>
    obtain ⟨wider, rfl⟩ : ∃ less, wider = less + 1 := ⟨wider - 1, by omega⟩
    simp only [readItems, Option.bind_eq_bind, Option.bind_eq_some_iff, Prod.exists] at read
    obtain ⟨first, left, firstRead, read⟩ := read
    have skipped : skipSpace left ≠ [] := by
      intro none
      simp only [none] at read
      cases read
    have unread : left ≠ [] := by rintro rfl; exact skipped rfl
    simp only [readItems, continues.further more firstRead unread, Option.bind_eq_bind, Option.bind_some,
      skipSpace_append skipped]
    split at read
    next => cases read
    next c after found =>
      rw [found, List.cons_append]
      split at read
      next closing => cases read; simp only [if_pos closing]
      next inside =>
        simp only [if_neg inside]
        split at read
        next comma =>
          simp only [Option.bind_eq_some_iff, Prod.exists] at read
          obtain ⟨others, last, itemsRead, same⟩ := read
          cases same
          have started : skipSpace after ≠ [] := by
            intro none
            cases fuel with
            | zero => cases itemsRead
            | succ fuel => simp [readItems, none, continues.empty] at itemsRead
          rw [if_pos comma, skipSpace_append started, ih (by omega) itemsRead]
          rfl
        next => cases read

theorem readGroup_closes {item wide : Reader α} (continues : Continues item wide) {close : Char} :
    Closes (readGroup item close) (readGroup wide close) := by
  intro text value rest more read
  simp only [readGroup] at read
  split at read
  next => cases read
  next c left found =>
    rw [readGroup, skipSpace_append (by simp [found]), found, List.cons_append]
    split at read
    next closing => cases read; simp only [if_pos closing]
    next inside =>
      simp only [if_neg inside]
      rw [← List.cons_append]
      exact readItems_closes continues (by simp) more read

theorem readField_continues {value wide : Reader Json} (continues : Continues value wide) :
    Continues (readField value) (readField wide) where
  empty := rfl
  further := by
    intro text field rest more read unread
    match text with
    | [] => cases read
    | c :: text =>
      simp only [List.cons_append, readField] at read ⊢
      split at read
      next quoted =>
        simp only [Option.bind_eq_bind, Option.bind_eq_some_iff, Prod.exists] at read
        obtain ⟨key, left, keyRead, read⟩ := read
        rw [if_pos quoted, readString_closes (by simp) more keyRead]
        simp only [Option.bind_eq_bind, Option.bind_some]
        split at read
        next => cases read
        next c after found =>
          rw [skipSpace_append (by simp [found]), found, List.cons_append]
          split at read
          next colon =>
            simp only [Option.bind_eq_some_iff, Prod.exists] at read
            obtain ⟨result, last, valueRead, same⟩ := read
            cases same
            have started : skipSpace after ≠ [] := by
              intro none
              rw [none, continues.empty] at valueRead
              cases valueRead
            simp only [if_pos colon, skipSpace_append started, continues.further more valueRead unread,
              Option.bind_some]
          next => cases read
      next => cases read

theorem readWord_closes (word : List Char) (value : Json) : Closes (readWord word value) (readWord word value) := by
  intro text found rest more read
  simp only [readWord] at read
  split at read
  next here =>
    cases read
    rw [readWord, if_pos (here.trans (List.prefix_append text more)), List.drop_append_of_le_length here.length_le]
  next => cases read

theorem readValue_continues {depth deeper : Nat} (enough : depth ≤ deeper) :
    Continues (readValue depth) (readValue deeper) := by
  induction depth generalizing deeper with
  | zero => exact ⟨rfl, fun more read => by cases read⟩
  | succ depth ih =>
    obtain ⟨deeper, rfl⟩ : ∃ less, deeper = less + 1 := ⟨deeper - 1, by omega⟩
    have below : Continues (readValue depth) (readValue deeper) := ih (by omega)
    refine ⟨rfl, ?_⟩
    intro text value rest more read left
    match text with
    | [] => cases read
    | c :: text =>
      simp only [List.cons_append, readValue] at read ⊢
      split at read
      next string =>
        obtain ⟨⟨chars, last⟩, found, same⟩ := Option.map_eq_some_iff.mp read
        cases same
        rw [if_pos string, readString_closes (by simp) more found]; rfl
      next notString =>
        rw [if_neg notString]
        split at read
        next array =>
          obtain ⟨⟨items, last⟩, found, same⟩ := Option.map_eq_some_iff.mp read
          cases same
          rw [if_pos array, readGroup_closes below more found]; rfl
        next notArray =>
          rw [if_neg notArray]
          split at read
          next object =>
            obtain ⟨⟨pairs, last⟩, found, same⟩ := Option.map_eq_some_iff.mp read
            cases same
            rw [if_pos object, readGroup_closes (readField_continues below) more found]; rfl
          next notObject =>
            rw [if_neg notObject]
            split at read
            next null => rw [if_pos null]; exact readWord_closes _ _ more read
            next notNull =>
              rw [if_neg notNull]
              split at read
              next yes => rw [if_pos yes]; exact readWord_closes _ _ more read
              next notYes =>
                rw [if_neg notYes]
                split at read
                next no => rw [if_pos no]; exact readWord_closes _ _ more read
                next notNo => rw [if_neg notNo, ← List.cons_append, readNumber_continues.further more read left]

/-! ### What the reader builds -/

def Yields (read : Reader α) (good : α → Prop) : Prop :=
  ∀ {text value rest}, read text = some (value, rest) → good value

theorem readItems_yields {item : Reader α} {good : α → Prop} (each : Yields item good) (close : Char) (fuel : Nat) :
    Yields (readItems item close fuel) (fun items => ∀ value ∈ items, good value) := by
  intro text items rest read
  induction fuel generalizing text items with
  | zero => cases read
  | succ fuel ih =>
    simp only [readItems, Option.bind_eq_bind, Option.bind_eq_some_iff, Prod.exists] at read
    obtain ⟨first, left, firstRead, read⟩ := read
    split at read
    next => cases read
    next c after found =>
      split at read
      next => cases read; simpa using each firstRead
      next =>
        split at read
        next =>
          simp only [Option.bind_eq_some_iff, Prod.exists] at read
          obtain ⟨others, last, itemsRead, same⟩ := read
          cases same
          simpa using ⟨each firstRead, ih itemsRead⟩
        next => cases read

theorem readGroup_yields {item : Reader α} {good : α → Prop} (each : Yields item good) (close : Char) :
    Yields (readGroup item close) (fun items => ∀ value ∈ items, good value) := by
  intro text items rest read
  simp only [readGroup] at read
  split at read
  next => cases read
  next c left found =>
    split at read
    next => cases read; simp
    next => exact readItems_yields each close _ read

theorem readField_yields {value : Reader Json} {good : Json → Prop} (each : Yields value good) :
    Yields (readField value) (fun field => good field.2) := by
  intro text field rest read
  match text with
  | [] => cases read
  | c :: text =>
    simp only [readField] at read
    split at read
    next =>
      simp only [Option.bind_eq_bind, Option.bind_eq_some_iff, Prod.exists] at read
      obtain ⟨key, left, keyRead, read⟩ := read
      split at read
      next => cases read
      next c after found =>
        split at read
        next =>
          simp only [Option.bind_eq_some_iff, Prod.exists] at read
          obtain ⟨result, last, valueRead, same⟩ := read
          cases same
          exact each valueRead
        next => cases read
    next => cases read

theorem readWord_yields {word : List Char} {value : Json} {good : Json → Prop} (holds : good value) :
    Yields (readWord word value) good := by
  intro text found rest read
  simp only [readWord] at read
  split at read
  next => cases read; exact holds
  next => cases read

theorem valid_ofPairs {pairs : List (String × Json)} (each : ∀ pair ∈ pairs, Valid pair.2) :
    Valid (.obj (Dict.ofPairs pairs)) :=
  Dict.ofPairs_invariant (fun fields => Valid (.obj fields)) (.obj (by simp) (by simp))
    (fun pair member _ valid => valid.set (each pair member))

theorem readNumber_yields : Yields readNumber Valid := by
  intro text value rest read
  simp only [readNumber, Option.bind_eq_bind, Option.bind_eq_some_iff, Prod.exists] at read
  obtain ⟨number, fraction, exponent, last, parts, read⟩ := read
  split at read
  next => cases read; exact .int number
  next =>
    split at read
    next => cases read; exact .float _
    next => cases read

theorem readValue_yields (depth : Nat) : Yields (readValue depth) Valid := by
  induction depth with
  | zero => intro text value rest read; cases read
  | succ depth ih =>
    intro text value rest read
    match text with
    | [] => cases read
    | c :: text =>
      simp only [readValue] at read
      split at read
      next =>
        obtain ⟨⟨chars, last⟩, found, same⟩ := Option.map_eq_some_iff.mp read
        cases same
        exact .str _
      next =>
        split at read
        next =>
          obtain ⟨⟨items, last⟩, found, same⟩ := Option.map_eq_some_iff.mp read
          cases same
          exact .arr (readGroup_yields ih _ found)
        next =>
          split at read
          next =>
            obtain ⟨⟨pairs, last⟩, found, same⟩ := Option.map_eq_some_iff.mp read
            cases same
            exact valid_ofPairs (readGroup_yields (readField_yields ih) _ found)
          next =>
            split at read
            next => exact readWord_yields .null read
            next =>
              split at read
              next => exact readWord_yields (.bool true) read
              next =>
                split at read
                next => exact readWord_yields (.bool false) read
                next => exact readNumber_yields read

theorem loads_valid {text : List Char} {value : Json} (loaded : loads text = some value) : Valid value := by
  simp only [loads, Option.bind_eq_bind, Option.bind_eq_some_iff, Prod.exists] at loaded
  obtain ⟨result, rest, read, ended⟩ := loaded
  split at ended
  next => cases ended; exact readValue_yields _ read
  next => cases ended

end Json
end Effects
