import Rawfile.Net
import Rawfile.Proofs.Text

/-! Which nameservers are kept. The forms that are documented and those that are
misread are given by their shape; every text of another shape is kept or dropped
as the documentation says. -/

namespace Rawfile.Net

/-- A port from 0 to 65535 in decimal digits. -/
def Decimal (port : List Char) : Prop :=
  port ≠ [] ∧ (∀ c ∈ port, c.isDigit = true) ∧ Nat.ofDigitChars 10 port 0 ≤ 65535

def portNumber : List Char → Int
  | [] => 53
  | port => Nat.ofDigitChars 10 port 0

/-- The documented forms of an entry with the address and the text of the port they give. -/
inductive Documented (readers : TextReaders) : List Char → List Char → List Char → Prop
  | bare {host : List Char} {family : IpVersion} (known : readers.version host = some family) :
      Documented readers host host []
  | ported {host port : List Char} (known : readers.version host = some .v4) (decimal : Decimal port) :
      Documented readers (host ++ ':' :: port) host port
  | bracketed {host : List Char} (known : readers.version host = some .v6) :
      Documented readers ('[' :: host ++ [']']) host []
  | both {host port : List Char} (known : readers.version host = some .v6) (decimal : Decimal port) :
      Documented readers ('[' :: host ++ ']' :: ':' :: port) host port

/-- A port that is read as one although it is not decimal, or decimal with more
digits than are read. -/
def OddPort (readers : TextReaders) (port : List Char) : Prop :=
  port ≠ [] ∧ ((readers.int port).any inRange = true ∧ ¬Decimal port ∨ Decimal port ∧ 4300 < port.length)

/-- Between the closing bracket and the port is something else than one colon. -/
def OddDelimiter (rest : List Char) : Prop :=
  rest ≠ [] ∧ ∀ port, rest = ':' :: port → port = [] ∨ port.head? = some ':'

/-- The port after any number of colons is empty or read as one. -/
def Tolerated (readers : TextReaders) (rest : List Char) : Prop :=
  rest.dropWhile (· = ':') = [] ∨ (readers.int (rest.dropWhile (· = ':'))).any inRange = true

/-- The forms that are kept without being documented, or documented and dropped. -/
inductive Misread (readers : TextReaders) : List Char → Prop
  | unclosed {host : List Char} {family : IpVersion} (known : readers.version host = some family) :
      Misread readers ('[' :: host)
  | bracketedV4 {host rest : List Char} (known : readers.version host = some .v4) (tolerated : Tolerated readers rest) :
      Misread readers ('[' :: host ++ ']' :: rest)
  | delimiter {host rest : List Char} (known : readers.version host = some .v6) (tolerated : Tolerated readers rest)
      (odd : OddDelimiter rest) : Misread readers ('[' :: host ++ ']' :: rest)
  | emptyPort {host : List Char} (known : readers.version host = some .v4) : Misread readers (host ++ [':'])
  | oddPort {host port : List Char} (known : readers.version host = some .v4) (single : ':' ∉ port)
      (odd : OddPort readers port) : Misread readers (host ++ ':' :: port)
  | oddPortV6 {host port : List Char} (known : readers.version host = some .v6) (single : port.head? ≠ some ':')
      (odd : OddPort readers port) : Misread readers ('[' :: host ++ ']' :: ':' :: port)

section
variable {readers : TextReaders} {host port rest entry : List Char} {family : IpVersion}

private theorem ne_decide {separator c : Char} {text : List Char} (absent : separator ∉ text) (member : c ∈ text) :
    decide (c ≠ separator) = true := by
  refine decide_eq_true fun same => absent ?_
  rw [← same]
  exact member

private theorem partitionAt_found {separator : Char} (absent : separator ∉ host) :
    partitionAt separator (host ++ separator :: rest) = (host, rest) := by
  have before : ∀ c ∈ host, decide (c ≠ separator) = true := fun _ member => ne_decide absent member
  rw [partitionAt, List.takeWhile_append_of_pos before, List.dropWhile_append_of_pos before]
  simp

private theorem partitionAt_absent {separator : Char} (absent : separator ∉ host) :
    partitionAt separator host = (host, []) := by
  have before : ∀ c ∈ host, decide (c ≠ separator) = true := fun _ member => ne_decide absent member
  rw [partitionAt, List.takeWhile_eq_self_iff.mpr before, List.dropWhile_eq_nil_iff.mpr before]
  rfl

private theorem splitEntry_unclosed (absent : ']' ∉ host) : splitEntry ('[' :: host) = (host, []) := by
  rw [splitEntry, if_pos (List.head?_cons ..), List.drop_one, List.tail_cons, partitionAt_absent absent]
  rfl

theorem splitEntry_closed (absent : ']' ∉ host) :
    splitEntry ('[' :: host ++ ']' :: rest) = (host, rest.dropWhile (· = ':')) := by
  rw [splitEntry, List.cons_append, if_pos (List.head?_cons ..), List.drop_one, List.tail_cons,
    partitionAt_found absent]

theorem splitEntry_ported (first : host.head? ≠ some '[') (absent : ':' ∉ host) (single : ':' ∉ port) :
    splitEntry (host ++ ':' :: port) = (host, port) := by
  have front : ¬(host ++ ':' :: port).head? = some '[' := by
    cases host with
    | nil => exact by simp
    | cons c others => exact first
  have once : (host ++ ':' :: port).count ':' = 1 := by
    rw [List.count_append, List.count_cons_self, List.count_eq_zero.mpr absent, List.count_eq_zero.mpr single]
  rw [splitEntry, if_neg front, if_pos once, partitionAt_found absent]

private theorem splitEntry_bare (first : host.head? ≠ some '[') (many : host.count ':' ≠ 1) : splitEntry host = (host, []) := by
  rw [splitEntry, if_neg first, if_neg many]

section
variable (known : readers.version host = some family)
include known

private theorem known_first : host.head? ≠ some '[' := fun first =>
  (readers.unbracketed host family known).1 (List.mem_of_head? first)

private theorem known_count : host.count ':' ≠ 1 := by
  cases family with
  | v4 =>
    rw [List.count_eq_zero.mpr (readers.colonless host known)]
    decide
  | v6 =>
    have colons := readers.colons host known
    omega

end

theorem Decimal.single (decimal : Decimal port) : ':' ∉ port := fun colon =>
  absurd (decimal.2.1 ':' colon) (by decide)

theorem Decimal.first (decimal : Decimal port) : port.head? ≠ some ':' := fun first =>
  decimal.single (List.mem_of_head? first)

theorem dropColons (single : port.head? ≠ some ':') : (':' :: port).dropWhile (· = ':') = port := by
  cases port with
  | nil => rfl
  | cons c others =>
    have other : ¬c = ':' := fun same => single (by rw [same]; rfl)
    simp [other]

theorem Documented.split (documented : Documented readers entry host port) : splitEntry entry = (host, port) := by
  cases documented with
  | bare known => exact splitEntry_bare (known_first known) (known_count known)
  | ported known decimal =>
    exact splitEntry_ported (known_first known) (readers.colonless host known) decimal.single
  | bracketed known => exact splitEntry_closed (readers.unbracketed host _ known).2
  | both known decimal =>
    rw [splitEntry_closed (readers.unbracketed host _ known).2, dropColons decimal.first]

theorem Documented.known (documented : Documented readers entry host port) : (readers.version host).isSome = true := by
  cases documented with
  | bare known => rw [known]; rfl
  | ported known => rw [known]; rfl
  | bracketed known => rw [known]; rfl
  | both known => rw [known]; rfl

theorem Decimal.read (decimal : Decimal port) (short : port.length ≤ 4300) :
    readers.int port = some (portNumber port) := by
  obtain ⟨some, digits, -⟩ := decimal
  rw [readers.digits port some digits, if_pos short]
  cases port with
  | nil => exact absurd rfl some
  | cons c others => rfl

theorem Decimal.inRange (decimal : Decimal port) : inRange (portNumber port) = true := by
  obtain ⟨some, -, small⟩ := decimal
  cases port with
  | nil => exact absurd rfl some
  | cons c others =>
    refine decide_eq_true ⟨?_, ?_⟩
    · exact Int.natCast_nonneg _
    · exact Int.ofNat_le.mpr small

theorem Documented.short (documented : Documented readers entry host port) (clear : ¬Misread readers entry) :
    port = [] ∨ Decimal port ∧ port.length ≤ 4300 := by
  cases documented with
  | bare => exact .inl rfl
  | bracketed => exact .inl rfl
  | ported known decimal =>
    refine .inr ⟨decimal, Nat.le_of_not_lt fun long => clear ?_⟩
    exact .oddPort known decimal.single ⟨decimal.1, .inr ⟨decimal, long⟩⟩
  | both known decimal =>
    refine .inr ⟨decimal, Nat.le_of_not_lt fun long => clear ?_⟩
    exact .oddPortV6 known decimal.first ⟨decimal.1, .inr ⟨decimal, long⟩⟩

theorem Documented.valid (documented : Documented readers entry host port) (clear : ¬Misread readers entry) :
    isValid readers (splitEntry entry) = true := by
  rw [documented.split, isValid, documented.known, Bool.true_and]
  rcases documented.short clear with rfl | ⟨decimal, short⟩
  · rfl
  · rw [decimal.read short, Option.any_some, decimal.inRange, Bool.or_true]

theorem isValid_port (valid : isValid readers (host, port) = true) :
    port = [] ∨ (readers.int port).any inRange = true := by
  simp only [isValid, Bool.and_eq_true, Bool.or_eq_true, decide_eq_true_eq] at valid
  exact valid.2

theorem isValid_known (valid : isValid readers (host, port) = true) : ∃ family, readers.version host = some family := by
  simp only [isValid, Bool.and_eq_true] at valid
  exact Option.isSome_iff_exists.mp valid.1

private theorem decimal_of_read (clear : ¬OddPort readers port) (some : port ≠ [])
    (read : (readers.int port).any inRange = true) : Decimal port := by
  by_contra odd
  exact clear ⟨some, .inl ⟨read, odd⟩⟩

private theorem closed_documented (clear : ¬Misread readers ('[' :: host ++ ']' :: rest))
    (valid : isValid readers (host, rest.dropWhile (· = ':')) = true) :
    ∃ port, Documented readers ('[' :: host ++ ']' :: rest) host port := by
  obtain ⟨family, known⟩ := isValid_known valid
  have tolerated : Tolerated readers rest := isValid_port valid
  cases family with
  | v4 => exact absurd (.bracketedV4 known tolerated) clear
  | v6 =>
    by_cases ended : rest = []
    · subst ended
      exact ⟨[], .bracketed known⟩
    · have plain : ¬OddDelimiter rest := fun odd => clear (.delimiter known tolerated odd)
      simp only [OddDelimiter, not_and, not_forall, not_or] at plain
      obtain ⟨port, rfl, some, single⟩ := plain ended
      have read : (readers.int port).any inRange = true := by
        rcases tolerated with empty | read
        · rw [dropColons single] at empty
          exact absurd empty some
        · rwa [dropColons single] at read
      exact ⟨port, .both known (decimal_of_read (fun odd => clear (.oddPortV6 known single odd)) some read)⟩

private theorem ported_documented (absent : ':' ∉ host) (single : ':' ∉ port) (clear : ¬Misread readers (host ++ ':' :: port))
    (valid : isValid readers (host, port) = true) : ∃ text, Documented readers (host ++ ':' :: port) host text := by
  obtain ⟨family, known⟩ := isValid_known valid
  cases family with
  | v6 =>
    have colons := readers.colons host known
    rw [List.count_eq_zero.mpr absent] at colons
    omega
  | v4 =>
    rcases isValid_port valid with rfl | read
    · exact absurd (.emptyPort known) clear
    · have some : port ≠ [] := by
        rintro rfl
        exact clear (.emptyPort known)
      exact ⟨port, .ported known (decimal_of_read (fun odd => clear (.oddPort known single odd)) some read)⟩

/-- What passes the check is of a documented form, unless it is misread. -/
theorem documented_of_valid (valid : isValid readers (splitEntry entry) = true) (clear : ¬Misread readers entry) :
    ∃ host port, Documented readers entry host port := by
  by_cases first : entry.head? = some '['
  · obtain ⟨body, rfl⟩ : ∃ body, entry = '[' :: body := by
      cases entry with
      | nil => cases first
      | cons c body => exact ⟨body, by cases first; rfl⟩
    by_cases closed : ']' ∈ body
    · obtain ⟨host, rest, rfl, absent⟩ := List.eq_append_cons_of_mem closed
      rw [← List.cons_append, splitEntry_closed absent] at valid
      exact ⟨host, closed_documented clear valid⟩
    · rw [splitEntry_unclosed closed] at valid
      obtain ⟨family, known⟩ := isValid_known valid
      exact absurd (.unclosed known) clear
  · by_cases once : entry.count ':' = 1
    · have among : ':' ∈ entry := List.count_pos_iff.mp (by omega)
      obtain ⟨host, port, rfl, absent⟩ := List.eq_append_cons_of_mem among
      have single : ':' ∉ port := by
        rw [List.count_append, List.count_cons_self, List.count_eq_zero.mpr absent] at once
        exact List.count_eq_zero.mp (by omega)
      have front : host.head? ≠ some '[' := by
        cases host with
        | nil => exact by simp
        | cons c others => exact first
      rw [splitEntry_ported front absent single] at valid
      exact ⟨host, ported_documented absent single clear valid⟩
    · rw [splitEntry_bare first once] at valid
      obtain ⟨family, known⟩ := isValid_known valid
      exact ⟨entry, [], .bare known⟩

theorem Documented.shape (documented : Documented readers entry host port) :
    entry = host ∨ (readers.version host = some .v4 ∧ Decimal port ∧ entry = host ++ ':' :: port) ∨
      (readers.version host = some .v6 ∧ entry = '[' :: host ++ [']']) ∨
      (readers.version host = some .v6 ∧ Decimal port ∧ entry = '[' :: host ++ ']' :: ':' :: port) := by
  cases documented with
  | bare known => exact .inl rfl
  | ported known decimal => exact .inr (.inl ⟨known, decimal, rfl⟩)
  | bracketed known => exact .inr (.inr (.inl ⟨known, rfl⟩))
  | both known decimal => exact .inr (.inr (.inr ⟨known, decimal, rfl⟩))

private theorem undocumented (split : splitEntry entry = (host, port)) (absent : ¬Documented readers entry host port) :
    ¬∃ host port, Documented readers entry host port := by
  rintro ⟨other, text, documented⟩
  cases documented.split.symm.trans split
  exact absent documented

private theorem bracket_ported (known : readers.version host = some .v4) (text : List Char) :
    '[' :: host ++ rest ≠ host ++ ':' :: text := by
  intro same
  have front := congrArg List.head? same
  cases host with
  | nil => cases front
  | cons c others =>
    cases front
    exact (readers.unbracketed _ _ known).1 (List.mem_cons_self ..)

private theorem valid_of_read (known : readers.version host = some family)
    (read : port = [] ∨ (readers.int port).any inRange = true) : isValid readers (host, port) = true := by
  simp only [isValid, known, Option.isSome_some, Bool.true_and, Bool.or_eq_true, decide_eq_true_eq]
  exact read

theorem OddPort.read (odd : OddPort readers port) : (readers.int port).any inRange = true ↔ ¬Decimal port := by
  obtain ⟨some, ⟨read, plain⟩ | ⟨decimal, long⟩⟩ := odd
  · exact ⟨fun _ => plain, fun _ => read⟩
  · rw [readers.digits port some decimal.2.1, if_neg (by omega)]
    exact ⟨by simp, fun plain => absurd decimal plain⟩

theorem OddPort.differs (odd : OddPort readers port) (known : readers.version host = some family)
    (split : splitEntry entry = (host, port))
    (documented : (∃ host port, Documented readers entry host port) ↔ Decimal port) :
    ¬(isValid readers (splitEntry entry) = true ↔ ∃ host port, Documented readers entry host port) := by
  have kept : isValid readers (splitEntry entry) = true ↔ ¬Decimal port := by
    rw [split, ← odd.read]
    refine ⟨fun valid => (isValid_port valid).resolve_left odd.1, fun read => valid_of_read known (.inr read)⟩
  rw [kept, documented]
  exact not_iff_self

private theorem kept_undocumented (known : readers.version host = some family) (split : splitEntry entry = (host, port))
    (read : port = [] ∨ (readers.int port).any inRange = true) (absent : ¬Documented readers entry host port) :
    ¬(isValid readers (splitEntry entry) = true ↔ ∃ host port, Documented readers entry host port) := by
  intro same
  refine undocumented split absent (same.mp ?_)
  rw [split]
  exact valid_of_read known read

/-- The entries that are misread are those that are kept without being documented or the other way round. -/
theorem Misread.differs (misread : Misread readers entry) :
    ¬(isValid readers (splitEntry entry) = true ↔ ∃ host port, Documented readers entry host port) := by
  cases misread with
  | @unclosed host family known =>
    refine kept_undocumented known (splitEntry_unclosed (readers.unbracketed host family known).2) (.inl rfl) ?_
    intro documented
    rcases documented.shape with same | ⟨-, decimal, -⟩ | ⟨-, same⟩ | ⟨-, decimal, -⟩
    · exact absurd (congrArg List.length same) (by simp)
    · exact decimal.1 rfl
    · exact absurd (congrArg List.length same) (by simp)
    · exact decimal.1 rfl
  | @bracketedV4 host rest known tolerated =>
    refine kept_undocumented known (splitEntry_closed (readers.unbracketed host _ known).2) tolerated ?_
    intro documented
    rcases documented.shape with same | ⟨-, -, same⟩ | ⟨other, -⟩ | ⟨other, -⟩
    · exact absurd (congrArg List.length same) (by simp; omega)
    · exact bracket_ported known _ same
    · cases other.symm.trans known
    · cases other.symm.trans known
  | @delimiter host rest known tolerated odd =>
    refine kept_undocumented known (splitEntry_closed (readers.unbracketed host _ known).2) tolerated ?_
    intro documented
    rcases documented.shape with same | ⟨other, -⟩ | ⟨-, same⟩ | ⟨-, decimal, same⟩
    · exact absurd (congrArg List.length same) (by simp; omega)
    · cases other.symm.trans known
    · have ended := List.append_cancel_left same
      cases ended
      exact odd.1 rfl
    · have after := List.append_cancel_left same
      injection after with _ after
      rcases odd.2 _ after with empty | colon
      · exact decimal.1 empty
      · exact decimal.first colon
  | @emptyPort host known =>
    have plain := readers.colonless host known
    refine kept_undocumented known (splitEntry_ported (known_first known) plain (by simp)) (.inl rfl) ?_
    intro documented
    rcases documented.shape with same | ⟨-, decimal, -⟩ | ⟨other, -⟩ | ⟨-, decimal, -⟩
    · exact absurd (congrArg List.length same) (by simp)
    · exact decimal.1 rfl
    · cases other.symm.trans known
    · exact decimal.1 rfl
  | @oddPort host port known single odd =>
    have split := splitEntry_ported (known_first known) (readers.colonless host known) single
    refine odd.differs known split ⟨?_, fun decimal => ⟨host, port, .ported known decimal⟩⟩
    rintro ⟨other, text, documented⟩
    cases documented.split.symm.trans split
    rcases documented.shape with same | ⟨-, decimal, -⟩ | ⟨other, -⟩ | ⟨-, decimal, -⟩
    · exact absurd (congrArg List.length same) (by simp)
    · exact decimal
    · cases other.symm.trans known
    · exact decimal
  | @oddPortV6 host port known single odd =>
    have split : splitEntry ('[' :: host ++ ']' :: ':' :: port) = (host, port) := by
      rw [splitEntry_closed (readers.unbracketed host _ known).2, dropColons single]
    refine odd.differs known split ⟨?_, fun decimal => ⟨host, port, .both known decimal⟩⟩
    rintro ⟨other, text, documented⟩
    cases documented.split.symm.trans split
    rcases documented.shape with same | ⟨-, decimal, -⟩ | ⟨-, same⟩ | ⟨-, decimal, -⟩
    · exact absurd (congrArg List.length same) (by simp; omega)
    · exact decimal
    · cases List.append_cancel_left same
    · exact decimal

private theorem misread_iff : Misread readers entry ↔
    ¬(isValid readers (splitEntry entry) = true ↔ ∃ host port, Documented readers entry host port) := by
  refine ⟨Misread.differs, fun differs => by_contra fun clear => differs ⟨?_, ?_⟩⟩
  · exact fun valid => documented_of_valid valid clear
  · rintro ⟨host, port, documented⟩
    exact documented.valid clear

private theorem Documented.served (documented : Documented readers (readers.trim entry) host port)
    (clear : ¬Misread readers (readers.trim entry)) : parseNameserver readers entry = some (host, portNumber port) := by
  unfold parseNameserver splitHostPort
  rw [documented.split]
  rcases documented.short clear with rfl | ⟨decimal, short⟩
  · exact if_pos rfl
  · simp only [if_neg decimal.1, decimal.read short, Option.map_some]

open Classical in
/-- The parser keeps exactly the documented entries, in order, and each becomes a
server of its address and port, if and only if no entry is misread. -/
theorem nameservers_as_documented (readers : TextReaders) (value : Nameservers) :
    (parseNameservers readers value = (value.entries readers).filter
        (fun entry => ∃ host port, Documented readers (readers.trim entry) host port) ∧
      ∀ entry ∈ parseNameservers readers value, ∃ host port, Documented readers (readers.trim entry) host port ∧
        parseNameserver readers entry = some (host, portNumber port)) ↔
      ∀ entry ∈ value.entries readers, ¬Misread readers (readers.trim entry) := by
  constructor
  · rintro ⟨same, -⟩ entry member misread
    have agree := congrArg (entry ∈ ·) same
    simp only [parseNameservers, List.mem_filter, member, true_and, decide_eq_true_eq, eq_iff_iff] at agree
    exact misread_iff.mp misread agree
  · intro clear
    have same : parseNameservers readers value = (value.entries readers).filter
        (fun entry => ∃ host port, Documented readers (readers.trim entry) host port) := by
      refine List.filter_congr fun entry member => ?_
      have agree := not_not.mp (mt misread_iff.mpr (clear entry member))
      rw [Bool.eq_iff_iff, decide_eq_true_eq]
      exact agree
    refine ⟨same, fun entry member => ?_⟩
    rw [same, List.mem_filter, decide_eq_true_eq] at member
    obtain ⟨among, host, port, documented⟩ := member
    exact ⟨host, port, documented, documented.served (clear entry among)⟩

end

namespace LenientPorts

def ascii : TextReaders where
  version := fun text => if text = "8.8.8.8".toList then some .v4 else if text = "::1".toList then some .v6 else none
  isSpace := Rawfile.isSpace
  int := fun text => if text.length ≤ 4300 then intOf (String.ofList text) else none
  unbracketed := by
    intro text family known
    split at known
    next same => subst same; decide
    next =>
      split at known
      next same => subst same; decide
      next => cases known
  colonless := by
    intro text known
    split at known
    next same => subst same; decide
    next => split at known <;> cases known
  colons := by
    intro text known
    split at known
    next => cases known
    next =>
      split at known
      next same => subst same; decide
      next => cases known
  digits := by
    intro text some all
    have read := @intOf_digits (String.ofList text) (by rwa [String.toList_ofList]) (by rwa [String.toList_ofList])
    rw [read, String.toList_ofList]

def malformed : List (List Char) := ["8.8.8.8:".toList, "[::1".toList, "8.8.8.8:+53".toList]

private theorem malformed_misread : ∀ entry ∈ malformed, Misread ascii (ascii.trim entry) := by
  intro entry member
  simp only [malformed, List.mem_cons, List.not_mem_nil, or_false] at member
  rcases member with rfl | rfl | rfl
  · rw [show ascii.trim "8.8.8.8:".toList = "8.8.8.8".toList ++ [':'] by decide +kernel]
    exact .emptyPort (by decide)
  · rw [show ascii.trim "[::1".toList = '[' :: "::1".toList by decide +kernel]
    exact @Misread.unclosed ascii "::1".toList .v6 (by decide)
  · rw [show ascii.trim "8.8.8.8:+53".toList = "8.8.8.8".toList ++ ':' :: "+53".toList by decide +kernel]
    have signed : ¬Decimal "+53".toList := fun decimal => absurd (decimal.2.1 '+' (by decide)) (by decide)
    exact .oddPort (by decide) (by decide) ⟨by decide, .inl ⟨by decide +kernel, signed⟩⟩

theorem malformed_nameservers_kept :
    parseNameservers ascii (.text "8.8.8.8:, [::1, 8.8.8.8:+53, nope".toList) = malformed ∧
    ∀ entry ∈ malformed, ¬∃ host port, Documented ascii (ascii.trim entry) host port := by
  refine ⟨by decide +kernel, fun entry member documented => ?_⟩
  have valid : ∀ entry ∈ malformed, isValid ascii (splitEntry (ascii.trim entry)) = true := by decide +kernel
  exact (malformed_misread entry member).differs ⟨fun _ => documented, fun _ => valid entry member⟩

end LenientPorts
end Rawfile.Net
