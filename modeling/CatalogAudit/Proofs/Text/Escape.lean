import CatalogAudit.Text.Escape
import Mathlib.Data.List.Induction

/-!
# The grammar of backslash escapes

The supported escapes as a grammar: the letters that stand for a character each, the letters that
announce digits, and the numbers that hexadecimal digits write. The tables that the readers look in
are the ones of the grammar, so what is stated with the grammar does not depend on them.
-/

namespace CatalogAudit.Text

/-! ## The grammar -/

/-- The letters behind a backslash, each with the code point of the character that it stands for. -/
def escapeTable : List (Char × Nat) :=
  [('0', 0x00), ('a', 0x07), ('b', 0x08), ('t', 0x09), ('\t', 0x09), ('n', 0x0A), ('v', 0x0B),
    ('f', 0x0C), ('r', 0x0D), ('e', 0x1B), (' ', 0x20), ('"', 0x22), ('/', 0x2F), ('\\', 0x5C),
    ('N', 0x85), ('_', 0xA0), ('L', 0x2028), ('P', 0x2029)]

/-- The letters behind a backslash that announce digits, each with how many. -/
def widthTable : List (Char × Nat) := [('x', 2), ('u', 4), ('U', 8)]

/-- A hexadecimal digit in either case, and its value. -/
inductive HexDigit : Char → Nat → Prop
  /-- One of the ten digits. -/
  | decimal {n : Nat} (small : n < 10) : HexDigit (Char.ofNat (0x30 + n)) n
  /-- A small letter. -/
  | small {n : Nat} (letter : n < 6) : HexDigit (Char.ofNat (0x61 + n)) (10 + n)
  /-- A capital letter. -/
  | capital {n : Nat} (letter : n < 6) : HexDigit (Char.ofNat (0x41 + n)) (10 + n)

/-- Hexadecimal digits, the most significant one first, and the number that they write. -/
inductive HexNumber : List Char → Nat → Prop
  /-- No digits write zero. -/
  | nil : HexNumber [] 0
  /-- One more digit behind the others. -/
  | snoc {digits : List Char} {d : Char} {n v : Nat} (others : HexNumber digits n)
      (last : HexDigit d v) : HexNumber (digits ++ [d]) (16 * n + v)

/-! ## The readers look for the grammar -/

/-- A letter is looked up as a character exactly when the grammar has the two in one line. -/
theorem letterEscape?_eq_some_iff {letter c : Char} :
    letterEscape? letter = some c ↔ (letter, c.toNat) ∈ escapeTable := by
  constructor
  · intro named
    unfold letterEscape? at named
    split at named
    case h_19 => cases named
    all_goals
      obtain rfl := Option.some.inj named
      decide
  · intro listed
    -- Whatever character the number belongs to, each line of the table is one of the reader.
    have lines : ∀ line ∈ escapeTable, letterEscape? line.1 = some (Char.ofNat line.2) := by decide
    rw [lines _ listed, Char.ofNat_toNat]

/-- The reader refuses the letters that the grammar does not list. -/
theorem letterEscape?_eq_none_iff {letter : Char} :
    letterEscape? letter = none ↔ ∀ n, (letter, n) ∉ escapeTable := by
  constructor
  · intro unknown n listed
    have known : ∀ line ∈ escapeTable, (letterEscape? line.1).isSome = true := by decide
    have known := known _ listed
    rw [unknown] at known
    cases known
  · intro unlisted
    rw [Option.eq_none_iff_forall_ne_some]
    intro c named
    exact unlisted _ (letterEscape?_eq_some_iff.mp named)

/-- How many digits a letter announces is the grammar's number. -/
theorem escapeWidth?_eq_some_iff {letter : Char} {width : Nat} :
    escapeWidth? letter = some width ↔ (letter, width) ∈ widthTable := by
  constructor
  · intro announced
    unfold escapeWidth? at announced
    split at announced
    case h_4 => cases announced
    all_goals
      obtain rfl := Option.some.inj announced
      decide
  · intro listed
    have lines : ∀ line ∈ widthTable, escapeWidth? line.1 = some line.2 := by decide
    exact lines _ listed

/-- The reader expects no digits behind the letters that the grammar does not list. -/
theorem escapeWidth?_eq_none_iff {letter : Char} :
    escapeWidth? letter = none ↔ ∀ width, (letter, width) ∉ widthTable := by
  rw [Option.eq_none_iff_forall_ne_some]
  exact forall_congr' fun width => not_congr escapeWidth?_eq_some_iff


/-- A character between two others is the one by as much further on as its number says. -/
theorem exists_ofNat_of_between {low high d : Char} (between : (low ≤ d && d ≤ high) = true) :
    ∃ n, n ≤ high.toNat - low.toNat ∧ d = Char.ofNat (low.toNat + n) ∧ d.toNat - low.toNat = n := by
  rw [Bool.and_eq_true, decide_eq_true_eq, decide_eq_true_eq] at between
  obtain ⟨atLeast, atMost⟩ := between
  have atLeast : low.toNat ≤ d.toNat := atLeast
  have atMost : d.toNat ≤ high.toNat := atMost
  refine ⟨d.toNat - low.toNat, by omega, ?_, rfl⟩
  rw [Nat.add_sub_cancel' atLeast, Char.ofNat_toNat]

/-- The reader gives a hexadecimal digit its value in the grammar. -/
theorem digitIn?_eq_some_iff {d : Char} {v : Nat} :
    Number.digitIn? 16 d = some v ↔ HexDigit d v := by
  constructor
  · intro read
    unfold Number.digitIn? at read
    obtain ⟨below, value⟩ := Option.ite_none_right_eq_some.mp read
    obtain rfl := Option.some.inj value
    clear read value
    by_cases decimal : ('0' ≤ d && d ≤ '9') = true
    · obtain ⟨n, atMost, rfl, value⟩ := exists_ofNat_of_between decimal
      rw [if_pos decimal, value]
      exact .decimal (Nat.lt_succ_of_le atMost)
    by_cases small : ('a' ≤ d && d ≤ 'f') = true
    · obtain ⟨n, atMost, rfl, value⟩ := exists_ofNat_of_between small
      rw [if_neg decimal, if_pos small, value, Nat.add_comm n 10]
      exact .small (Nat.lt_succ_of_le atMost)
    by_cases capital : ('A' ≤ d && d ≤ 'F') = true
    · obtain ⟨n, atMost, rfl, value⟩ := exists_ofNat_of_between capital
      rw [if_neg decimal, if_neg small, if_pos capital, value, Nat.add_comm n 10]
      exact .capital (Nat.lt_succ_of_le atMost)
    · rw [if_neg decimal, if_neg small, if_neg capital] at below
      exact absurd below (Nat.lt_irrefl 16)
  · intro digit
    have decimals : ∀ n < 10, Number.digitIn? 16 (Char.ofNat (0x30 + n)) = some n := by decide
    have smalls : ∀ n < 6, Number.digitIn? 16 (Char.ofNat (0x61 + n)) = some (10 + n) := by decide
    have capitals : ∀ n < 6, Number.digitIn? 16 (Char.ofNat (0x41 + n)) = some (10 + n) := by decide
    cases digit with
    | decimal small => exact decimals _ small
    | small letter => exact smalls _ letter
    | capital letter => exact capitals _ letter

/-- Digits of the grammar are digits for the reader, which reads them as the number they write. -/
theorem hexNumber_iff {digits : List Char} {n : Nat} : HexNumber digits n ↔
    (∀ d ∈ digits, (Number.digitIn? 16 d).isSome) ∧ Number.readDigits 16 digits = n := by
  constructor
  · intro number
    induction number with
    | nil => exact ⟨by simp, rfl⟩
    | @snoc digits d n v others last ih =>
      obtain ⟨areDigits, reads⟩ := ih
      have last := digitIn?_eq_some_iff.mpr last
      constructor
      · intro c mem
        rw [List.mem_append, List.mem_singleton] at mem
        rcases mem with earlier | rfl
        · exact areDigits c earlier
        · rw [last]
          rfl
      · rw [Number.readDigits] at reads
        rw [Number.readDigits, List.foldl_append, reads, List.foldl_cons, List.foldl_nil, last,
          Option.getD_some, Nat.mul_comm]
  · rintro ⟨areDigits, rfl⟩
    induction digits using List.reverseRecOn with
    | nil => exact .nil
    | append_singleton digits d ih =>
      obtain ⟨v, last⟩ := Option.isSome_iff_exists.mp (areDigits d (by simp))
      have others := ih fun c mem => areDigits c (List.mem_append_left _ mem)
      have reads : Number.readDigits 16 (digits ++ [d]) = 16 * Number.readDigits 16 digits + v := by
        simp only [Number.readDigits, List.foldl_append, List.foldl_cons, List.foldl_nil, last,
          Option.getD_some]
        omega
      rw [reads]
      exact .snoc others (digitIn?_eq_some_iff.mp last)
/-! ## Numbers of characters -/

/-- Any hexadecimal digits will do where their own number is asked for. -/
theorem isHexOf_length {digits : List Char} (hex : ∀ d ∈ digits, (Number.digitIn? 16 d).isSome) :
    isHexOf digits.length digits = true := by
  simpa [isHexOf] using hex

/-- Every character is found by its number. -/
theorem charOfCodePoint?_toNat (c : Char) : charOfCodePoint? c.toNat = some c := by
  have valid : c.toNat.isValidChar := c.valid
  rw [charOfCodePoint?, if_pos valid, Char.ofNat_toNat]

/-- A number finds the character that has it. -/
theorem toNat_of_charOfCodePoint? {n : Nat} {c : Char} (named : charOfCodePoint? n = some c) :
    c.toNat = n := by
  unfold charOfCodePoint? at named
  split at named
  · rename_i valid
    obtain rfl := Option.some.inj named
    rw [Char.ofNat, dif_pos valid]
    rfl
  · cases named

/-- The numbers that name no character are the halves of surrogate pairs and those beyond the last
character. -/
theorem charOfCodePoint?_eq_none_iff {n : Nat} :
    charOfCodePoint? n = none ↔ (0xD800 ≤ n ∧ n < 0xE000) ∨ 0x110000 ≤ n := by
  have range : n.isValidChar ↔ ¬((0xD800 ≤ n ∧ n < 0xE000) ∨ 0x110000 ≤ n) := by
    unfold Nat.isValidChar
    omega
  unfold charOfCodePoint?
  split
  · rename_i valid
    exact ⟨nofun, fun beyond => absurd beyond (range.mp valid)⟩
  · rename_i invalid
    exact ⟨fun _ => Classical.not_not.mp (mt range.mpr invalid), fun _ => rfl⟩

/-- What is asked for is that many characters, each a hexadecimal digit. -/
theorem isHexOf_iff {width : Nat} {text : List Char} :
    isHexOf width text = true ↔
      text.length = width ∧ ∀ d ∈ text, (Number.digitIn? 16 d).isSome := by
  rw [isHexOf, Bool.and_eq_true, beq_iff_eq, List.all_eq_true]

/-- No letter that announces digits is an escape by itself. -/
theorem letterEscape?_of_width {letter : Char} {width : Nat}
    (h : escapeWidth? letter = some width) : letterEscape? letter = none := by
  unfold escapeWidth? at h
  split at h
  · rfl
  · rfl
  · rfl
  · simp at h

end CatalogAudit.Text
