import CatalogAudit.Manifest.Line.Scalar
import CatalogAudit.Proofs.Number.Literal

/-!
# Which plain values are numbers

A number is at most one sign in front of a numeral: digits of a radix behind its mark, however many,
or a decimal literal whose exact value rounds to a double that is no infinity. Two or more digits
that begin with a zero are left to be a string.
-/

namespace CatalogAudit.Manifest.Layout

/-- The radix that a letter behind a zero stands for. -/
def radixOf? : Char → Option Nat
  | 'x' => some 16
  | 'o' => some 8
  | 'b' => some 2
  | _ => none

/-- The marks of a radix are these three. -/
theorem eq_of_radix {mark : Char} {radix : Nat} (isMark : radixOf? mark = some radix) :
    mark = 'x' ∧ radix = 16 ∨ mark = 'o' ∧ radix = 8 ∨ mark = 'b' ∧ radix = 2 := by
  unfold radixOf? at isMark
  split at isMark
  · exact .inl ⟨rfl, (Option.some.inj isMark).symm⟩
  · exact .inr (.inl ⟨rfl, (Option.some.inj isMark).symm⟩)
  · exact .inr (.inr ⟨rfl, (Option.some.inj isMark).symm⟩)
  · cases isMark

/-- No mark of a radix is a decimal digit. -/
theorem isDigit_of_radix {mark : Char} {radix : Nat} (isMark : radixOf? mark = some radix) :
    Number.isDigit mark = false := by
  rcases eq_of_radix isMark with ⟨rfl, -⟩ | ⟨rfl, -⟩ | ⟨rfl, -⟩ <;> decide

/-- Two or more digits that begin with a zero. -/
def isZeroLed (digits : List Char) : Bool :=
  decide (digits.length > 1) && Text.startsWith (· == '0') digits && digits.all Number.isDigit

/-- Behind a zero and a letter no decimal literal goes on, unless the letter is that of an
exponent. -/
theorem ofLiteral?_radix {letter : Char} (noDigit : Number.isDigit letter = false)
    (noPoint : letter ≠ '.') (noExponent : letter ≠ 'e' ∧ letter ≠ 'E') (digits : List Char) :
    Number.Decimal.ofLiteral? ('0' :: letter :: digits) = none := by
  have zero : Number.isDigit '0' = true := by decide
  simp [Number.Decimal.ofLiteral?, Number.spanDigits, zero, noDigit, noPoint, noExponent]

/-- What a text says apart from its sign. -/
def unsigned : List Char → List Char
  | '+' :: rest => rest
  | '-' :: rest => rest
  | text => text

/-- One plus or one minus is taken off, and any other text stays as it is. -/
theorem unsigned_cases (text : List Char) :
    (∃ rest, text = '+' :: rest ∧ unsigned text = rest) ∨
      (∃ rest, text = '-' :: rest ∧ unsigned text = rest) ∨
      (∀ rest, text ≠ '+' :: rest) ∧ (∀ rest, text ≠ '-' :: rest) ∧ unsigned text = text := by
  unfold unsigned
  split
  · exact .inl ⟨_, rfl, rfl⟩
  · exact .inr (.inl ⟨_, rfl, rfl⟩)
  · rename_i noPlus noMinus
    exact .inr (.inr ⟨noPlus, noMinus, rfl⟩)

/-- A zero leads when only digits follow, and one does. -/
theorem isZeroLed_zero (rest : List Char) :
    isZeroLed ('0' :: rest) = (!rest.isEmpty && rest.all Number.isDigit) := by
  have zero : Number.isDigit '0' = true := by decide
  cases rest with
  | nil => rfl
  | cons c rest => simp [isZeroLed, Text.startsWith, zero]

/-- Without a zero in front none leads. -/
theorem isZeroLed_eq_false {digits : List Char} (noZero : ∀ rest, digits ≠ '0' :: rest) :
    isZeroLed digits = false := by
  cases digits with
  | nil => rfl
  | cons c rest =>
    have first : c ≠ '0' := by
      rintro rfl
      exact noZero rest rfl
    simp [isZeroLed, Text.startsWith, first]

/-- A number in the line form is one apart from its sign. -/
theorem isNumber_eq (text : List Char) :
    Line.isNumber text = Line.isUnsignedNumber (unsigned text) := by
  cases text with
  | nil => rfl
  | cons c rest =>
    obtain ⟨_, same, split⟩ | ⟨_, same, split⟩ | ⟨noPlus, noMinus, split⟩ :=
      unsigned_cases (c :: rest)
    · injection same with sign same
      rw [split, Line.isNumber, sign, same]
      rfl
    · injection same with sign same
      rw [split, Line.isNumber, sign, same]
      rfl
    · have noSign : Line.isSign c = false := by
        rw [Line.isSign, Bool.or_eq_false_iff, beq_eq_false_iff_ne, beq_eq_false_iff_ne]
        exact ⟨fun plus => noPlus rest (by rw [plus]), fun minus => noMinus rest (by rw [minus])⟩
      rw [split, Line.isNumber, noSign, if_neg Bool.false_ne_true]

/-- Behind the mark of a radix the test looks for its digits, and no decimal literal stands
there. -/
theorem isUnsignedNumber_of_radix {mark : Char} {radix : Nat} (isMark : radixOf? mark = some radix)
    (digits : List Char) :
    Line.isUnsignedNumber ('0' :: mark :: digits) = Number.isDigitsOf radix digits ∧
      Number.Decimal.ofLiteral? ('0' :: mark :: digits) = none := by
  rcases eq_of_radix isMark with ⟨rfl, rfl⟩ | ⟨rfl, rfl⟩ | ⟨rfl, rfl⟩
  all_goals exact ⟨rfl, ofLiteral?_radix (by decide) (by decide) (by decide) digits⟩

/-- A literal without such a mark differs from each that has one. -/
theorem ne_of_noMark {literal : List Char}
    (noMark : ∀ mark digits, literal = '0' :: mark :: digits → radixOf? mark = none) {mark : Char}
    (isMark : (radixOf? mark).isSome = true) : ∀ digits, literal ≠ '0' :: mark :: digits := by
  intro digits same
  rw [noMark _ _ same] at isMark
  cases isMark

/-- Without such a mark the test looks for a decimal. -/
theorem isUnsignedNumber_of_decimal {literal : List Char}
    (noMark : ∀ mark digits, literal = '0' :: mark :: digits → radixOf? mark = none) :
    Line.isUnsignedNumber literal = if isZeroLed literal then false
      else (Number.Decimal.ofLiteral? literal).any Number.Decimal.isFinite := by
  rw [Line.isUnsignedNumber]
  · rfl
  · exact ne_of_noMark noMark rfl
  · exact ne_of_noMark noMark rfl
  · exact ne_of_noMark noMark rfl

end CatalogAudit.Manifest.Layout

namespace CatalogAudit.Manifest.Line

open Number (Literal Sign)

/-- The text is two or more digits, the first of them a zero. -/
def IsZeroLed (text : List Char) : Prop :=
  ∃ digits, text = '0' :: digits ∧ digits ≠ [] ∧ ∀ c ∈ digits, Number.isDigit c = true

/-- The numerals without their sign. -/
inductive IsNumeral : List Char → Prop
  /-- Digits of a radix behind its mark. -/
  | radix {mark : Char} {radix : Nat} {digits : List Char}
      (isMark : Layout.radixOf? mark = some radix) (filled : digits ≠ [])
      (areDigits : ∀ c ∈ digits, (Number.digitIn? radix c).isSome = true) :
      IsNumeral ('0' :: mark :: digits)
  /-- A decimal literal that is finite as a double. -/
  | decimal (l : Literal) (finite : l.value < 2 ^ 1024 - 2 ^ 970) (free : ¬IsZeroLed l.text) :
      IsNumeral l.text

/-- The words for what is no number of finite size, in small letters. -/
def spelledNumbers : List (List Char) :=
  ["inf", "infinity", "nan", ".inf", ".infinity", ".nan"].map String.toList

/-- The reader sees leading zeros where there are some. -/
theorem isZeroLed_iff {text : List Char} : Layout.isZeroLed text = true ↔ IsZeroLed text := by
  constructor
  · intro zeroLed
    cases text with
    | nil => cases zeroLed
    | cons c digits =>
      by_cases zero : c = '0'
      · subst zero
        rw [Layout.isZeroLed_zero, Bool.and_eq_true, Bool.not_eq_true', List.isEmpty_eq_false_iff,
          List.all_eq_true] at zeroLed
        exact ⟨digits, rfl, zeroLed⟩
      · rw [Layout.isZeroLed_eq_false] at zeroLed
        · cases zeroLed
        · intro rest same
          injection same with same
          exact zero same
  · rintro ⟨digits, rfl, filled, areDigits⟩
    rw [Layout.isZeroLed_zero, Bool.and_eq_true, Bool.not_eq_true', List.isEmpty_eq_false_iff,
      List.all_eq_true]
    exact ⟨filled, areDigits⟩

/-- From here on the nearest double would be infinite. -/
theorem overflowThreshold_eq : (Number.overflowThreshold : ℚ) = 2 ^ 1024 - 2 ^ 970 := by
  have exponents : 970 ≤ 1024 := by decide
  unfold Number.overflowThreshold
  -- Of any exponents, so that no power is computed.
  generalize 1024 = high, 970 = low at exponents ⊢
  rw [Nat.pow_eq, Nat.pow_eq, Nat.cast_sub (Nat.pow_le_pow_right Nat.two_pos exponents),
    Nat.cast_pow, Nat.cast_pow, Nat.cast_ofNat]

/-- A literal is read as a finite decimal exactly when its value is below the midpoint. -/
theorem ofLiteral?_any_isFinite (l : Literal) :
    (Number.Decimal.ofLiteral? l.text).any Number.Decimal.isFinite = true ↔
      l.value < 2 ^ 1024 - 2 ^ 970 := by
  rw [Number.ofLiteral?_text, Option.any_some, Number.isFinite_iff (Number.isCounted_decimal l),
    Number.value_decimal, overflowThreshold_eq]

/-- What is read as a finite decimal is a literal with such a value. -/
theorem exists_finite {text : List Char}
    (finite : (Number.Decimal.ofLiteral? text).any Number.Decimal.isFinite = true) :
    ∃ l : Literal, l.text = text ∧ l.value < 2 ^ 1024 - 2 ^ 970 := by
  have whole := finite
  cases read : Number.Decimal.ofLiteral? text with
  | none =>
    rw [read] at finite
    cases finite
  | some d =>
    obtain ⟨l, rfl⟩ := Number.exists_literal read
    exact ⟨l, rfl, (ofLiteral?_any_isFinite l).mp whole⟩

section Unsigned

variable {literal : List Char}

/-- The numerals are what the test takes for a number behind a sign. -/
theorem isUnsignedNumber_iff : isUnsignedNumber literal = true ↔ IsNumeral literal := by
  by_cases marked : ∃ mark radix digits, Layout.radixOf? mark = some radix ∧
      literal = '0' :: mark :: digits
  · obtain ⟨mark, radix, digits, isMark, rfl⟩ := marked
    obtain ⟨isNumber, noLiteral⟩ := Layout.isUnsignedNumber_of_radix isMark digits
    rw [isNumber, Number.isDigitsOf, Bool.and_eq_true, Bool.not_eq_true', List.isEmpty_eq_false_iff,
      List.all_eq_true]
    constructor
    · rintro ⟨filled, areDigits⟩
      exact .radix isMark filled areDigits
    · intro numeral
      generalize same : '0' :: mark :: digits = text at numeral
      cases numeral with
      | radix isMark' filled areDigits =>
        injection same with _ same
        injection same with sameMark sameDigits
        subst sameMark sameDigits
        rw [isMark] at isMark'
        rw [Option.some.inj isMark']
        exact ⟨filled, areDigits⟩
      | decimal l =>
        rw [same, Number.ofLiteral?_text] at noLiteral
        cases noLiteral
  · have noMark : ∀ mark digits, literal = '0' :: mark :: digits →
        Layout.radixOf? mark = none := by
      intro mark digits same
      cases isMark : Layout.radixOf? mark with
      | none => rfl
      | some radix => exact absurd ⟨mark, radix, digits, isMark, same⟩ marked
    rw [Layout.isUnsignedNumber_of_decimal noMark]
    constructor
    · intro number
      split at number
      · cases number
      · rename_i free
        obtain ⟨l, rfl, finite⟩ := exists_finite number
        exact .decimal l finite (mt isZeroLed_iff.mpr free)
    · intro numeral
      cases numeral with
      | radix isMark => exact absurd ⟨_, _, _, isMark, rfl⟩ marked
      | decimal l finite free =>
        rw [if_neg (mt isZeroLed_iff.mp free)]
        exact (ofLiteral?_any_isFinite l).mpr finite

/-- No numeral begins with a sign. -/
theorem isUnsignedNumber_sign {c : Char} (sign : isSign c = true) (rest : List Char) :
    isUnsignedNumber (c :: rest) = false := by
  rw [isSign, Bool.or_eq_true, beq_iff_eq, beq_iff_eq] at sign
  have noLiteral : Number.Decimal.ofLiteral? (c :: rest) = none := by
    rcases sign with rfl | rfl <;> rfl
  have noMark : ∀ mark digits, c :: rest = '0' :: mark :: digits → Layout.radixOf? mark = none := by
    rintro mark digits same
    injection same with zero
    rcases sign with rfl | rfl <;> cases zero
  rw [Layout.isUnsignedNumber_of_decimal noMark, noLiteral, Option.any_none, ite_self]

/-- Only two letters are an `n` in small letters. -/
theorem eq_of_toLower {c : Char} (small : c.toLower = 'n') : c = 'n' ∨ c = 'N' := by
  unfold Char.toLower at small
  split at small
  · right
    have shifted := congrArg Char.val small
    apply Char.ext
    exact (UInt32.add_left_inj ('a'.val - 'A'.val)).mp shifted
  · exact .inl small

/-- The letter `n` occurs in no numeral. -/
theorem not_mem_of_isNumeral (numeral : IsNumeral literal) : 'n' ∉ literal.map Char.toLower := by
  intro occurs
  obtain ⟨c, mem, small⟩ := List.mem_map.mp occurs
  have letter := eq_of_toLower small
  cases numeral with
  | @radix mark radix digits isMark filled areDigits =>
    rw [List.mem_cons, List.mem_cons] at mem
    obtain rfl | rfl | mem := mem
    · rcases letter with zero | zero <;> cases zero
    · rcases letter with rfl | rfl <;> cases isMark
    · have isDigit := areDigits c mem
      rcases Layout.eq_of_radix isMark with ⟨-, rfl⟩ | ⟨-, rfl⟩ | ⟨-, rfl⟩
      all_goals rcases letter with rfl | rfl <;> cases isDigit
  | decimal l finite free =>
    obtain isDigit | mark := Number.mem_text mem
    · rcases letter with rfl | rfl <;> cases isDigit
    · rcases letter with rfl | rfl <;> exact absurd mark (by decide)

end Unsigned

/-- The test looks for a numeral behind at most one sign. -/
theorem isNumber_eq_true_iff {text : List Char} : isNumber text = true ↔
    ∃ (sign : Sign) (literal : List Char), text = sign.text ++ literal ∧ IsNumeral literal := by
  rw [Layout.isNumber_eq]
  constructor
  · intro number
    have numeral := isUnsignedNumber_iff.mp number
    obtain ⟨rest, rfl, -⟩ | ⟨rest, rfl, -⟩ | ⟨-, -, same⟩ := Layout.unsigned_cases text
    · exact ⟨.plus, rest, rfl, numeral⟩
    · exact ⟨.minus, rest, rfl, numeral⟩
    · rw [same] at numeral
      exact ⟨.none, text, rfl, numeral⟩
  · rintro ⟨sign, literal, rfl, numeral⟩
    have number := isUnsignedNumber_iff.mpr numeral
    cases sign with
    | plus => exact number
    | minus => exact number
    | none =>
      change isUnsignedNumber (Layout.unsigned literal) = true
      obtain ⟨rest, rfl, -⟩ | ⟨rest, rfl, -⟩ | ⟨-, -, same⟩ := Layout.unsigned_cases literal
      · rw [isUnsignedNumber_sign rfl] at number
        cases number
      · rw [isUnsignedNumber_sign rfl] at number
        cases number
      · rwa [same]

/-- The letter `n` occurs in no number. -/
theorem not_mem_of_isNumber {text : List Char} (number : isNumber text = true) :
    'n' ∉ text.map Char.toLower := by
  obtain ⟨sign, literal, rfl, numeral⟩ := isNumber_eq_true_iff.mp number
  rw [List.map_append, List.mem_append, not_or]
  refine ⟨?_, not_mem_of_isNumeral numeral⟩
  cases sign <;> decide

/-- A sign in front of a literal leaves the rest to decide. -/
theorem isNumber_literal (sign : Sign) (l : Literal) :
    isNumber (sign.text ++ l.text) = isUnsignedNumber l.text := by
  rw [Layout.isNumber_eq]
  cases sign with
  | plus => rfl
  | minus => rfl
  | none =>
    change isUnsignedNumber (Layout.unsigned l.text) = _
    have literal := Number.ofLiteral?_text l
    obtain ⟨rest, same, -⟩ | ⟨rest, same, -⟩ | ⟨-, -, same⟩ := Layout.unsigned_cases l.text
    · rw [same] at literal
      cases literal
    · rw [same] at literal
      cases literal
    · rw [same]

/-- A numeral that is a decimal literal is below the midpoint. -/
theorem value_lt_of_isNumeral {l : Literal} (numeral : IsNumeral l.text) :
    l.value < 2 ^ 1024 - 2 ^ 970 := by
  generalize same : l.text = text at numeral
  cases numeral with
  | radix isMark =>
    have literal := Number.ofLiteral?_text l
    rw [same, (Layout.isUnsignedNumber_of_radix isMark _).2] at literal
    cases literal
  | decimal l' finite =>
    rwa [Number.value_eq_of_text_eq same]

/-- **Numbers are numerals.** The test takes for a number exactly a numeral behind at most one sign.
Words for infinity and for what is no number, two signs, and literals from the midpoint on are none,
whatever their size. -/
theorem isNumber_isExact :
    (∀ text, isNumber text = true ↔
      ∃ (sign : Sign) (literal : List Char), text = sign.text ++ literal ∧ IsNumeral literal) ∧
    (∀ (sign : Sign) (word : List Char), word.map Char.toLower ∈ spelledNumbers →
      isNumber (sign.text ++ word) = false) ∧
    (∀ c d rest, isSign c = true → isSign d = true → isNumber (c :: d :: rest) = false) ∧
    ∀ (sign : Sign) (l : Literal), 2 ^ 1024 - 2 ^ 970 ≤ l.value →
      isNumber (sign.text ++ l.text) = false := by
  refine ⟨fun text => isNumber_eq_true_iff, ?_, ?_, ?_⟩
  · intro sign word spelled
    have letter : ∀ word ∈ spelledNumbers, 'n' ∈ word := by decide
    rw [Bool.eq_false_iff]
    intro number
    apply not_mem_of_isNumber number
    rw [List.map_append, List.mem_append]
    exact .inr (letter _ spelled)
  · intro c d rest first second
    rw [isNumber, if_pos first]
    exact isUnsignedNumber_sign second rest
  · intro sign l large
    rw [isNumber_literal, Bool.eq_false_iff]
    intro number
    exact large.not_gt (value_lt_of_isNumeral (isUnsignedNumber_iff.mp number))

/-- A signed numeral, a word for infinity, two signs, and a literal that is too large. -/
theorem isNumber_isExact_each :
    isNumber "-0x1F".toList = true ∧ isNumber "+.Inf".toList = false ∧
      isNumber "+-1".toList = false ∧ isNumber "-1e309".toList = false := by
  obtain ⟨exact, words, signs, literals⟩ := isNumber_isExact
  refine ⟨?_, words .plus ".Inf".toList (by decide), signs '+' '-' ['1'] rfl rfl, ?_⟩
  · have digits : ∀ c ∈ ['1', 'F'], (Number.digitIn? 16 c).isSome = true := List.all_eq_true.mp rfl
    exact (exact _).mpr ⟨.minus, "0x1F".toList, rfl, .radix rfl (List.cons_ne_nil _ _) digits⟩
  · refine literals .minus
      ⟨['1'], none, some ⟨'e', .none, ['3', '0', '9'], .inl rfl, ?_, ?_⟩, ?_, ?_⟩ ?_
    · exact List.cons_ne_nil _ _
    · exact List.all_eq_true.mp rfl
    · exact List.all_eq_true.mp rfl
    · exact List.cons_ne_nil _ _
    · have one : Number.readDigits 10 ['1'] = 1 := by decide
      have zero : Number.readDigits 10 [] = 0 := rfl
      change 2 ^ 1024 - 2 ^ 970 ≤ (Number.readDigits 10 ['1'] + Number.readDigits 10 [] / 10 ^ 0) *
        (10 : ℚ) ^ (309 : ℤ)
      rw [one, zero, Nat.cast_one, Nat.cast_zero, zero_div, add_zero, one_mul,
        ← overflowThreshold_eq]
      exact Number.threshold_bounds.2

end CatalogAudit.Manifest.Line
