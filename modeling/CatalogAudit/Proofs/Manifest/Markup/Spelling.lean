import CatalogAudit.Proofs.Manifest.Numerals
import CatalogAudit.Yaml.Value.Plain

/-!
# Strings by their spelling

What the line form takes for a string by its spelling is a string in markup too. The two know the
same words and the same numerals; only a whole number that fits in 128 bits, but not in 64, is
refused by markup, and that is a number in the line form.
-/

namespace CatalogAudit.Manifest.Layout

/-- A text that is none of some words differs from each. -/
theorem ne_of_contains_eq_false {words : List String} {text : List Char}
    (other : words.contains (String.ofList text) = false) {word : String} (mem : word ∈ words) :
    text ≠ word.toList := by
  rintro rfl
  rw [String.ofList_toList, ← Bool.not_eq_true, List.contains_iff_mem] at other
  exact other mem

/-- Digits that are no number in the line form are a number of more than 128 bits. -/
theorem le_of_digits {literal : List Char}
    (infinite : (Number.Decimal.ofLiteral? literal).any Number.Decimal.isFinite = false) {n : Nat}
    (reads : Yaml.Plain.digits? 10 literal = some n) : Nat.pow 2 128 ≤ n := by
  rw [Yaml.Plain.digits?] at reads
  split at reads
  · rename_i isDigits
    rw [Number.isDigitsOf_ten, Bool.and_eq_true, List.all_eq_true] at isDigits
    obtain ⟨filled, digits⟩ := isDigits
    obtain rfl := Option.some.inj reads
    apply Nat.not_lt.mp
    intro small
    have finite := Number.isFinite_of_lt digits small
    rw [Number.ofLiteral?_digits digits (by simpa using filled), Option.any_some, finite]
      at infinite
    cases infinite
  · cases reads

/-- A literal that is no number in the line form is none in markup either. -/
theorem noNumber_of_isUnsignedNumber {literal : List Char}
    (noNumber : Line.isUnsignedNumber literal = false) (noZeros : isZeroLed literal = false) :
    (∀ n, Yaml.Plain.size? literal = some n → Nat.pow 2 128 ≤ n) ∧
      ∀ d, Number.Decimal.ofLiteral? literal = some d → d.isFinite = false := by
  have radix : ∀ {base : Nat} {digits : List Char} {n : Nat},
      Number.isDigitsOf base digits = false → Yaml.Plain.digits? base digits ≠ some n := by
    intro base digits n other
    rw [Yaml.Plain.digits?, other]
    exact Option.some_ne_none n ∘ Eq.symm
  unfold Line.isUnsignedNumber at noNumber
  split at noNumber
  case h_1 | h_2 | h_3 =>
    refine ⟨fun n reads => absurd reads (radix noNumber), fun d reads => ?_⟩
    rw [ofLiteral?_radix (by decide) (by decide) (by decide)] at reads
    cases reads
  case h_4 noHex noOctal noBinary =>
    rw [isZeroLed] at noZeros
    rw [noZeros, if_neg Bool.false_ne_true] at noNumber
    constructor
    · intro n reads
      have decimal : Yaml.Plain.size? literal = Yaml.Plain.digits? 10 literal := by
        rw [Yaml.Plain.size?]
        · exact noHex
        · exact noOctal
        · exact noBinary
      rw [decimal] at reads
      exact le_of_digits noNumber reads
    · intro d reads
      rwa [reads, Option.any_some] at noNumber

/-- Both readers see leading zeros behind a sign. -/
theorem isZeroLedDigits_eq (text : List Char) :
    Yaml.Plain.isZeroLedDigits text = isZeroLed (unsigned text) := by
  by_cases zero : ∃ rest, unsigned text = '0' :: rest
  · obtain ⟨rest, zero⟩ := zero
    rw [zero, isZeroLed_zero]
    rcases unsigned_cases text with ⟨_, rfl, split⟩ | ⟨_, rfl, split⟩ | ⟨-, -, split⟩
    · rw [← split, zero]
      rfl
    · rw [← split, zero]
      rfl
    · rw [← split, zero]
      rfl
  · rw [not_exists] at zero
    rw [isZeroLed_eq_false zero]
    rcases unsigned_cases text with ⟨_, rfl, split⟩ | ⟨_, rfl, split⟩ | ⟨noPlus, noMinus, split⟩
    · rw [split] at zero
      rw [Yaml.Plain.isZeroLedDigits]
      exact zero
    · rw [split] at zero
      rw [Yaml.Plain.isZeroLedDigits]
      exact zero
    · rw [split] at zero
      rw [Yaml.Plain.isZeroLedDigits]
      · exact noPlus
      · exact noMinus
      · exact zero

/-- Whether the text has a minus. -/
def isNegative (text : List Char) : Bool := text.head? == some '-'

/-- A whole number is too large for markup when it has more than 128 bits, signed or unsigned. -/
theorem width_eq_beyond_iff (n : Int) :
    Yaml.Plain.width n = .beyond ↔ n < -(Nat.pow 2 127 : Int) ∨ (Nat.pow 2 128 : Int) ≤ n := by
  have limits : (Nat.pow 2 64 : Nat) = 18446744073709551616
      ∧ Nat.pow 2 128 = 340282366920938463463374607431768211456
      ∧ (Nat.pow 2 63 : Nat) = 9223372036854775808
      ∧ (Nat.pow 2 127 : Nat) = 170141183460469231731687303715884105728 := by decide
  obtain ⟨bits64, bits128, bits63, bits127⟩ := limits
  simp only [Yaml.Plain.width, bits64, bits128, bits63, bits127]
  repeat' split
  all_goals
    simp only [reduceCtorEq, false_iff, true_iff]
    omega

section Strings

variable {text : List Char}

/-- A whole number is its size with its sign. -/
theorem whole?_eq (noZeros : Yaml.Plain.isZeroLedDigits text = false) :
    Yaml.Plain.whole? text = Option.map
      (fun n : Nat => if isNegative text then -(n : Int) else (n : Int))
      (Yaml.Plain.size? (unsigned text)) := by
  unfold Yaml.Plain.whole?
  rw [noZeros, if_neg Bool.false_ne_true]
  obtain ⟨rest, rfl, split⟩ | ⟨rest, rfl, split⟩ | ⟨noPlus, noMinus, split⟩ := unsigned_cases text
  · rw [split]
    cases size : Yaml.Plain.size? rest <;> simp only [size] <;> rfl
  · rw [split]
    cases size : Yaml.Plain.size? rest <;> simp only [size] <;> rfl
  · have positive : isNegative text = false := by
      cases text with
      | nil => rfl
      | cons c rest =>
        rw [isNegative, List.head?_cons, beq_eq_false_iff_ne]
        intro minus
        exact noMinus rest (by rw [Option.some.inj minus])
    rw [split, positive]
    split
    · exact absurd rfl (noMinus _)
    · exact absurd rfl (noPlus _)
    · cases Yaml.Plain.size? text <;> rfl

/-- A whole number that is no number in the line form has more than 128 bits. -/
theorem width_of_whole? (noZeros : Yaml.Plain.isZeroLedDigits text = false)
    (large : ∀ n, Yaml.Plain.size? (unsigned text) = some n → Nat.pow 2 128 ≤ n) {n : Int}
    (whole : Yaml.Plain.whole? text = some n) : Yaml.Plain.width n = .beyond := by
  rw [whole?_eq noZeros] at whole
  obtain ⟨m, size, rfl⟩ := Option.map_eq_some_iff.mp whole
  have large := large m size
  have more : Nat.pow 2 127 < Nat.pow 2 128 := by decide
  rw [width_eq_beyond_iff]
  cases isNegative text with
  | true =>
    rw [if_pos rfl]
    omega
  | false =>
    rw [if_neg Bool.false_ne_true]
    omega

/-- Behind a sign, a literal is a finite number for the structured reader when its decimal is. -/
theorem isSome_finite?_signed {sign : Char} (isSign : sign = '+' ∨ sign = '-')
    (literal : List Char) : (Yaml.Plain.finite? (sign :: literal)).isSome =
      (Number.Decimal.ofLiteral? literal).any Number.Decimal.isFinite := by
  cases reads : Number.Decimal.ofLiteral? literal with
  | none => rcases isSign with rfl | rfl <;> simp [Yaml.Plain.finite?, reads]
  | some d =>
    cases finite : d.isFinite with
    | false => rcases isSign with rfl | rfl <;> simp [Yaml.Plain.finite?, reads, finite]
    | true => rcases isSign with rfl | rfl <;> simp [Yaml.Plain.finite?, reads, finite]

/-- A text is a finite double when it is a finite decimal apart from its sign. -/
theorem isSome_finite? (text : List Char) : (Yaml.Plain.finite? text).isSome =
    (Number.Decimal.ofLiteral? (unsigned text)).any Number.Decimal.isFinite := by
  obtain ⟨_, rfl, split⟩ | ⟨_, rfl, split⟩ | ⟨noPlus, noMinus, split⟩ := unsigned_cases text
  · exact isSome_finite?_signed (.inl rfl) _
  · exact isSome_finite?_signed (.inr rfl) _
  · -- Without a sign a text is read as it is with a plus.
    rw [split, Yaml.Plain.finite?]
    · exact isSome_finite?_signed (.inl rfl) text
    · exact noMinus
    · exact noPlus

/-- What is no finite literal apart from its sign is no finite double. -/
theorem finite?_eq_none
    (infinite : ∀ d, Number.Decimal.ofLiteral? (unsigned text) = some d → d.isFinite = false) :
    Yaml.Plain.finite? text = none := by
  rw [← Option.not_isSome_iff_eq_none, isSome_finite?, Bool.not_eq_true]
  cases reads : Number.Decimal.ofLiteral? (unsigned text) with
  | none => rfl
  | some d => exact infinite d reads

/-- The signed words for infinity are known to the line form. -/
theorem isInfinityWord_signed {sign : Char} (isSign : sign = '+' ∨ sign = '-') {rest : List Char}
    (other : Line.specialNumbers.contains (String.ofList (sign :: rest)) = false) :
    Yaml.Plain.isInfinityWord rest = false := by
  have differs : ∀ word ∈ Line.specialNumbers, sign :: rest ≠ word.toList := fun word mem =>
    ne_of_contains_eq_false other mem
  rw [← Bool.not_eq_true]
  intro infinity
  simp only [Yaml.Plain.isInfinityWord, Bool.or_eq_true, beq_iff_eq] at infinity
  rcases isSign with rfl | rfl
  · rcases infinity with (rfl | rfl) | rfl
    · exact differs "+.inf" (by decide) rfl
    · exact differs "+.Inf" (by decide) rfl
    · exact differs "+.INF" (by decide) rfl
  · rcases infinity with (rfl | rfl) | rfl
    · exact differs "-.inf" (by decide) rfl
    · exact differs "-.Inf" (by decide) rfl
    · exact differs "-.INF" (by decide) rfl

/-- The words for doubles are known to the line form. -/
theorem double?_eq_finite? (other : Line.specialNumbers.contains (String.ofList text) = false) :
    Yaml.Plain.double? text = Yaml.Plain.finite? text := by
  have differs : ∀ word ∈ Line.specialNumbers, (text == word.toList) = false := fun word mem =>
    beq_eq_false_iff_ne.mpr (ne_of_contains_eq_false other mem)
  have infinity : Yaml.Plain.isInfinityWord text = false := by
    rw [Yaml.Plain.isInfinityWord, differs ".inf" (by decide), differs ".Inf" (by decide),
      differs ".INF" (by decide)]
    rfl
  have undefined : Yaml.Plain.isUndefinedWord text = false := by
    rw [Yaml.Plain.isUndefinedWord, differs ".nan" (by decide), differs ".NaN" (by decide),
      differs ".NAN" (by decide)]
    rfl
  unfold Yaml.Plain.double?
  rw [infinity, undefined]
  simp only [Bool.false_eq_true, if_false]
  split
  · rename_i rest
    rw [isInfinityWord_signed (.inl rfl) other]
    rfl
  · rename_i rest
    rw [isInfinityWord_signed (.inr rfl) other]
    rfl
  · rfl

/-- The words for null and the truth values are known to the line form. -/
theorem value?_eq_numberOrText? (filled : text ≠ [])
    (noNull : Line.nullWords.contains (String.ofList text) = false)
    (noBoolean : Line.booleanWords.contains (String.ofList text) = false) :
    Yaml.Plain.value? text = Yaml.Plain.numberOrText? text := by
  have notNull : (text.isEmpty || Yaml.Plain.isNullWord text) = false := by
    have differs : ∀ word ∈ Line.nullWords, (text == word.toList) = false := fun word mem =>
      beq_eq_false_iff_ne.mpr (ne_of_contains_eq_false noNull mem)
    rw [List.isEmpty_eq_false_iff.mpr filled, Yaml.Plain.isNullWord, differs "null" (by decide),
      differs "Null" (by decide), differs "NULL" (by decide)]
    have tilde : (text == ['~']) = false := differs "~" (by decide)
    rw [tilde]
    rfl
  have noTruth : Yaml.Plain.truth? text = none := by
    have differs : ∀ word ∈ Line.booleanWords, (text == word.toList) = false := fun word mem =>
      beq_eq_false_iff_ne.mpr (ne_of_contains_eq_false noBoolean mem)
    rw [Yaml.Plain.truth?, differs "true" (by decide), differs "True" (by decide),
      differs "TRUE" (by decide), differs "false" (by decide), differs "False" (by decide),
      differs "FALSE" (by decide)]
    rfl
  rw [Yaml.Plain.value?, notNull, noTruth]
  simp only [Bool.false_eq_true, if_false]

/-- A string of the line form is a string of markup. -/
theorem value?_eq_text (filled : text ≠ [])
    (string : Line.spelledType? text = none) : Yaml.Plain.value? text = some (.text text) := by
  simp only [Line.spelledType?] at string
  split at string
  · cases string
  split at string
  · cases string
  split at string
  · cases string
  split at string
  · cases string
  rename_i noNull noBoolean noSpecial noNumber
  rw [Bool.not_eq_true] at noNull noBoolean noSpecial noNumber
  rw [value?_eq_numberOrText? filled noNull noBoolean]
  rw [Yaml.Plain.numberOrText?]
  cases zeros : Yaml.Plain.isZeroLedDigits text with
  | true =>
    have noWhole : Yaml.Plain.whole? text = none := by
      unfold Yaml.Plain.whole?
      rw [if_pos zeros]
    rw [noWhole]
    rfl
  | false =>
    have noZeros := zeros
    rw [isZeroLedDigits_eq] at noZeros
    rw [isNumber_eq] at noNumber
    obtain ⟨large, infinite⟩ := noNumber_of_isUnsignedNumber noNumber noZeros
    rw [double?_eq_finite? noSpecial, finite?_eq_none infinite]
    cases whole : Yaml.Plain.whole? text with
    | none => rfl
    | some n =>
      simp only [width_of_whole? zeros large whole]
      rfl

end Strings

end CatalogAudit.Manifest.Layout
