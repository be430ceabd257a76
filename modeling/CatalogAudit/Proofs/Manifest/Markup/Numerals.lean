import CatalogAudit.Manifest.Structured
import CatalogAudit.Proofs.Manifest.Decoding.Scalar
import CatalogAudit.Proofs.Manifest.Markup.Spelling

/-!
# Numbers by their spelling

The line form looks at the characters of a number only, while markup computes it. They agree on what
is a number, however long it is, with one exception: digits behind the mark of a radix that make
more than 128 bits are too large for a whole number and no decimal either, so markup has them as a
string. Decimal digits of that size are still a finite double, or a string in both.
-/

namespace CatalogAudit.Manifest.Layout

/-- The text is a whole number behind the mark of a radix, with at most one sign, and has more than
128 bits: signed where there is a minus, and else unsigned. -/
def IsLarge (text : List Char) : Prop :=
  ∃ mark radix digits, radixOf? mark = some radix ∧ unsigned text = '0' :: mark :: digits ∧
    Number.isDigitsOf radix digits = true ∧
      if isNegative text then Nat.pow 2 127 < Number.readDigits radix digits
      else Nat.pow 2 128 ≤ Number.readDigits radix digits

section Unsigned

variable {literal : List Char}

/-- Behind the mark of a radix markup looks for its digits. -/
theorem size?_of_radix {mark : Char} {radix : Nat} (isMark : radixOf? mark = some radix)
    (digits : List Char) :
    Yaml.Plain.size? ('0' :: mark :: digits) = Yaml.Plain.digits? radix digits := by
  rcases eq_of_radix isMark with ⟨rfl, rfl⟩ | ⟨rfl, rfl⟩ | ⟨rfl, rfl⟩ <;> rfl

/-- Without such a mark markup looks for decimal digits. -/
theorem size?_of_decimal
    (noMark : ∀ mark digits, literal = '0' :: mark :: digits → radixOf? mark = none) :
    Yaml.Plain.size? literal = Yaml.Plain.digits? 10 literal := by
  rw [Yaml.Plain.size?]
  · exact ne_of_noMark noMark rfl
  · exact ne_of_noMark noMark rfl
  · exact ne_of_noMark noMark rfl

end Unsigned

section Signed

variable {text : List Char}

/-- The text is large exactly where its value is too large for markup. -/
theorem isLarge_iff_of_radix {mark : Char} {radix : Nat} {digits : List Char}
    (isMark : radixOf? mark = some radix) (split : unsigned text = '0' :: mark :: digits)
    (isDigits : Number.isDigitsOf radix digits = true) :
    IsLarge text ↔ Yaml.Plain.width (if isNegative text then
      -(Number.readDigits radix digits : Int) else (Number.readDigits radix digits : Int))
        = .beyond := by
  have beyond : Yaml.Plain.width (if isNegative text then
      -(Number.readDigits radix digits : Int) else (Number.readDigits radix digits : Int))
        = .beyond ↔ if isNegative text then Nat.pow 2 127 < Number.readDigits radix digits
          else Nat.pow 2 128 ≤ Number.readDigits radix digits := by
    have positive : 0 < Nat.pow 2 127 ∧ 0 < Nat.pow 2 128 := by decide
    rw [width_eq_beyond_iff]
    cases isNegative text with
    | true =>
      rw [if_pos rfl, if_pos rfl]
      omega
    | false =>
      rw [if_neg Bool.false_ne_true, if_neg Bool.false_ne_true]
      omega
  rw [beyond]
  constructor
  · rintro ⟨mark', radix', digits', isMark', split', -, large⟩
    rw [split] at split'
    injection split' with _ split'
    injection split' with same sameDigits
    rw [← same, isMark] at isMark'
    rw [Option.some.inj isMark', sameDigits]
    exact large
  · intro large
    exact ⟨mark, radix, digits, isMark, split, isDigits, large⟩

/-- A numeral without the mark of a radix is not large. -/
theorem not_isLarge_of_decimal
    (noMark : ∀ mark digits, unsigned text = '0' :: mark :: digits → radixOf? mark = none) :
    ¬IsLarge text := by
  rintro ⟨mark, radix, digits, isMark, split, -⟩
  rw [noMark mark digits split] at isMark
  cases isMark

/-- What is no whole number, or too large for one, is a double or a string. -/
theorem numberOrText?_cases {v : Yaml.Value} (noZeros : Yaml.Plain.isZeroLedDigits text = false)
    (value : Yaml.Plain.numberOrText? text = some v) :
    (∃ n, Yaml.Plain.whole? text = some n ∧ Yaml.Plain.width n = .fits ∧
        v = .number (.whole n)) ∨
      (∀ n, Yaml.Plain.whole? text = some n → Yaml.Plain.width n = .beyond) ∧
        ((∃ quantity, Yaml.Plain.double? text = some quantity ∧ v = .number quantity) ∨
          Yaml.Plain.double? text = none ∧ v = .text text) := by
  unfold Yaml.Plain.numberOrText? at value
  rw [noZeros] at value
  simp only [Bool.false_eq_true, if_false] at value
  cases whole : Yaml.Plain.whole? text with
  | none =>
    rw [whole] at value
    dsimp only at value
    refine .inr ⟨fun n some => absurd some (Option.some_ne_none n).symm, ?_⟩
    split at value
    · rename_i quantity double
      exact .inl ⟨quantity, double, (Option.some.inj value).symm⟩
    · rename_i double
      exact .inr ⟨double, (Option.some.inj value).symm⟩
  | some n =>
    rw [whole] at value
    cases width : Yaml.Plain.width n with
    | fits =>
      simp only [width] at value
      exact .inl ⟨n, rfl, width, (Option.some.inj value).symm⟩
    | refused =>
      simp only [width] at value
      cases value
    | beyond =>
      simp only [width] at value
      refine .inr ⟨fun m same => by rw [← Option.some.inj same, width], ?_⟩
      split at value
      · rename_i quantity double
        exact .inl ⟨quantity, double, (Option.some.inj value).symm⟩
      · rename_i double
        exact .inr ⟨double, (Option.some.inj value).symm⟩

/-- Digits behind the mark of a radix are a number in markup, unless they are too large. -/
theorem value?_of_radix {mark : Char} {radix : Nat} {digits : List Char}
    (isMark : radixOf? mark = some radix) (split : unsigned text = '0' :: mark :: digits)
    (number : Line.isUnsignedNumber (unsigned text) = true)
    (noSpecial : Line.specialNumbers.contains (String.ofList text) = false) {v : Yaml.Value}
    (value : Yaml.Plain.numberOrText? text = some v) :
    IsLarge text ∧ v = .text text ∨ ¬IsLarge text ∧ ∃ quantity, v = .number quantity := by
  have size := size?_of_radix isMark digits
  obtain ⟨isNumber, noLiteral⟩ := isUnsignedNumber_of_radix isMark digits
  rw [split, isNumber] at number
  have noZeros : Yaml.Plain.isZeroLedDigits text = false := by
    have noDigit : Number.isDigit mark = false := isDigit_of_radix isMark
    rw [isZeroLedDigits_eq, split, isZeroLed_zero, List.all_cons, noDigit, Bool.false_and,
      Bool.and_false]
  have whole : Yaml.Plain.whole? text = some (if isNegative text then
      -(Number.readDigits radix digits : Int) else (Number.readDigits radix digits : Int)) := by
    rw [whole?_eq noZeros, split, size, Yaml.Plain.digits?, if_pos number, Option.map_some]
  have noDouble : Yaml.Plain.double? text = none := by
    rw [double?_eq_finite? noSpecial, ← Option.isNone_iff_eq_none, ← Option.not_isSome,
      isSome_finite?, split, noLiteral]
    rfl
  rw [isLarge_iff_of_radix isMark split number]
  obtain ⟨n, isWhole, width, rfl⟩ | ⟨beyond, ⟨quantity, double, -⟩ | ⟨-, rfl⟩⟩ :=
    numberOrText?_cases noZeros value
  · rw [whole] at isWhole
    rw [Option.some.inj isWhole, width]
    exact .inr ⟨by decide, _, rfl⟩
  · rw [noDouble] at double
    cases double
  · exact .inl ⟨beyond _ whole, rfl⟩

/-- A decimal of the line form is a number in markup, whatever its size. -/
theorem exists_number_of_decimal
    (noMark : ∀ mark digits, unsigned text = '0' :: mark :: digits → radixOf? mark = none)
    (number : Line.isUnsignedNumber (unsigned text) = true)
    (noSpecial : Line.specialNumbers.contains (String.ofList text) = false) {v : Yaml.Value}
    (value : Yaml.Plain.numberOrText? text = some v) : ∃ quantity, v = .number quantity := by
  have size := size?_of_decimal noMark
  have isNumber := isUnsignedNumber_of_decimal noMark
  rw [isNumber] at number
  have noZeros : isZeroLed (unsigned text) = false := by
    rw [Bool.eq_false_iff]
    intro zeros
    rw [if_pos zeros] at number
    cases number
  rw [noZeros, if_neg Bool.false_ne_true, ← isSome_finite?] at number
  rw [← isZeroLedDigits_eq] at noZeros
  obtain ⟨n, -, -, rfl⟩ | ⟨-, ⟨quantity, -, rfl⟩ | ⟨noDouble, -⟩⟩ :=
    numberOrText?_cases noZeros value
  · exact ⟨_, rfl⟩
  · exact ⟨_, rfl⟩
  · rw [double?_eq_finite? noSpecial] at noDouble
    rw [noDouble] at number
    cases number

/-- A number of the line form is one in markup, unless it is too large there and has a mark. -/
theorem value?_of_isNumber (number : Line.isNumber text = true)
    (noSpecial : Line.specialNumbers.contains (String.ofList text) = false) {v : Yaml.Value}
    (value : Yaml.Plain.numberOrText? text = some v) :
    IsLarge text ∧ v = .text text ∨ ¬IsLarge text ∧ ∃ quantity, v = .number quantity := by
  rw [isNumber_eq] at number
  by_cases marked : ∃ mark radix digits, radixOf? mark = some radix ∧
      unsigned text = '0' :: mark :: digits
  · obtain ⟨mark, radix, digits, isMark, split⟩ := marked
    exact value?_of_radix isMark split number noSpecial value
  · have noMark : ∀ mark digits, unsigned text = '0' :: mark :: digits → radixOf? mark = none := by
      intro mark digits split
      cases isMark : radixOf? mark with
      | none => rfl
      | some radix => exact absurd ⟨mark, radix, digits, isMark, split⟩ marked
    exact .inr ⟨not_isLarge_of_decimal noMark,
      exists_number_of_decimal noMark number noSpecial value⟩

/-- The words that are no strings mean the same in both forms, and none of them is a numeral. -/
theorem value?_word : ∀ word ∈ Line.nullWords ++ Line.booleanWords ++ Line.specialNumbers,
    (Yaml.Plain.value? word.toList).map Structured.rawValue = some (Line.spelledValue word.toList) ∧
      (unsigned word.toList).head? ≠ some '0' := by
  decide

/-- A numeral that does not begin with a zero is not large. -/
theorem not_isLarge_of_head? (head : (unsigned text).head? ≠ some '0') : ¬IsLarge text := by
  rintro ⟨mark, radix, digits, -, split, -⟩
  rw [split] at head
  exact head rfl

/-- What the line form tells by the spelling of a plain text is what markup makes of it, unless it
is a number that is too large there and has the mark of a radix. -/
theorem value?_agrees (filled : text ≠ []) {v : Yaml.Value}
    (value : Yaml.Plain.value? text = some v) :
    IsLarge text ∧ Line.spelledValue text = .other .number ∧ v = .text text ∨
      ¬IsLarge text ∧ Structured.rawValue v = Line.spelledValue text := by
  have ofWord : ∀ word ∈ Line.nullWords ++ Line.booleanWords ++ Line.specialNumbers,
      String.ofList text = word →
        ¬IsLarge text ∧ Structured.rawValue v = Line.spelledValue text := by
    rintro word mem rfl
    obtain ⟨means, head⟩ := value?_word _ mem
    rw [String.toList_ofList] at means head
    rw [value, Option.map_some] at means
    exact ⟨not_isLarge_of_head? head, Option.some.inj means⟩
  by_cases isWord :
      String.ofList text ∈ Line.nullWords ++ Line.booleanWords ++ Line.specialNumbers
  · exact .inr (ofWord _ isWord rfl)
  · rw [List.mem_append, List.mem_append, not_or, not_or] at isWord
    simp only [← List.contains_iff_mem, Bool.not_eq_true] at isWord
    obtain ⟨⟨noNull, noBoolean⟩, noSpecial⟩ := isWord
    have spelled : Line.spelledType? text = if Line.isNumber text then some .number else none := by
      simp only [Line.spelledType?, noNull, noBoolean, noSpecial, Bool.false_eq_true, if_false]
    cases number : Line.isNumber text with
    | true =>
      rw [number, if_pos rfl] at spelled
      rw [Line.spelledValue, spelled]
      rw [value?_eq_numberOrText? filled noNull noBoolean] at value
      obtain ⟨large, isText⟩ | ⟨small, quantity, rfl⟩ :=
        value?_of_isNumber number noSpecial value
      · exact .inl ⟨large, rfl, isText⟩
      · exact .inr ⟨small, rfl⟩
    | false =>
      rw [number, if_neg Bool.false_ne_true] at spelled
      rw [value?_eq_text filled spelled] at value
      obtain rfl := Option.some.inj value
      refine .inr ⟨?_, by rw [Line.spelledValue, spelled]; rfl⟩
      rintro ⟨mark, radix, digits, isMark, split, isDigits, -⟩
      have noNumber := number
      rw [isNumber_eq, split, (isUnsignedNumber_of_radix isMark digits).1, isDigits] at noNumber
      cases noNumber

end Signed

end CatalogAudit.Manifest.Layout
