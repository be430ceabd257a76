import CatalogAudit.Proofs.Number.Decimal
import CatalogAudit.Proofs.Text.Blank
import Mathlib.Algebra.Field.Rat
import Mathlib.Algebra.Order.Field.Basic
import Mathlib.Algebra.Order.Field.Power
import Mathlib.Algebra.Order.Ring.Rat
import Mathlib.Tactic.FieldSimp
import Mathlib.Tactic.Linarith
import Mathlib.Tactic.NormNum
import Mathlib.Tactic.Positivity
import Mathlib.Tactic.Ring

/-!
# The grammar of decimal literals and its exact values

A decimal literal is digits with at most one point among or around them, and an exponent if wanted.
Its value is a rational number. The reader accepts the literals and nothing else, and what it reads
is finite exactly when that value is below the midpoint between the greatest double and the power of
two above it, however many digits the literal and its exponent have.
-/

namespace CatalogAudit.Number

/-! ## Literals -/

/-- A sign, or none. -/
inductive Sign
  /-- No sign. -/
  | none
  /-- A plus. -/
  | plus
  /-- A minus. -/
  | minus

/-- What stands in the text. -/
def Sign.text : Sign → List Char
  | none => []
  | plus => ['+']
  | minus => ['-']

/-- The exponent of a decimal literal. -/
structure Exponent where
  /-- The letter in front. -/
  mark : Char
  /-- Its sign. -/
  sign : Sign
  /-- Its digits. -/
  digits : List Char
  /-- The letter is the one of exponents, small or capital. -/
  isMark : mark = 'e' ∨ mark = 'E'
  /-- There is a digit. -/
  filled : digits ≠ []
  /-- The digits are digits. -/
  areDigits : ∀ c ∈ digits, isDigit c = true

/-- What stands in the text. -/
def Exponent.text (e : Exponent) : List Char := e.mark :: (e.sign.text ++ e.digits)

/-- The power of ten meant. -/
def Exponent.value (e : Exponent) : Int :=
  match e.sign with
  | .minus => -(readDigits 10 e.digits : Int)
  | _ => readDigits 10 e.digits

/-- A decimal literal. -/
structure Literal where
  /-- The digits before the point. -/
  whole : List Char
  /-- The digits behind the point, if there is one. -/
  fraction : Option (List Char)
  /-- The exponent, if there is one. -/
  exponent : Option Exponent
  /-- The digits are digits. -/
  areDigits : ∀ c ∈ whole ++ fraction.getD [], isDigit c = true
  /-- There is a digit before or behind the point. -/
  filled : whole ++ fraction.getD [] ≠ []

namespace Literal

variable (l : Literal)

/-- The digits behind the point. -/
def decimals : List Char := l.fraction.getD []

/-- The power of ten by which the digits are scaled. -/
def scale : Int := (l.exponent.map Exponent.value).getD 0

/-- What stands in the text. -/
def text : List Char :=
  l.whole ++ ((l.fraction.map ('.' :: ·)).getD [] ++ (l.exponent.map Exponent.text).getD [])

/-- The exact number meant. -/
def value : ℚ :=
  (readDigits 10 l.whole + readDigits 10 l.decimals / 10 ^ l.decimals.length) * 10 ^ l.scale

/-- What the reader makes of it. -/
def decimal : Decimal := Decimal.ofDigits l.whole l.decimals l.scale

end Literal

/-! ## Literals are read -/

/-- Digits are read up to the first character that is none. -/
theorem spanDigits_append {digits rest : List Char} (areDigits : ∀ c ∈ digits, isDigit c = true)
    (ends : ∀ c ∈ rest.head?, isDigit c = false) :
    spanDigits (digits ++ rest) = (digits, rest) := by
  rw [spanDigits, Text.takeWhile_run areDigits ends, Text.dropWhile_run areDigits ends]

/-- Decimal digits are some, and nothing but digits. -/
theorem isDigitsOf_ten_iff {digits : List Char} :
    isDigitsOf 10 digits = true ↔ digits ≠ [] ∧ ∀ c ∈ digits, isDigit c = true := by
  rw [isDigitsOf_ten, Bool.and_eq_true, List.all_eq_true, Bool.not_eq_true',
    List.isEmpty_eq_false_iff]

/-- A sign and digits are read as the exponent they write. -/
theorem readExponent?_text (e : Exponent) :
    readExponent? (e.sign.text ++ e.digits) = some e.value := by
  obtain ⟨mark, sign, digits, -, filled, areDigits⟩ := e
  have isNumber := isDigitsOf_ten_iff.mpr ⟨filled, areDigits⟩
  cases sign with
  | plus => simp [readExponent?, Sign.text, Exponent.value, isNumber]
  | minus => simp [readExponent?, Sign.text, Exponent.value, isNumber]
  | none =>
    obtain ⟨c, more, rfl⟩ := List.exists_cons_of_ne_nil filled
    have digit := areDigits c List.mem_cons_self
    unfold readExponent?
    split
    · rename_i minus
      cases minus
      cases digit
    · rename_i plus
      cases plus
      cases digit
    · simp [Exponent.value, Sign.text, isNumber]

/-- Only a sign and digits are read as an exponent. -/
theorem exists_exponent {mark : Char} (isMark : mark = 'e' ∨ mark = 'E') {text : List Char}
    {n : Int} (read : readExponent? text = some n) : ∃ e : Exponent, e.text = mark :: text := by
  have make : ∀ (sign : Sign) {digits : List Char}, isDigitsOf 10 digits = true →
      ∃ e : Exponent, e.text = mark :: (sign.text ++ digits) := by
    intro sign digits isNumber
    obtain ⟨filled, areDigits⟩ := isDigitsOf_ten_iff.mp isNumber
    exact ⟨⟨mark, sign, digits, isMark, filled, areDigits⟩, rfl⟩
  unfold readExponent? at read
  dsimp only at read
  split at read
  · split at read
    · rename_i isNumber
      exact make .minus isNumber
    · cases read
  · split at read
    · rename_i isNumber
      exact make .plus isNumber
    · cases read
  · split at read
    · rename_i isNumber
      exact make .none isNumber
    · cases read

/-- What a literal has behind its digits: nothing, or its exponent. -/
def scaled? (whole decimals rest : List Char) : Option Decimal :=
  match rest with
  | [] => some (Decimal.ofDigits whole decimals 0)
  | c :: rest =>
    if c == 'e' || c == 'E' then
      (readExponent? rest).map fun exponent => Decimal.ofDigits whole decimals exponent
    else none

/-- Without a point the digits are followed by the exponent. -/
theorem ofLiteral?_of_noPoint {whole rest : List Char} (wholeDigits : ∀ c ∈ whole, isDigit c = true)
    (ends : ∀ c ∈ rest.head?, isDigit c = false) (noPoint : rest.head? ≠ some '.') :
    Decimal.ofLiteral? (whole ++ rest) = if whole = [] then none else scaled? whole [] rest := by
  have split := spanDigits_append wholeDigits ends
  have noPoint' : ∀ more, rest ≠ '.' :: more := by
    rintro more rfl
    exact noPoint rfl
  simp only [Decimal.ofLiteral?, split, List.isEmpty_nil, Bool.and_true, List.isEmpty_iff]
  rfl

/-- Behind a point more digits come before the exponent. -/
theorem ofLiteral?_of_point {whole decimals rest : List Char}
    (wholeDigits : ∀ c ∈ whole, isDigit c = true) (decimalDigits : ∀ c ∈ decimals, isDigit c = true)
    (ends : ∀ c ∈ rest.head?, isDigit c = false) :
    Decimal.ofLiteral? (whole ++ '.' :: (decimals ++ rest)) =
      if whole ++ decimals = [] then none else scaled? whole decimals rest := by
  have point : ∀ c ∈ ('.' :: (decimals ++ rest)).head?, isDigit c = false := by
    intro c first
    rw [← Option.some.inj first]
    rfl
  have split := spanDigits_append wholeDigits point
  have split' := spanDigits_append decimalDigits ends
  simp only [Decimal.ofLiteral?, split, split', Bool.and_eq_true, List.isEmpty_iff,
    List.append_eq_nil_iff]
  rfl

/-- What follows the digits of a literal begins with no digit and no point. -/
theorem head?_exponent (exponent : Option Exponent) :
    (∀ c ∈ ((exponent.map Exponent.text).getD []).head?, isDigit c = false) ∧
      ((exponent.map Exponent.text).getD []).head? ≠ some '.' := by
  cases exponent with
  | none => exact ⟨nofun, nofun⟩
  | some e =>
    have apart : isDigit e.mark = false ∧ e.mark ≠ '.' := by
      rcases e.isMark with mark | mark
      · rw [mark]
        decide
      · rw [mark]
        decide
    refine ⟨fun c first => ?_, mt Option.some.inj apart.2⟩
    rw [← Option.some.inj first]
    exact apart.1

/-- A literal with an exponent is read as its decimal. -/
theorem scaled?_text (whole decimals : List Char) (exponent : Option Exponent) :
    scaled? whole decimals ((exponent.map Exponent.text).getD []) =
      some (Decimal.ofDigits whole decimals ((exponent.map Exponent.value).getD 0)) := by
  cases exponent with
  | none => rfl
  | some e =>
    have mark : (e.mark == 'e' || e.mark == 'E') = true := by simpa using e.isMark
    simp only [Option.map_some, Option.getD_some, Exponent.text, scaled?, mark, if_true,
      readExponent?_text]

/-- What is read behind the digits is an exponent or nothing. -/
theorem exists_of_scaled? {whole decimals rest : List Char} {d : Decimal}
    (read : scaled? whole decimals rest = some d) :
    ∃ exponent : Option Exponent, rest = (exponent.map Exponent.text).getD [] := by
  unfold scaled? at read
  split at read
  · exact ⟨none, rfl⟩
  · rename_i mark rest
    split at read
    · rename_i isMark
      rw [Bool.or_eq_true, beq_iff_eq, beq_iff_eq] at isMark
      obtain ⟨n, read, -⟩ := Option.map_eq_some_iff.mp read
      obtain ⟨e, text⟩ := exists_exponent isMark read
      exact ⟨some e, text.symm⟩
    · cases read

/-- A literal is read as its digits, scaled by its exponent. -/
theorem ofLiteral?_text (l : Literal) : Decimal.ofLiteral? l.text = some l.decimal := by
  obtain ⟨whole, fraction, exponent, areDigits, filled⟩ := l
  obtain ⟨wholeDigits, decimalDigits⟩ := List.forall_mem_append.mp areDigits
  obtain ⟨ends, noPoint⟩ := head?_exponent exponent
  cases fraction with
  | none =>
    rw [Option.getD_none, List.append_nil] at filled
    have read := ofLiteral?_of_noPoint wholeDigits ends noPoint
    rw [if_neg filled, scaled?_text] at read
    exact read
  | some decimals =>
    have read := ofLiteral?_of_point wholeDigits decimalDigits ends
    rw [if_neg filled, Option.getD_some, scaled?_text] at read
    exact read

/-- What is read as a decimal is a literal. -/
theorem exists_literal {text : List Char} {d : Decimal} (read : Decimal.ofLiteral? text = some d) :
    ∃ l : Literal, l.text = text := by
  obtain ⟨whole, rest, rfl, wholeDigits, ends⟩ := Text.exists_run isDigit text
  by_cases point : rest.head? = some '.'
  · obtain ⟨more, rfl⟩ := List.head?_eq_some_iff.mp point
    obtain ⟨decimals, rest, rfl, decimalDigits, ends⟩ := Text.exists_run isDigit more
    rw [ofLiteral?_of_point wholeDigits decimalDigits ends] at read
    split at read
    · cases read
    · rename_i filled
      obtain ⟨exponent, rfl⟩ := exists_of_scaled? read
      exact ⟨⟨whole, some decimals, exponent,
        List.forall_mem_append.mpr ⟨wholeDigits, decimalDigits⟩, filled⟩, rfl⟩
  · rw [ofLiteral?_of_noPoint wholeDigits ends point] at read
    split at read
    · cases read
    · rename_i filled
      obtain ⟨exponent, rfl⟩ := exists_of_scaled? read
      refine ⟨⟨whole, none, exponent, ?_, ?_⟩, rfl⟩
      · rwa [Option.getD_none, List.append_nil]
      · rwa [Option.getD_none, List.append_nil]

/-- The characters that stand in literals. -/
theorem mem_text {l : Literal} {c : Char} (mem : c ∈ l.text) :
    isDigit c = true ∨ c ∈ ['.', 'e', 'E', '+', '-'] := by
  obtain ⟨whole, fraction, exponent, areDigits, filled⟩ := l
  obtain ⟨wholeDigits, decimalDigits⟩ := List.forall_mem_append.mp areDigits
  rw [Literal.text, List.mem_append, List.mem_append] at mem
  obtain mem | mem | mem := mem
  · exact .inl (wholeDigits c mem)
  · cases fraction with
    | none => cases mem
    | some decimals =>
      obtain rfl | mem := List.mem_cons.mp mem
      · exact .inr (by decide)
      · exact .inl (decimalDigits c mem)
  · cases exponent with
    | none => cases mem
    | some e =>
      obtain rfl | mem := List.mem_cons.mp mem
      · rcases e.isMark with mark | mark <;> exact .inr (by rw [mark]; decide)
      · obtain mem | mem := List.mem_append.mp mem
        · right
          cases sign : e.sign with
          | none =>
            rw [sign] at mem
            cases mem
          | plus =>
            rw [sign] at mem
            rw [List.mem_singleton.mp mem]
            decide
          | minus =>
            rw [sign] at mem
            rw [List.mem_singleton.mp mem]
            decide
        · exact .inl (e.areDigits c mem)

/-! ## Values -/

/-- The digits behind others shift these by as many places. -/
theorem readDigits_append (front back : List Char) :
    readDigits 10 (front ++ back) =
      readDigits 10 front * Nat.pow 10 back.length + readDigits 10 back := by
  induction back using List.reverseRecOn with
  | nil => simp [readDigits]
  | append_singleton back c ih =>
    rw [← List.append_assoc, readDigits_concat, readDigits_concat, ih, List.length_append]
    simp only [List.length_singleton, Nat.pow_eq, pow_succ]
    ring

/-- Digits write a number with no more digits. -/
theorem readDigits_lt (digits : List Char) : readDigits 10 digits < Nat.pow 10 digits.length := by
  induction digits using List.reverseRecOn with
  | nil => exact Nat.one_pos
  | append_singleton digits c ih =>
    have small : (digitIn? 10 c).getD 0 < 10 := by
      cases named : digitIn? 10 c with
      | none => exact Nat.succ_pos 9
      | some n =>
        unfold digitIn? at named
        obtain ⟨small, same⟩ := Option.ite_none_right_eq_some.mp named
        rwa [Option.getD_some, ← Option.some.inj same]
    rw [readDigits_concat, List.length_append]
    simp only [List.length_singleton, Nat.pow_eq, pow_succ] at ih ⊢
    omega

/-- The exact number that a decimal stands for. -/
def Decimal.value (d : Decimal) : ℚ := d.coefficient * 10 ^ d.exponent

/-- What is read of a literal has its value. -/
theorem value_decimal (l : Literal) : l.decimal.value = l.value := by
  have ten : (10 : ℚ) ≠ 0 := by norm_num
  have cut : (10 : ℚ) ^ (l.scale - l.decimals.length) = 10 ^ l.scale / 10 ^ l.decimals.length := by
    rw [zpow_sub₀ ten, zpow_natCast]
  unfold Decimal.value Literal.value Literal.decimal Decimal.ofDigits
  dsimp only
  rw [readDigits_append, cut, Nat.pow_eq]
  push_cast
  field_simp

/-- A text is a literal of one value only. -/
theorem value_eq_of_text_eq {l l' : Literal} (same : l.text = l'.text) : l.value = l'.value := by
  have read := ofLiteral?_text l
  rw [same, ofLiteral?_text] at read
  rw [← value_decimal, ← value_decimal, Option.some.inj read]

/-- The count of digits that matter says how large the coefficient is. -/
structure Decimal.IsCounted (d : Decimal) : Prop where
  /-- It has no more digits. -/
  below : d.coefficient < Nat.pow 10 d.significant
  /-- It has no fewer, unless it is zero. -/
  above : d.coefficient ≠ 0 → Nat.pow 10 d.significant ≤ 10 * d.coefficient

/-- The decimal of a literal counts its digits. -/
theorem isCounted_decimal (l : Literal) : l.decimal.IsCounted := by
  have coefficient : l.decimal.coefficient =
      readDigits 10 ((l.whole ++ l.decimals).dropWhile (· == '0')) :=
    (readDigits_dropZeros _).symm
  have significant : l.decimal.significant =
      ((l.whole ++ l.decimals).dropWhile (· == '0')).length := rfl
  constructor
  · rw [coefficient, significant]
    exact readDigits_lt _
  · intro some
    rw [coefficient] at some ⊢
    rw [significant]
    cases rest : (l.whole ++ l.decimals).dropWhile (· == '0') with
    | nil =>
      rw [rest] at some
      exact absurd rfl some
    | cons c digits =>
      have digit : isDigit c = true := by
        apply l.areDigits c
        apply (List.dropWhile_sublist (· == '0')).subset
        change c ∈ (l.whole ++ l.decimals).dropWhile (· == '0')
        rw [rest]
        exact List.mem_cons_self
      have first : c ≠ '0' := by
        rintro rfl
        have stops := List.head?_dropWhile_not (· == '0') (l.whole ++ l.decimals)
        rw [rest] at stops
        cases stops
      have large := le_readDigits digit first digits
      rw [List.length_cons, Nat.pow_eq, pow_succ]
      rw [Nat.pow_eq] at large
      omega

/-- Powers of ten are compared alike as whole numbers and as rational ones. -/
theorem zpow_lt_natCast_iff {n m : ℕ} : (10 : ℚ) ^ (n : ℤ) < m ↔ Nat.pow 10 n < m := by
  rw [zpow_natCast, Nat.pow_eq]
  exact_mod_cast Iff.rfl

/-- The threshold lies between two powers of ten. -/
theorem threshold_bounds :
    (10 : ℚ) ^ (308 : ℤ) < overflowThreshold ∧ (overflowThreshold : ℚ) ≤ 10 ^ (309 : ℤ) := by
  constructor
  · exact zpow_lt_natCast_iff.mpr (by decide +kernel)
  · exact not_lt.mp (mt zpow_lt_natCast_iff.mp (by decide +kernel))

section Size

variable {d : Decimal}

/-- Digits scaled by a power of ten. -/
theorem pow_mul_zpow (n : ℕ) (exponent : ℤ) :
    (10 : ℚ) ^ n * 10 ^ exponent = 10 ^ (n + exponent) := by
  rw [zpow_add₀ (by norm_num), zpow_natCast]

/-- A decimal is below the power of ten that has one digit more than it. -/
theorem Decimal.IsCounted.value_lt (counted : d.IsCounted) :
    d.value < 10 ^ (d.significant + d.exponent) := by
  have below : (d.coefficient : ℚ) < 10 ^ d.significant := by
    have small := counted.below
    rw [Nat.pow_eq] at small
    exact_mod_cast small
  rw [← pow_mul_zpow]
  exact mul_lt_mul_of_pos_right below (zpow_pos (by norm_num) d.exponent)

/-- A decimal that is not zero is at least the power of ten with as many digits. -/
theorem Decimal.IsCounted.le_value (counted : d.IsCounted) (nonzero : d.coefficient ≠ 0) :
    10 ^ (d.significant + d.exponent) ≤ 10 * d.value := by
  have above : (10 : ℚ) ^ d.significant ≤ 10 * d.coefficient := by
    have large := counted.above nonzero
    rw [Nat.pow_eq] at large
    exact_mod_cast large
  rw [← pow_mul_zpow, Decimal.value, ← mul_assoc]
  exact mul_le_mul_of_nonneg_right above (zpow_nonneg (by norm_num) d.exponent)

/-- A whole number is compared by its digits. -/
theorem value_lt_iff_of_ofNat {n : ℕ} (whole : d.exponent = .ofNat n) :
    d.value < overflowThreshold ↔ d.coefficient * Nat.pow 10 n < overflowThreshold := by
  rw [Decimal.value, whole, Int.ofNat_eq_natCast, zpow_natCast, Nat.pow_eq]
  exact_mod_cast Iff.rfl

/-- A number with digits behind its point is compared without its point. -/
theorem value_lt_iff_of_negSucc {n : ℕ} (cut : d.exponent = .negSucc n) :
    d.value < overflowThreshold ↔ d.coefficient < overflowThreshold * Nat.pow 10 (n + 1) := by
  have positive : (0 : ℚ) < 10 ^ (n + 1) := pow_pos (by norm_num) _
  rw [Decimal.value, cut, zpow_negSucc, ← div_eq_mul_inv, div_lt_iff₀ positive, Nat.pow_eq]
  exact_mod_cast Iff.rfl

/-- A decimal is finite exactly when its value is below the overflow threshold. -/
theorem isFinite_iff (counted : d.IsCounted) : d.isFinite = true ↔ d.value < overflowThreshold := by
  obtain ⟨small, large⟩ := threshold_bounds
  have base : (1 : ℚ) ≤ 10 := by norm_num
  unfold Decimal.isFinite
  dsimp only
  split
  · rename_i zero
    rw [beq_iff_eq] at zero
    refine iff_of_true rfl ?_
    rw [Decimal.value, zero, Nat.cast_zero, zero_mul]
    exact (zpow_pos (by norm_num) 308).trans small
  · rename_i nonzero
    rw [beq_iff_eq] at nonzero
    split
    · rename_i few
      refine iff_of_true rfl ?_
      calc d.value < 10 ^ (d.significant + d.exponent) := counted.value_lt
        _ ≤ 10 ^ (308 : ℤ) := zpow_le_zpow_right₀ base few
        _ < overflowThreshold := small
    · split
      · rename_i many
        refine iff_of_false Bool.false_ne_true (not_lt.mpr ?_)
        have tenfold : 10 * (overflowThreshold : ℚ) ≤ 10 * d.value := by
          calc 10 * (overflowThreshold : ℚ) ≤ 10 * 10 ^ (309 : ℤ) := by linarith only [large]
            _ = 10 ^ (1 + 309 : ℤ) := (zpow_one_add₀ (by norm_num) 309).symm
            _ ≤ 10 ^ (d.significant + d.exponent) := zpow_le_zpow_right₀ base many
            _ ≤ 10 * d.value := counted.le_value nonzero
        linarith only [tenfold]
      · split
        · rename_i n whole
          rw [value_lt_iff_of_ofNat whole, decide_eq_true_iff]
        · rename_i n cut
          rw [value_lt_iff_of_negSucc cut, decide_eq_true_iff]

end Size

end CatalogAudit.Number
