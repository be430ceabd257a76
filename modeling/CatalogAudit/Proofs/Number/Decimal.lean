import CatalogAudit.Number.Decimal
import Mathlib.Data.List.TakeWhile
import Mathlib.Tactic.ByContra

/-!
# Whole numbers as decimals

Digits are a decimal literal, and a whole number of at most 128 bits is a finite decimal.
-/

namespace CatalogAudit.Number

/-- The digits of radix ten are the ten digits. -/
theorem isSome_digitIn?_ten (c : Char) : (digitIn? 10 c).isSome = isDigit c := by
  have isDecimal : isDigit c = decide ('0' ≤ c ∧ c ≤ '9') := by
    simp [isDigit]
  by_cases digit : '0' ≤ c ∧ c ≤ '9'
  · have small : c.toNat - 48 < 10 := by
      have high : c.toNat ≤ 57 := digit.2
      omega
    simp [digitIn?, isDecimal, digit, small]
  · simp only [digitIn?, isDecimal, digit, decide_false, Bool.and_eq_true, decide_eq_true_eq,
      if_false]
    split
    · simp
    · split
      · simp
      · simp

/-- In radix ten the digits are the decimal ones. -/
theorem isDigitsOf_ten (text : List Char) :
    isDigitsOf 10 text = (!text.isEmpty && text.all isDigit) := by
  simp only [isDigitsOf, isSome_digitIn?_ten]

/-- Every further digit makes a number ten times as large at least. -/
theorem le_foldl_digits (digits : List Char) (n : Nat) :
    n * Nat.pow 10 digits.length
      ≤ digits.foldl (fun n c => n * 10 + (digitIn? 10 c).getD 0) n := by
  induction digits generalizing n with
  | nil => exact Nat.le_of_eq (Nat.mul_one n)
  | cons c digits ih =>
    have step := ih (n * 10 + (digitIn? 10 c).getD 0)
    have more : n * Nat.pow 10 (digits.length + 1)
        ≤ (n * 10 + (digitIn? 10 c).getD 0) * Nat.pow 10 digits.length := by
      have further : Nat.pow 10 (digits.length + 1) = Nat.pow 10 digits.length * 10 := rfl
      rw [further, Nat.mul_comm (Nat.pow 10 digits.length), ← Nat.mul_assoc]
      exact Nat.mul_le_mul_right _ (Nat.le_add_right _ _)
    exact Nat.le_trans more step

/-- Zeros in front do not count. -/
theorem readDigits_dropZeros (text : List Char) :
    readDigits 10 (text.dropWhile (· == '0')) = readDigits 10 text := by
  induction text with
  | nil => rfl
  | cons c text ih =>
    by_cases zero : c = '0'
    · subst zero
      rw [List.dropWhile_cons_of_pos (by rfl), ih]
      rfl
    · rw [List.dropWhile_cons_of_neg (by simpa using zero)]

/-- A number of many digits is large. -/
theorem le_readDigits {c : Char} (digit : isDigit c = true) (first : c ≠ '0')
    (digits : List Char) : Nat.pow 10 digits.length ≤ readDigits 10 (c :: digits) := by
  have positive : 1 ≤ (digitIn? 10 c).getD 0 := by
    simp only [isDigit, Bool.and_eq_true, decide_eq_true_eq] at digit
    have low : 48 ≤ c.toNat := digit.1
    have high : c.toNat ≤ 57 := digit.2
    have noZero : c.toNat ≠ 48 := fun same => first (Char.toNat_inj.mp same)
    have small : c.toNat - 48 < 10 := by omega
    simp [digitIn?, digit, small]
    omega
  have many := le_foldl_digits digits (0 * 10 + (digitIn? 10 c).getD 0)
  refine Nat.le_trans ?_ many
  rw [Nat.zero_mul, Nat.zero_add]
  exact Nat.le_mul_of_pos_left _ positive

/-- A whole number of at most 128 bits is finite. -/
theorem isFinite_of_lt {text : List Char} (digits : ∀ c ∈ text, isDigit c = true)
    (small : readDigits 10 text < Nat.pow 2 128) :
    (Decimal.ofDigits text [] 0).isFinite = true := by
  have few : (text.dropWhile (· == '0')).length ≤ 39 := by
    cases rest : text.dropWhile (· == '0') with
    | nil => exact Nat.zero_le _
    | cons c others =>
      have digit : isDigit c = true := by
        apply digits c
        apply (List.dropWhile_sublist _).subset
        rw [rest]
        exact List.mem_cons_self
      have first : c ≠ '0' := by
        rintro rfl
        have stops := List.head?_dropWhile_not (· == '0') text
        rw [rest] at stops
        cases stops
      have large := le_readDigits digit first others
      rw [← rest, readDigits_dropZeros] at large
      rw [List.length_cons]
      by_contra many
      have atLeast : Nat.pow 10 39 ≤ Nat.pow 10 others.length :=
        Nat.pow_le_pow_right (by decide) (by omega)
      have bound : Nat.pow 2 128 ≤ Nat.pow 10 39 := by decide
      omega
  rw [Decimal.isFinite]
  split
  · rfl
  · have magnitude : ((Decimal.ofDigits text [] 0).significant : Int)
        + (Decimal.ofDigits text [] 0).exponent ≤ 308 := by
      simp only [Decimal.ofDigits, List.append_nil, List.length_nil]
      omega
    simp [magnitude]

/-- Digits are a decimal literal. -/
theorem ofLiteral?_digits {text : List Char} (digits : ∀ c ∈ text, isDigit c = true)
    (filled : text ≠ []) : Decimal.ofLiteral? text = some (Decimal.ofDigits text [] 0) := by
  have span : spanDigits text = (text, []) := by
    have all : text.takeWhile isDigit = text := List.takeWhile_eq_self_iff.mpr digits
    have none : text.dropWhile isDigit = [] := List.dropWhile_eq_nil_iff.mpr digits
    rw [spanDigits, all, none]
  rw [Decimal.ofLiteral?, span]
  simp [filled]

/-! ## Digits of a number -/

/-- A decimal digit is read as what it was written for. -/
theorem digitIn?_digitChar : ∀ d : Fin 10, digitIn? 10 (Nat.digitChar d) = some d.val := by decide

/-- A number is written with digits. -/
theorem isDigit_of_mem_toDigits {n : Nat} {c : Char} (h : c ∈ Nat.toDigits 10 n) :
    isDigit c = true := by
  have digit := Nat.isDigit_of_mem_toDigits (by decide) (by decide) h
  unfold Char.isDigit at digit
  unfold isDigit
  exact digit

/-- One more digit shifts the ones before by one place. -/
theorem readDigits_concat (digits : List Char) (c : Char) :
    readDigits 10 (digits ++ [c]) = readDigits 10 digits * 10 + (digitIn? 10 c).getD 0 := by
  unfold readDigits
  rw [List.foldl_append]
  rfl

/-- The digits of a number write it. -/
theorem readDigits_toDigits (n : Nat) : readDigits 10 (Nat.toDigits 10 n) = n := by
  induction n using Nat.strongRecOn with
  | ind n ih =>
    rw [Nat.toDigits_eq_if (by decide)]
    split
    · rename_i small
      rw [← List.nil_append [n.digitChar], readDigits_concat, digitIn?_digitChar ⟨n, small⟩]
      exact Nat.zero_add n
    · have last := digitIn?_digitChar ⟨n % 10, Nat.mod_lt n (by decide)⟩
      rw [readDigits_concat, ih (n / 10) (by omega), last, Option.getD_some]
      exact Nat.div_add_mod' n 10

/-- Only the digits of zero begin with a zero. -/
theorem head?_toDigits {n : Nat} (positive : 0 < n) : (Nat.toDigits 10 n).head? ≠ some '0' := by
  induction n using Nat.strongRecOn with
  | ind n ih =>
    rw [Nat.toDigits_eq_if (by decide)]
    split
    · rename_i small
      intro zero
      have value := digitIn?_digitChar ⟨n, small⟩
      rw [Option.some.inj zero] at value
      exact absurd (Option.some.inj value) (Nat.ne_of_lt positive)
    · rw [List.head?_append, Option.or_of_isSome (by simp)]
      exact ih (n / 10) (by omega) (by omega)

end CatalogAudit.Number
