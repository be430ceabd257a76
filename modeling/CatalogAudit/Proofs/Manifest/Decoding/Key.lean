import CatalogAudit.Manifest.Line.Key
import CatalogAudit.Proofs.Manifest.Decoding.Scalar

/-!
# Keys read as they were written

A key is found under its name, whether it is quoted or not and whatever blanks stand before its
colon, and what follows the colon is handed on. A value by itself is never taken for a key.
-/

namespace CatalogAudit.Manifest.Line

open Layout

/-- A letter is not blank. -/
theorem isBlank_of_letter {c : Char} (low : 'a' ≤ c) (high : c ≤ 'z') : Text.isBlank c = false := by
  have low : 97 ≤ c.toNat := low
  have high : c.toNat ≤ 122 := high
  rw [← Bool.not_eq_true]
  intro blank
  simp only [Text.isBlank, Bool.or_eq_true, Bool.and_eq_true, decide_eq_true_eq, beq_iff_eq]
    at blank
  omega

/-- A letter begins a plain scalar. -/
theorem isReserved_of_letter {c : Char} (low : 'a' ≤ c) (high : c ≤ 'z') :
    isReserved c = false := by
  have noLetter : "\"'#&*!|>%@\x60,[]\x7b\x7d".toList.all
      (fun c => !('a' ≤ c && c ≤ 'z')) = true := by decide
  rw [← Bool.not_eq_true]
  intro reserved
  rw [isReserved, List.contains_iff_mem] at reserved
  have other := List.all_eq_true.mp noLetter c reserved
  simp [low, high] at other

/-- A stretch without colons and hash signs is passed character by character. -/
theorem exists_splitBareKey_append {stretch : List Char}
    (h : ∀ c ∈ stretch, c ≠ '#' ∧ c ≠ ':') (free : Bool) (reversed rest : List Char) :
    ∃ later, splitBareKey free reversed (stretch ++ rest)
      = splitBareKey later (stretch.reverse ++ reversed) rest := by
  induction stretch generalizing free reversed with
  | nil => exact ⟨free, rfl⟩
  | cons c stretch ih =>
    rw [List.forall_mem_cons] at h
    obtain ⟨⟨noHash, noColon⟩, h⟩ := h
    obtain ⟨later, passed⟩ := ih h (Text.isGap c) (c :: reversed)
    refine ⟨later, ?_⟩
    rw [List.cons_append, splitBareKey]
    simp [noHash, noColon, passed]

/-- A bare key is found under its name. -/
theorem splitBareKey_word {name : List Char} (word : IsWord name) (gap : Gap) {rest : List Char}
    (ends : endsKey rest = true) :
    splitBareKey false [] (name ++ gap.text ++ ':' :: rest) = some (name, rest) := by
  have plain : ∀ c ∈ name ++ gap.text, c ≠ '#' ∧ c ≠ ':' := by
    intro c mem
    rw [List.mem_append] at mem
    cases mem with
    | inl inName =>
      have letter := word.2 c inName
      constructor <;> rintro rfl <;> exact absurd letter (by decide)
    | inr inGap =>
      have blank := gap.blank c inGap
      constructor <;> rintro rfl <;> exact absurd blank (by decide)
  have last : ∀ c ∈ name.getLast?, Text.isBlank c = false := by
    intro c mem
    have letter := word.2 c (List.mem_of_getLast? mem)
    exact isBlank_of_letter letter.1 letter.2
  have key : ((name ++ gap.text).reverse.dropWhile Text.isBlank).reverse = name := by
    rw [← Text.trimEnd, Text.trimEnd_append (isBlank_text_gap gap), Text.trimEnd_eq_self last]
  obtain ⟨later, passed⟩ := exists_splitBareKey_append plain false [] (':' :: rest)
  rw [passed, List.append_nil, splitBareKey, key]
  simp [ends, word.1]

/-- A name begins with no character of a kind that is reserved. -/
theorem startsWith_word {name : List Char} (word : IsWord name) {p : Char → Bool}
    (reserved : ∀ c, p c = true → isReserved c = true) (rest : List Char) :
    Text.startsWith p (name ++ rest) = false := by
  apply Text.startsWith_append_eq_false
  · intro c first
    have letter := word.2 c (List.mem_of_mem_head? first)
    rw [← Bool.not_eq_true]
    intro kind
    have reserved := reserved c kind
    rw [isReserved_of_letter letter.1 letter.2] at reserved
    exact Bool.false_ne_true reserved
  · intro empty
    exact absurd empty word.1

/-- Nothing in the name of a key is taken for other markup. -/
theorem checkPlainStart_word {name : List Char} (word : IsWord name) (rest : List Char) :
    checkPlainStart (name ++ rest) = .ok () := by
  cases name with
  | nil => exact absurd rfl word.1
  | cons c others =>
    have letter := word.2 c List.mem_cons_self
    have noMarkup : ¬isMarkup c = true := by
      intro markup
      have reserved := isReserved_of_isMarkup markup
      rw [isReserved_of_letter letter.1 letter.2] at reserved
      exact Bool.false_ne_true reserved
    have noMark : (c == '-' || c == '?') = false := by
      rw [Bool.or_eq_false_iff, beq_eq_false_iff_ne, beq_eq_false_iff_ne]
      constructor <;> rintro rfl <;> exact absurd letter (by decide)
    rw [List.cons_append, checkPlainStart, if_neg noMarkup, noMark]
    rfl

/-- A key is found under its name, and what follows its colon is handed on. -/
theorem splitKey_text {name : List Char} (word : IsWord name) (key : Key name) {rest : List Char}
    (ends : endsKey rest = true) : splitKey (key.text ++ rest) = .ok (some (name, rest)) := by
  obtain ⟨spelling, gap⟩ := key
  cases spelling with
  | bare =>
    have text : (Key.mk .bare gap : Key name).text ++ rest = name ++ (gap.text ++ ':' :: rest) := by
      simp [Key.text, Spelling.text]
    have split := splitBareKey_word word gap ends
    rw [List.append_assoc] at split
    have unquoted : Text.startsWith isQuote (name ++ (gap.text ++ ':' :: rest)) = false := by
      exact startsWith_word word (fun _ => isReserved_of_isQuote) _
    have unbracketed : Text.startsWith (fun c => c == '[' || c == '{')
        (name ++ (gap.text ++ ':' :: rest)) = false := by
      exact startsWith_word word (fun _ => isReserved_of_opens) _
    rw [text, splitKey, unquoted, unbracketed, checkPlainStart_word word, split]
    rfl
  | quoted q same =>
    have text : (Key.mk (.quoted q same) gap : Key name).text ++ rest
        = q.text ++ (gap.text ++ ':' :: rest) := by
      simp [Key.text, Spelling.text]
    have after : Text.startsWith (· == '\'') (gap.text ++ ':' :: rest) = false := by
      exact startsWith_quote_gap gap rfl
    have colon : Text.trimStart (gap.text ++ ':' :: rest) = ':' :: rest :=
      Text.trimStart_append_cons (isBlank_text_gap gap) rfl rest
    rw [text, splitKey, startsWith_isQuote_quoted, readQuoted_text q after]
    simp [colon, ends, same]

/-- A key begins with no blank, no hash sign, no hyphen and no brace. -/
theorem exists_text_key {name : List Char} (word : IsWord name) (key : Key name)
    (rest : List Char) :
    ∃ c others, key.text ++ rest = c :: others ∧
      Text.isBlank c = false ∧ c ≠ '#' ∧ c ≠ '-' ∧ c ≠ '{' := by
  obtain ⟨spelling, gap⟩ := key
  cases spelling with
  | bare =>
    cases name with
    | nil => exact absurd rfl word.1
    | cons c others =>
      have letter := word.2 c List.mem_cons_self
      refine ⟨c, others ++ gap.text ++ [':'] ++ rest, rfl, isBlank_of_letter letter.1 letter.2, ?_⟩
      refine ⟨?_, ?_, ?_⟩ <;> rintro rfl <;> exact absurd letter (by decide)
  | quoted q same =>
    cases q with
    | double pieces => exact ⟨'"', _, rfl, by decide⟩
    | single value oneLine => exact ⟨'\'', _, rfl, by decide⟩

/-- Blanks are passed, and a comment may begin behind them. -/
theorem splitBareKey_gap {gap : List Char} (h : ∀ c ∈ gap, Text.isGap c = true) (free : Bool)
    (reversed rest : List Char) :
    splitBareKey free reversed (gap ++ rest)
      = splitBareKey (free || !gap.isEmpty) (gap.reverse ++ reversed) rest := by
  induction gap generalizing free reversed with
  | nil => simp
  | cons c gap ih =>
    rw [List.forall_mem_cons] at h
    have noMark : c ≠ '#' ∧ c ≠ ':' := by
      constructor <;> rintro rfl <;> exact absurd h.1 (by decide)
    rw [List.cons_append, splitBareKey, ih h.2, h.1]
    simp [noMark]

/-- No key stands in what follows a value. -/
theorem splitBareKey_tail (tail : Tail) (free : Bool) (reversed : List Char) :
    splitBareKey free reversed tail.text = none := by
  cases tail with
  | blank gap =>
    have passed := splitBareKey_gap gap.blank free reversed []
    rw [List.append_nil] at passed
    rw [Tail.text, passed, splitBareKey]
  | comment gap apart words oneLine =>
    have filled : (free || !gap.text.isEmpty) = true := by
      cases text : gap.text with
      | nil => exact absurd text apart
      | cons => simp
    rw [Tail.text, splitBareKey_gap gap.blank, splitBareKey, filled]
    rfl

/-- No key stands in a value without the colon of one, when none stands in what follows it. -/
theorem splitBareKey_eq_none {text rest : List Char}
    (noKey : hasColonBefore Text.isGap text = false) (noColon : endsIn ':' text = false)
    (noneLater : ∀ free reversed, splitBareKey free reversed rest = none) (free : Bool)
    (reversed : List Char) : splitBareKey free reversed (text ++ rest) = none := by
  induction text generalizing free reversed with
  | nil => exact noneLater free reversed
  | cons c text ih =>
    rw [hasColonBefore, Bool.or_eq_false_iff] at noKey
    obtain ⟨here, noKey⟩ := noKey
    have later : endsIn ':' text = false := by
      cases text with
      | nil => rfl
      | cons d text => rwa [endsIn, List.getLast?_cons_cons] at noColon
    have noEnd : (c == ':' && endsKey (text ++ rest)) = false := by
      rw [Bool.and_eq_false_imp]
      intro colon
      rw [colon, Bool.true_and] at here
      cases text with
      | nil =>
        rw [beq_iff_eq] at colon
        rw [colon] at noColon
        exact absurd noColon (by decide)
      | cons d text => exact here
    rw [List.cons_append, splitBareKey, noEnd, ih noKey later]
    simp

/-- A value by itself is no key. -/
theorem splitKey_core (s : Scalar) (tail : Tail) : splitKey (s.core ++ tail.text) = .ok none := by
  cases s with
  | quoted q =>
    have read := readQuoted_text q (startsWith_quote_tail tail)
    rw [Scalar.core, splitKey, startsWith_isQuote_quoted, if_pos rfl, read]
    cases trimStart_tail tail with
    | inl empty => simp [empty]
    | inr comment =>
      obtain ⟨words, comment⟩ := comment
      simp [comment]
  | plain p =>
    have unquoted := startsWith_bare p.toBare (fun _ => isReserved_of_isQuote)
      (p.after ++ tail.text)
    have unbracketed := startsWith_bare p.toBare (fun _ => isReserved_of_opens)
      (p.after ++ tail.text)
    have noneLater : ∀ free reversed, splitBareKey free reversed (p.after ++ tail.text) = none := by
      intro free reversed
      obtain ⟨later, passed⟩ := exists_splitBareKey_append
        (fun c mem => ne_of_isBlank (p.isBlank_after c mem)) free reversed tail.text
      rw [passed, splitBareKey_tail]
    have noKey :=
      splitBareKey_eq_none (hasColonBefore_bare p.toBare) (endsIn_colon_bare p.toBare) noneLater
        false []
    rw [Scalar.core, List.append_assoc, splitKey, unquoted, unbracketed,
      checkPlainStart_bare p.toBare, noKey]
    rfl

/-- What begins with no dash is no list item. -/
theorem itemBody?_cons {c : Char} (noDash : c ≠ '-') (rest : List Char) :
    itemBody? (c :: rest) = none := by
  unfold itemBody?
  split
  · rename_i dash
    exact absurd (List.cons.inj dash).1 noDash
  · rfl

/-- A value by itself is no item of a list. -/
theorem itemBody?_core (s : Scalar) (tail : Tail) : itemBody? (s.core ++ tail.text) = none := by
  cases s with
  | quoted q => cases q <;> rfl
  | plain p =>
    have unmarked := p.unmarked
    cases text : p.text with
    | nil => exact absurd text p.filled
    | cons c others =>
      rw [Scalar.core, text, List.cons_append, List.cons_append]
      by_cases dash : c = '-'
      · obtain ⟨filled, next⟩ := unmarked c others text (.inl dash)
        cases others with
        | nil => exact absurd rfl filled
        | cons d others =>
          have solid := next d rfl
          have noGap : Text.isGap d = false := by
            rw [← Bool.not_eq_true]
            intro gap
            rw [Text.isBlank_of_isGap gap] at solid
            exact absurd solid (by decide)
          rw [dash, itemBody?]
          simp [Text.startsWith, noGap]
      · exact itemBody?_cons dash _

end CatalogAudit.Manifest.Line
