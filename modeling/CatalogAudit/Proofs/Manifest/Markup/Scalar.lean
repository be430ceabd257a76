import CatalogAudit.Proofs.Manifest.Layout.Bare
import CatalogAudit.Proofs.Manifest.Markup.Passing

/-!
# Values and keys as tokens

The reader of markup cuts every value of a layout off as one scalar, and every key with its colon as
a key. A plain value is cut off with all that surrounds it but spaces and tabs.
-/

namespace CatalogAudit.Manifest.Layout

open Yaml (Passes Solid Token)
open Yaml.Token.Reader (Comes InBrackets Leads Stands openedAt openingAt)

/-- White space is none of a set of characters that are all visible. -/
theorem contains_eq_false_of_isBlank {marks : List Char}
    (solid : (marks.all fun c => !Text.isBlank c) = true) {c : Char}
    (blank : Text.isBlank c = true) : marks.contains c = false := by
  rw [← Bool.not_eq_true, List.contains_iff_mem]
  intro mem
  have noBlank := List.all_eq_true.mp solid c mem
  rw [blank] at noBlank
  exact absurd noBlank (by decide)

/-- Both readers take the same characters for marks of a list in brackets. -/
theorem isFlowIndicator_eq (c : Char) : Yaml.Plain.isFlowIndicator c = isFlowMark c := by
  simp [Yaml.Plain.isFlowIndicator, isFlowMark, Bool.or_assoc, Bool.beq_eq_decide_eq]

namespace Bare

variable (b : Bare)

/-- Bare text is not empty. -/
theorem whole_ne_nil : b.whole ≠ [] := by
  intro empty
  simp only [whole, List.append_eq_nil_iff] at empty
  exact b.filled empty.1.2

/-- What stands without quotes does not begin with a reserved character or a blank. -/
theorem begins_whole : ∀ x ∈ b.whole.head?, isReserved x = false ∧ Text.isGap x = false := by
  intro x first
  cases before : b.before with
  | nil =>
    have head : x ∈ b.text.head? := by
      rwa [whole, before, List.nil_append, List.head?_append_of_ne_nil _ b.filled] at first
    refine ⟨b.unreserved x head, ?_⟩
    rw [← Bool.not_eq_true]
    intro gap
    have solid := b.begins x head
    rw [Text.isBlank_of_isGap gap] at solid
    cases solid
  | cons y others =>
    rw [whole, before] at first
    obtain rfl : y = x := Option.some.inj first
    have mem : y ∈ b.before := by rw [before]; exact List.mem_cons_self
    exact ⟨contains_eq_false_of_isBlank (by decide) (b.isBlank_before y mem),
      b.beforeSolid y (by rw [before]; rfl)⟩

/-- What stands without quotes does not end in a blank or a colon. -/
theorem ends_whole : ∀ x ∈ b.whole.getLast?, Text.isGap x = false ∧ x ≠ ':' := by
  intro x last
  cases after : b.after with
  | nil =>
    have ends : x ∈ b.text.getLast? := by
      rwa [whole, after, List.append_nil, List.getLast?_append_of_ne_nil _ b.filled] at last
    constructor
    · rw [← Bool.not_eq_true]
      intro gap
      have solid := b.ends x ends
      rw [Text.isBlank_of_isGap gap] at solid
      cases solid
    · rintro rfl
      exact b.noColon ends
  | cons y others =>
    have ends : x ∈ b.after.getLast? := by
      rwa [whole, List.getLast?_append_of_ne_nil _ (by simp [after])] at last
    exact ⟨b.afterSolid x ends, (ne_of_isBlank (b.isBlank_after x (List.mem_of_getLast? ends))).2⟩

/-- Nowhere in what stands without quotes does a comment begin. -/
theorem isChain_noComment_whole : b.whole.IsChain fun c d => Text.isGap c = true → d ≠ '#' := by
  have value : b.text.IsChain fun c d => Text.isGap c = true → d ≠ '#' :=
    b.isChain_noComment.imp fun c d free gap => free (Text.isBlank_of_isGap gap)
  have padding : ∀ blanks : List Char, (∀ c ∈ blanks, Text.isBlank c = true) →
      blanks.IsChain fun c d => Text.isGap c = true → d ≠ '#' := by
    intro blanks blank
    refine (List.isChain_isInfix blanks).imp fun c d pair _ => ?_
    exact (ne_of_isBlank (blank d (pair.subset (by simp)))).1
  rw [whole, List.isChain_append, List.isChain_append]
  refine ⟨⟨padding _ b.isBlank_before, value, ?_⟩, padding _ b.isBlank_after, ?_⟩
  · rintro c last d first gap rfl
    exact b.head?_ne_hash first
  · intro c last d first gap
    exact (ne_of_isBlank (b.isBlank_after d (List.mem_of_mem_head? first))).1

/-- Nowhere in what stands without quotes does a key end. -/
theorem isChain_noKey_whole : b.whole.IsChain fun c d => c = ':' → Text.isGap d = false := by
  have padding : ∀ blanks : List Char, (∀ c ∈ blanks, Text.isBlank c = true) →
      blanks.IsChain fun c d => c = ':' → Text.isGap d = false := by
    intro blanks blank
    refine (List.isChain_isInfix blanks).imp fun c d pair colon => ?_
    exact absurd colon (ne_of_isBlank (blank c (pair.subset (by simp)))).2
  rw [whole, List.isChain_append, List.isChain_append]
  refine ⟨⟨padding _ b.isBlank_before, b.isChain_noKey, ?_⟩, padding _ b.isBlank_after, ?_⟩
  · intro c last d first colon
    exact absurd colon (ne_of_isBlank (b.isBlank_before c (List.mem_of_getLast? last))).2
  · rintro c last d first rfl
    rw [List.getLast?_append_of_ne_nil _ b.filled] at last
    exact absurd last b.noColon

/-- What stands without quotes is a plain value of markup, between brackets too if it holds none of
the marks that count there. -/
theorem isPlain (flow : Bool) (unbroken : Unbroken b.whole)
    (noPair : flow = true → ¬[':', '?'] <:+: b.whole)
    (safe : flow = true → ∀ c ∈ b.text, isFlowMark c = false) :
    Yaml.Plain.IsPlain flow b.whole where
  begins x first := by
    obtain ⟨unreserved, noGap⟩ := b.begins_whole x first
    refine ⟨noGap, ?_⟩
    rintro rfl
    exact absurd unreserved (by decide)
  filled := b.whole_ne_nil
  ends := b.ends_whole
  noBreak := unbroken
  noComment := b.isChain_noComment_whole
  noColon := by
    refine (List.isChain_isInfix b.whole).imp ?_
    rintro c d pair rfl
    have noKey := List.isChain_pair.mp ( List.IsChain.infix b.isChain_noKey_whole pair) rfl
    refine ⟨noKey, ?_⟩
    rintro inFlow rfl
    exact noPair inFlow pair
  noIndicator inFlow x mem := by
    rw [isFlowIndicator_eq]
    rw [whole, List.mem_append, List.mem_append] at mem
    rcases mem with (before | text) | after
    · exact contains_eq_false_of_isBlank (by decide) (b.isBlank_before x before)
    · exact safe inFlow x text
    · exact contains_eq_false_of_isBlank (by decide) (b.isBlank_after x after)

/-- A hyphen, a question mark or a colon that begins the value is followed by something that is no
blank. -/
theorem exists_behind_mark {x : Char} {rest : List Char} (text : b.text = x :: rest)
    (mark : x = '-' ∨ x = '?' ∨ x = ':') :
    ∃ y more, rest = y :: more ∧ Text.isGap y = false := by
  have colon : x = ':' → rest ≠ [] := by
    rintro rfl rfl
    exact b.noColon (by rw [text]; rfl)
  cases rest with
  | nil =>
    rcases mark with hyphen | question | isColon
    · exact absurd rfl (b.unmarked x [] text (.inl hyphen)).1
    · exact absurd rfl (b.unmarked x [] text (.inr question)).1
    · exact absurd rfl (colon isColon)
  | cons y more =>
    refine ⟨y, more, rfl, ?_⟩
    have apart : x = '-' ∨ x = '?' → Text.isGap y = false := by
      intro alone
      have noBlank := (b.unmarked x _ text alone).2 y rfl
      rw [← Bool.not_eq_true]
      intro gap
      rw [Text.isBlank_of_isGap gap] at noBlank
      cases noBlank
    rcases mark with hyphen | question | isColon
    · exact apart (.inl hyphen)
    · exact apart (.inr question)
    · have chain := b.isChain_noKey
      rw [text] at chain
      exact (List.isChain_cons_cons.mp chain).1 isColon

/-- A hyphen, a question mark or a colon that begins it does not stand alone. -/
theorem exists_next (unbroken : Unbroken b.whole) {x : Char} {others : List Char}
    (first : b.whole = x :: others) (mark : x = '-' ∨ x = '?' ∨ x = ':') :
    ∃ y more, others = y :: more ∧ Yaml.isSeparator y = false := by
  have noBlank : Text.isBlank x = false := by rcases mark with rfl | rfl | rfl <;> decide
  have noPadding : b.before = [] := by
    cases before : b.before with
    | nil => rfl
    | cons y more =>
      rw [whole, before] at first
      have blank := b.isBlank_before y (by rw [before]; exact List.mem_cons_self)
      rw [(List.cons.inj first).1, noBlank] at blank
      cases blank
  obtain ⟨rest, text⟩ : ∃ rest, b.text = x :: rest := by
    cases text : b.text with
    | nil => exact absurd text b.filled
    | cons z rest =>
      rw [whole, noPadding, text] at first
      exact ⟨rest, by rw [(List.cons.inj first).1]⟩
  obtain ⟨y, more, rfl, noGap⟩ := b.exists_behind_mark text mark
  rw [whole, noPadding, text] at first
  refine ⟨y, more ++ b.after, (List.cons.inj first).2.symm, ?_⟩
  have inText : y ∈ b.whole := by simp [whole, text]
  rw [Yaml.isSeparator, noGap, unbroken y inText]
  rfl

/-- A plain value of markup begins there, whatever follows. -/
theorem mayBegin (flow : Bool) (unbroken : Unbroken b.whole)
    (noMark : flow = true → ∀ c ∈ b.whole.head?, c ≠ ':' ∧ c ≠ '?') (rest : List Char) :
    Yaml.Plain.MayBegin flow (b.whole ++ rest) := by
  obtain ⟨x, others, first⟩ := List.exists_cons_of_ne_nil b.whole_ne_nil
  have head : x ∈ b.whole.head? := by rw [first]; rfl
  obtain ⟨unreserved, noGap⟩ := b.begins_whole x head
  have noSeparator : Yaml.isSeparator x = false := by
    rw [Yaml.isSeparator, noGap, unbroken x (List.mem_of_mem_head? head)]
    rfl
  rw [first]
  by_cases mark : x = '-' ∨ x = '?' ∨ x = ':'
  · obtain ⟨y, more, rfl, apart⟩ := b.exists_next unbroken first mark
    have noGap' : Text.isGap y = false := (Bool.or_eq_false_iff.mp apart).1
    constructor
    · rcases mark with rfl | mark
      · simp [Yaml.Plain.canBegin, Text.startsWith, noGap']
      · have outside : flow = false := by
          rw [← Bool.not_eq_true]
          intro inFlow
          have allowed := noMark inFlow x head
          rcases mark with rfl | rfl
          · exact allowed.2 rfl
          · exact allowed.1 rfl
        rcases mark with rfl | rfl <;>
          simp [Yaml.Plain.canBegin, Yaml.atSeparator, outside, apart]
    · intro later split
      rw [← (List.cons.inj split).2]
      exact apart
  · simp only [not_or] at mark
    constructor
    · have visible : ∀ y, isReserved y = true → x ≠ y := by
        rintro y reserved rfl
        rw [unreserved] at reserved
        cases reserved
      simp [Yaml.Plain.canBegin, Yaml.Plain.isFlowIndicator, mark, noSeparator,
        visible ',' (by decide), visible '[' (by decide), visible ']' (by decide),
        visible '\x7b' (by decide), visible '\x7d' (by decide), visible '#' (by decide),
        visible '&' (by decide), visible '*' (by decide), visible '!' (by decide),
        visible '|' (by decide), visible '>' (by decide), visible '\'' (by decide),
        visible '"' (by decide), visible '%' (by decide), visible '@' (by decide),
        visible '\x60' (by decide)]
    · intro later split
      exact absurd (List.cons.inj split).1 mark.1

end Bare

variable {r : Yaml.Token.Reader} {limit column target : Nat} {keyAllowed : Bool}
  {margins : List Nat} {before : List Token} {more next here : List Char}

/-- What follows a value on its line is set apart from it. -/
theorem isSeparator_tail (tail : Tail) (ends : Ends more next) :
    ∀ x ∈ (tail.text ++ more).head?, Yaml.isSeparator x = true := by
  have gapFirst : ∀ (gap : Gap) (later : List Char),
      (∀ x ∈ later.head?, gap.text = [] → Yaml.isSeparator x = true) →
      ∀ x ∈ (gap.text ++ later).head?, Yaml.isSeparator x = true := by
    intro gap later behind x first
    cases text : gap.text with
    | nil =>
      rw [text] at first
      exact behind x first text
    | cons y others =>
      rw [text] at first
      obtain rfl : y = x := Option.some.inj first
      rw [Yaml.isSeparator, gap.blank y (by rw [text]; exact List.mem_cons_self)]
      rfl
  cases tail with
  | blank gap =>
    refine gapFirst gap more fun x first _ => ?_
    cases ends with
    | lineEnd lineEnd next =>
      cases lineEnd <;> (obtain rfl := Option.some.inj first; decide)
    | textEnd => cases first
  | comment gap apart words oneLine =>
    rw [Tail.text, List.append_assoc]
    exact gapFirst gap _ fun x first none => absurd none apart

/-- Behind a value comes a separator. -/
theorem atSeparator_tail (tail : Tail) (ends : Ends more next) :
    Yaml.atSeparator (tail.text ++ more) = true := by
  cases behind : tail.text ++ more with
  | nil => rfl
  | cons x others => exact isSeparator_tail tail ends x (by rw [behind]; rfl)

/-- What does not separate does not stand right behind a value. -/
theorem startsWith_tail {marks : Char → Bool}
    (solid : ∀ x, Yaml.isSeparator x = true → marks x = false) (tail : Tail)
    (ends : Ends more next) : Text.startsWith marks (tail.text ++ more) = false := by
  cases behind : tail.text ++ more with
  | nil => rfl
  | cons x others =>
    exact solid x (isSeparator_tail tail ends x (by rw [behind]; rfl))

namespace Scalar

/-- The token that a value is. -/
def token : Scalar → Token
  | quoted q => .scalar q.value false
  | plain p => .scalar p.whole true

/-- A value begins with something that is not passed. -/
theorem solid (scalar : Scalar) (markup : scalar.IsMarkup) (inLine : 0 < column)
    (rest : List Char) : Solid column (scalar.text ++ rest) := by
  have noMargin : ∀ x : Char, column = 0 → x ≠ '\uFEFF' := fun x margin => absurd margin (by omega)
  cases scalar with
  | quoted q =>
    obtain ⟨x, others, first, quote⟩ := Yaml.Token.Reader.exists_text_quoted q
    rw [text, first]
    rcases quote with rfl | rfl <;>
      exact Yaml.solid_cons (by decide) (by decide) (noMargin _) _
  | plain p =>
    obtain ⟨x, others, first⟩ := List.exists_cons_of_ne_nil p.whole_ne_nil
    have head : x ∈ p.whole.head? := by rw [first]; rfl
    obtain ⟨unreserved, noGap⟩ := p.begins_whole x head
    rw [text, first]
    refine Yaml.solid_cons ?_ ?_ (noMargin x) _
    · rw [Yaml.isSeparator, noGap, markup x (List.mem_of_mem_head? head)]
      rfl
    · rintro rfl
      exact absurd unreserved (by decide)

/-- A value with what follows it on its line is read. -/
theorem exists_read (scalar : Scalar) (markup : scalar.IsMarkup) {tail : Tail}
    (tailMarkup : tail.IsMarkup)
    (comes : Comes limit r
      ⟨scalar.text ++ (tail.text ++ more), column, keyAllowed, margins, before⟩)
    (deep : margins.headD 0 ≤ column) (inLine : 0 < column) (ends : Ends more next)
    (passes : Passes here target false 0 next) (left : target < margins.headD 0) :
    ∃ r', Leads limit r r' ∧
      Comes limit r' ⟨here, target, true, margins, before ++ [scalar.token]⟩ := by
  have free : keyAllowed = true → margins.headD 0 ≠ column + 1 := fun _ => by omega
  have reached : ∀ margin ∈ margins.head?, margin ≤ column + 1 := by
    intro margin head
    rw [List.headD_eq_head?_getD, head] at deep
    exact Nat.le_succ_of_le deep
  have passesTail := passes_tail tailMarkup ends passes
  cases scalar with
  | quoted q =>
    have noQuote : ∀ x, Yaml.isSeparator x = true → (x == '\'') = false := by
      rintro x separates
      rw [beq_eq_false_iff_ne]
      rintro rfl
      exact absurd separates (by decide)
    have after := startsWith_tail noQuote tail ends
    obtain ⟨r', leads, stands⟩ := comes.exists_quoted free reached q markup rfl after
    exact ⟨r', leads, stands.comes (passesTail _) (leads.short comes.short)⟩
  | plain p =>
    have isPlain := p.isPlain false markup (fun no => nomatch no) fun no => nomatch no
    have begins := p.mayBegin false markup (fun no => nomatch no) (tail.text ++ more)
    have apart : ∀ x ∈ (tail.text ++ more).head?, x ≠ '#' := by
      rintro x first rfl
      exact absurd (isSeparator_tail tail ends _ first) (by decide)
    exact comes.exists_plain free inLine deep rfl isPlain begins (passesTail _) apart
      fun _ => left

end Scalar

namespace Key

variable {name : List Char}

/-- The tokens of a key with its colon. -/
def tokens (key : Key name) : List Token :=
  match key.spelling with
  | .bare => [.key, .scalar name true, .value]
  | .quoted _ _ => [.key, .scalar name false, .value]

/-- A key is not empty. -/
theorem length_pos (key : Key name) : 0 < key.text.length := by
  rw [Key.text, List.length_append]
  exact Nat.succ_pos _

/-- A small letter belongs to a name, and is no hyphen. -/
theorem letters (word : IsWord name) :
    ∀ x ∈ name, Yaml.isNameCharacter x = true ∧ x ≠ '-' := by
  intro x mem
  obtain ⟨low, high⟩ := word.2 x mem
  refine ⟨by simp [Yaml.isNameCharacter, low, high], ?_⟩
  rintro rfl
  exact absurd low (by decide)

/-- A key begins with something that is not passed. -/
theorem solid (key : Key name) (word : IsWord name) (rest : List Char) :
    Solid column (key.text ++ rest) := by
  obtain ⟨spelling, gap⟩ := key
  rw [Key.text, List.append_assoc, List.append_assoc]
  cases spelling with
  | bare =>
    obtain ⟨x, others, first⟩ := List.exists_cons_of_ne_nil word.1
    have letter := (letters word x (by rw [first]; exact List.mem_cons_self)).1
    rw [Spelling.text, first]
    refine Yaml.solid_cons (Yaml.Token.Reader.isSeparator_letter letter) ?_ (fun _ => ?_) _
    · exact Yaml.Token.Reader.ne_of_isNameCharacter letter (by decide)
    · exact Yaml.Token.Reader.ne_of_isNameCharacter letter (by decide)
  | quoted q same =>
    obtain ⟨x, others, first, quote⟩ := Yaml.Token.Reader.exists_text_quoted q
    rw [Spelling.text, first]
    rcases quote with rfl | rfl <;>
      exact Yaml.solid_cons (by decide) (by decide) (fun _ => by decide) _

/-- A key with its colon is read. -/
theorem exists_read (key : Key name) (markup : key.IsMarkup)
    (word : IsWord name) {rest : List Char}
    (comes : Comes limit r ⟨key.text ++ rest, column, true, margins, before⟩)
    (apart : Yaml.atSeparator rest = true)
    (reached : ∀ margin ∈ margins.head?, margin ≤ column + 1) :
    ∃ r', Leads limit r r' ∧
      Stands r'
        { text := rest
          column := column + key.text.length
          keyAllowed := false
          margins := openedAt column margins
          tokens := before ++ openingAt .blockMappingStart column margins ++ key.tokens } := by
  obtain ⟨spelling, gap⟩ := key
  have length : Key.text ⟨spelling, gap⟩ ++ rest = spelling.text ++ (gap.text ++ ':' :: rest) := by
    simp [Key.text]
  have behind : column + (Key.text ⟨spelling, gap⟩).length
      = column + (spelling.text.length + gap.text.length) + 1 := by
    simp [Key.text]
    omega
  have fits := markup.2
  rw [List.length_append] at fits
  rw [length] at comes
  rw [behind]
  cases spelling with
  | bare =>
    obtain ⟨r₁, leads, awaits⟩ :=
      comes.exists_plainKey rfl reached (letters word) word.1 gap.blank rfl apart
    have noBlanks : ∀ x ∈ ([] : List Char), Text.isGap x = true := fun x absent => nomatch absent
    obtain ⟨r₂, leads₂, stands⟩ :=
      awaits.exists_colon noBlanks apart reached (leads.short comes.short) fits
    exact ⟨r₂, leads.trans leads₂, stands⟩
  | quoted q same =>
    have after : Text.startsWith (· == '\'') (gap.text ++ ':' :: rest) = false := by
      cases text : gap.text with
      | nil => rfl
      | cons x others =>
        have blank := gap.blank x (by rw [text]; exact List.mem_cons_self)
        simp only [List.cons_append, Text.startsWith, beq_eq_false_iff_ne]
        rintro rfl
        exact absurd blank (by decide)
    obtain ⟨r₁, leads, awaits⟩ := comes.exists_quotedKey rfl reached q markup.1 rfl after
    obtain ⟨r₂, leads₂, stands⟩ :=
      awaits.exists_colon gap.blank apart reached (leads.short comes.short) fits
    rw [same] at stands
    exact ⟨r₂, leads.trans leads₂, stands⟩

end Key

end CatalogAudit.Manifest.Layout
