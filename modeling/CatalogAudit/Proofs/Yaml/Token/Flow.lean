import CatalogAudit.Proofs.Yaml.Token.Block

/-!
# Tokens between brackets

What the reader of tokens does at the items and the commas of a list in brackets that stands on one
line. Between brackets columns do not count, and no key is ever required.
-/

namespace CatalogAudit.Yaml.Token.Reader

/-- The reader is inside one pair of brackets. -/
structure InBrackets (r : Reader) (margins : List Nat) (tokens : List Token) (text : List Char) :
    Prop where
  /-- One collection is around it, whose pending key is not required. -/
  outer : ∃ pending, r.outer = [pending] ∧ ∀ place ∈ pending, place.required = false
  /-- The margins of the open block collections. -/
  margins : r.margins = margins
  /-- The number of tokens before it. -/
  count : r.count = tokens.length
  /-- The tokens before it. -/
  tokens : r.tokens = tokens.reverse
  /-- The text ahead. -/
  text : r.cursor.rest = text
  /-- It does not begin a line. -/
  inLine : 0 < r.cursor.column
  /-- No pending key is required. -/
  idle : ∀ place ∈ r.pending, place.required = false

variable {r : Reader} {s : Spot} {limit : Nat} {margins : List Nat} {tokens : List Token}

/-- Between brackets columns do not count. -/
theorem InBrackets.inFlow {text : List Char} (inside : InBrackets r margins tokens text) :
    r.inFlow = true := by
  obtain ⟨pending, outer, -⟩ := inside.outer
  rw [Reader.inFlow, outer]
  rfl

/-- An opening bracket is read. -/
theorem Comes.exists_openBracket (comes : Comes limit r s) {rest : List Char}
    (text : s.text = '[' :: rest) (noKey : s.keyAllowed = false)
    (reached : ∀ margin ∈ s.margins.head?, margin ≤ s.column + 1) :
    ∃ r', Leads limit r r' ∧
      InBrackets r' s.margins (s.tokens ++ [.flowSequenceStart]) rest := by
  obtain ⟨r₁, step, stands⟩ := comes.exists_step? text reached
  have ahead : r₁.cursor.rest = '[' :: rest := stands.text.trans text
  have noStart : r₁.cursor.atMark '-' = false := Cursor.atMark_eq_false_of_ne ahead (by decide)
  have noEnd : r₁.cursor.atMark '.' = false := Cursor.atMark_eq_false_of_ne ahead (by decide)
  have saved : r₁.saveKey? = some r₁ := by
    have noKey₁ : ¬r₁.keyAllowed = true := by simp [stands.keyAllowed, noKey]
    rw [saveKey?, if_neg noKey₁]
  have behind : (r₁.cursor.forward 1).rest = rest := Cursor.rest_forward_one ahead
  have read : r.step? limit
      = some ((({ r₁ with
          pending := none
          outer := r₁.pending :: r₁.outer
          keyAllowed := true } : Reader).emit .flowSequenceStart).goTo (r₁.cursor.forward 1)) := by
    rw [step]
    simp [readToken?, noStart, noEnd, openFlow?, saved]
  refine ⟨_, leads_of_step? read (by simp [emit, goTo]) ?_, ?_⟩
  · have shorter := comes.ahead
    rw [text, List.length_cons] at shorter
    simp only [goTo, behind]
    omega
  · exact
      { outer := ⟨r₁.pending, by simp [emit, goTo, stands.block], stands.idle⟩
        margins := stands.margins
        tokens := by simp [emit, goTo, stands.tokens]
        count := by simp [emit, goTo, stands.count]
        text := behind
        inLine := Nat.succ_pos _
        idle := fun place absent => absurd absent (Option.not_mem_none place) }

/-- The next step of a reader inside brackets reads the token behind the gap. -/
theorem InBrackets.exists_step? {gap : List Char} {x : Char} {rest : List Char}
    (inside : InBrackets r margins tokens (gap ++ x :: rest))
    (blank : ∀ y ∈ gap, Text.isGap y = true) (noSeparator : isSeparator x = false)
    (noComment : x ≠ '#') (short : r.cursor.rest.length < limit) :
    ∃ r', r.step? limit = r'.readToken? limit x rest ∧
      InBrackets r' margins tokens (x :: rest) := by
  obtain ⟨fuel, rfl⟩ : ∃ n, limit = n + 1 := ⟨limit - 1, by omega⟩
  have behind : (r.cursor.forward gap.length).rest = x :: rest :=
    Cursor.rest_forward_length inside.text
  have inLine : 0 < (r.cursor.forward gap.length).column :=
    Nat.lt_of_lt_of_le inside.inLine (Nat.le_add_right _ _)
  have passed : skipIgnored true (fuel + 1) r.keyAllowed r.cursor
      = (r.keyAllowed, r.cursor.forward gap.length) := by
    rw [skipIgnored_blanks inside.text, skipIgnored_solid]
    · rw [behind]
      exact solid_cons noSeparator noComment (fun margin => absurd margin (by omega)) rest
    · intro y mem
      have isGap := blank y mem
      rw [Text.isGap, Bool.or_eq_true, beq_iff_eq, beq_iff_eq] at isGap
      exact isGap.imp_right fun tab => ⟨rfl, tab⟩
  obtain ⟨pending, refreshed, idle⟩ := exists_refreshKey?
    (r := (r.allowKey r.keyAllowed).goTo (r.cursor.forward gap.length)) inside.idle
  have arrive : r.arrive? (fuel + 1) = some
      { (r.allowKey r.keyAllowed).goTo (r.cursor.forward gap.length) with pending } := by
    rw [arrive?, inside.inFlow, passed]
    exact refreshed
  have standsThere : InBrackets
      { (r.allowKey r.keyAllowed).goTo (r.cursor.forward gap.length) with pending }
      margins tokens (x :: rest) := { inside with text := behind, inLine, idle }
  refine ⟨_, ?_, standsThere⟩
  have open' := standsThere.inFlow
  rw [step?_eq, arrive, Option.bind_some, standsThere.text]
  simp only
  rw [closeBlocks, open', if_pos rfl]

/-- A step that reads a token between brackets leads on. -/
theorem InBrackets.leads {text : List Char} (inside : InBrackets r margins tokens text)
    {r' : Reader} (step : r.step? limit = some r') (more : r'.tokens.head? ≠ some .streamEnd)
    (shorter : r'.cursor.rest.length < text.length) : Leads limit r r' := by
  apply leads_of_step? step more
  rwa [inside.text]

/-- A key that is not required is forgotten between brackets. -/
theorem InBrackets.dropKey? {text : List Char} (inside : InBrackets r margins tokens text) :
    r.dropKey? = some { r with pending := none } := exists_dropKey? inside.idle

/-- Between brackets the place of a value is remembered without harm. -/
theorem InBrackets.exists_saveKey? {text : List Char} (inside : InBrackets r margins tokens text) :
    ∃ r', r.saveKey? = some r' ∧ InBrackets r' margins tokens text ∧ r'.cursor = r.cursor := by
  rw [saveKey?]
  split
  · have noneRequired : (!Reader.inFlow { r with pending := none } &&
        Reader.margin { r with pending := none } == r.cursor.column + 1) = false := by
      have inFlow : Reader.inFlow { r with pending := none } = true := inside.inFlow
      rw [inFlow]
      rfl
    rw [inside.dropKey?]
    refine ⟨_, rfl, { inside with idle := ?_ }, rfl⟩
    intro place mem
    obtain rfl := Option.some.inj mem
    exact noneRequired
  · exact ⟨r, rfl, inside, rfl⟩

/-- A token is added, and the reader goes on behind it. -/
theorem InBrackets.emit {text : List Char} (inside : InBrackets r margins tokens text)
    (token : Token) (keyAllowed : Bool) {next : Cursor} {rest : List Char}
    (behind : next.rest = rest) (inLine : 0 < next.column) :
    InBrackets (((r.allowKey keyAllowed).emit token).goTo next) margins (tokens ++ [token]) rest :=
  { inside with
    text := behind
    inLine
    tokens := by simp [Reader.emit, goTo, allowKey, inside.tokens]
    count := by simp [Reader.emit, goTo, allowKey, inside.count] }

/-- A comma is read. -/
theorem InBrackets.exists_comma {gap rest : List Char}
    (inside : InBrackets r margins tokens (gap ++ ',' :: rest))
    (blank : ∀ y ∈ gap, Text.isGap y = true) (short : r.cursor.rest.length < limit) :
    ∃ r', Leads limit r r' ∧ InBrackets r' margins (tokens ++ [.flowEntry]) rest := by
  obtain ⟨r₁, step, there⟩ := inside.exists_step? blank (by decide) (by decide) short
  have noStart := Cursor.atMark_eq_false there.inLine '-'
  have noEnd := Cursor.atMark_eq_false there.inLine '.'
  have behind : (r₁.cursor.forward 1).rest = rest := Cursor.rest_forward_one there.text
  have read := InBrackets.emit (r := { r₁ with pending := none })
    { there with idle := fun place absent => nomatch absent } .flowEntry true behind
      (Nat.succ_pos _)
  refine ⟨_, inside.leads (step.trans ?_) (by simp [Reader.emit, goTo]) ?_, read⟩
  · simp [readToken?, noStart, noEnd, flowEntry?, there.dropKey?]
  · rw [read.text, List.length_append, List.length_cons]
    omega

/-- A closing bracket is read; the reader is outside then. -/
theorem InBrackets.exists_closeBracket {gap rest : List Char}
    (inside : InBrackets r margins tokens (gap ++ ']' :: rest))
    (blank : ∀ y ∈ gap, Text.isGap y = true) (short : r.cursor.rest.length < limit) :
    ∃ r' column, Leads limit r r' ∧
      Stands r' ⟨rest, column, false, margins, tokens ++ [.flowSequenceEnd]⟩ := by
  obtain ⟨r₁, step, there⟩ := inside.exists_step? blank (by decide) (by decide) short
  obtain ⟨pending, outer, idle⟩ := there.outer
  have noStart := Cursor.atMark_eq_false there.inLine '-'
  have noEnd := Cursor.atMark_eq_false there.inLine '.'
  have behind : (r₁.cursor.forward 1).rest = rest := Cursor.rest_forward_one there.text
  have outside : Stands { r₁ with pending, outer := [] }
      ⟨']' :: rest, r₁.cursor.column, r₁.keyAllowed, margins, tokens⟩ :=
    { block := rfl
      text := there.text
      column := rfl
      keyAllowed := rfl
      margins := there.margins
      tokens := there.tokens
      count := there.count
      idle }
  have read := outside.emit .flowSequenceEnd false behind (Eq.refl (r₁.cursor.forward 1).column)
  refine ⟨_, _, inside.leads (step.trans ?_) (by simp [Reader.emit, goTo]) ?_, read⟩
  · simp [readToken?, noStart, noEnd, closeFlow?, there.dropKey?, outer]
  · have text : (r₁.cursor.forward 1).rest.length < (gap ++ ']' :: rest).length := by
      rw [behind, List.length_append, List.length_cons]
      omega
    exact text

/-- A quoted item is read. -/
theorem InBrackets.exists_quoted {gap rest : List Char} (q : Manifest.Layout.Quoted)
    (inside : InBrackets r margins tokens (gap ++ (q.text ++ rest)))
    (blank : ∀ y ∈ gap, Text.isGap y = true) (noBreak : ∀ c ∈ q.text, isBreak c = false)
    (after : Text.startsWith (· == '\'') rest = false) (short : r.cursor.rest.length < limit) :
    ∃ r', Leads limit r r' ∧ InBrackets r' margins (tokens ++ [.scalar q.value false]) rest := by
  obtain ⟨x, others, first, quote⟩ := exists_text_quoted q
  have split : q.text ++ rest = x :: (others ++ rest) := by rw [first]; rfl
  have inText := inside.text
  rw [split] at inside
  have noSeparator : isSeparator x = false := by rcases quote with rfl | rfl <;> decide
  have noComment : x ≠ '#' := by rcases quote with rfl | rfl <;> decide
  obtain ⟨r₁, step, there⟩ := inside.exists_step? blank noSeparator noComment short
  have ahead : r₁.cursor.rest = q.text ++ rest := there.text.trans split.symm
  have behind : (r₁.cursor.forward q.text.length).rest = rest := Cursor.rest_forward_length ahead
  have enough : q.text.length ≤ limit := by
    rw [inText, List.length_append, List.length_append] at short
    omega
  have scalar := Quoted.read?_text q noBreak ahead after enough
  obtain ⟨r₂, saved, there₂, same⟩ := there.exists_saveKey?
  have inLine : 0 < (r₁.cursor.forward q.text.length).column :=
    Nat.lt_of_lt_of_le there.inLine (Nat.le_add_right _ _)
  have read := there₂.emit (.scalar q.value false) false behind inLine
  refine ⟨_, inside.leads (step.trans ?_) (by simp [Reader.emit, goTo]) ?_, read⟩
  · rw [readToken?_quote there.text quote, within?, saved]
    simp [same, scalar]
  · rw [read.text, List.length_append, List.length_cons, List.length_append]
    omega

/-- A plain item is read up to the next mark. -/
theorem InBrackets.exists_plain {gap text gap' : List Char} {x : Char} {rest : List Char}
    (inside : InBrackets r margins tokens (gap ++ (text ++ (gap' ++ x :: rest))))
    (blank : ∀ y ∈ gap, Text.isGap y = true) (blank' : ∀ y ∈ gap', Text.isGap y = true)
    (plain : Plain.IsPlain true text)
    (begins : Plain.MayBegin true (text ++ (gap' ++ x :: rest)))
    (indicates : Plain.isFlowIndicator x = true) (short : r.cursor.rest.length < limit) :
    ∃ r', Leads limit r r' ∧
      InBrackets r' margins (tokens ++ [.scalar text true]) (x :: rest) := by
  obtain ⟨y, others, first⟩ := List.exists_cons_of_ne_nil plain.filled
  have split : text ++ (gap' ++ x :: rest) = y :: (others ++ (gap' ++ x :: rest)) := by
    rw [first]
    rfl
  have inText := inside.text
  have head : y ∈ text.head? := by rw [first]; rfl
  have noSeparator : isSeparator y = false := by
    rw [isSeparator, (plain.begins y head).1, plain.noBreak y (List.mem_of_mem_head? head)]
    rfl
  have insideThere := inside
  rw [split] at inside begins
  obtain ⟨r₁, step, there⟩ := inside.exists_step? blank noSeparator (plain.begins y head).2 short
  have ahead : r₁.cursor.rest = text ++ (gap' ++ x :: rest) := there.text.trans split.symm
  have mayBegin : Plain.canBegin r₁.inFlow (y :: (others ++ (gap' ++ x :: rest))) = true := by
    rw [there.inFlow]
    exact begins.begins
  rw [readToken?_plain (Cursor.atMark_eq_false there.inLine '-')
    (Cursor.atMark_eq_false there.inLine '.') mayBegin
    fun dash => begins.noItem _ (by rw [dash])] at step
  have enough : text.length + gap'.length ≤ limit := by
    rw [inText, List.length_append, List.length_append, List.length_append] at short
    omega
  obtain ⟨r₂, saved, there₂, same⟩ := there.exists_saveKey?
  have scalar := Plain.read?_item plain blank' indicates ahead there.inLine r₂.margin enough
  have behind : (r₁.cursor.forward (text.length + gap'.length)).rest = x :: rest := by
    have whole : r₁.cursor.rest = (text ++ gap') ++ x :: rest := by rw [ahead, List.append_assoc]
    rw [← List.length_append]
    exact Cursor.rest_forward_length whole
  have inLine : 0 < (r₁.cursor.forward (text.length + gap'.length)).column :=
    Nat.lt_of_lt_of_le there.inLine (Nat.le_add_right _ _)
  have read := there₂.emit (.scalar text true) false behind inLine
  refine ⟨_, insideThere.leads (step.trans ?_) (by simp [Reader.emit, goTo]) ?_, read⟩
  · rw [plain?, saved]
    simp [there₂.inFlow, same, scalar]
  · have long := List.length_pos_iff.mpr plain.filled
    rw [read.text, List.length_append, List.length_append, List.length_append]
    omega

end CatalogAudit.Yaml.Token.Reader
