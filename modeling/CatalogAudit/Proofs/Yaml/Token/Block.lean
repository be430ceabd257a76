import CatalogAudit.Proofs.Yaml.Scalar.Plain
import CatalogAudit.Proofs.Yaml.Scalar.Quoted
import CatalogAudit.Proofs.Yaml.Token.Spot

/-!
# Tokens outside brackets

What the reader of tokens does at a dash, at a key with its colon, at a value and at the end of the
text, when no bracket is open.
-/

namespace CatalogAudit.Yaml.Token.Reader

variable {r : Reader} {s : Spot} {limit : Nat}

/-- A step that reads a token leads on. -/
theorem Comes.leads (comes : Comes limit r s) {r' : Reader} (step : r.step? limit = some r')
    {s' : Spot} (stands : Stands { r' with pending := none } s')
    (more : s'.tokens.getLast? ≠ some .streamEnd)
    (shorter : s'.text.length < s.text.length) : Leads limit r r' := by
  apply leads_of_step? step
  · have tokens : r'.tokens = s'.tokens.reverse := stands.tokens
    rwa [tokens, List.head?_reverse]
  · have text : r'.cursor.rest = s'.text := stands.text
    rw [text]
    exact Nat.lt_of_lt_of_le shorter comes.ahead

/-- The dash of an item is read; it opens a list where none has reached its column. -/
theorem Comes.exists_dash (comes : Comes limit r s) {rest : List Char} (text : s.text = '-' :: rest)
    (apart : atSeparator rest = true) (keyAllowed : s.keyAllowed = true)
    (reached : ∀ margin ∈ s.margins.head?, margin ≤ s.column + 1) :
    ∃ r', Leads limit r r' ∧
      Stands r'
        { text := rest
          column := s.column + 1
          keyAllowed := true
          margins := openedAt s.column s.margins
          tokens := s.tokens ++ openingAt .blockSequenceStart s.column s.margins
            ++ [.blockEntry] } := by
  obtain ⟨r₁, step, stands⟩ := comes.exists_step? text reached
  have ahead : r₁.cursor.rest = '-' :: rest := stands.text.trans text
  have noStart : r₁.cursor.atMark '-' = false :=
    Cursor.atMark_eq_false_of_apart ahead apart (by decide)
  have noEnd : r₁.cursor.atMark '.' = false := Cursor.atMark_eq_false_of_ne ahead (by decide)
  have dash : r₁.readToken? limit '-' rest = r₁.blockEntry? := by
    simp [readToken?, noStart, noEnd, apart]
  have allowed : (!r₁.inFlow && !r₁.keyAllowed) = false := by
    rw [stands.keyAllowed, keyAllowed, Bool.not_true, Bool.and_false]
  obtain ⟨dropped, opened⟩ := (stands.openBlock .blockSequenceStart).dropKey?
  have next : (r₁.openBlock .blockSequenceStart).cursor = r₁.cursor := by
    rw [openBlock]
    split <;> rfl
  have behind : (r₁.cursor.forward 1).rest = rest := Cursor.rest_forward_one ahead
  have column : (r₁.cursor.forward 1).column = s.column + 1 := by
    rw [Cursor.column_forward, stands.column]
  have read := opened.emit .blockEntry true behind column
  rw [dash, blockEntry?, allowed, dropped] at step
  refine ⟨_, comes.leads (step.trans ?_) read.dropKey?.2 ?_ ?_, read⟩
  · simp [next]
  · simp
  · simp [text]

/-- Where a key is allowed its place is remembered. -/
theorem Stands.exists_saveKey? (stands : Stands r s) (keyAllowed : s.keyAllowed = true) :
    ∃ place, r.saveKey? = some { r with pending := some place } ∧
      place.required = (s.margins.headD 0 == s.column + 1) ∧ place.position = s.tokens.length ∧
      place.column = s.column ∧ place.line = r.cursor.line ∧ place.index = r.cursor.index := by
  have allowed : r.keyAllowed = true := stands.keyAllowed.trans keyAllowed
  have noFlow : Reader.inFlow { r with pending := none } = false := stands.inFlow
  have margin : Reader.margin { r with pending := none } = s.margins.headD 0 := stands.margin
  let place : PendingKey :=
    { required := s.margins.headD 0 == s.column + 1
      position := r.count
      index := r.cursor.index
      line := r.cursor.line
      column := r.cursor.column }
  refine ⟨place, ?_, rfl, stands.count, stands.column, rfl, rfl⟩
  rw [saveKey?, if_pos allowed, stands.dropKey?.1]
  simp only [Option.map_some, noFlow, margin, stands.column, Bool.not_false, Bool.true_and, place]

/-- The reader stands behind a scalar with which a key may have begun, at the spot `start`. -/
structure Awaits (r : Reader) (start : Spot) (scalar : Token) (length : Nat) (text : List Char) :
    Prop where
  /-- Where it stands, but for the pending key. -/
  stands : Stands { r with pending := none }
    { start with
      text
      column := start.column + length
      keyAllowed := false
      tokens := start.tokens ++ [scalar] }
  /-- The pending key. -/
  pending : ∃ place, r.pending = some place ∧ place.position = start.tokens.length ∧
    place.column = start.column ∧ place.line = r.cursor.line ∧
    r.cursor.index = place.index + length

/-- Behind a scalar that was read on one line, the reader awaits the colon of a key. -/
theorem Stands.awaits (stands : Stands r s) {place : PendingKey}
    (position : place.position = s.tokens.length) (column : place.column = s.column)
    (line : place.line = r.cursor.line) (index : place.index = r.cursor.index) (scalar : Token)
    {length : Nat} {text : List Char} (behind : (r.cursor.forward length).rest = text) :
    Awaits ((({ r with pending := some place }.allowKey false).emit scalar).goTo
      (r.cursor.forward length)) s scalar length text where
  stands := by
    have forget : Stands { r with pending := none } s := stands.dropKey?.2
    have there : (r.cursor.forward length).column = s.column + length := by
      rw [Cursor.column_forward, stands.column]
    exact forget.emit scalar false behind there
  pending := by
    refine ⟨place, rfl, position, column, line, ?_⟩
    rw [index]
    rfl

/-- At a quote a quoted scalar is read. -/
theorem readToken?_quote {x : Char} {rest : List Char} (text : r.cursor.rest = x :: rest)
    (quote : x = '"' ∨ x = '\'') :
    r.readToken? limit x rest
      = r.within? fun c =>
          (Quoted.read? limit c).map fun (text, next) => (.scalar text false, next) := by
  have noStart : r.cursor.atMark '-' = false := by
    apply Cursor.atMark_eq_false_of_ne text
    rcases quote with rfl | rfl <;> decide
  have noEnd : r.cursor.atMark '.' = false := by
    apply Cursor.atMark_eq_false_of_ne text
    rcases quote with rfl | rfl <;> decide
  rcases quote with rfl | rfl <;> simp [readToken?, noStart, noEnd]

/-- A string in quotes begins with one of the two quotes. -/
theorem exists_text_quoted (q : Manifest.Layout.Quoted) :
    ∃ x others, q.text = x :: others ∧ (x = '"' ∨ x = '\'') := by
  refine ⟨_, _, Quoted.text_eq q, ?_⟩
  cases q with
  | double pieces => exact .inl rfl
  | single value oneLine => exact .inr rfl

/-- Where a quoted scalar stands next, a step reads it, from where its first quote stands. -/
theorem Comes.exists_step?_quoted (comes : Comes limit r s)
    (reached : ∀ margin ∈ s.margins.head?, margin ≤ s.column + 1) (q : Manifest.Layout.Quoted)
    (noBreak : ∀ c ∈ q.text, isBreak c = false) {rest : List Char} (text : s.text = q.text ++ rest)
    (after : Text.startsWith (· == '\'') rest = false) :
    ∃ r', Stands r' s ∧ r'.cursor.rest = q.text ++ rest ∧
      r.step? limit = r'.within? (fun c =>
        (Quoted.read? limit c).map fun (text, next) => (.scalar text false, next)) ∧
      Quoted.read? limit r'.cursor = some (q.value, r'.cursor.forward q.text.length) := by
  obtain ⟨x, others, first, quote⟩ := exists_text_quoted q
  have split : s.text = x :: (others ++ rest) := by rw [text, first]; rfl
  obtain ⟨r', step, stands⟩ := comes.exists_step? split reached
  have ahead : r'.cursor.rest = q.text ++ rest := stands.text.trans text
  have enough : q.text.length ≤ limit := by
    have fits := comes.ahead
    have short := comes.short
    rw [text, List.length_append] at fits
    omega
  rw [readToken?_quote (stands.text.trans split) quote] at step
  exact ⟨r', stands, ahead, step, Quoted.read?_text q noBreak ahead after enough⟩

/-- Behind a string in quotes less text is left. -/
theorem length_lt_quoted (q : Manifest.Layout.Quoted) (rest : List Char) :
    rest.length < (q.text ++ rest).length := by
  obtain ⟨x, others, first, -⟩ := exists_text_quoted q
  simp only [first, List.cons_append, List.length_cons, List.length_append]
  omega

/-- A quoted key is read up to its closing quote. -/
theorem Comes.exists_quotedKey (comes : Comes limit r s) (keyAllowed : s.keyAllowed = true)
    (reached : ∀ margin ∈ s.margins.head?, margin ≤ s.column + 1) (q : Manifest.Layout.Quoted)
    (noBreak : ∀ c ∈ q.text, isBreak c = false) {rest : List Char} (text : s.text = q.text ++ rest)
    (after : Text.startsWith (· == '\'') rest = false) :
    ∃ r', Leads limit r r' ∧ Awaits r' s (.scalar q.value false) q.text.length rest := by
  obtain ⟨r₁, stands, ahead, step, read⟩ :=
    comes.exists_step?_quoted reached q noBreak text after
  obtain ⟨place, saved, -, position, column, line, index⟩ := stands.exists_saveKey? keyAllowed
  have awaits := stands.awaits position column line index (.scalar q.value false)
    (Cursor.rest_forward_length ahead)
  rw [within?, saved] at step
  refine ⟨_, comes.leads (step.trans ?_) awaits.stands ?_ ?_, awaits⟩
  · simp [read]
  · simp
  · rw [text]
    exact length_lt_quoted q rest

/-- Where a plain scalar may begin, and no mark and no item does, a plain scalar is read. -/
theorem readToken?_plain {x : Char} {rest : List Char} (noStart : r.cursor.atMark '-' = false)
    (noEnd : r.cursor.atMark '.' = false) (begins : Plain.canBegin r.inFlow (x :: rest) = true)
    (noItem : x = '-' → atSeparator rest = false) :
    r.readToken? limit x rest = r.plain? limit := by
  by_cases dash : x = '-'
  · subst dash
    simp [readToken?, noStart, noEnd, noItem rfl, begins]
  by_cases mark : x = '?' ∨ x = ':'
  · have outside : r.inFlow = false ∧ atSeparator rest = false := by
      rcases mark with rfl | rfl <;> simpa [Plain.canBegin] using begins
    rw [outside.1] at begins
    rcases mark with rfl | rfl <;> simp [readToken?, noStart, noEnd, begins, outside]
  · have others := begins
    simp only [not_or] at mark
    simp [Plain.canBegin, Plain.isFlowIndicator, dash, mark] at others
    simp [readToken?, noStart, noEnd, begins, others, dash, mark]

/-- A letter of a name is no other character. -/
theorem ne_of_isNameCharacter {x y : Char} (letter : isNameCharacter x = true)
    (other : isNameCharacter y = false) : x ≠ y := by
  rintro rfl
  rw [letter] at other
  cases other

/-- A letter separates nothing. -/
theorem isSeparator_letter {x : Char} (letter : isNameCharacter x = true) :
    isSeparator x = false := by
  have other : ∀ y, isNameCharacter y = false → (x == y) = false := by
    intro y noLetter
    exact beq_eq_false_iff_ne.mpr (ne_of_isNameCharacter letter noLetter)
  rw [isSeparator, Text.isGap, isBreak]
  simp only [other ' ' (by decide), other '\t' (by decide), other '\n' (by decide),
    other '\r' (by decide), other '\u0085' (by decide), other '\u2028' (by decide),
    other '\u2029' (by decide), Bool.or_self]

/-- A letter may begin a plain scalar. -/
theorem canBegin_letter {x : Char} (letter : isNameCharacter x = true) (noDash : x ≠ '-')
    (flow : Bool) (rest : List Char) : Plain.canBegin flow (x :: rest) = true := by
  have other : ∀ y, isNameCharacter y = false → x ≠ y := fun y =>
    ne_of_isNameCharacter letter
  have noIndicator : Plain.isFlowIndicator x = false := by
    simp [Plain.isFlowIndicator, other ',' (by decide), other '[' (by decide),
      other ']' (by decide), other '{' (by decide), other '}' (by decide)]
  simp [Plain.canBegin, noDash, isSeparator_letter letter, noIndicator, other '?' (by decide),
    other ':' (by decide), other '#' (by decide), other '&' (by decide), other '*' (by decide),
    other '!' (by decide), other '|' (by decide), other '>' (by decide), other '\'' (by decide),
    other '"' (by decide), other '%' (by decide), other '@' (by decide), other '\x60' (by decide)]

/-- A key of one plain word is read up to its colon. -/
theorem Comes.exists_plainKey (comes : Comes limit r s) (keyAllowed : s.keyAllowed = true)
    (reached : ∀ margin ∈ s.margins.head?, margin ≤ s.column + 1) {word gap rest : List Char}
    (letters : ∀ x ∈ word, isNameCharacter x = true ∧ x ≠ '-') (filled : word ≠ [])
    (blank : ∀ x ∈ gap, Text.isGap x = true) (text : s.text = word ++ (gap ++ ':' :: rest))
    (apart : atSeparator rest = true) :
    ∃ r', Leads limit r r' ∧
      Awaits r' s (.scalar word true) (word.length + gap.length) (':' :: rest) := by
  obtain ⟨x, others, first⟩ := List.exists_cons_of_ne_nil filled
  have split : s.text = x :: (others ++ (gap ++ ':' :: rest)) := by rw [text, first]; rfl
  obtain ⟨r₁, step, stands⟩ := comes.exists_step? split reached
  have ahead : r₁.cursor.rest = word ++ (gap ++ ':' :: rest) := stands.text.trans text
  have ahead' := stands.text.trans split
  have letter := letters x (by rw [first]; exact List.mem_cons_self)
  have noStart := Cursor.atMark_eq_false_of_ne ahead' letter.2
  have noEnd : r₁.cursor.atMark '.' = false :=
    Cursor.atMark_eq_false_of_ne ahead' (ne_of_isNameCharacter letter.1 (by decide))
  have noMark : r₁.cursor.atDocumentMark = false := by
    rw [Cursor.atDocumentMark, noStart, noEnd, Bool.or_false]
  have behind : (r₁.cursor.forward (word.length + gap.length)).rest = ':' :: rest := by
    have whole : r₁.cursor.rest = (word ++ gap) ++ ':' :: rest := by
      rw [ahead, List.append_assoc]
    rw [← List.length_append]
    exact Cursor.rest_forward_length whole
  have enough : gap.length < limit := by
    have fits := comes.ahead
    have short := comes.short
    rw [text, List.length_append, List.length_append] at fits
    omega
  have inWord : ∀ y ∈ word, isSeparator y = false ∧ y ≠ ':' ∧ y ≠ '#' := by
    intro y mem
    have inside := (letters y mem).1
    exact ⟨isSeparator_letter inside, ne_of_isNameCharacter inside (by decide),
      ne_of_isNameCharacter inside (by decide)⟩
  obtain ⟨place, saved, -, position, column, line, index⟩ := stands.exists_saveKey? keyAllowed
  have read := Plain.read?_key filled inWord blank apart ahead noMark r₁.margin enough
  have awaits := stands.awaits position column line index (.scalar word true) behind
  have begins := canBegin_letter letter.1 letter.2 r₁.inFlow (others ++ (gap ++ ':' :: rest))
  rw [readToken?_plain noStart noEnd begins fun dash => absurd dash letter.2, plain?, saved] at step
  have margin : Reader.margin { r₁ with pending := some place } = r₁.margin := rfl
  have noFlow : Reader.inFlow { r₁ with pending := some place } = false := stands.inFlow
  refine ⟨_, comes.leads (step.trans ?_) awaits.stands ?_ ?_, awaits⟩
  · simp [margin, noFlow, read]
  · simp
  · simp only [split, List.length_cons, List.length_append]
    omega

/-- Where the colon follows, the mark of the key is put in before the scalar; it opens a mapping
where none has reached the column of the key. -/
theorem Awaits.completeKey {start : Spot} {scalar : Token} {length : Nat} {text : List Char}
    (awaits : Awaits r start scalar length text) {place : PendingKey}
    (position : place.position = start.tokens.length) (column : place.column = start.column) :
    Stands (r.completeKey place)
      { text
        column := start.column + length
        keyAllowed := false
        margins := openedAt start.column start.margins
        tokens := start.tokens ++ openingAt .blockMappingStart start.column start.margins
          ++ [.key, scalar] } := by
  have stands := awaits.stands
  have tokens : r.tokens = scalar :: start.tokens.reverse := by
    have same : r.tokens = (start.tokens ++ [scalar]).reverse := stands.tokens
    rw [same, List.reverse_append]
    rfl
  have count : r.count = start.tokens.length + 1 := by
    have same : r.count = (start.tokens ++ [scalar]).length := stands.count
    rw [same, List.length_append, List.length_singleton]
  have later : r.count - place.position = 1 := by
    rw [count, position]
    omega
  have noFlow : Reader.inFlow { r with pending := none, keyAllowed := false } = false :=
    stands.inFlow
  have margin : Reader.margin { r with pending := none, keyAllowed := false }
      = start.margins.headD 0 := stands.margin
  rw [Reader.completeKey, openedAt, openingAt]
  simp only [noFlow, margin, column, Bool.not_false, Bool.true_and, decide_eq_true_eq]
  split
  · exact
      { stands with
        keyAllowed := rfl
        margins := congrArg _ stands.margins
        tokens := by simp [insertAt, later, tokens]
        count := by simp [insertAt, count] }
  · exact
      { stands with
        keyAllowed := rfl
        tokens := by simp [insertAt, later, tokens]
        count := by simp [insertAt, count] }

/-- The reader awaits the colon of a key behind a gap too, unless the key has become too long. -/
theorem Awaits.exists_arrive? {start : Spot} {scalar : Token} {length : Nat} {gap rest : List Char}
    (awaits : Awaits r start scalar length (gap ++ ':' :: rest))
    (blank : ∀ x ∈ gap, Text.isGap x = true) (short : r.cursor.rest.length < limit)
    (fits : length + gap.length ≤ 1024) :
    ∃ r', r.arrive? limit = some r' ∧
      Awaits r' start scalar (length + gap.length) (':' :: rest) := by
  obtain ⟨place, pending, position, column, line, index⟩ := awaits.pending
  have ahead : r.cursor.rest = gap ++ ':' :: rest := awaits.stands.text
  have here : r.cursor.column = start.column + length := awaits.stands.column
  have noFlow : r.inFlow = false := awaits.stands.inFlow
  have noKey : r.keyAllowed = false := awaits.stands.keyAllowed
  have behind : (r.cursor.forward gap.length).rest = ':' :: rest := Cursor.rest_forward_length ahead
  have there : (r.cursor.forward gap.length).column = start.column + (length + gap.length) := by
    rw [Cursor.column_forward, here, Nat.add_assoc]
  obtain ⟨fuel, rfl⟩ : ∃ n, limit = n + 1 := ⟨limit - 1, by omega⟩
  have passed : skipIgnored false (fuel + 1) false r.cursor
      = (false, r.cursor.forward gap.length) := by
    rw [skipIgnored_blanks ahead, skipIgnored_solid]
    · rw [behind]
      exact solid_cons (by decide) (by decide) (fun _ => by decide) rest
    · intro x mem
      have isGap := blank x mem
      rw [Text.isGap, Bool.or_eq_true, beq_iff_eq, beq_iff_eq] at isGap
      exact isGap.imp_right fun tab => ⟨rfl, tab⟩
  have kept : hasLapsed (r.cursor.forward gap.length) place = false := by
    have later : (r.cursor.forward gap.length).index = r.cursor.index + gap.length := rfl
    have same : (r.cursor.forward gap.length).line = r.cursor.line := rfl
    rw [hasLapsed, Bool.or_eq_false_iff, decide_eq_false_iff_not, decide_eq_false_iff_not]
    omega
  refine ⟨(r.allowKey false).goTo (r.cursor.forward gap.length), ?_, ?_, ?_⟩
  · rw [arrive?, noFlow, noKey, passed]
    simp [refreshKey?, goTo, allowKey, pending, kept]
  · exact { awaits.stands with text := behind, column := there, keyAllowed := rfl }
  · refine ⟨place, pending, position, column, line, ?_⟩
    rw [← Nat.add_assoc, ← index]
    rfl

/-- At its colon the key is completed. -/
theorem Awaits.exists_colon {start : Spot} {scalar : Token} {length : Nat} {gap rest : List Char}
    (awaits : Awaits r start scalar length (gap ++ ':' :: rest))
    (blank : ∀ x ∈ gap, Text.isGap x = true) (apart : atSeparator rest = true)
    (reached : ∀ margin ∈ start.margins.head?, margin ≤ start.column + 1)
    (short : r.cursor.rest.length < limit) (fits : length + gap.length ≤ 1024) :
    ∃ r', Leads limit r r' ∧
      Stands r'
        { text := rest
          column := start.column + (length + gap.length) + 1
          keyAllowed := false
          margins := openedAt start.column start.margins
          tokens := start.tokens ++ openingAt .blockMappingStart start.column start.margins
            ++ [.key, scalar, .value] } := by
  obtain ⟨r₁, arrive, awaits₁⟩ := awaits.exists_arrive? blank short fits
  obtain ⟨place, pending, position, column, -, -⟩ := awaits₁.pending
  have ahead : r₁.cursor.rest = ':' :: rest := awaits₁.stands.text
  have there : r₁.cursor.column = start.column + (length + gap.length) := awaits₁.stands.column
  have closed : r₁.closeBlocks (r₁.cursor.column + 1) = r₁ := by
    have margins : r₁.margins = start.margins := awaits₁.stands.margins
    have block : r₁.outer = [] := awaits₁.stands.block
    apply closeBlocks_eq_self block
    rw [margins]
    intro margin first
    have := reached margin first
    omega
  have noStart : r₁.cursor.atMark '-' = false := Cursor.atMark_eq_false_of_ne ahead (by decide)
  have noEnd : r₁.cursor.atMark '.' = false := Cursor.atMark_eq_false_of_ne ahead (by decide)
  have completed := awaits₁.completeKey position column
  have noKey : (r₁.completeKey place).keyAllowed = false := completed.keyAllowed
  have same : (r₁.completeKey place).allowKey false = r₁.completeKey place := by
    rw [← noKey]
    rfl
  have step : r.step? limit
      = some
          ((((r₁.completeKey place).allowKey false).emit .value).goTo (r₁.cursor.forward 1)) := by
    rw [step?_eq, arrive, Option.bind_some, ahead, closed, same]
    simp [readToken?, noStart, noEnd, apart, value?, pending]
  have behind : (r₁.cursor.forward 1).rest = rest := Cursor.rest_forward_one ahead
  have column' : (r₁.cursor.forward 1).column = start.column + (length + gap.length) + 1 := by
    rw [Cursor.column_forward, there]
  have stands := completed.emit .value false behind column'
  have shorter : (r₁.cursor.forward 1).rest.length < r.cursor.rest.length := by
    have whole : r.cursor.rest = gap ++ ':' :: rest := awaits.stands.text
    rw [behind, whole, List.length_append, List.length_cons]
    omega
  refine ⟨_, leads_of_step? step (by simp [emit, goTo]) shorter, ?_⟩
  simpa using stands

/-- Where no key is required the place of a value is remembered without harm. -/
theorem Stands.exists_saveKey?_value (stands : Stands r s)
    (free : s.keyAllowed = true → s.margins.headD 0 ≠ s.column + 1) :
    ∃ r', r.saveKey? = some r' ∧ Stands r' s ∧ r'.cursor = r.cursor := by
  cases keyAllowed : s.keyAllowed with
  | false =>
    have noKey : ¬r.keyAllowed = true := by simp [stands.keyAllowed, keyAllowed]
    exact ⟨r, by rw [saveKey?, if_neg noKey], stands, rfl⟩
  | true =>
    obtain ⟨place, saved, required, -⟩ := stands.exists_saveKey? keyAllowed
    refine ⟨_, saved, { stands with idle := ?_ }, rfl⟩
    intro other mem
    obtain rfl : place = other := Option.some.inj mem
    rw [required]
    exact beq_eq_false_iff_ne.mpr (free keyAllowed)

/-- A quoted value is read up to its closing quote. -/
theorem Comes.exists_quoted (comes : Comes limit r s)
    (free : s.keyAllowed = true → s.margins.headD 0 ≠ s.column + 1)
    (reached : ∀ margin ∈ s.margins.head?, margin ≤ s.column + 1) (q : Manifest.Layout.Quoted)
    (noBreak : ∀ c ∈ q.text, isBreak c = false) {rest : List Char} (text : s.text = q.text ++ rest)
    (after : Text.startsWith (· == '\'') rest = false) :
    ∃ r', Leads limit r r' ∧
      Stands r'
        { s with
          text := rest
          column := s.column + q.text.length
          keyAllowed := false
          tokens := s.tokens ++ [.scalar q.value false] } := by
  obtain ⟨r₁, stands, ahead, step, read⟩ :=
    comes.exists_step?_quoted reached q noBreak text after
  have column : (r₁.cursor.forward q.text.length).column = s.column + q.text.length := by
    rw [Cursor.column_forward, stands.column]
  obtain ⟨r₂, saved, stands₂, same⟩ := stands.exists_saveKey?_value free
  have stands' := stands₂.emit (.scalar q.value false) false (Cursor.rest_forward_length ahead)
    column
  rw [within?, saved] at step
  refine ⟨_, comes.leads (step.trans ?_) stands'.dropKey?.2 ?_ ?_, stands'⟩
  · simp [same, read]
  · simp
  · rw [text]
    exact length_lt_quoted q rest

/-- A plain value is read, and the reader comes to what follows left of the margin. -/
theorem Comes.exists_plain (comes : Comes limit r s)
    (free : s.keyAllowed = true → s.margins.headD 0 ≠ s.column + 1) (inLine : 0 < s.column)
    (deep : s.margins.headD 0 ≤ s.column) {text rest : List Char} (split : s.text = text ++ rest)
    (plain : Plain.IsPlain false text) (begins : Plain.MayBegin false (text ++ rest))
    {here : List Char} {target : Nat}
    (passes : Passes here target true (s.column + text.length) rest)
    (apart : ∀ x ∈ rest.head?, x ≠ '#') (left : here ≠ [] → target < s.margins.headD 0) :
    ∃ r', Leads limit r r' ∧
      Comes limit r'
        { s with
          text := here
          column := target
          keyAllowed := true
          tokens := s.tokens ++ [.scalar text true] } := by
  obtain ⟨x, others, first⟩ := List.exists_cons_of_ne_nil plain.filled
  have cons : text ++ rest = x :: (others ++ rest) := by rw [first]; rfl
  have reached : ∀ margin ∈ s.margins.head?, margin ≤ s.column + 1 := by
    intro margin head
    rw [List.headD_eq_head?_getD, head] at deep
    exact Nat.le_succ_of_le deep
  obtain ⟨r₁, step, stands⟩ := comes.exists_step? (split.trans cons) reached
  have inLine₁ : 0 < r₁.cursor.column := by rwa [stands.column]
  rw [cons] at begins
  have mayBegin : Plain.canBegin r₁.inFlow (x :: (others ++ rest)) = true := by
    rw [stands.inFlow]
    exact begins.begins
  rw [readToken?_plain (Cursor.atMark_eq_false inLine₁ '-') (Cursor.atMark_eq_false inLine₁ '.')
    mayBegin fun dash => begins.noItem _ (by rw [dash])] at step
  obtain ⟨r₂, saved, stands₂, same⟩ := stands.exists_saveKey?_value free
  have ahead : r₁.cursor.rest = text ++ rest := stands.text.trans split
  have short : r₁.cursor.rest.length < limit := by
    rw [stands.text]
    exact Nat.lt_of_le_of_lt comes.ahead comes.short
  rw [← stands.column] at deep passes
  obtain ⟨lineEnded, next, read, less, passesNext⟩ :=
    Plain.exists_read?_of_passes plain ahead inLine₁ deep passes apart left short
  have stands' :=
    stands₂.emit (.scalar text true) lineEnded (Eq.refl next.rest) (Eq.refl next.column)
  rw [ahead, List.length_append] at short
  have long := List.length_pos_iff.mpr plain.filled
  refine ⟨_, comes.leads (step.trans ?_) stands'.dropKey?.2 ?_ ?_, stands'.comes passesNext ?_⟩
  · rw [plain?, saved]
    simp only [Option.bind_eq_bind, Option.bind_some, stands₂.margin, stands₂.inFlow, same, read]
    rfl
  · simp
  · rw [split, List.length_append]
    simp only
    omega
  · exact (by omega : next.rest.length < limit)

/-- The mark that begins a document is read. -/
theorem Comes.exists_documentStart {rest : List Char} {tokens : List Token}
    (comes : Comes limit r ⟨'-' :: '-' :: '-' :: rest, 0, true, [], tokens⟩)
    (apart : atSeparator rest = true) :
    ∃ r', Leads limit r r' ∧ Stands r' ⟨rest, 3, false, [], tokens ++ [.documentStart]⟩ := by
  obtain ⟨r₁, step, stands⟩ := comes.exists_step? rfl fun margin absent => nomatch absent
  have ahead : r₁.cursor.rest = '-' :: '-' :: '-' :: rest := stands.text
  have column : r₁.cursor.column = 0 := stands.column
  have mark : r₁.cursor.atMark '-' = true := by
    simp [Cursor.atMark, ahead, column, apart]
  have closed : r₁.closeBlocks 0 = r₁ := by
    apply closeBlocks_eq_self stands.block
    rw [stands.margins]
    exact fun margin absent => nomatch absent
  have behind : (r₁.cursor.forward 3).rest = rest := by
    rw [Cursor.rest_forward, ahead]
    rfl
  have there : (r₁.cursor.forward 3).column = 3 := by
    rw [Cursor.column_forward, column]
  obtain ⟨dropped, forgetful⟩ := stands.dropKey?
  have read := forgetful.emit .documentStart false behind there
  refine ⟨_, comes.leads (step.trans ?_) read.dropKey?.2 ?_ ?_, read⟩
  · simp [readToken?, mark, atMargin?, closed, dropped]
  · simp
  · simp only [List.length_cons]
    omega

/-- At the end of the text all collections end, and the tokens are complete. -/
theorem Comes.run? (comes : Comes limit r s) (text : s.text = [])
    (positive : ∀ margin ∈ s.margins, 0 < margin) (steps : Nat) :
    run? limit (steps + 1) r
      = some (s.tokens ++ List.replicate s.margins.length .blockEnd ++ [.streamEnd]) := by
  obtain ⟨r', arrive, arrived⟩ := comes.arrives
  obtain ⟨inner, margins, deeper, before⟩ := arrived.closing
  have finished : r'.cursor.rest = [] := arrived.text.trans text
  have allPositive : ∀ margin ∈ r'.margins, 0 < margin := by
    rw [margins, List.forall_mem_append]
    refine ⟨fun margin mem => ?_, positive⟩
    exact Nat.lt_of_le_of_lt (Nat.zero_le _) (deeper margin mem)
  obtain ⟨first, later, split, beyond, reached⟩ :=
    Text.exists_run (fun margin => decide (r'.cursor.column + 1 < margin)) r'.margins
  rw [split, List.forall_mem_append] at allPositive
  have closeFirst := closeBlocks_append arrived.block split
    (fun margin mem => of_decide_eq_true (beyond margin mem))
    (fun margin head => Nat.not_lt.mp (of_decide_eq_false (reached margin head)))
  have left : (r'.closeBlocks (r'.cursor.column + 1)).margins = later ++ [] := by
    rw [closeFirst, List.append_nil]
  have closeLater := closeBlocks_append (by rw [closeFirst]; exact arrived.block) left
    allPositive.2 (fun margin absent => nomatch absent)
  have idle : ∀ place ∈ ((r'.closeBlocks (r'.cursor.column + 1)).closeBlocks 0).pending,
      place.required = false := by
    rw [closeLater, closeFirst]
    exact arrived.idle
  have step : r.step? limit = (r'.closeBlocks (r'.cursor.column + 1)).finish? := by
    rw [step?_eq, arrive, Option.bind_some, finished]
  have total : first.length + later.length = inner.length + s.margins.length := by
    have length := congrArg List.length (split.symm.trans margins)
    rw [List.length_append, List.length_append] at length
    omega
  have tokens : s.tokens = r'.tokens.reverse ++ List.replicate inner.length .blockEnd := by
    rw [← List.reverse_replicate, ← List.reverse_append, ← before, List.reverse_reverse]
  have ends : s.tokens ++ List.replicate s.margins.length .blockEnd
      = r'.tokens.reverse ++ List.replicate (first.length + later.length) .blockEnd := by
    rw [tokens, List.append_assoc, total, ← List.replicate_add]
  rw [Reader.run?, step, finish?, exists_dropKey? idle, closeLater, closeFirst, ends]
  simp [emit, allowKey]

end CatalogAudit.Yaml.Token.Reader
