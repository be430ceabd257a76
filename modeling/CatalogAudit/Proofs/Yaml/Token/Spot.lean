import CatalogAudit.Proofs.Yaml.Skipping

/-!
# Where a reader of tokens stands

Outside brackets, what a reader of tokens does next depends on the text ahead, its column, whether a
key is allowed, the margins of the open collections and the tokens read so far; a pending key does
not count unless it is required. A spot is made of these. A reader stands at a spot right behind a
token; it comes to one when the next token begins there, so that the collections which end before
that token are already counted as closed.
-/

namespace CatalogAudit.Yaml.Token.Reader

/-- What counts for a reader outside brackets. -/
structure Spot where
  /-- The text ahead. -/
  text : List Char
  /-- The column at which it begins. -/
  column : Nat
  /-- Whether a key may begin there. -/
  keyAllowed : Bool
  /-- The margins of the open block collections, innermost first. -/
  margins : List Nat
  /-- The tokens before it. -/
  tokens : List Token

/-- The margins after a block collection was opened at a column that no open one has reached. -/
def openedAt (column : Nat) (margins : List Nat) : List Nat :=
  if margins.headD 0 ≤ column then (column + 1) :: margins else margins

/-- The token that opens a block collection at a column, if no open one has reached that. -/
def openingAt (start : Token) (column : Nat) (margins : List Nat) : List Token :=
  if margins.headD 0 ≤ column then [start] else []

/-- The spot after a block collection was opened there, unless an open one has reached the
column. -/
def Spot.opened (start : Token) (s : Spot) : Spot :=
  { s with
    margins := openedAt s.column s.margins
    tokens := s.tokens ++ openingAt start s.column s.margins }

/-- Once a collection stands at its column, nothing more is opened there. -/
theorem headD_openedAt {column : Nat} {margins : List Nat}
    (reached : ∀ margin ∈ margins.head?, margin ≤ column + 1) :
    (openedAt column margins).headD 0 = column + 1 := by
  rw [openedAt]
  split
  · rfl
  · rename_i deep
    cases margins with
    | nil => exact absurd (Nat.zero_le column) deep
    | cons margin margins =>
      have := reached margin rfl
      simp only [List.headD_cons] at deep ⊢
      omega

/-- A collection at the innermost margin is open already. -/
theorem openedAt_eq_self {column : Nat} {margins : List Nat}
    (open' : margins.headD 0 = column + 1) : openedAt column margins = margins := by
  rw [openedAt, open', if_neg (by omega)]

/-- A collection that is open already adds no token. -/
theorem openingAt_eq_nil {column : Nat} {margins : List Nat}
    (open' : margins.headD 0 = column + 1) (start : Token) :
    openingAt start column margins = [] := by
  rw [openingAt, open', if_neg (by omega)]

/-- The reader stands at the spot. -/
structure Stands (r : Reader) (s : Spot) : Prop where
  /-- It is outside brackets. -/
  block : r.outer = []
  /-- The text ahead. -/
  text : r.cursor.rest = s.text
  /-- The column at which it begins. -/
  column : r.cursor.column = s.column
  /-- Whether a key may begin there. -/
  keyAllowed : r.keyAllowed = s.keyAllowed
  /-- The margins of the open block collections. -/
  margins : r.margins = s.margins
  /-- The tokens before it. -/
  tokens : r.tokens = s.tokens.reverse
  /-- Their number. -/
  count : r.count = s.tokens.length
  /-- No pending key is required. -/
  idle : ∀ place ∈ r.pending, place.required = false

/-- The reader has passed what does not count, and will stand at the spot once the collections that
end there are closed. At the end of the text its column does not count. -/
structure Arrived (r : Reader) (s : Spot) : Prop where
  /-- It is outside brackets. -/
  block : r.outer = []
  /-- The text ahead. -/
  text : r.cursor.rest = s.text
  /-- The column at which it begins. -/
  column : s.text ≠ [] → r.cursor.column = s.column
  /-- Whether a key may begin there. -/
  keyAllowed : s.text ≠ [] → r.keyAllowed = s.keyAllowed
  /-- The collections that end there. -/
  closing : ∃ inner, r.margins = inner ++ s.margins ∧ (∀ margin ∈ inner, s.column + 1 < margin) ∧
    s.tokens.reverse = List.replicate inner.length .blockEnd ++ r.tokens
  /-- The number of tokens. -/
  count : r.count = r.tokens.length
  /-- No pending key is required. -/
  idle : ∀ place ∈ r.pending, place.required = false

/-- Passes what does not count before the next token. -/
def arrive? (limit : Nat) (r : Reader) : Option Reader :=
  let (keyAllowed, cursor) := skipIgnored r.inFlow limit r.keyAllowed r.cursor
  ((r.allowKey keyAllowed).goTo cursor).refreshKey?

/-- The next token of the reader begins at the spot. -/
structure Comes (limit : Nat) (r : Reader) (s : Spot) : Prop where
  /-- What is ahead of the reader is shorter than the limit. -/
  short : r.cursor.rest.length < limit
  /-- The spot lies ahead of the reader. -/
  ahead : s.text.length ≤ r.cursor.rest.length
  /-- The reader comes to the spot. -/
  arrives : ∃ r', r.arrive? limit = some r' ∧ Arrived r' s

/-- The reader gets to another by reading tokens, each of which takes a character at least. -/
def Leads (limit : Nat) (r r' : Reader) : Prop :=
  ∃ n, n + r'.cursor.rest.length ≤ r.cursor.rest.length ∧
    ∀ steps, run? limit (steps + n) r = run? limit steps r'

/-- A reader gets to itself. -/
theorem leads_refl (limit : Nat) (r : Reader) : Leads limit r r :=
  ⟨0, Nat.le_of_eq (Nat.zero_add _), fun _ => rfl⟩

/-- To get to a reader, and from there to another, is to get to that one. -/
theorem Leads.trans {limit : Nat} {r r' r'' : Reader} (first : Leads limit r r')
    (second : Leads limit r' r'') : Leads limit r r'' := by
  obtain ⟨m, lessFirst, runFirst⟩ := first
  obtain ⟨n, lessSecond, runSecond⟩ := second
  refine ⟨n + m, by omega, fun steps => ?_⟩
  rw [← Nat.add_assoc, runFirst, runSecond]

/-- A step that reads a token, and a character at least, gets to the next reader. -/
theorem leads_of_step? {limit : Nat} {r r' : Reader} (step : r.step? limit = some r')
    (more : r'.tokens.head? ≠ some .streamEnd)
    (shorter : r'.cursor.rest.length < r.cursor.rest.length) : Leads limit r r' := by
  refine ⟨1, by omega, fun steps => ?_⟩
  rw [run?, step]
  simp only [more, if_false]

/-- Less is ahead of the reader that is got to. -/
theorem Leads.short {limit : Nat} {r r' : Reader} (leads : Leads limit r r')
    (short : r.cursor.rest.length < limit) : r'.cursor.rest.length < limit := by
  obtain ⟨n, less, -⟩ := leads
  omega

variable {r : Reader} {s : Spot}

/-- At a spot the reader is outside brackets. -/
theorem Stands.inFlow (stands : Stands r s) : r.inFlow = false := by
  rw [Reader.inFlow, stands.block]
  rfl

/-- The margin of the reader is the innermost one of the spot. -/
theorem Stands.margin (stands : Stands r s) : r.margin = s.margins.headD 0 := by
  rw [Reader.margin, stands.margins]

/-- A key that is not required is forgotten without harm. -/
theorem exists_dropKey? (idle : ∀ place ∈ r.pending, place.required = false) :
    r.dropKey? = some { r with pending := none } := by
  rw [dropKey?]
  cases pending : r.pending with
  | none => simp [← pending]
  | some place => simp [idle place pending]

/-- A pending key that is not required may be dropped. -/
theorem Stands.dropKey? (stands : Stands r s) :
    r.dropKey? = some { r with pending := none } ∧ Stands { r with pending := none } s := by
  refine ⟨exists_dropKey? stands.idle, ?_⟩
  exact { stands with idle := fun place absent => nomatch absent }

/-- Opening a collection takes the reader to the spot where it is opened. -/
theorem Stands.openBlock (stands : Stands r s) (start : Token) :
    Stands (r.openBlock start) (s.opened start) := by
  rw [Reader.openBlock, Spot.opened, openedAt, openingAt, stands.inFlow, stands.margin,
    stands.column]
  simp only [Bool.not_false, Bool.true_and, decide_eq_true_eq]
  split
  · exact
      { stands with
        margins := by simp [Reader.emit, stands.margins]
        tokens := by simp [Reader.emit, stands.tokens]
        count := by simp [Reader.emit, stands.count] }
  · rw [List.append_nil]
    exact stands

/-- A token is added, and the reader goes on behind it. -/
theorem Stands.emit (stands : Stands r s) (token : Token) (keyAllowed : Bool) {next : Cursor}
    {text : List Char} (rest : next.rest = text) {column : Nat} (at' : next.column = column) :
    Stands (((r.allowKey keyAllowed).emit token).goTo next)
      { s with text, column, keyAllowed, tokens := s.tokens ++ [token] } :=
  { stands with
    text := rest
    column := at'
    keyAllowed := rfl
    tokens := by simp [Reader.emit, Reader.goTo, allowKey, stands.tokens]
    count := by simp [Reader.emit, Reader.goTo, allowKey, stands.count] }

/-- A pending key that got stale is an error only if it is required. -/
theorem exists_refreshKey? (idle : ∀ place ∈ r.pending, place.required = false) :
    ∃ pending, r.refreshKey? = some { r with pending } ∧
      ∀ place ∈ pending, place.required = false := by
  have kept : ∃ pending, some r = some { r with pending } ∧
      ∀ place ∈ pending, place.required = false := ⟨r.pending, rfl, idle⟩
  rw [refreshKey?]
  cases pending : r.pending with
  | none => exact kept
  | some place =>
    simp only
    split
    · exact ⟨none, exists_dropKey? idle, fun place absent => nomatch absent⟩
    · exact kept

/-- Once what does not count is passed, the reader has arrived. -/
theorem Stands.exists_arrive? (stands : Stands r s) {limit : Nat} {keyAllowed : Bool}
    {next : Cursor} (passed : skipIgnored false limit s.keyAllowed r.cursor = (keyAllowed, next))
    {s' : Spot} (text : next.rest = s'.text) (column : s'.text ≠ [] → next.column = s'.column)
    (allowed : s'.text ≠ [] → keyAllowed = s'.keyAllowed) (margins : s'.margins = s.margins)
    (tokens : s'.tokens = s.tokens) : ∃ r', r.arrive? limit = some r' ∧ Arrived r' s' := by
  obtain ⟨pending, refreshed, idle⟩ :=
    exists_refreshKey? (r := (r.allowKey keyAllowed).goTo next) stands.idle
  refine ⟨{ (r.allowKey keyAllowed).goTo next with pending }, ?_, ?_⟩
  · rw [arrive?, stands.inFlow, stands.keyAllowed, passed]
    exact refreshed
  · exact
      { block := stands.block
        text
        column
        keyAllowed := allowed
        closing := by
          refine ⟨[], ?_, fun margin absent => absurd absent List.not_mem_nil, ?_⟩
          · rw [margins]
            exact stands.margins
          · rw [tokens]
            exact stands.tokens.symm
        count := by
          have same : r.count = r.tokens.length := by
            rw [stands.count, stands.tokens, List.length_reverse]
          exact same
        idle }

/-- From where it stands the reader comes to what follows that which does not count. -/
theorem Stands.comes (stands : Stands r s) {here : List Char} {target : Nat}
    (passes : Passes here target (!s.keyAllowed) s.column s.text) {limit : Nat}
    (short : r.cursor.rest.length < limit) :
    Comes limit r { s with text := here, column := target, keyAllowed := true } := by
  have enough : s.text.length < limit := by rwa [← stands.text]
  obtain ⟨keyAllowed, next, passed, text, there⟩ :=
    exists_skipIgnored_of_passes passes stands.text stands.column enough
  rw [Bool.not_not] at passed
  refine ⟨short, by rw [stands.text]; exact passes.length_le, ?_⟩
  exact stands.exists_arrive? passed text (fun some => (there some).1) (fun some => (there some).2)
    rfl rfl

/-- From where it stands the reader comes to what follows a gap on the same line. -/
theorem Stands.comes_gap (stands : Stands r s) {gap here : List Char} (text : s.text = gap ++ here)
    (blank : ∀ x ∈ gap, x = ' ' ∨ s.keyAllowed = false ∧ x = '\t')
    (solid : Solid (s.column + gap.length) here) {limit : Nat}
    (short : r.cursor.rest.length < limit) :
    Comes limit r { s with text := here, column := s.column + gap.length } := by
  obtain ⟨fuel, rfl⟩ : ∃ n, limit = n + 1 := ⟨limit - 1, by omega⟩
  have split : r.cursor.rest = gap ++ here := stands.text.trans text
  have behind : (r.cursor.forward gap.length).rest = here := Cursor.rest_forward_length split
  have column : (r.cursor.forward gap.length).column = s.column + gap.length := by
    rw [Cursor.column_forward, stands.column]
  have passed : skipIgnored false (fuel + 1) s.keyAllowed r.cursor
      = (s.keyAllowed, r.cursor.forward gap.length) := by
    rw [skipIgnored_blanks split, skipIgnored_solid (by rwa [behind, column])]
    intro x mem
    refine (blank x mem).imp_right fun tab => ⟨?_, tab.2⟩
    rw [tab.1]
    rfl
  have ahead : here.length ≤ r.cursor.rest.length := by
    rw [split, List.length_append]
    exact Nat.le_add_left _ _
  refine ⟨short, ahead, ?_⟩
  exact stands.exists_arrive? passed behind (fun _ => column) (fun _ => rfl) rfl rfl

/-- A collection ends when the next token stands left of its margin. -/
theorem Comes.close {limit : Nat} {text : List Char} {column : Nat} {keyAllowed : Bool}
    {margin : Nat} {margins : List Nat} {tokens : List Token}
    (comes : Comes limit r ⟨text, column, keyAllowed, margin :: margins, tokens⟩)
    (left : column + 1 < margin) :
    Comes limit r ⟨text, column, keyAllowed, margins, tokens ++ [.blockEnd]⟩ := by
  obtain ⟨short, ahead, r', arrive, arrived⟩ := comes
  obtain ⟨inner, same, deeper, before⟩ := arrived.closing
  refine ⟨short, ahead, r', arrive, { arrived with closing := ⟨inner ++ [margin], ?_, ?_, ?_⟩ }⟩
  · rw [same, List.append_assoc]
    rfl
  · rw [List.forall_mem_append]
    exact ⟨deeper, by simpa using left⟩
  · rw [List.reverse_append, before, List.length_append, List.length_singleton,
      List.replicate_succ]
    rfl

/-- The innermost collections whose margins are beyond the limit are closed. -/
theorem closeBlocks_append (block : r.outer = []) {inner outer : List Nat}
    (margins : r.margins = inner ++ outer) {limit : Nat} (deeper : ∀ margin ∈ inner, limit < margin)
    (reached : ∀ margin ∈ outer.head?, margin ≤ limit) :
    r.closeBlocks limit =
      { r with
        margins := outer
        tokens := List.replicate inner.length .blockEnd ++ r.tokens
        count := r.count + inner.length } := by
  have noFlow : r.inFlow = false := by rw [Reader.inFlow, block]; rfl
  have closed : r.margins.takeWhile (fun margin => limit < margin) = inner := by
    have stops : outer.takeWhile (fun margin => limit < margin) = [] := by
      cases outer with
      | nil => rfl
      | cons margin outer =>
        rw [List.takeWhile_cons_of_neg]
        simpa using reached margin rfl
    rw [margins, List.takeWhile_append_of_pos (by simpa using deeper), stops, List.append_nil]
  rw [closeBlocks, noFlow]
  simp only [Bool.false_eq_true, if_false, closed]
  rw [margins, List.drop_left]

/-- Where no open collection is deeper, none is closed. -/
theorem closeBlocks_eq_self (block : r.outer = []) {limit : Nat}
    (reached : ∀ margin ∈ r.margins.head?, margin ≤ limit) : r.closeBlocks limit = r := by
  rw [closeBlocks_append block (List.nil_append r.margins).symm
    (fun margin absent => absurd absent List.not_mem_nil) reached]
  rfl

/-- When something follows, the reader stands there once the collections are closed. -/
theorem Arrived.stands (arrived : Arrived r s) (some : s.text ≠ [])
    (reached : ∀ margin ∈ s.margins.head?, margin ≤ s.column + 1) :
    Stands (r.closeBlocks (r.cursor.column + 1)) s := by
  obtain ⟨inner, margins, deeper, before⟩ := arrived.closing
  have column := arrived.column some
  rw [closeBlocks_append arrived.block margins (by rwa [column]) (by rwa [column])]
  exact
    { block := arrived.block
      text := arrived.text
      column
      keyAllowed := arrived.keyAllowed some
      margins := rfl
      tokens := before.symm
      count := by
        have length := congrArg List.length before
        rw [List.length_reverse, List.length_append, List.length_replicate] at length
        have count := arrived.count
        simp only
        omega
      idle := arrived.idle }

/-- Dropping a pending key reads nothing. -/
theorem cursor_of_dropKey? {r' : Reader} (h : r.dropKey? = some r') : r'.cursor = r.cursor := by
  rw [Reader.dropKey?] at h
  split at h
  · split at h
    · exact absurd h (by simp)
    · rw [← Option.some.inj h]
  · rw [← Option.some.inj h]

/-- Looking whether a pending key got stale reads nothing. -/
theorem cursor_of_refreshKey? {r' : Reader} (h : r.refreshKey? = some r') :
    r'.cursor = r.cursor := by
  rw [Reader.refreshKey?] at h
  split at h
  · split at h
    · exact cursor_of_dropKey? h
    · rw [← Option.some.inj h]
  · rw [← Option.some.inj h]

/-- What a step does once the reader has arrived. -/
theorem step?_eq (limit : Nat) (r : Reader) :
    r.step? limit =
      (r.arrive? limit).bind fun r' =>
        match r'.cursor.rest with
        | [] => (r'.closeBlocks (r'.cursor.column + 1)).finish?
        | x :: rest => (r'.closeBlocks (r'.cursor.column + 1)).readToken? limit x rest := by
  rw [step?, arrive?]
  generalize skipIgnored r.inFlow limit r.keyAllowed r.cursor = passed
  obtain ⟨keyAllowed, cursor⟩ := passed
  cases refreshed : ((r.allowKey keyAllowed).goTo cursor).refreshKey? with
  | none => simp [refreshed]
  | some r' =>
    have same : r'.cursor = cursor := cursor_of_refreshKey? refreshed
    cases ahead : cursor.rest with
    | nil => simp [refreshed, same, ahead]
    | cons x rest => simp [refreshed, same, ahead]

/-- The next step of a reader reads the token that begins where it comes. -/
theorem Comes.exists_step? {limit : Nat} (comes : Comes limit r s) {x : Char} {rest : List Char}
    (text : s.text = x :: rest) (reached : ∀ margin ∈ s.margins.head?, margin ≤ s.column + 1) :
    ∃ r', r.step? limit = r'.readToken? limit x rest ∧ Stands r' s := by
  obtain ⟨r', arrive, arrived⟩ := comes.arrives
  have some : s.text ≠ [] := by rw [text]; exact List.cons_ne_nil x rest
  refine ⟨r'.closeBlocks (r'.cursor.column + 1), ?_, arrived.stands some reached⟩
  have ahead : r'.cursor.rest = x :: rest := arrived.text.trans text
  rw [step?_eq, arrive, Option.bind_some, ahead]

end CatalogAudit.Yaml.Token.Reader
