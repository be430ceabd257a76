import CatalogAudit.FileTree.Basic
import Mathlib.Data.List.TakeWhile

/-!
# The pieces of a path

Cutting a text at its slashes and joining the pieces again undo each other. The steps of a path are
its origin, which is the top, a dot that stands alone or nothing, and one step for each piece that
means something. The parent of a path lacks the last of its steps.
-/

namespace CatalogAudit.Path

/-! ## Cutting at slashes -/

/-- Without a separator a text is one piece. -/
theorem splitFrom_of_not_mem {current text : List UInt8} (slashless : slash ∉ text) :
    splitFrom current text = [current.reverse ++ text] := by
  induction text generalizing current with
  | nil => simp [splitFrom]
  | cons c rest ih =>
    rw [List.mem_cons, not_or] at slashless
    rw [splitFrom, if_neg (Ne.symm slashless.1), ih slashless.2]
    simp

/-- A separator ends the pieces before it and begins those behind it. -/
theorem splitFrom_append_slash (current front rest : List UInt8) :
    splitFrom current (front ++ slash :: rest) = splitFrom current front ++ pieces rest := by
  induction front generalizing current with
  | nil => simp [splitFrom, pieces]
  | cons c front ih =>
    rw [List.cons_append, splitFrom, splitFrom]
    by_cases slash : c = slash
    · rw [if_pos slash, if_pos slash, ih, List.cons_append]
    · rw [if_neg slash, if_neg slash, ih]

/-- A text without slashes is one piece. -/
theorem pieces_of_not_mem {text : List UInt8} (slashless : slash ∉ text) : pieces text = [text] :=
  splitFrom_of_not_mem slashless

/-- A slash cuts a text in two. -/
theorem pieces_append_slash (front rest : List UInt8) :
    pieces (front ++ slash :: rest) = pieces front ++ pieces rest :=
  splitFrom_append_slash [] front rest

/-- In front of a leading separator there is an empty piece. -/
theorem pieces_slash (rest : List UInt8) : pieces (slash :: rest) = [] :: pieces rest :=
  pieces_append_slash [] rest

/-- Every text begins with a piece, behind which there is nothing or a slash. -/
theorem exists_first_piece (text : List UInt8) :
    ∃ first, slash ∉ first ∧ ((text = first ∧ pieces text = [first]) ∨
      ∃ rest, text = first ++ slash :: rest ∧ pieces text = first :: pieces rest) := by
  by_cases slash : slash ∈ text
  · obtain ⟨first, rest, rfl, slashless⟩ := List.eq_append_cons_of_mem slash
    refine ⟨first, slashless, .inr ⟨rest, rfl, ?_⟩⟩
    rw [pieces_append_slash, pieces_of_not_mem slashless, List.singleton_append]
  · exact ⟨text, slash, .inl ⟨rfl, pieces_of_not_mem slash⟩⟩

/-- No piece has a separator. -/
theorem not_mem_of_mem_splitFrom {current text piece : List UInt8} (clean : slash ∉ current)
    (h : piece ∈ splitFrom current text) : slash ∉ piece := by
  induction text generalizing current with
  | nil =>
    rw [splitFrom, List.mem_singleton] at h
    rwa [h, List.mem_reverse]
  | cons c rest ih =>
    rw [splitFrom] at h
    split at h
    · rcases List.mem_cons.mp h with rfl | h
      · rwa [List.mem_reverse]
      · exact ih List.not_mem_nil h
    · rename_i noSlash
      exact ih (by simp [clean, Ne.symm noSlash]) h

/-- No slash is left in a piece. -/
theorem not_mem_of_mem_pieces {text piece : List UInt8} (h : piece ∈ pieces text) : slash ∉ piece :=
  not_mem_of_mem_splitFrom List.not_mem_nil h

/-- Pieces are joined with a separator behind the first. -/
theorem joinPieces_cons {piece : List UInt8} {more : List (List UInt8)} (h : more ≠ []) :
    joinPieces (piece :: more) = piece ++ slash :: joinPieces more := by
  cases more with
  | nil => exact absurd rfl h
  | cons next rest => rfl

/-- Joined pieces are cut into the same pieces again. -/
theorem pieces_joinPieces {parts : List (List UInt8)} (some : parts ≠ [])
    (slashless : ∀ piece ∈ parts, slash ∉ piece) : pieces (joinPieces parts) = parts := by
  induction parts with
  | nil => exact absurd rfl some
  | cons piece more ih =>
    obtain ⟨here, there⟩ := List.forall_mem_cons.mp slashless
    by_cases last : more = []
    · rw [last]
      exact pieces_of_not_mem here
    · rw [joinPieces_cons last, pieces_append_slash, pieces_of_not_mem here, ih last there,
        List.singleton_append]

/-- Different lists of pieces that hold something are joined differently. -/
theorem intercalate_inj {α : Type} [DecidableEq α] {separator : α} {xs ys : List (List α)}
    (full : ∀ piece ∈ xs, piece ≠ [] ∧ separator ∉ piece)
    (full' : ∀ piece ∈ ys, piece ≠ [] ∧ separator ∉ piece)
    (h : [separator].intercalate xs = [separator].intercalate ys) : xs = ys := by
  have vacant : ∀ {parts : List (List α)}, (∀ piece ∈ parts, piece ≠ [] ∧ separator ∉ piece) →
      [separator].intercalate parts = [] → parts = [] := by
    intro parts full none
    cases parts with
    | nil => rfl
    | cons piece more =>
      by_cases last : more = []
      · rw [last, List.intercalate_singleton] at none
        exact absurd none (full piece List.mem_cons_self).1
      · rw [List.intercalate_cons_of_ne_nil last] at none
        simp at none
  by_cases none : xs = []
  · rw [none, List.intercalate_nil] at h
    rw [none, vacant full' h.symm]
  · by_cases none' : ys = []
    · rw [none', List.intercalate_nil] at h
      exact absurd (vacant full h) none
    · rw [← List.splitOn_intercalate separator (fun piece member => (full piece member).2) none, h,
        List.splitOn_intercalate separator (fun piece member => (full' piece member).2) none']

/-! ## Steps -/

/-- The step that the beginning of a path counts as. -/
def origin (p : Path) : List Step :=
  if p.isAbsolute then [.top] else if p.startsHere then [.here] else []

/-- The pieces of a text that mean something. -/
def solidPieces (text : List UInt8) : List (List UInt8) :=
  (pieces text).filter fun piece => !isIdle piece

/-- A text is its first piece, alone or before a slash. -/
theorem exists_head_piece (text : List UInt8) :
    ∃ first, slash ∉ first ∧ (pieces text).head? = some first ∧
      (text = first ∨ ∃ rest, text = first ++ slash :: rest) := by
  obtain ⟨first, slashless, ⟨whole, cut⟩ | ⟨rest, split, cut⟩⟩ := exists_first_piece text
  · exact ⟨first, slashless, by rw [cut]; rfl, .inl whole⟩
  · exact ⟨first, slashless, by rw [cut]; rfl, .inr ⟨rest, split⟩⟩

/-- A path is absolute when its first piece is empty but its text is not. -/
theorem isAbsolute_iff {p : Path} :
    p.isAbsolute = true ↔ p.text ≠ [] ∧ (pieces p.text).head? = some [] := by
  obtain ⟨first, slashless, head, begins⟩ := exists_head_piece p.text
  rw [head, isAbsolute]
  cases first with
  | nil => rcases begins with text | ⟨rest, text⟩ <;> simp [text]
  | cons c first =>
    rw [List.mem_cons, not_or] at slashless
    rcases begins with text | ⟨rest, text⟩ <;>
      simp [text, Ne.symm slashless.1]

/-- A path starts here when its first piece is one dot. -/
theorem startsHere_iff {p : Path} :
    p.startsHere = true ↔ (pieces p.text).head? = some [dot] := by
  obtain ⟨first, slashless, head, begins⟩ := exists_head_piece p.text
  rw [head, startsHere]
  match first with
  | [] => rcases begins with text | ⟨rest, text⟩ <;> simp [text]
  | [c] =>
    rcases begins with text | ⟨rest, text⟩ <;> simp [text]
  | c :: d :: first =>
    have noSlash : d ≠ slash := by
      rintro rfl
      simp at slashless
    rcases begins with text | ⟨rest, text⟩ <;> simp [text, noSlash]

/-- What begins a path besides its origin: nothing, or a slash, or a dot before a slash. -/
theorem text_cases (p : Path) :
    (p.isAbsolute = true ∧ p.text = slash :: p.body) ∨
      (p.isAbsolute = false ∧ p.startsHere = true ∧ p.text = dot :: p.body ∧
        (p.body = [] ∨ ∃ rest, p.body = slash :: rest)) ∨
      (p.isAbsolute = false ∧ p.startsHere = false ∧ p.text = p.body) := by
  unfold body head
  by_cases absolute : p.isAbsolute = true
  · left
    rw [if_pos absolute]
    refine ⟨absolute, ?_⟩
    unfold isAbsolute at absolute
    cases text : p.text with
    | nil => simp [text] at absolute
    | cons c rest =>
      rw [text] at absolute
      simpa using absolute
  · right
    rw [if_neg absolute]
    rw [Bool.not_eq_true] at absolute
    by_cases here : p.startsHere = true
    · left
      rw [if_pos here]
      refine ⟨absolute, here, ?_⟩
      unfold startsHere at here
      cases text : p.text with
      | nil =>
        rw [text] at here
        contradiction
      | cons first rest =>
        rw [text, Bool.and_eq_true, beq_iff_eq, Bool.or_eq_true, List.isEmpty_iff, beq_iff_eq,
          List.head?_eq_some_iff] at here
        exact ⟨congrArg (· :: rest) here.1, here.2⟩
    · right
      rw [if_neg here]
      exact ⟨absolute, by simpa using here, rfl⟩

/-- A leading separator adds no solid piece. -/
theorem solidPieces_slash (rest : List UInt8) : solidPieces (slash :: rest) = solidPieces rest := by
  unfold solidPieces
  rw [pieces_slash]
  rfl

/-- The head of a path holds no piece that means something. -/
theorem solidPieces_text (p : Path) : solidPieces p.text = solidPieces p.body := by
  rcases p.text_cases with ⟨-, text⟩ | ⟨-, -, text, none | ⟨rest, some⟩⟩ | ⟨-, -, text⟩
  · rw [text, solidPieces_slash]
  · rw [text, none]
    rfl
  · rw [text, some, solidPieces_slash]
    change solidPieces ([dot] ++ slash :: rest) = _
    unfold solidPieces
    rw [pieces_append_slash]
    rfl
  · rw [text]

/-- The steps of a path are its origin and its pieces that mean something. -/
theorem steps_eq (p : Path) : p.steps = p.origin ++ (solidPieces p.text).map stepOf := by
  rw [solidPieces_text]
  rfl

/-- The step of a piece is shown as that piece. -/
theorem shown_stepOf {piece : List UInt8} : (stepOf piece).shown? = some piece := by
  unfold stepOf
  split
  · rename_i up
    rw [up]
    rfl
  · rfl

/-- What a step is shown as holds something, and no slash. -/
theorem full_of_shown {p : Path} {step : Step} (member : step ∈ p.steps) {text : List UInt8}
    (shown : step.shown? = some text) : text ≠ [] ∧ slash ∉ text := by
  rw [steps_eq, List.mem_append, List.mem_map] at member
  rcases member with first | ⟨piece, solid, rfl⟩
  · unfold origin at first
    split at first
    · cases List.mem_singleton.mp first
      cases shown
    · split at first
      · cases List.mem_singleton.mp first
        cases shown
      · cases first
  · rw [shown_stepOf, Option.some_inj] at shown
    subst shown
    obtain ⟨cut, solid⟩ := List.mem_filter.mp solid
    refine ⟨?_, not_mem_of_mem_pieces cut⟩
    rintro rfl
    cases solid

/-! ## Parents -/

/-- The end of a list of pieces that means nothing. -/
theorem exists_idle_end (parts : List (List UInt8)) :
    ∃ idle, parts = (parts.reverse.dropWhile isIdle).reverse ++ idle ∧
      ∀ piece ∈ idle, isIdle piece = true := by
  refine ⟨(parts.reverse.takeWhile isIdle).reverse, ?_, fun piece member => ?_⟩
  · rw [← List.reverse_append, List.takeWhile_append_dropWhile, List.reverse_reverse]
  · exact List.mem_takeWhile_imp (List.mem_reverse.mp member)

/-- Among idle pieces none is solid. -/
theorem filter_idle {idle : List (List UInt8)} (h : ∀ piece ∈ idle, isIdle piece = true) :
    idle.filter (fun piece => !isIdle piece) = [] :=
  List.filter_eq_nil_iff.mpr fun piece member => by simp [h piece member]

/-- The solid pieces of joined pieces are those that are not idle. -/
theorem solidPieces_joinPieces {parts : List (List UInt8)}
    (slashless : ∀ piece ∈ parts, slash ∉ piece) :
    solidPieces (joinPieces parts) = parts.filter fun piece => !isIdle piece := by
  by_cases none : parts = []
  · rw [none]
    rfl
  · rw [solidPieces, pieces_joinPieces none slashless]

/-- A path that is not absolute has the origin of any other one with the same first piece. -/
theorem origin_eq_of_head? {p q : Path} (busy : p.text ≠ []) (relative : p.isAbsolute = false)
    (same : (pieces q.text).head? = (pieces p.text).head?) : q.origin = p.origin := by
  have relative' : q.isAbsolute = false := by
    rw [← Bool.not_eq_true, isAbsolute_iff, same]
    rintro ⟨-, first⟩
    rw [isAbsolute_iff.mpr ⟨busy, first⟩] at relative
    contradiction
  have here : q.startsHere = p.startsHere := by
    rw [Bool.eq_iff_iff, startsHere_iff, startsHere_iff, same]
  rw [origin, origin, relative, relative', here]

/-- A dot in front of pieces the first of which is empty is the origin, and no piece. -/
theorem origin_dot {kept : List (List UInt8)} (slashless : ∀ piece ∈ kept, slash ∉ piece)
    (first : ∀ piece ∈ kept.head?, piece = []) :
    (⟨[dot] ++ joinPieces kept⟩ : Path).origin = [.here] ∧
      solidPieces ([dot] ++ joinPieces kept) = kept.filter fun piece => !isIdle piece := by
  match kept with
  | [] => exact ⟨rfl, rfl⟩
  | [piece] =>
    obtain rfl := first piece rfl
    exact ⟨rfl, rfl⟩
  | piece :: next :: rest =>
    obtain rfl := first piece rfl
    refine ⟨rfl, ?_⟩
    have joined := solidPieces_joinPieces slashless
    rw [joinPieces_cons (List.cons_ne_nil _ _), List.nil_append] at joined ⊢
    rw [solidPieces_slash] at joined
    rw [← joined, solidPieces, pieces_append_slash]
    rfl

/-- The first pieces of a body, joined behind the head, make a path with the same origin. -/
theorem origin_eq_of_prefix {p : Path} {kept more : List (List UInt8)}
    (cut : pieces p.body = kept ++ more) (busy : p.text ≠ []) :
    (⟨p.head ++ joinPieces kept⟩ : Path).origin = p.origin ∧
      solidPieces (p.head ++ joinPieces kept) = kept.filter fun piece => !isIdle piece := by
  have slashless : ∀ piece ∈ kept, slash ∉ piece := fun piece member =>
    not_mem_of_mem_pieces (cut ▸ List.mem_append_left _ member)
  have joined := solidPieces_joinPieces slashless
  rcases p.text_cases with ⟨absolute, text⟩ | ⟨absolute, here, text, body⟩ | ⟨absolute, here, text⟩
  · rw [head, if_pos absolute, origin, origin, if_pos absolute]
    exact ⟨rfl, (solidPieces_slash _).trans joined⟩
  · have dot : p.head = [dot] := by rw [head, if_neg (by simp [absolute]), if_pos here]
    have first : ∀ piece ∈ kept.head?, piece = [] := by
      intro piece isFirst
      have head : (pieces p.body).head? = some [] := by
        rcases body with none | ⟨rest, some⟩
        · rw [none]
          rfl
        · rw [some, pieces_slash]
          rfl
      rw [cut, List.head?_append, Option.mem_def.mp isFirst, Option.some_or] at head
      exact Option.some.inj head
    rw [dot, origin.eq_def p, if_neg (by simp [absolute] : ¬ p.isAbsolute = true), if_pos here]
    exact origin_dot slashless first
  · have noHead : p.head = [] := by rw [head, if_neg (by simp [absolute]), if_neg (by simp [here])]
    rw [noHead, List.nil_append]
    refine ⟨?_, joined⟩
    cases kept with
    | nil =>
      rw [origin, origin, absolute, here]
      rfl
    | cons first others =>
      apply origin_eq_of_head? busy absolute
      rw [text, cut, pieces_joinPieces (List.cons_ne_nil _ _) slashless]
      rfl

/-- No piece is the step to the root. -/
theorem stepOf_ne_top (piece : List UInt8) : stepOf piece ≠ .top := by
  unfold stepOf
  split <;> exact Step.noConfusion

/-- Different pieces are different steps. -/
theorem stepOf_injective : Function.Injective stepOf := by
  intro piece other same
  unfold stepOf at same
  split at same <;> split at same
  · rename_i up up'
    rw [up, up']
  · contradiction
  · contradiction
  · exact Step.down.inj same

/-- A path without a parent has no step but the top. Every other path has one step more than its
parent, and that is not the top. -/
theorem parent?_cases (p : Path) :
    (p.parent? = none ∧ (p.steps = [] ∨ p.steps = [.top])) ∨
      ∃ q last, p.parent? = some q ∧ p.steps = q.steps ++ [last] ∧ last ≠ .top := by
  obtain ⟨idle, cut, quiet⟩ := exists_idle_end (pieces p.body)
  rw [← backwards] at cut
  rw [parent?, steps_eq, solidPieces_text, solidPieces, cut, List.filter_append, filter_idle quiet,
    List.append_nil]
  cases back : p.backwards with
  | nil =>
    simp only [List.reverse_nil, List.filter_nil, List.map_nil, List.append_nil]
    rcases p.text_cases with ⟨absolute, -⟩ | ⟨absolute, here, -⟩ | ⟨absolute, here, -⟩
    · exact .inl ⟨by simp [head, absolute], by simp [origin, absolute]⟩
    · exact .inr ⟨⟨[]⟩, .here, by simp [head, absolute, here],
        by simp [origin, absolute, here]; rfl, Step.noConfusion⟩
    · exact .inl ⟨by simp [head, absolute, here], by simp [origin, absolute, here]⟩
  | cons last before =>
    right
    have busy : p.text ≠ [] := by
      intro empty
      have nothing : p.backwards = [] := by
        rw [show p = ⟨[]⟩ from congrArg Path.mk empty]
        rfl
      rw [nothing] at back
      contradiction
    have solid : isIdle last = false := by
      have head := List.head?_dropWhile_not isIdle (pieces p.body).reverse
      rw [← backwards, back] at head
      simpa using head
    obtain ⟨idle', cut', quiet'⟩ := exists_idle_end before.reverse
    rw [List.reverse_reverse] at cut'
    have whole : pieces p.body =
        (before.dropWhile isIdle).reverse ++ (idle' ++ [last] ++ idle) := by
      rw [cut, back, List.reverse_cons]
      rw [cut']
      simp
    obtain ⟨sameOrigin, samePieces⟩ := origin_eq_of_prefix whole busy
    refine ⟨_, stepOf last, rfl, ?_, stepOf_ne_top last⟩
    rw [List.reverse_cons]
    rw [cut', steps_eq, sameOrigin, samePieces]
    simp [filter_idle quiet', solid]

end CatalogAudit.Path
