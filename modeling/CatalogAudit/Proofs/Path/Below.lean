import CatalogAudit.Proofs.Path.Pieces
import CatalogAudit.Proofs.Text.Utf8
import Mathlib.Data.List.Basic
import Mathlib.Data.List.Induction
import Mathlib.Tactic.Conv

/-!
# Paths below a root

A walk writes the path of an entry by joining names to the path of its root, one after the other.
Such a path has the steps of the root and then one step for each name, so different names make
different paths, and reports show them differently.
-/

namespace CatalogAudit.Path

/-- A text that can be the name of an entry of a folder. -/
structure IsName (name : Name) : Prop where
  /-- A slash would separate names. -/
  slashless : slash ∉ name
  /-- It holds something and is no dot that stands alone. -/
  solid : isIdle name = false
  /-- It does not lead up. -/
  notUp : name ≠ [dot, dot]

instance (name : Name) : Decidable (IsName name) :=
  decidable_of_iff (slash ∉ name ∧ isIdle name = false ∧ name ≠ [dot, dot])
    ⟨fun ⟨slashless, solid, notUp⟩ => ⟨slashless, solid, notUp⟩,
      fun ⟨slashless, solid, notUp⟩ => ⟨slashless, solid, notUp⟩⟩

/-- A name more keeps a list one of names. -/
theorem isNames_concat {names : List Name} {name : Name} (isNames : ∀ own ∈ names, IsName own)
    (isName : IsName name) : ∀ own ∈ names ++ [name], IsName own :=
  List.forall_mem_append.mpr ⟨isNames, List.forall_mem_singleton.mpr isName⟩

/-- The path below `root` along names. -/
def below (root : Path) (names : List Name) : Path :=
  names.foldl (fun p name => p.join ⟨name⟩) root

/-- To go down a list of names and one more is to join the last to the rest. -/
theorem below_concat (root : Path) (names : List Name) (name : Name) :
    root.below (names ++ [name]) = (root.below names).join ⟨name⟩ := by
  unfold below
  rw [List.foldl_append]
  rfl

namespace IsName

variable {name : Name}

/-- A name has a character. -/
theorem ne_nil (h : IsName name) : name ≠ [] := by
  rintro rfl
  exact Bool.noConfusion h.solid

/-- A name is not the one-dot component. -/
theorem ne_dot (h : IsName name) : name ≠ [dot] := by
  rintro rfl
  exact Bool.noConfusion h.solid

/-- A name has no separator, so it is its own only piece. -/
theorem pieces_eq (h : IsName name) : pieces name = [name] := pieces_of_not_mem h.slashless

/-- A name leads down. -/
theorem stepOf_eq (h : IsName name) : stepOf name = .down name := if_neg h.notUp

/-- A name is a relative path. -/
theorem not_isAbsolute (h : IsName name) : (⟨name⟩ : Path).isAbsolute = false := by
  rw [Bool.eq_false_iff, ne_eq, isAbsolute_iff, h.pieces_eq]
  rintro ⟨-, top⟩
  exact h.ne_nil (Option.some_inj.mp top)

/-- A name does not begin with a dot that stands alone. -/
theorem not_startsHere (h : IsName name) : (⟨name⟩ : Path).startsHere = false := by
  rw [Bool.eq_false_iff, ne_eq, startsHere_iff, h.pieces_eq]
  exact fun here => h.ne_dot (Option.some_inj.mp here)

/-- A text that ends in a name does not end in a slash. -/
theorem getLast?_ne (h : IsName name) (front : List UInt8) :
    (front ++ name).getLast? ≠ some slash := by
  rw [List.getLast?_append]
  cases last : name.getLast? with
  | none => exact absurd (List.getLast?_eq_none_iff.mp last) h.ne_nil
  | some c =>
    intro slash
    rw [Option.some_or, Option.some_inj] at slash
    exact h.slashless (slash ▸ List.mem_of_getLast? last)

end IsName

/-! ## Joining a path -/

/-- What stands before a path that is joined to the path. -/
def lead (p : Path) : List UInt8 :=
  if p.text.isEmpty || p.text.getLast? = some slash then p.text else p.text ++ [slash]

variable {p q root : Path} {name : Name}

/-- A relative path is joined behind the lead of the path before it. -/
theorem text_join_of_relative (relative : q.isAbsolute = false) :
    (p.join q).text = p.lead ++ q.text := by
  unfold join lead
  rw [if_neg (by simp [relative])]
  split <;> simp

/-- Before a joined path stands a slash, unless the first path is empty. -/
theorem lead_cases (p : Path) :
    (p.text = [] ∧ p.lead = []) ∨
      (p.text ≠ [] ∧ ∃ front, p.lead = front ++ [slash] ∧
        (p.text = front ∨ p.text = front ++ [slash])) := by
  unfold lead
  by_cases empty : p.text = []
  · exact .inl ⟨empty, by simp [empty]⟩
  · right
    refine ⟨empty, ?_⟩
    by_cases slash : p.text.getLast? = some slash
    · obtain ⟨front, text⟩ := List.getLast?_eq_some_iff.mp slash
      exact ⟨front, by simp [text], .inr text⟩
    · exact ⟨p.text, by simp [empty, slash], .inl rfl⟩

/-- The lead of a path is no shorter than its text. -/
theorem length_text_le_lead (p : Path) : p.text.length ≤ p.lead.length := by
  unfold lead
  split
  · exact le_refl _
  · rw [List.length_append]
    omega

/-- Joining adds pieces, and perhaps takes an empty piece off. -/
theorem filter_pieces_lead {keep : List UInt8 → Bool} (dull : keep [] = false) (p : Path)
    (rest : List UInt8) :
    (pieces (p.lead ++ rest)).filter keep =
      (pieces p.text).filter keep ++ (pieces rest).filter keep := by
  rcases p.lead_cases with ⟨text, lead⟩ | ⟨-, front, lead, text | text⟩
  · rw [text, lead, List.nil_append]
    simp [pieces, splitFrom, dull]
  · rw [text, lead, List.append_assoc, List.singleton_append, pieces_append_slash,
      List.filter_append]
  · rw [text, lead, List.append_assoc, List.singleton_append, pieces_append_slash,
      pieces_append_slash, List.filter_append, List.filter_append]
    simp [pieces, splitFrom, dull]

/-- What is joined behind a text leaves its first piece. -/
theorem head?_pieces_lead (filled : p.text ≠ []) (rest : List UInt8) :
    (pieces (p.lead ++ rest)).head? = (pieces p.text).head? := by
  have first : ∀ (front : List UInt8) (more : List (List UInt8)),
      (pieces front ++ more).head? = (pieces front).head? := by
    intro front more
    obtain ⟨piece, -, ⟨-, cut⟩ | ⟨rest, -, cut⟩⟩ := exists_first_piece front <;> rw [cut] <;> rfl
  rcases p.lead_cases with ⟨none, -⟩ | ⟨-, front, lead, text | text⟩
  · exact absurd none filled
  · rw [text, lead, List.append_assoc, List.singleton_append, pieces_append_slash, first]
  · rw [text, lead, List.append_assoc, List.singleton_append, pieces_append_slash, first,
      pieces_append_slash, first]

/-- The lead of a path that is not empty is not empty. -/
theorem lead_ne_nil (filled : p.text ≠ []) : p.lead ≠ [] := by
  rcases p.lead_cases with ⟨none, -⟩ | ⟨-, front, lead, -⟩
  · exact absurd none filled
  · simp [lead]

/-- Joining a relative path behind a text leaves the path where it begins. -/
theorem isAbsolute_join_of_relative (relative : q.isAbsolute = false) (filled : p.text ≠ []) :
    (p.join q).isAbsolute = p.isAbsolute := by
  rw [Bool.eq_iff_iff, isAbsolute_iff, isAbsolute_iff, text_join_of_relative relative,
    head?_pieces_lead filled]
  simp [lead_ne_nil filled, filled]

/-- A relative path does not move where the whole begins. -/
theorem origin_join_of_relative (relative : q.isAbsolute = false) (moving : q.startsHere = false) :
    (p.join q).origin = p.origin := by
  have text := text_join_of_relative (p := p) relative
  by_cases none : p.text = []
  · have same : p.join q = q := by
      rw [lead, none] at text
      exact congrArg Path.mk text
    rw [same, origin, if_neg (by simp [relative]), if_neg (by simp [moving]),
      show p = ⟨[]⟩ from congrArg Path.mk none]
    rfl
  · have here : (p.join q).startsHere = p.startsHere := by
      rw [Bool.eq_iff_iff, startsHere_iff, startsHere_iff, text, head?_pieces_lead none]
    rw [origin, origin, isAbsolute_join_of_relative relative none, here]

/-- The steps of a relative path are added, unless it begins with a dot. -/
theorem steps_join_of_relative (relative : q.isAbsolute = false) (moving : q.startsHere = false) :
    (p.join q).steps = p.steps ++ q.steps := by
  have origin : q.origin = [] := by
    rw [origin, if_neg (by simp [relative]), if_neg (by simp [moving])]
  rw [steps_eq, steps_eq, steps_eq q, origin_join_of_relative relative moving, origin,
    text_join_of_relative relative]
  unfold solidPieces
  rw [filter_pieces_lead rfl]
  simp

/-! ## Joining a name -/

/-- A name is joined behind the lead. -/
theorem text_join (h : IsName name) : (p.join ⟨name⟩).text = p.lead ++ name :=
  text_join_of_relative h.not_isAbsolute

/-- The lead of a name joined is the name and a separator behind the lead before. -/
theorem lead_join (h : IsName name) : (p.join ⟨name⟩).lead = p.lead ++ name ++ [slash] := by
  conv_lhs => unfold lead
  rw [text_join h, if_neg]
  have last := h.getLast?_ne p.lead
  simpa [h.ne_nil] using last

/-- A path that ends in a name is not empty. -/
theorem text_join_ne_nil (h : IsName name) : (p.join ⟨name⟩).text ≠ [] := by
  rw [text_join h]
  simp [h.ne_nil]

/-- A name joined is one name more. -/
theorem names_join (h : IsName name) : (p.join ⟨name⟩).names = p.names ++ [name] := by
  unfold names
  rw [text_join h, filter_pieces_lead rfl, h.pieces_eq]
  simp [h.ne_nil]

/-- The folders above the content of a joined name are the names and that name. -/
theorem namesToFolder_join (h : IsName name) :
    (p.join ⟨name⟩).namesToFolder = p.names ++ [name] := by
  have noSlash : (p.join ⟨name⟩).endsInSlash = false := by
    unfold endsInSlash
    rw [text_join h]
    exact decide_eq_false (h.getLast?_ne _)
  unfold namesToFolder
  rw [if_neg (by simp [noSlash]), names_join h]

/-- A name joined to a path that is not empty leaves it absolute or relative. -/
theorem isAbsolute_join (h : IsName name) (some : p.text ≠ []) :
    (p.join ⟨name⟩).isAbsolute = p.isAbsolute :=
  isAbsolute_join_of_relative h.not_isAbsolute some

/-- Joining a name adds one step down. -/
theorem steps_join (h : IsName name) : (p.join ⟨name⟩).steps = p.steps ++ [.down name] := by
  have step : (⟨name⟩ : Path).steps = [.down name] := by
    rw [steps_eq, origin, if_neg (by simp [h.not_isAbsolute]), if_neg (by simp [h.not_startsHere]),
      solidPieces, h.pieces_eq]
    simp [h.solid, h.stepOf_eq]
  rw [steps_join_of_relative h.not_isAbsolute h.not_startsHere, step]

/-- The last piece of a path with a name joined is that name. -/
theorem exists_pieces_text_join (h : IsName name) :
    ∃ front, pieces (p.join ⟨name⟩).text = front ++ [name] := by
  rw [text_join h]
  rcases p.lead_cases with ⟨-, lead⟩ | ⟨-, front, lead, -⟩
  · exact ⟨[], by rw [lead, List.nil_append, h.pieces_eq]; rfl⟩
  · refine ⟨pieces front, ?_⟩
    rw [lead, List.append_assoc, List.singleton_append, pieces_append_slash, h.pieces_eq]

/-- The last piece of the body is the joined name. -/
theorem exists_pieces_body_join (h : IsName name) :
    ∃ front, pieces (p.join ⟨name⟩).body = front ++ [name] := by
  have behind : ∀ {first : List UInt8} {rest : List UInt8} {front : List (List UInt8)},
      first :: pieces rest = front ++ [name] → ∃ front, pieces rest = front ++ [name] := by
    intro first rest front cut
    obtain ⟨piece, -, cut'⟩ := exists_first_piece rest
    cases front with
    | nil => rcases cut' with ⟨-, cut'⟩ | ⟨_, -, cut'⟩ <;> simp [cut'] at cut
    | cons piece front => exact ⟨front, (List.cons.inj cut).2⟩
  obtain ⟨front, cut⟩ := exists_pieces_text_join (p := p) h
  rcases (p.join ⟨name⟩).text_cases with
    ⟨-, text⟩ | ⟨-, -, text, none | ⟨rest, some⟩⟩ | ⟨-, -, text⟩
  · rw [text, pieces_slash] at cut
    exact behind cut
  · rw [text, none, pieces_of_not_mem (by decide)] at cut
    cases front with
    | nil => exact absurd (List.cons.inj cut).1.symm h.ne_dot
    | cons piece front => simp at cut
  · rw [text, some] at cut
    change pieces ([dot] ++ slash :: rest) = _ at cut
    rw [pieces_append_slash] at cut
    obtain ⟨front, cut⟩ := behind cut
    exact ⟨[] :: front, by rw [some, pieces_slash, cut]; rfl⟩
  · exact ⟨front, by rw [← text, cut]⟩

/-- A joined name is the name of the file. -/
theorem fileName?_join (h : IsName name) : (p.join ⟨name⟩).fileName? = some name := by
  obtain ⟨front, cut⟩ := exists_pieces_body_join (p := p) h
  unfold fileName? backwards
  rw [cut, List.reverse_append, List.reverse_singleton, List.singleton_append, List.dropWhile_cons,
    if_neg (by simp [h.solid])]
  exact if_neg h.notUp

/-! ## Many names -/

section Names

variable {names : List Name}

/-- The steps below a root are the root's steps and a step down each name. -/
theorem steps_below (h : ∀ name ∈ names, IsName name) :
    (root.below names).steps = root.steps ++ names.map Step.down := by
  induction names using List.reverseRecOn with
  | nil => simp [below]
  | append_singleton names name ih =>
    rw [List.forall_mem_append, List.forall_mem_singleton] at h
    rw [below_concat, steps_join h.2, ih h.1]
    simp

/-- The names below a root are the root's names and the names gone down. -/
theorem names_below (h : ∀ name ∈ names, IsName name) :
    (root.below names).names = root.names ++ names := by
  induction names using List.reverseRecOn with
  | nil => simp [below]
  | append_singleton names name ih =>
    rw [List.forall_mem_append, List.forall_mem_singleton] at h
    rw [below_concat, names_join h.2, ih h.1]
    simp

/-- A path below a root with a text has a text. -/
theorem text_below_ne_nil (h : ∀ name ∈ names, IsName name) (some : root.text ≠ []) :
    (root.below names).text ≠ [] := by
  induction names using List.reverseRecOn with
  | nil => exact some
  | append_singleton names name ih =>
    rw [List.forall_mem_append, List.forall_mem_singleton] at h
    rw [below_concat]
    exact text_join_ne_nil h.2

/-- A path below a root is absolute exactly when the root is. -/
theorem isAbsolute_below (h : ∀ name ∈ names, IsName name) (some : root.text ≠ []) :
    (root.below names).isAbsolute = root.isAbsolute := by
  induction names using List.reverseRecOn with
  | nil => rfl
  | append_singleton names name ih =>
    rw [List.forall_mem_append, List.forall_mem_singleton] at h
    rw [below_concat, isAbsolute_join h.2 (text_below_ne_nil h.1 some), ih h.1]

/-- Different names make different paths below a root. -/
theorem below_inj {others : List Name} (h : ∀ name ∈ names, IsName name)
    (h' : ∀ name ∈ others, IsName name) (same : root.below names = root.below others) :
    names = others := by
  have steps := congrArg Path.steps same
  rw [steps_below h, steps_below h', List.append_cancel_left_eq] at steps
  exact List.map_injective_iff.mpr (fun _ _ => Step.down.inj) steps

/-! ## How reports show a path -/

/-- Behind the steps of a list stands what was appended to them. -/
theorem stepsAfter?_append (firsts rest : List Step) :
    stepsAfter? firsts (firsts ++ rest) = some rest := by
  induction firsts with
  | nil => rfl
  | cons first firsts ih =>
    rw [List.cons_append, stepsAfter?, if_pos rfl, ih]

/-- What reports show of the root itself: its own name, unless it has none. -/
def shownName (root : Path) : List Name := (root.steps.getLast?.bind Step.shown?).toList

/-- What is shown of the root is something without a slash. -/
theorem full_of_mem_shownName {piece : Name} (member : piece ∈ root.shownName) :
    piece ≠ [] ∧ slash ∉ piece := by
  obtain ⟨step, last, shown⟩ := Option.bind_eq_some_iff.mp (Option.mem_toList.mp member)
  exact full_of_shown (List.mem_of_getLast? last) shown

/-- A path with the steps of a root and then steps down is shown by the root's own name and the
names of those steps. -/
theorem display_of_steps (steps : p.steps = root.steps ++ names.map Step.down) :
    p.display root = ['/'].intercalate ((root.shownName ++ names).map Text.decode) := by
  have shown : (names.map Step.down).filterMap Step.shown? = names := by
    rw [List.filterMap_map]
    exact List.filterMap_some
  unfold display shownName
  dsimp only
  rcases root.parent?_cases with ⟨none, own⟩ | ⟨q, last, parent, own, low⟩
  · have rest : stepsAfter? root.steps p.steps = some (names.map Step.down) := by
      rw [steps, stepsAfter?_append]
    have nameless : root.steps.getLast?.bind Step.shown? = Option.none := by
      rcases own with own | own <;> rw [own] <;> rfl
    have low : (names.map Step.down).head? ≠ some .top := by cases names <;> simp
    rw [none, Option.getD_none, rest, Option.getD_some, shown, nameless, if_neg low]
    rfl
  · have rest : stepsAfter? q.steps p.steps = some (last :: names.map Step.down) := by
      rw [steps, own, List.append_assoc, List.singleton_append, stepsAfter?_append]
    rw [parent, Option.getD_some, rest, Option.getD_some, own, List.getLast?_concat,
      List.head?_cons, if_neg (by simpa using low), List.filterMap_cons]
    cases last with
    | top => exact absurd rfl low
    | here => simp [Step.shown?, shown]
    | up => simp [Step.shown?, shown]
    | down name => simp [Step.shown?, shown]

/-- What is shown of a root and of names below it is something, and holds no slash. -/
theorem full_of_mem_shown (h : ∀ name ∈ names, IsName name) {text : List Char}
    (member : text ∈ (root.shownName ++ names).map Text.decode) : text ≠ [] ∧ '/' ∉ text := by
  obtain ⟨piece, inside, rfl⟩ := List.mem_map.mp member
  have full : piece ≠ [] ∧ slash ∉ piece := by
    rcases List.mem_append.mp inside with own | inside
    · exact full_of_mem_shownName own
    · exact ⟨(h piece inside).ne_nil, (h piece inside).slashless⟩
  exact ⟨mt Text.decode_eq_nil_iff.mp full.1, mt (Text.mem_of_mem_decode rfl) full.2⟩

/-- Names behind what is shown of a root are shown alike only when they are read alike. -/
theorem decode_eq_of_shown_eq {others : List Name} (h : ∀ name ∈ names, IsName name)
    (h' : ∀ name ∈ others, IsName name)
    (same : ['/'].intercalate ((root.shownName ++ names).map Text.decode) =
      ['/'].intercalate ((root.shownName ++ others).map Text.decode)) :
    names.map Text.decode = others.map Text.decode := by
  have shown := intercalate_inj (fun _ => full_of_mem_shown h) (fun _ => full_of_mem_shown h') same
  rw [List.map_append, List.map_append] at shown
  exact List.append_cancel_left shown

/-- A path below a root is shown by the root's own name and the names that lead to it. -/
theorem display_below (h : ∀ name ∈ names, IsName name) :
    (root.below names).display root =
      ['/'].intercalate ((root.shownName ++ names).map Text.decode) :=
  display_of_steps (steps_below h)

/-- Names below a root are shown alike only when they are read alike. -/
theorem decode_eq_of_display_below_eq {others : List Name} (h : ∀ name ∈ names, IsName name)
    (h' : ∀ name ∈ others, IsName name)
    (same : (root.below names).display root = (root.below others).display root) :
    names.map Text.decode = others.map Text.decode := by
  rw [display_below h, display_below h'] at same
  exact decode_eq_of_shown_eq h h' same

end Names

end CatalogAudit.Path
