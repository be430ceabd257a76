import CatalogAudit.Text.Blank

/-!
# Cutting texts

A text is cut in one way only at the first place where a character stands. What is left of a text
when the blanks around it are cut off: blanks in front and behind go, and a text that neither begins
nor ends in one stays as it is.
-/

namespace CatalogAudit.Text

/-- A list begins with a run of the items that satisfy `p`. -/
theorem exists_run {α : Type} (p : α → Bool) (items : List α) :
    ∃ run rest, items = run ++ rest ∧ (∀ x ∈ run, p x = true) ∧ ∀ x ∈ rest.head?, p x = false := by
  induction items with
  | nil => exact ⟨[], [], rfl, by simp, by simp⟩
  | cons item items ih =>
    cases counts : p item with
    | true =>
      obtain ⟨run, rest, split, all, ends⟩ := ih
      refine ⟨item :: run, rest, by rw [split, List.cons_append], ?_, ends⟩
      rw [List.forall_mem_cons]
      exact ⟨counts, all⟩
    | false => exact ⟨[], item :: items, rfl, by simp, by simpa using counts⟩

section Run

variable {α : Type} {p : α → Bool} {run rest : List α}

/-- A run is taken up to the first item that does not go on with it. -/
theorem takeWhile_run (all : ∀ x ∈ run, p x = true) (ends : ∀ x ∈ rest.head?, p x = false) :
    (run ++ rest).takeWhile p = run := by
  have stop : rest.takeWhile p = [] := by
    cases rest with
    | nil => rfl
    | cons x rest => exact List.takeWhile_cons_of_neg (Bool.eq_false_iff.mp (ends x rfl))
  rw [List.takeWhile_append_of_pos all, stop, List.append_nil]

/-- A run is dropped up to the first item that does not go on with it. -/
theorem dropWhile_run (all : ∀ x ∈ run, p x = true) (ends : ∀ x ∈ rest.head?, p x = false) :
    (run ++ rest).dropWhile p = rest := by
  rw [List.dropWhile_append_of_pos all]
  cases rest with
  | nil => rfl
  | cons x rest => exact List.dropWhile_cons_of_neg (Bool.eq_false_iff.mp (ends x rfl))

end Run

/-- A list is cut in one way only at the first place where an item stands. -/
theorem cut_inj {α : Type} {c : α} {front front' rest rest' : List α} (free : c ∉ front)
    (free' : c ∉ front') (same : front ++ c :: rest = front' ++ c :: rest') :
    front = front' ∧ rest = rest' := by
  rcases List.append_eq_append_iff.mp same with ⟨more, rfl, behind⟩ | ⟨more, rfl, behind⟩
  · cases more with
    | nil => exact ⟨(List.append_nil _).symm, (List.cons.inj behind).2⟩
    | cons d more =>
      obtain ⟨rfl, -⟩ := List.cons.inj behind
      exact absurd (List.mem_append_right _ List.mem_cons_self) free'
  · cases more with
    | nil => exact ⟨List.append_nil _, (List.cons.inj behind).2.symm⟩
    | cons d more =>
      obtain ⟨rfl, -⟩ := List.cons.inj behind
      exact absurd (List.mem_append_right _ List.mem_cons_self) free

/-- The gap characters are the space and the tab. -/
theorem isGap_iff {c : Char} : isGap c = true ↔ c = ' ' ∨ c = '\t' := by
  rw [isGap, Bool.or_eq_true, beq_iff_eq, beq_iff_eq]

/-- The space and the tab are white space. -/
theorem isBlank_of_isGap {c : Char} (gap : isGap c = true) : isBlank c = true := by
  rcases isGap_iff.mp gap with rfl | rfl <;> decide

/-- Leading blanks are trimmed. -/
theorem trimStart_append {blank : List Char} (h : ∀ c ∈ blank, isBlank c = true)
    (rest : List Char) : trimStart (blank ++ rest) = trimStart rest :=
  List.dropWhile_append_of_pos h

/-- Of blanks nothing is left. -/
theorem trimStart_of_forall {blank : List Char} (h : ∀ c ∈ blank, isBlank c = true) :
    trimStart blank = [] := by
  have trimmed := trimStart_append h []
  rwa [List.append_nil, trimStart_nil] at trimmed

/-- Where no blank leads, nothing is trimmed. -/
theorem trimStart_eq_self {text : List Char} (h : ∀ c ∈ text.head?, isBlank c = false) :
    trimStart text = text := dropWhile_run (fun _ member => absurd member List.not_mem_nil) h

/-- A text that begins with a solid character stays. -/
theorem trimStart_cons {c : Char} (solid : isBlank c = false) (rest : List Char) :
    trimStart (c :: rest) = c :: rest := List.dropWhile_cons_of_neg (Bool.eq_false_iff.mp solid)

/-- White space is cut off up to a character that is none. -/
theorem trimStart_append_cons {blank : List Char} (h : ∀ c ∈ blank, isBlank c = true) {c : Char}
    (solid : isBlank c = false) (rest : List Char) :
    trimStart (blank ++ c :: rest) = c :: rest := by
  rw [trimStart_append h, trimStart_cons solid]

/-- What is cut off in front is white space. -/
theorem exists_trimStart (text : List Char) :
    ∃ blank, text = blank ++ trimStart text ∧ ∀ c ∈ blank, isBlank c = true :=
  ⟨text.takeWhile isBlank, List.takeWhile_append_dropWhile.symm,
    List.all_eq_true.mp List.all_takeWhile⟩

/-- Trailing blanks are trimmed. -/
theorem trimEnd_append {blank : List Char} (h : ∀ c ∈ blank, isBlank c = true)
    (text : List Char) : trimEnd (text ++ blank) = trimEnd text := by
  rw [trimEnd, trimEnd, List.reverse_append, List.dropWhile_append_of_pos]
  intro c mem
  exact h c (List.mem_reverse.mp mem)

/-- Where no blank trails, nothing is trimmed. -/
theorem trimEnd_eq_self {text : List Char} (h : ∀ c ∈ text.getLast?, isBlank c = false) :
    trimEnd text = text := by
  have kept : trimStart text.reverse = text.reverse := by
    apply trimStart_eq_self
    rw [List.head?_reverse]
    exact h
  rw [trimEnd, ← trimStart, kept, List.reverse_reverse]

/-- A text starts with its first character. -/
theorem startsWith_cons (p : Char → Bool) (c : Char) (rest : List Char) :
    startsWith p (c :: rest) = p c := rfl

/-- Whether a text begins with a kind of character is decided by its first character, and behind
an empty text by what follows. -/
theorem startsWith_append_eq_false {p : Char → Bool} {text rest : List Char}
    (first : ∀ c ∈ text.head?, p c = false) (after : text = [] → startsWith p rest = false) :
    startsWith p (text ++ rest) = false := by
  cases text with
  | nil => exact after rfl
  | cons c text => exact first c rfl

/-- Bytes are counted on from those before. -/
theorem byteLength_foldl (text : List Char) (n : Nat) :
    text.foldl (fun n c => n + c.utf8Size) n = n + byteLength text := by
  induction text generalizing n with
  | nil => rfl
  | cons c text ih =>
    rw [byteLength, List.foldl_cons, List.foldl_cons, ih, ih]
    omega

/-- The bytes of two texts add up. -/
theorem byteLength_append (s t : List Char) :
    byteLength (s ++ t) = byteLength s + byteLength t := by
  rw [byteLength, List.foldl_append, byteLength_foldl, ← byteLength]

end CatalogAudit.Text
