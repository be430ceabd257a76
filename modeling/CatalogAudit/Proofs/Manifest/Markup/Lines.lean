import CatalogAudit.Proofs.Manifest.Markup.Passing

/-!
# Lines as tokens

A piece of a layout takes the reader of markup from the place where its first token begins to the
place where the token behind it does. What follows a piece is handed on: once the rest of the text
is known to be read up to some place, so is the piece with that rest. So the pieces of a document
are put together from its end to its beginning.
-/

namespace CatalogAudit.Manifest.Layout

open Yaml (Passes Solid Token)
open Yaml.Token.Reader (Comes Leads Stands openedAt openingAt)

/-- A place outside brackets at which a token begins that may be a key. -/
structure Place where
  /-- The text ahead. -/
  text : List Char
  /-- The column of the token. -/
  column : Nat
  /-- The margins of the open block collections, innermost first. -/
  margins : List Nat

/-- The spot there, after some tokens. -/
def Place.spot (p : Place) (tokens : List Token) : Yaml.Token.Reader.Spot :=
  ⟨p.text, p.column, true, p.margins, tokens⟩

/-- A reader that comes to the first place reads the tokens and comes to the second. -/
def Reads (p : Place) (piece : List Token) (q : Place) : Prop :=
  ∀ ⦃limit : Nat⦄ ⦃r : Yaml.Token.Reader⦄ ⦃before : List Token⦄, Comes limit r (p.spot before) →
    ∃ r', Leads limit r r' ∧ Comes limit r' (q.spot (before ++ piece))

/-- From the beginning of a line on, the text is read as the tokens up to the goal. Its first token
stands at no larger column than the given one. -/
def Carries (column : Nat) (text : List Char) (margins : List Nat) (piece : List Token)
    (goal : Place) : Prop :=
  ∃ first at', at' ≤ column ∧ Passes first at' false 0 text ∧ Reads ⟨first, at', margins⟩ piece goal

variable {column column' margin : Nat} {text rest more next : List Char} {margins : List Nat}
  {piece : List Token} {goal : Place}

/-- What may stand at a column may stand further right. -/
theorem Carries.of_le (carries : Carries column text margins piece goal)
    (le : column ≤ column') : Carries column' text margins piece goal := by
  obtain ⟨first, at', small, carried⟩ := carries
  exact ⟨first, at', Nat.le_trans small le, carried⟩

/-- Lines that say nothing are passed. -/
theorem Carries.noise (carries : Carries column rest margins piece goal) {noise : List Noise}
    (markup : ∀ one ∈ noise, one.IsMarkup) (stacked : Stacked (noise.map Noise.text) rest text) :
    Carries column text margins piece goal := by
  obtain ⟨first, at', small, passes, reads⟩ := carries
  exact ⟨first, at', small, passes_noise markup stacked passes, reads⟩

/-- What stands left of the margin of a collection ends that first. -/
theorem Carries.close (carries : Carries column text margins piece goal)
    (left : column + 1 < margin) :
    Carries column text (margin :: margins) (.blockEnd :: piece) goal := by
  obtain ⟨first, at', small, passes, reads⟩ := carries
  refine ⟨first, at', small, passes, fun limit r before comes => ?_⟩
  have closed := comes.close (Nat.lt_of_le_of_lt (Nat.succ_le_succ small) left)
  obtain ⟨r', leads, there⟩ := reads closed
  rw [List.append_assoc] at there
  exact ⟨r', leads, there⟩

/-- A line that begins with a token is read as what stands on it. -/
theorem Reads.carries (reads : Reads ⟨text, column, margins⟩ piece goal)
    (solid : Solid column text) : Carries column (spaces column ++ text) margins piece goal := by
  refine ⟨text, column, Nat.le_refl column, passes_spaces column ?_, reads⟩
  rw [Nat.zero_add]
  exact .stop solid

/-- A reader that stands before the end of a line, where the rest of the text is known, comes to the
goal. -/
theorem Carries.exists_read (carries : Carries column next margins piece goal) {limit : Nat}
    {r : Yaml.Token.Reader} {s : Yaml.Token.Reader.Spot} (stands : Stands r s)
    (same : s.margins = margins)
    (passes : ∀ {first : List Char} {at' : Nat}, Passes first at' false 0 next →
      Passes first at' (!s.keyAllowed) s.column s.text)
    (short : r.cursor.rest.length < limit) :
    ∃ r', Leads limit r r' ∧ Comes limit r' (goal.spot (s.tokens ++ piece)) := by
  obtain ⟨first, at', -, passesNext, reads⟩ := carries
  apply reads
  have comes := stands.comes (passes passesNext) short
  rw [same] at comes
  exact comes

/-- The dash of an item is read; it opens a list where none has reached its column. -/
theorem reads_dash (apart : Yaml.atSeparator text = true)
    (reached : ∀ margin ∈ margins.head?, margin ≤ column + 1)
    (behind : ∀ ⦃limit : Nat⦄ ⦃r : Yaml.Token.Reader⦄ ⦃before : List Token⦄,
      Stands r ⟨text, column + 1, true, openedAt column margins, before⟩ →
      r.cursor.rest.length < limit →
      ∃ r', Leads limit r r' ∧ Comes limit r' (goal.spot (before ++ piece))) :
    Reads ⟨'-' :: text, column, margins⟩
      (openingAt .blockSequenceStart column margins ++ .blockEntry :: piece) goal := by
  intro limit r before comes
  obtain ⟨r₁, leads, stands⟩ := Comes.exists_dash comes rfl apart rfl reached
  obtain ⟨r₂, leads₂, there⟩ := behind stands (leads.short comes.short)
  refine ⟨r₂, leads.trans leads₂, ?_⟩
  simpa [Place.spot] using there

/-- A dash is no blank, no comment and no line end. -/
theorem solid_dash (column : Nat) (text : List Char) : Solid column ('-' :: text) :=
  Yaml.solid_cons (by decide) (by decide) (fun _ => by decide) text

/-- Where a collection stands at the column of a token, the token is not left of it. -/
theorem reached_of_open (open' : margins.headD 0 = column + 1) :
    ∀ margin ∈ margins.head?, margin ≤ column + 1 := by
  intro margin head
  rw [List.headD_eq_head?_getD, head] at open'
  exact Nat.le_of_eq open'

/-- A column that is deep enough has reached the innermost margin. -/
theorem reached_of_le (deep : margins.headD 0 ≤ column) :
    ∀ margin ∈ margins.head?, margin ≤ column + 1 := by
  intro margin head
  rw [List.headD_eq_head?_getD, head] at deep
  exact Nat.le_succ_of_le deep

/-- Lines that begin at a column are read as the tokens, behind the token that opens a collection if
none has reached the column before. -/
def Opens (start : Token) (column : Nat) (lines : List (List Char)) (tokens : List Token) : Prop :=
  ∀ ⦃margins : List Nat⦄ ⦃rest text : List Char⦄ ⦃piece : List Token⦄ ⦃goal : Place⦄,
    (∀ margin ∈ margins.head?, margin ≤ column + 1) → Stacked lines rest text →
    Carries column rest (openedAt column margins) piece goal →
    Carries column text margins (openingAt start column margins ++ (tokens ++ piece)) goal

section Items

variable {α : Type} {start : Token} {items : List α} {lines : α → List (List Char)}
  {tokens : α → List Token}

/-- Items at one column are read one after the other once their collection is open. -/
theorem carries_items (each : ∀ item ∈ items, Opens start column (lines item) (tokens item))
    (open' : margins.headD 0 = column + 1) (stacked : Stacked (items.flatMap lines) rest text)
    (behind : Carries column rest margins piece goal) :
    Carries column text margins (items.flatMap tokens ++ piece) goal := by
  induction items generalizing text with
  | nil =>
    obtain rfl : text = rest := stacked
    exact behind
  | cons item items ih =>
    rw [List.forall_mem_cons] at each
    rw [List.flatMap_cons, stacked_append] at stacked
    obtain ⟨middle, first, others⟩ := stacked
    have opened := Yaml.Token.Reader.openedAt_eq_self open'
    have later := ih each.2 others
    rw [← opened] at later
    have all := each.1 (reached_of_open open') first later
    rw [Yaml.Token.Reader.openingAt_eq_nil open', List.nil_append] at all
    rw [List.flatMap_cons, List.append_assoc]
    exact all

/-- The first item opens a collection deeper than all that are open, and the others are read in
it. -/
theorem carries_opening {item : α}
    (each : ∀ other ∈ item :: items, Opens start column (lines other) (tokens other))
    (deep : margins.headD 0 ≤ column)
    (stacked : Stacked ((item :: items).flatMap lines) rest text)
    (behind : Carries column rest ((column + 1) :: margins) piece goal) :
    Carries column text margins (start :: (item :: items).flatMap tokens ++ piece) goal := by
  rw [List.forall_mem_cons] at each
  rw [List.flatMap_cons, stacked_append] at stacked
  obtain ⟨middle, first, others⟩ := stacked
  have opened : openedAt column margins = (column + 1) :: margins := if_pos deep
  have later := carries_items each.2 rfl others behind
  rw [← opened] at later
  have all := each.1 (reached_of_le deep) first later
  rw [openingAt, if_pos deep] at all
  simpa using all

/-- The tokens of a list whose dashes stand deeper than its key by a number of columns. At the
column of the key it has no beginning and no end of its own. -/
def blockList : (extra : Nat) → List Token → List Token
  | 0, items => items
  | _ + 1, items => .blockSequenceStart :: items ++ [.blockEnd]

/-- A list below its key is read. -/
theorem carries_list {extra : Nat} (filled : items ≠ [])
    (each : ∀ item ∈ items,
      Opens .blockSequenceStart (column + extra) (lines item) (tokens item))
    (open' : margins.headD 0 = column + 1) (stacked : Stacked (items.flatMap lines) rest text)
    (behind : Carries column rest margins piece goal) :
    Carries (column + extra) text margins (blockList extra (items.flatMap tokens) ++ piece)
      goal := by
  cases extra with
  | zero => exact carries_items each open' stacked behind
  | succ extra =>
    obtain ⟨item, others, rfl⟩ := List.exists_cons_of_ne_nil filled
    have deep : margins.headD 0 ≤ column + (extra + 1) := by omega
    have left : column + 1 < column + (extra + 1) + 1 := by omega
    have closed := (behind.close left).of_le (Nat.le_add_right column (extra + 1))
    have all := carries_opening each deep stacked closed
    simpa [blockList] using all

end Items

end CatalogAudit.Manifest.Layout
