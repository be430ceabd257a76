import CatalogAudit.Proofs.Manifest.Markup.Modes

/-!
# Entries as tokens

An entry is an item of the list of entries, and a mapping of its keys in the order in which they
stand. It opens the list if it is the first, and its mapping ends where the next entry begins.
-/

namespace CatalogAudit.Manifest.Layout

open Yaml (Solid Token)
open Yaml.Token.Reader (Comes Leads Stands openedAt openingAt)

variable {column : Nat} {text rest : List Char} {margins : List Nat} {piece : List Token}
  {goal : Place}

/-- Behind a gap a reader that may not find a key comes to a value on the same line. -/
theorem comes_behind_gap {limit at' : Nat} {r : Yaml.Token.Reader} {before : List Token}
    {here : List Char} (gap : Gap)
    (stands : Stands r ⟨gap.text ++ here, at', false, margins, before⟩)
    (solid : Solid (at' + gap.text.length) here) (short : r.cursor.rest.length < limit) :
    Comes limit r ⟨here, at' + gap.text.length, false, margins, before⟩ := by
  refine stands.comes_gap rfl ?_ solid short
  intro x mem
  have isGap := gap.blank x mem
  rw [Text.isGap, Bool.or_eq_true, beq_iff_eq, beq_iff_eq] at isGap
  exact isGap.imp_right fun tab => ⟨rfl, tab⟩

namespace Assignment

variable {name : List Char}

/-- The tokens of a key with a value. -/
def tokens (a : Assignment name) : List Token := a.key.tokens ++ [a.scalar.token]

/-- A key with a value is read, and opens the mapping if it is the first. -/
theorem reads (a : Assignment name) (markup : a.IsMarkup) (word : IsWord name)
    (reached : ∀ margin ∈ margins.head?, margin ≤ column + 1) {more next : List Char}
    (ends : Ends more next) (stacked : Stacked (a.after.map Noise.text) rest next)
    (behind : Carries column rest (openedAt column margins) piece goal) :
    Reads ⟨a.text ++ more, column, margins⟩
      (openingAt .blockMappingStart column margins ++ (a.tokens ++ piece)) goal := by
  intro limit r before comes
  obtain ⟨keyMarkup, scalarMarkup, tailMarkup, noiseMarkup⟩ := markup
  obtain ⟨first, at', small, passes, reads⟩ := behind.noise noiseMarkup stacked
  have split : a.text ++ more
      = a.key.text ++ (a.gap.text ++ (a.scalar.text ++ (a.tail.text ++ more))) := by
    simp [Assignment.text]
  simp only [Place.spot, split] at comes
  obtain ⟨r₁, leads, stands⟩ :=
    a.key.exists_read keyMarkup word comes (atSeparator_gap a.apart _) reached
  have head := Yaml.Token.Reader.headD_openedAt reached
  have keyLength := a.key.length_pos
  have inLine : 0 < column + a.key.text.length + a.gap.text.length := by omega
  have solid := a.scalar.solid scalarMarkup inLine (a.tail.text ++ more)
  have comes₁ := comes_behind_gap a.gap stands solid (leads.short comes.short)
  obtain ⟨r₂, leads₂, comes₂⟩ := a.scalar.exists_read scalarMarkup tailMarkup comes₁
    (by omega) inLine ends passes (by omega)
  obtain ⟨r₃, leads₃, comes₃⟩ := reads comes₂
  refine ⟨r₃, (leads.trans leads₂).trans leads₃, ?_⟩
  simpa [tokens] using comes₃

end Assignment

namespace Entry

variable (e : Entry)

/-- The tokens of a key with what belongs to it. -/
def fieldTokens : Field → List Token
  | .token => e.token.tokens
  | .kind => e.kind.tokens
  | .modes => (e.modes.map fun (key, modes) => key.tokens ++ modes.tokens).getD []

/-- The tokens of the entry. -/
def tokens : List Token :=
  .blockEntry :: .blockMappingStart :: (e.first :: e.others).flatMap e.fieldTokens ++ [.blockEnd]

variable {e}

/-- A key with what belongs to it is read, and opens the mapping if it is the first. -/
theorem reads_field (markup : e.IsMarkup) {field : Field} (has : e.Has field)
    (reached : ∀ margin ∈ margins.head?, margin ≤ column + 1) {more next : List Char}
    (ends : Ends more next) (stacked : Stacked (e.fieldBelow column field) rest next)
    (behind : Carries column rest (openedAt column margins) piece goal) :
    Reads ⟨e.fieldText field ++ more, column, margins⟩
      (openingAt .blockMappingStart column margins ++ (e.fieldTokens field ++ piece)) goal := by
  cases field with
  | token => exact e.token.reads markup.2.1 (isWord_name .token) reached ends stacked behind
  | kind => exact e.kind.reads markup.2.2.1 (isWord_name .kind) reached ends stacked behind
  | modes =>
    obtain ⟨⟨key, modes⟩, some⟩ := Option.isSome_iff_exists.mp (has rfl)
    obtain ⟨keyMarkup, modesMarkup⟩ := markup.2.2.2 _ some
    intro limit r before comes
    simp only [fieldBelow, some, Option.map_some, Option.getD_some] at stacked
    simp only [Place.spot, fieldText, some, Option.map_some, Option.getD_some,
      List.append_assoc] at comes
    obtain ⟨r₁, leads, stands⟩ :=
      key.exists_read keyMarkup (isWord_name .modes) comes (modes.apart ends) reached
    have keyLength := key.length_pos
    obtain ⟨r₂, leads₂, there⟩ := modes.exists_read modesMarkup stands (leads.short comes.short)
      (Yaml.Token.Reader.headD_openedAt reached) (by omega) ends stacked behind
    refine ⟨r₂, leads.trans leads₂, ?_⟩
    simpa [fieldTokens, some] using there

/-- A line with a key begins with something that is not passed. -/
theorem solid_field {field : Field} (has : e.Has field) (more : List Char) :
    Solid column (e.fieldText field ++ more) := by
  cases field with
  | token =>
    simp only [fieldText, Assignment.text, List.append_assoc]
    exact e.token.key.solid (isWord_name .token) _
  | kind =>
    simp only [fieldText, Assignment.text, List.append_assoc]
    exact e.kind.key.solid (isWord_name .kind) _
  | modes =>
    obtain ⟨⟨key, modes⟩, some⟩ := Option.isSome_iff_exists.mp (has rfl)
    simp only [fieldText, some, Option.map_some, Option.getD_some, List.append_assoc]
    exact key.solid (isWord_name .modes) _

/-- The lines of a key are read, and open the mapping if it is the first. -/
theorem opens_field (markup : e.IsMarkup) {field : Field} (has : e.Has field) :
    Opens .blockMappingStart column (e.fieldLines column field) (e.fieldTokens field) := by
  intro margins rest text piece goal reached stacked behind
  obtain ⟨more, next, rfl, ends, below⟩ := stacked
  rw [List.append_assoc]
  exact Reads.carries (reads_field markup has reached ends below behind) (solid_field has more)

/-- The keys of an entry are read from the first on, and open their mapping, which ends before what
follows. -/
theorem reads_fields (markup : e.IsMarkup) (deep : margins.headD 0 ≤ column) {more next : List Char}
    (ends : Ends more next)
    (stacked : Stacked (e.fieldBelow column e.first ++ e.others.flatMap (e.fieldLines column)) rest
      next)
    (behind : Carries column rest ((column + 1) :: margins) piece goal) :
    Reads ⟨e.fieldText e.first ++ more, column, margins⟩
      (.blockMappingStart :: (e.first :: e.others).flatMap e.fieldTokens ++ piece) goal := by
  obtain ⟨middle, below, others⟩ := stacked_append.mp stacked
  have each : ∀ field ∈ e.others,
      Opens .blockMappingStart column (e.fieldLines column field) (e.fieldTokens field) :=
    fun field mem => opens_field markup (e.has_of_mem (List.mem_cons_of_mem _ mem))
  have opened : openedAt column margins = (column + 1) :: margins := if_pos deep
  have later := carries_items each rfl others behind
  rw [← opened] at later
  have all :=
    reads_field markup (e.has_of_mem List.mem_cons_self) (reached_of_le deep) ends below later
  rw [openingAt, if_pos deep] at all
  simpa using all

/-- An entry is read, and opens the list if it is the first. -/
theorem opens (markup : e.IsMarkup) :
    Opens .blockSequenceStart column (e.lines column) e.tokens := by
  intro margins rest text piece goal reached stacked behind
  have head := Yaml.Token.Reader.headD_openedAt reached
  have hasFirst := e.has_of_mem List.mem_cons_self
  have closed : ∀ keyColumn, column < keyColumn → Carries keyColumn rest
      ((keyColumn + 1) :: openedAt column margins) (.blockEnd :: piece) goal := by
    intro keyColumn deeper
    exact (behind.close (Nat.succ_lt_succ deeper)).of_le (Nat.le_of_lt deeper)
  have tokens : e.tokens ++ piece = .blockEntry :: (.blockMappingStart
      :: (e.first :: e.others).flatMap e.fieldTokens ++ .blockEnd :: piece) := by
    simp [Entry.tokens]
  rw [tokens]
  rw [Entry.lines] at stacked
  cases opening : e.opening with
  | behindDash more =>
    simp only [opening, Opening.keyColumn, List.cons_append] at stacked
    obtain ⟨more', next, rfl, ends, below⟩ := stacked
    have deeper : (openedAt column margins).headD 0 ≤ column + 2 + more := by omega
    have fields := reads_fields markup deeper ends below (closed _ (by omega))
    rw [List.append_assoc, List.cons_append, List.append_assoc]
    refine Reads.carries ?_ (solid_dash column _)
    refine reads_dash rfl reached fun limit r before stands short => fields ?_
    have blank : ∀ x ∈ spaces (more + 1), x = ' ' ∨ true = false ∧ x = '\t' := fun x mem =>
      .inl (List.eq_of_mem_replicate mem)
    have there := stands.comes_gap rfl blank (solid_field hasFirst more') short
    have place : column + 1 + (spaces (more + 1)).length = column + 2 + more := by
      rw [spaces, List.length_replicate]
      omega
    simp only [place] at there
    exact there
  | ownLine gap after more =>
    simp only [opening, Opening.keyColumn, List.cons_append] at stacked
    obtain ⟨more', next, rfl, ends, below⟩ := stacked
    obtain ⟨spaced, noiseMarkup⟩ : gap.Spaced ∧ ∀ noise ∈ after, noise.IsMarkup := by
      have openingMarkup := markup.1
      rwa [opening] at openingMarkup
    obtain ⟨middle, noise, fields⟩ := stacked_append.mp below
    rw [List.flatMap_cons, Entry.fieldLines, List.cons_append] at fields
    obtain ⟨more'', next', rfl, ends', belowFirst⟩ := fields
    have deeper : (openedAt column margins).headD 0 ≤ column + 1 + more := by omega
    have reads := reads_fields markup deeper ends' belowFirst (closed _ (by omega))
    rw [List.append_assoc] at noise
    have onLine := Reads.carries reads (solid_field hasFirst more'')
    have fields := onLine.noise noiseMarkup noise
    rw [List.append_assoc, List.cons_append]
    refine Reads.carries ?_ (solid_dash column _)
    have apart := atSeparator_tail (.blank gap) ends
    refine reads_dash apart reached fun limit r before stands short => ?_
    exact fields.exists_read stands rfl
      (fun passes => passes_spaced spaced (passes_ends ends passes false) _) short

end Entry

end CatalogAudit.Manifest.Layout
