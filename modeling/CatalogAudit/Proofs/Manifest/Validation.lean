import CatalogAudit.Manifest.Form
import CatalogAudit.Proofs.Manifest.Catalog
import Mathlib.Data.Finset.Card
import Mathlib.Data.List.Forall2

/-!
# What validation accepts and what it blames

A manifest is valid exactly when each entry is well formed by itself and no token comes twice, and
the valid entries are then those written. Otherwise the entries before the first one at fault are
valid together, and of what is wrong with that entry the first thing in the order token, kind,
modes, repeated token is reported. Because tokens come once, the index of a catalog that was read
leads from each token to its only entry.
-/

namespace CatalogAudit.Manifest

/-- The entry has that token, and the token is not empty. -/
structure RawEntry.HasToken (raw : RawEntry) (token : String) : Prop where
  /-- It is the string written for the key. -/
  written : raw.token = some (.text token)
  /-- There is something in it. -/
  filled : token ≠ ""

/-- The entry says which of the kinds it is. -/
def RawEntry.HasKind (raw : RawEntry) : Prop :=
  ∃ kind : EffectKind, raw.kind = some (.text kind.name)

/-- Nothing is wrong with the entry by itself. -/
structure RawEntry.WellFormed (raw : RawEntry) : Prop where
  /-- It has a token. -/
  token : ∃ token, raw.HasToken token
  /-- It has a kind. -/
  kind : raw.HasKind
  /-- Its modes are absent or a list of strings. -/
  modes : raw.modes = .absent ∨ ∃ modes, raw.modes = .list modes

/-- The valid entry says what is written. -/
structure Describes (raw : RawEntry) (e : Entry) : Prop where
  /-- It has the token written. -/
  token : raw.HasToken e.token
  /-- It has the kind of the name written. -/
  kind : raw.kind = some (.text e.kind.name)
  /-- It lists the modes written, none where they are absent. -/
  modes : raw.modes = .absent ∧ e.modes = [] ∨ raw.modes = .list e.modes

/-- What the entry at a position is blamed for when those tokens came before it. -/
inductive Blames (earlier : List String) (position : Nat) (raw : RawEntry) : EntryFault → Prop
  /-- It has no token, or an empty one. -/
  | tokenMissing (missing : raw.token = none ∨ raw.token = some (.text "")) :
    Blames earlier position raw (.tokenMissing position)
  /-- Its token is no string. -/
  | tokenNotString {found : ValueType} (written : raw.token = some (.other found)) :
    Blames earlier position raw (.tokenNotString position found)
  /-- It has a token and no kind. -/
  | kindMissing {token : String} (named : raw.HasToken token) (missing : raw.kind = none) :
    Blames earlier position raw (.kindMissing token)
  /-- It has a token, and its kind is no string. -/
  | kindNotString {token : String} {found : ValueType} (named : raw.HasToken token)
    (written : raw.kind = some (.other found)) :
    Blames earlier position raw (.kindNotString token found)
  /-- It has a token, and its kind is the name of no kind. -/
  | kindUnknown {token name : String} (named : raw.HasToken token)
    (written : raw.kind = some (.text name)) (unknown : ∀ kind : EffectKind, kind.name ≠ name) :
    Blames earlier position raw (.kindUnknown token name)
  /-- It has a token and a kind, and its modes are no list of strings. -/
  | modesNotList {token : String} (named : raw.HasToken token) (kind : raw.HasKind)
    (written : raw.modes = .invalid) : Blames earlier position raw (.modesNotList token)
  /-- It is well formed, and its token came before. -/
  | repeatedToken {token : String} (named : raw.HasToken token) (formed : raw.WellFormed)
    (seen : token ∈ earlier) : Blames earlier position raw (.repeatedToken token)

/-- The name by which a message calls the entry at a position: its token, or the position where it
has none. -/
def RawEntry.nameAt (raw : RawEntry) (position : Nat) : String :=
  match raw.token with
  | some (.text token) => if token = "" then placeName position else token
  | _ => placeName position

variable {raw : RawEntry} {position : Nat} {earlier : List String}

/-- An entry has one token. -/
theorem RawEntry.HasToken.unique {token token' : String} (first : raw.HasToken token)
    (second : raw.HasToken token') : token = token' := by
  have same := first.written.symm.trans second.written
  injection same with same
  injection same

/-- An entry with a token is called by it, wherever it stands. -/
theorem RawEntry.HasToken.nameAt {token : String} (named : raw.HasToken token) (position : Nat) :
    raw.nameAt position = token := by
  rw [RawEntry.nameAt, named.written]
  exact if_neg named.filled

/-! ### One entry -/

/-- The token passes exactly when the entry has it. -/
theorem checkToken_eq_ok_iff {token : String} :
    checkToken position raw.token = .ok token ↔ raw.HasToken token := by
  constructor
  · intro passed
    unfold checkToken at passed
    split at passed
    · rename_i written
      split at passed
      · cases passed
      · rename_i filled
        obtain rfl := Except.ok.inj passed
        exact ⟨written, by simpa using filled⟩
    · cases passed
    · cases passed
  · rintro ⟨written, filled⟩
    rw [written, checkToken, if_neg]
    simpa using filled

/-- The kind passes exactly when it is the name of that kind. -/
theorem checkKind_eq_ok_iff {token : String} {kind : EffectKind} :
    checkKind token raw.kind = .ok kind ↔ raw.kind = some (.text kind.name) := by
  constructor
  · intro passed
    unfold checkKind at passed
    split at passed
    · rename_i written
      split at passed
      · rename_i known
        obtain rfl := Except.ok.inj passed
        rw [written, EffectKind.name_eq_of_ofName? known]
      · cases passed
    · cases passed
    · cases passed
  · intro written
    rw [written, checkKind, EffectKind.ofName?_name]

/-- The modes pass when there are none or when they are a list of strings. -/
theorem checkModes_eq_ok_iff {token : String} {modes : List String} :
    checkModes token raw.modes = .ok modes ↔
      raw.modes = .absent ∧ modes = [] ∨ raw.modes = .list modes := by
  cases raw.modes with
  | absent => simp [checkModes, eq_comm]
  | list written => simp [checkModes]
  | invalid => simp [checkModes]

/-- The fault of a token that does not pass is to blame. -/
theorem blames_of_checkToken {fault : EntryFault}
    (refused : checkToken position raw.token = .error fault) :
    Blames earlier position raw fault := by
  unfold checkToken at refused
  split at refused
  · rename_i written
    split at refused
    · rename_i empty
      obtain rfl := Except.error.inj refused
      exact .tokenMissing (.inr (by rw [written, String.isEmpty_iff.mp empty]))
    · cases refused
  · rename_i written
    obtain rfl := Except.error.inj refused
    exact .tokenNotString written
  · rename_i missing
    obtain rfl := Except.error.inj refused
    exact .tokenMissing (.inl missing)

/-- The fault of a kind that does not pass is to blame, once the token has passed. -/
theorem blames_of_checkKind {token : String} {fault : EntryFault} (named : raw.HasToken token)
    (refused : checkKind token raw.kind = .error fault) : Blames earlier position raw fault := by
  unfold checkKind at refused
  split at refused
  · rename_i name written
    split at refused
    · cases refused
    · rename_i unknown
      obtain rfl := Except.error.inj refused
      refine .kindUnknown named written fun kind same => ?_
      rw [← same, EffectKind.ofName?_name] at unknown
      cases unknown
  · rename_i written
    obtain rfl := Except.error.inj refused
    exact .kindNotString named written
  · rename_i missing
    obtain rfl := Except.error.inj refused
    exact .kindMissing named missing

/-- The fault of modes that do not pass is to blame, once token and kind have passed. -/
theorem blames_of_checkModes {token : String} {fault : EntryFault} (named : raw.HasToken token)
    (kind : raw.HasKind) (refused : checkModes token raw.modes = .error fault) :
    Blames earlier position raw fault := by
  unfold checkModes at refused
  split at refused
  · cases refused
  · cases refused
  · rename_i invalid
    obtain rfl := Except.error.inj refused
    exact .modesNotList named kind invalid

/-- An entry passes by itself exactly as what it describes. -/
theorem checkEntry_eq_ok_iff {e : Entry} : checkEntry position raw = .ok e ↔ Describes raw e := by
  constructor
  · intro passed
    unfold checkEntry at passed
    split at passed
    · cases passed
    rename_i token isToken
    split at passed
    · cases passed
    rename_i kind isKind
    split at passed
    · cases passed
    rename_i modes isModes
    obtain rfl := Except.ok.inj passed
    exact ⟨checkToken_eq_ok_iff.mp isToken, checkKind_eq_ok_iff.mp isKind,
      checkModes_eq_ok_iff.mp isModes⟩
  · rintro ⟨named, kind, modes⟩
    simp only [checkEntry, checkToken_eq_ok_iff.mpr named, checkKind_eq_ok_iff.mpr kind,
      checkModes_eq_ok_iff.mpr modes]

/-- What an entry is refused for by itself is what it is blamed for, whatever came before. -/
theorem blames_of_checkEntry {fault : EntryFault}
    (refused : checkEntry position raw = .error fault) : Blames earlier position raw fault := by
  unfold checkEntry at refused
  split at refused
  · rename_i isToken
    obtain rfl := Except.error.inj refused
    exact blames_of_checkToken isToken
  rename_i token isToken
  have named := checkToken_eq_ok_iff.mp isToken
  split at refused
  · rename_i isKind
    obtain rfl := Except.error.inj refused
    exact blames_of_checkKind named isKind
  rename_i kind isKind
  split at refused
  · rename_i isModes
    obtain rfl := Except.error.inj refused
    exact blames_of_checkModes named ⟨kind, checkKind_eq_ok_iff.mp isKind⟩ isModes
  · cases refused

/-- An entry is well formed when it describes a valid one. -/
theorem RawEntry.wellFormed_iff : raw.WellFormed ↔ ∃ e, Describes raw e := by
  constructor
  · rintro ⟨⟨token, named⟩, ⟨kind, isKind⟩, absent | ⟨modes, listed⟩⟩
    · exact ⟨⟨token, kind, []⟩, named, isKind, .inl ⟨absent, rfl⟩⟩
    · exact ⟨⟨token, kind, modes⟩, named, isKind, .inr listed⟩
  · rintro ⟨e, named, kind, modes⟩
    exact ⟨⟨_, named⟩, ⟨_, kind⟩, modes.imp And.left fun listed => ⟨_, listed⟩⟩

/-- What an entry is blamed for, it is blamed for when still more tokens came before. -/
theorem Blames.mono {later : List String} {fault : EntryFault}
    (blamed : Blames earlier position raw fault) (within : earlier ⊆ later) :
    Blames later position raw fault := by
  cases blamed with
  | tokenMissing missing => exact .tokenMissing missing
  | tokenNotString written => exact .tokenNotString written
  | kindMissing named missing => exact .kindMissing named missing
  | kindNotString named written => exact .kindNotString named written
  | kindUnknown named written unknown => exact .kindUnknown named written unknown
  | modesNotList named kind written => exact .modesNotList named kind written
  | repeatedToken named formed seen => exact .repeatedToken named formed (within seen)

/-- A message about a field names its entry in quotes. -/
theorem exists_fieldMessage_eq (name field reason : String) : ∃ opening rest,
    fieldMessage name field reason = opening ++ Text.quotedString name ++ rest := by
  have regrouped : ∀ a b c d e f : String,
      a ++ b ++ c ++ d ++ e ++ f = a ++ b ++ (c ++ d ++ e ++ f) := by
    intro a b c d e f
    simp only [String.append_assoc]
  exact ⟨_, _, regrouped _ _ _ _ _ _⟩

/-- The message about an entry quotes the token of the entry, or its position where the token is at
fault. -/
theorem Blames.exists_message_eq {fault : EntryFault} (blamed : Blames earlier position raw fault) :
    ∃ opening reason,
      fault.message = opening ++ Text.quotedString (raw.nameAt position) ++ reason := by
  cases blamed with
  | tokenMissing missing =>
    have unnamed : raw.nameAt position = placeName position := by
      obtain missing | empty := missing
      · rw [RawEntry.nameAt, missing]
      · rw [RawEntry.nameAt, empty]
        exact if_pos rfl
    rw [unnamed]
    exact exists_fieldMessage_eq _ _ _
  | tokenNotString written =>
    have unnamed : raw.nameAt position = placeName position := by
      rw [RawEntry.nameAt, written]
    rw [unnamed]
    exact exists_fieldMessage_eq _ _ _
  | kindMissing named missing =>
    rw [named.nameAt]
    exact exists_fieldMessage_eq _ _ _
  | kindNotString named written =>
    rw [named.nameAt]
    exact exists_fieldMessage_eq _ _ _
  | kindUnknown named written unknown =>
    rw [named.nameAt]
    exact exists_fieldMessage_eq _ _ _
  | modesNotList named kind written =>
    rw [named.nameAt]
    exact exists_fieldMessage_eq _ _ _
  | repeatedToken named formed seen =>
    rw [named.nameAt]
    exact ⟨_, "", String.append_empty.symm⟩

/-! ### The entries in turn -/

variable {valid : List Entry} {rest : List RawEntry}

/-- An entry that describes a valid one with a new token is kept, and the next one is looked at. -/
theorem validateFrom_cons_of_describes {e : Entry} (describes : Describes raw e)
    (fresh : e.token ∉ valid.map (·.token)) :
    validateFrom valid position (raw :: rest) = validateFrom (e :: valid) (position + 1) rest := by
  have unseen : ¬(valid.any fun earlier => earlier.token == e.token) = true := by
    intro seen
    obtain ⟨earlier, member, same⟩ := List.any_eq_true.mp seen
    exact fresh (List.mem_map.mpr ⟨earlier, member, eq_of_beq same⟩)
  simp only [validateFrom, checkEntry_eq_ok_iff.mpr describes, if_neg unseen]

/-- An entry to blame ends validation, whatever comes behind it. -/
theorem validateFrom_cons_of_blames {fault : EntryFault}
    (blamed : Blames (valid.map (·.token)) position raw fault) :
    validateFrom valid position (raw :: rest) = .error fault := by
  cases blamed with
  | tokenMissing missing =>
    obtain missing | empty := missing
    · simp only [validateFrom, checkEntry, missing, checkToken]
    · have isEmpty : "".isEmpty = true := rfl
      simp only [validateFrom, checkEntry, empty, checkToken, if_pos isEmpty]
  | tokenNotString written => simp only [validateFrom, checkEntry, written, checkToken]
  | kindMissing named missing =>
    simp only [validateFrom, checkEntry, checkToken_eq_ok_iff.mpr named, missing, checkKind]
  | kindNotString named written =>
    simp only [validateFrom, checkEntry, checkToken_eq_ok_iff.mpr named, written, checkKind]
  | kindUnknown named written unknown =>
    rename_i token name
    have none : EffectKind.ofName? name = none := by
      cases found : EffectKind.ofName? name with
      | none => rfl
      | some kind => exact absurd (EffectKind.name_eq_of_ofName? found) (unknown kind)
    simp only [validateFrom, checkEntry, checkToken_eq_ok_iff.mpr named, written, checkKind, none]
  | modesNotList named kind written =>
    obtain ⟨kind, isKind⟩ := kind
    simp only [validateFrom, checkEntry, checkToken_eq_ok_iff.mpr named,
      checkKind_eq_ok_iff.mpr isKind, written, checkModes]
  | repeatedToken named formed seen =>
    obtain ⟨e, describes⟩ := RawEntry.wellFormed_iff.mp formed
    obtain rfl := describes.token.unique named
    obtain ⟨earlier, member, same⟩ := List.mem_map.mp seen
    have found : (valid.any fun earlier => earlier.token == e.token) = true :=
      List.any_eq_true.mpr ⟨earlier, member, beq_iff_eq.mpr same⟩
    simp only [validateFrom, checkEntry_eq_ok_iff.mpr describes, if_pos found]

/-- An entry describes a valid one with a new token, or it is to blame. -/
theorem describes_or_blames (earlier : List String) (position : Nat) (raw : RawEntry) :
    (∃ e, Describes raw e ∧ e.token ∉ earlier) ∨ ∃ fault, Blames earlier position raw fault := by
  cases check : checkEntry position raw with
  | error fault => exact .inr ⟨fault, blames_of_checkEntry check⟩
  | ok e =>
    have describes := checkEntry_eq_ok_iff.mp check
    by_cases seen : e.token ∈ earlier
    · have formed := RawEntry.wellFormed_iff.mpr ⟨e, describes⟩
      exact .inr ⟨_, .repeatedToken describes.token formed seen⟩
    · exact .inl ⟨e, describes, seen⟩

/-- Valid entries are those written, in their order. -/
theorem exists_describes_of_validateFrom {raws : List RawEntry} {entries : List Entry}
    (h : validateFrom valid position raws = .ok entries) :
    ∃ more, entries = valid.reverse ++ more ∧ List.Forall₂ Describes raws more := by
  induction raws generalizing valid position with
  | nil =>
    obtain rfl : valid.reverse = entries := Except.ok.inj h
    exact ⟨[], (List.append_nil _).symm, .nil⟩
  | cons first rest ih =>
    obtain ⟨e, describes, fresh⟩ | ⟨fault, blamed⟩ :=
      describes_or_blames (valid.map (·.token)) position first
    · rw [validateFrom_cons_of_describes describes fresh] at h
      obtain ⟨more, rfl, all⟩ := ih h
      refine ⟨e :: more, ?_, .cons describes all⟩
      rw [List.reverse_cons, List.append_assoc, List.singleton_append]
    · rw [validateFrom_cons_of_blames blamed] at h
      cases h

/-- Entries that describe valid ones with distinct tokens are valid together. -/
theorem validateFrom_of_describes {raws : List RawEntry} {more : List Entry}
    (all : List.Forall₂ Describes raws more)
    (distinct : ((valid.reverse ++ more).map (·.token)).Nodup) :
    validateFrom valid position raws = .ok (valid.reverse ++ more) := by
  induction all generalizing valid position with
  | nil => rw [validateFrom, List.append_nil]
  | @cons first e rest more describes _ ih =>
    have shifted : valid.reverse ++ e :: more = (e :: valid).reverse ++ more := by
      rw [List.reverse_cons, List.append_assoc, List.singleton_append]
    have fresh : e.token ∉ valid.map (·.token) := by
      intro seen
      rw [List.map_append, List.map_reverse, List.map_cons] at distinct
      exact List.disjoint_of_nodup_append distinct (List.mem_reverse.mpr seen)
        List.mem_cons_self
    rw [shifted] at distinct ⊢
    rw [validateFrom_cons_of_describes describes fresh]
    exact ih distinct

/-- Behind entries that are valid together, validation goes on with what they describe. -/
theorem validateFrom_append {before : List RawEntry} {kept : List Entry}
    (passed : validateFrom valid position before = .ok kept) (rest : List RawEntry) :
    validateFrom valid position (before ++ rest) =
      validateFrom kept.reverse (position + before.length) rest := by
  induction before generalizing valid position with
  | nil =>
    obtain rfl : valid.reverse = kept := Except.ok.inj passed
    rw [List.reverse_reverse, List.nil_append, List.length_nil, Nat.add_zero]
  | cons first before ih =>
    obtain ⟨e, describes, fresh⟩ | ⟨fault, blamed⟩ :=
      describes_or_blames (valid.map (·.token)) position first
    · rw [validateFrom_cons_of_describes describes fresh] at passed
      rw [List.cons_append, validateFrom_cons_of_describes describes fresh, ih passed,
        List.length_cons, Nat.add_right_comm, Nat.add_assoc]
    · rw [validateFrom_cons_of_blames blamed] at passed
      cases passed

/-- Validation fails with the fault of the first entry that is not valid behind those before it. -/
theorem exists_blames_of_validateFrom {raws : List RawEntry} {fault : EntryFault}
    (refused : validateFrom valid position raws = .error fault) :
    ∃ before first after kept, raws = before ++ first :: after ∧
      validateFrom valid position before = .ok kept ∧
      Blames (kept.map (·.token)) (position + before.length) first fault := by
  induction raws generalizing valid position with
  | nil => cases refused
  | cons first rest ih =>
    obtain ⟨e, describes, fresh⟩ | ⟨fault', blamed⟩ :=
      describes_or_blames (valid.map (·.token)) position first
    · rw [validateFrom_cons_of_describes describes fresh] at refused
      obtain ⟨before, culprit, after, kept, rfl, passed, blamed⟩ := ih refused
      rw [← validateFrom_cons_of_describes describes fresh] at passed
      rw [Nat.add_right_comm] at blamed
      exact ⟨first :: before, culprit, after, kept, rfl, passed, blamed⟩
    · rw [validateFrom_cons_of_blames blamed] at refused
      obtain rfl := Except.error.inj refused
      refine ⟨[], first, rest, valid.reverse, rfl, rfl, blamed.mono ?_⟩
      intro token seen
      rw [List.map_reverse]
      exact List.mem_reverse.mpr seen

/-- The tokens written are those of the entries described. -/
theorem map_token_of_describes {raws : List RawEntry} {entries : List Entry}
    (all : List.Forall₂ Describes raws entries) :
    raws.map (·.token) = (entries.map (·.token)).map (some ∘ RawValue.text) := by
  induction all with
  | nil => rfl
  | cons describes _ ih =>
    simp only [List.map_cons, ih, describes.token.written, Function.comp_apply]

/-- Entries that describe valid ones have distinct tokens when those have. -/
theorem nodup_token_iff_of_describes {raws : List RawEntry} {entries : List Entry}
    (all : List.Forall₂ Describes raws entries) :
    (raws.map (·.token)).Nodup ↔ (entries.map (·.token)).Nodup := by
  have injective : Function.Injective (some ∘ RawValue.text) := by
    intro token token' same
    injection same with same
    injection same
  rw [map_token_of_describes all, List.nodup_map_iff injective]

/-- Well-formed entries describe valid ones. -/
theorem exists_describes_of_wellFormed {raws : List RawEntry}
    (formed : ∀ raw ∈ raws, raw.WellFormed) : ∃ entries, List.Forall₂ Describes raws entries := by
  induction raws with
  | nil => exact ⟨[], .nil⟩
  | cons first rest ih =>
    obtain ⟨entries, all⟩ := ih fun raw member => formed raw (List.mem_cons_of_mem _ member)
    obtain ⟨e, describes⟩ := RawEntry.wellFormed_iff.mp (formed first List.mem_cons_self)
    exact ⟨e :: entries, .cons describes all⟩

/-- Entries that describe valid ones are well formed. -/
theorem wellFormed_of_describes {raws : List RawEntry} {entries : List Entry}
    (all : List.Forall₂ Describes raws entries) : ∀ raw ∈ raws, raw.WellFormed := by
  induction all with
  | nil => exact fun raw member => absurd member List.not_mem_nil
  | cons describes _ ih =>
    intro raw member
    obtain rfl | member := List.mem_cons.mp member
    · exact RawEntry.wellFormed_iff.mpr ⟨_, describes⟩
    · exact ih raw member

/-- Entries are valid as certain ones exactly when they describe those and the tokens are
distinct. -/
theorem validate_eq_ok_iff {raws : List RawEntry} {entries : List Entry} :
    validate raws = .ok entries ↔
      List.Forall₂ Describes raws entries ∧ (entries.map (·.token)).Nodup := by
  constructor
  · intro passed
    obtain ⟨more, same, all⟩ := exists_describes_of_validateFrom passed
    rw [List.reverse_nil, List.nil_append] at same
    rw [same]
    exact ⟨all, same ▸ nodup_of_validate passed⟩
  · rintro ⟨all, distinct⟩
    exact validateFrom_of_describes all distinct

/-- Entries are refused for what is wrong with the one behind the longest beginning that is
valid. -/
theorem validate_eq_error_iff {raws : List RawEntry} {fault : EntryFault} :
    validate raws = .error fault ↔ ∃ before first after valid,
      raws = before ++ first :: after ∧ validate before = .ok valid ∧
        Blames (valid.map (·.token)) (before.length + 1) first fault := by
  constructor
  · intro refused
    obtain ⟨before, first, after, valid, split, passed, blamed⟩ :=
      exists_blames_of_validateFrom refused
    rw [Nat.add_comm] at blamed
    exact ⟨before, first, after, valid, split, passed, blamed⟩
  · rintro ⟨before, first, after, valid, rfl, passed, blamed⟩
    rw [validate, validateFrom_append passed, Nat.add_comm]
    refine validateFrom_cons_of_blames (blamed.mono fun token seen => ?_)
    rw [List.map_reverse]
    exact List.mem_reverse.mpr seen

/-! ### The catalog -/

/-- The index of a catalog leads from each token to its only entry. -/
structure IsIndexed (m : Manifest) : Prop where
  /-- The catalog contains the tokens of its entries. -/
  contains : ∀ token, m.contains token = true ↔ token ∈ m.tokens
  /-- A token is looked up as the entry that has it, at the one position where one does. -/
  get : ∀ token e, m.get? token = some e ↔ ∃ position : Nat, m.entries[position]? = some e ∧
    e.token = token ∧ ∀ (other : Nat) (e' : Entry), m.entries[other]? = some e' →
      e'.token = token → other = position
  /-- There are as many keys as entries. -/
  keys : m.index.names.toFinset.card = m.size

/-- What the index leads to is an entry that has the token. -/
theorem exists_entry_of_index {entries : List Entry} {token : String} {place : Nat}
    (found : (ofEntries entries).index.get? token = some place) :
    ∃ e, entries[place]? = some e ∧ e.token = token := by
  have row := NameTable.mem_of_mem_rows_ofRows (NameTable.get?_eq_some_iff.mp found)
  simp only [List.mem_map, Prod.exists, Prod.mk.injEq, List.mem_zipIdx_iff_getElem?] at row
  obtain ⟨e, _, written, named, rfl⟩ := row
  exact ⟨e, written, named⟩

/-- Entries with distinct tokens stand at one position for each token. -/
theorem position_unique {entries : List Entry} (distinct : (entries.map (·.token)).Nodup)
    {i j : Nat} {e e' : Entry} (first : entries[i]? = some e) (second : entries[j]? = some e')
    (same : e.token = e'.token) : i = j := by
  have inBounds : i < (entries.map (·.token)).length := by
    rw [List.length_map]
    exact (List.getElem?_eq_some_iff.mp first).1
  refine (List.getElem?_inj inBounds distinct).mp ?_
  rw [List.getElem?_map, List.getElem?_map, first, second, Option.map_some, Option.map_some, same]

/-- Distinct tokens are indexed. -/
theorem isIndexed_ofEntries {entries : List Entry} (distinct : (entries.map (·.token)).Nodup) :
    IsIndexed (ofEntries entries) := by
  refine ⟨fun token => contains_iff, fun token e => ?_, ?_⟩
  · constructor
    · intro found
      unfold get? at found
      split at found
      · rename_i place isPlace
        obtain ⟨e', written, named⟩ := exists_entry_of_index isPlace
        obtain rfl : e' = e := Option.some.inj (written.symm.trans found)
        refine ⟨place, written, named, fun other e'' stands same => ?_⟩
        exact position_unique distinct stands written (same.trans named.symm)
      · cases found
    · rintro ⟨place, written, named, -⟩
      have isToken : token ∈ (ofEntries entries).tokens :=
        List.mem_map.mpr ⟨e, List.mem_of_getElem? written, named⟩
      obtain ⟨place', isPlace⟩ := Option.isSome_iff_exists.mp
        (NameTable.mem_names_iff.mp (mem_names_index_iff.mpr isToken))
      obtain ⟨e', written', named'⟩ := exists_entry_of_index isPlace
      obtain rfl := position_unique distinct written' written (named'.trans named.symm)
      rw [get?, isPlace]
      exact written
  · have keys : (ofEntries entries).index.names.toFinset = (entries.map (·.token)).toFinset := by
      ext token
      rw [List.mem_toFinset, List.mem_toFinset, mem_names_index_iff]
      rfl
    rw [keys, List.toFinset_card_of_nodup distinct, ofEntries, size, List.length_map]

/-- Validation accepts and refuses as the entries say. -/
structure IsExact (raws : List RawEntry) : Prop where
  /-- It accepts well-formed entries with distinct tokens, and no others. -/
  accepts : (∃ entries, validate raws = .ok entries) ↔
    (∀ raw ∈ raws, raw.WellFormed) ∧ (raws.map (·.token)).Nodup
  /-- What it gives are the entries written, one for one and in their order. -/
  describes : ∀ entries, validate raws = .ok entries → List.Forall₂ Describes raws entries
  /-- It refuses for what is wrong with the entry behind the longest beginning that is valid, and
  says so by the name of that entry. -/
  refuses : ∀ fault, validate raws = .error fault ↔ ∃ before first after valid,
    raws = before ++ first :: after ∧ validate before = .ok valid ∧
      Blames (valid.map (·.token)) (before.length + 1) first fault
  /-- The message names the entry at fault. -/
  names : ∀ fault, validate raws = .error fault → ∃ before first after,
    raws = before ++ first :: after ∧ (∃ valid, validate before = .ok valid) ∧
      ∃ opening reason, fault.message =
        opening ++ Text.quotedString (first.nameAt (before.length + 1)) ++ reason

/-- Validation is exact. -/
theorem validate_isExact (raws : List RawEntry) : IsExact raws where
  accepts := by
    constructor
    · rintro ⟨entries, passed⟩
      obtain ⟨all, distinct⟩ := validate_eq_ok_iff.mp passed
      exact ⟨wellFormed_of_describes all, (nodup_token_iff_of_describes all).mpr distinct⟩
    · rintro ⟨formed, distinct⟩
      obtain ⟨entries, all⟩ := exists_describes_of_wellFormed formed
      have distinct := (nodup_token_iff_of_describes all).mp distinct
      exact ⟨entries, validate_eq_ok_iff.mpr ⟨all, distinct⟩⟩
  describes entries passed := (validate_eq_ok_iff.mp passed).1
  refuses fault := validate_eq_error_iff
  names fault refused := by
    obtain ⟨before, first, after, valid, split, passed, blamed⟩ := validate_eq_error_iff.mp refused
    exact ⟨before, first, after, split, ⟨valid, passed⟩, blamed.exists_message_eq⟩

/-- A manifest that is read consists of valid entries. -/
theorem exists_validate_of_ofText {form : Form} {text : List Char} {m : Manifest}
    (read : ofText form text = .ok m) :
    ∃ raws entries, form.parse text = .ok raws ∧ validate raws = .ok entries ∧
      m = ofEntries entries := by
  unfold ofText at read
  split at read
  · cases read
  · rename_i raws parsed
    split at read
    · cases read
    · rename_i entries passed
      exact ⟨raws, entries, parsed, passed, (Except.ok.inj read).symm⟩

end CatalogAudit.Manifest
