import CatalogAudit.Manifest.Form
import CatalogAudit.Proofs.Manifest.Decoding.Document
import CatalogAudit.Proofs.Manifest.Layout.Canonical
import CatalogAudit.Proofs.Manifest.Markup.Values
import Mathlib.Data.List.Forall2

/-!
# Where the two forms agree

The line form drops all white space around a plain value, and general markup only spaces and tabs.
So a layout that is valid in both forms means the same manifest in both exactly when no other white
space surrounds its plain tokens and modes. Kinds do not count, since no name of a kind holds any.
A word with such white space behind it shows that both forms can accept a text and disagree about
it.
-/

namespace CatalogAudit.Manifest

open Layout (Declared)

/-- The valid entry is the declared one. -/
structure Matches (d : Declared) (e : Entry) : Prop where
  /-- It has the token. -/
  token : e.token = d.token
  /-- It has the kind of that name. -/
  kind : EffectKind.ofName? d.kind = some e.kind
  /-- It lists the modes. -/
  modes : e.modes = d.modes.getD []

/-- An entry that passes matches what was declared. -/
theorem matches_of_checkEntry {position : Nat} {d : Declared} {e : Entry}
    (valid : checkEntry position d.raw = .ok e) : Matches d e := by
  have isModes : ∀ token, checkModes token d.raw.modes = .ok (d.modes.getD []) := by
    intro token
    rw [Declared.raw]
    cases d.modes <;> rfl
  simp only [checkEntry, isModes] at valid
  split at valid
  · cases valid
  · rename_i token isToken
    split at valid
    · cases valid
    · rename_i kind isKind
      obtain rfl := Except.ok.inj valid
      have named : token = d.token := by
        simp only [Declared.raw, checkToken] at isToken
        split at isToken
        · cases isToken
        · exact (Except.ok.inj isToken).symm
      have known : EffectKind.ofName? d.kind = some kind := by
        simp only [Declared.raw, checkKind] at isKind
        split at isKind
        · rename_i other found
          obtain rfl := Except.ok.inj isKind
          exact found
        · cases isKind
      exact ⟨named, known, rfl⟩

/-- Valid entries are the declared ones in their order. -/
theorem exists_matches_of_validateFrom {declared : List Declared} {valid entries : List Entry}
    {position : Nat} (h : validateFrom valid position (declared.map Declared.raw) = .ok entries) :
    ∃ more, entries = valid.reverse ++ more ∧ List.Forall₂ Matches declared more := by
  induction declared generalizing valid position with
  | nil =>
    obtain rfl : valid.reverse = entries := Except.ok.inj h
    exact ⟨[], (List.append_nil _).symm, .nil⟩
  | cons d declared ih =>
    rw [List.map_cons, validateFrom] at h
    cases check : checkEntry position d.raw with
    | error fault =>
      rw [check] at h
      cases h
    | ok e =>
      rw [check] at h
      simp only at h
      split at h
      · cases h
      · obtain ⟨more, rfl, same⟩ := ih h
        refine ⟨e :: more, ?_, .cons (matches_of_checkEntry check) same⟩
        simp

/-- A manifest that was read from declared entries consists of them. -/
theorem matches_of_ofText {form : Form} {text : List Char} {declared : List Declared} {m : Manifest}
    (parsed : form.parse text = .ok (declared.map Declared.raw)) (read : ofText form text = .ok m) :
    m = ofEntries m.entries ∧ List.Forall₂ Matches declared m.entries := by
  rw [ofText, parsed] at read
  simp only at read
  cases valid : validate (declared.map Declared.raw) with
  | error fault =>
    rw [valid] at read
    cases read
  | ok entries =>
    rw [valid] at read
    obtain rfl : ofEntries entries = m := Except.ok.inj read
    obtain ⟨more, same, matching⟩ := exists_matches_of_validateFrom valid
    rw [List.reverse_nil, List.nil_append] at same
    rw [← same] at matching
    exact ⟨rfl, matching⟩

namespace Layout

/-- The two forms take a value for the same string exactly when nothing but spaces and tabs
surrounds it. -/
theorem Scalar.value_eq_spelled_iff (scalar : Scalar) :
    scalar.value = scalar.spelled ↔ scalar.Trim := by
  cases scalar with
  | quoted q => exact ⟨fun _ => trivial, fun _ => rfl⟩
  | plain p =>
    constructor
    · intro same
      have length := congrArg List.length same
      simp only [value, spelled, Bare.whole, List.length_append] at length
      exact ⟨List.eq_nil_of_length_eq_zero (by omega), List.eq_nil_of_length_eq_zero (by omega)⟩
    · rintro ⟨noneBefore, noneAfter⟩
      rw [value, spelled, Bare.whole, noneBefore, noneAfter, List.nil_append, List.append_nil]

/-- No white space surrounds the name of a kind. -/
theorem Scalar.trim_of_ofName? (scalar : Scalar) {kind : EffectKind}
    (named : EffectKind.ofName? (String.ofList scalar.spelled) = some kind) : scalar.Trim := by
  have name : scalar.spelled = kind.name.toList := by
    rw [EffectKind.name_eq_of_ofName? named, String.toList_ofList]
  have solid : (kind.name.toList.all fun c => !Text.isBlank c) = true := by
    cases kind <;> decide
  rw [← name, List.all_eq_true] at solid
  cases scalar with
  | quoted q => trivial
  | plain p =>
    constructor
    · apply List.eq_nil_iff_forall_not_mem.mpr
      intro c mem
      have noBlank := solid c (List.mem_append_left _ (List.mem_append_left _ mem))
      rw [p.isBlank_before c mem] at noBlank
      cases noBlank
    · apply List.eq_nil_iff_forall_not_mem.mpr
      intro c mem
      have noBlank := solid c (List.mem_append_right _ mem)
      rw [p.isBlank_after c mem] at noBlank
      cases noBlank

/-- Nothing but spaces and tabs surrounds the token and the modes. -/
def Entry.Trim (e : Entry) : Prop :=
  e.token.scalar.Trim ∧ ∀ keyed ∈ e.modes, ∀ scalar ∈ keyed.2.scalars, scalar.Trim

end Layout

/-- An entry that is valid in both forms is the same in both exactly when nothing but spaces and
tabs surrounds its token and its modes. -/
theorem entry_eq_iff {e : Layout.Entry} {x y : Entry} (line : Matches e.declared x)
    (markup : Matches e.spelled y) : x = y ↔ e.Trim := by
  have kinds : x.kind = y.kind := by
    have trim := e.kind.scalar.trim_of_ofName? markup.kind
    have spelled : e.declared.kind = e.spelled.kind :=
      congrArg String.ofList (e.kind.scalar.value_eq_spelled_iff.mpr trim)
    have same := line.kind
    rw [spelled, markup.kind] at same
    exact (Option.some.inj same).symm
  have tokens : x.token = y.token ↔ e.token.scalar.Trim := by
    rw [line.token, markup.token, ← e.token.scalar.value_eq_spelled_iff]
    exact String.ofList_inj
  have modes : x.modes = y.modes ↔
      ∀ keyed ∈ e.modes, ∀ scalar ∈ keyed.2.scalars, scalar.Trim := by
    rw [line.modes, markup.modes, Layout.Entry.declared, Layout.Entry.spelled]
    cases e.modes with
    | none => simp
    | some keyed =>
      have strings : ∀ scalar : Layout.Scalar,
          (String.ofList ∘ Layout.Scalar.value) scalar =
            (String.ofList ∘ Layout.Scalar.spelled) scalar ↔ scalar.Trim := by
        intro scalar
        rw [← scalar.value_eq_spelled_iff]
        exact String.ofList_inj
      simp only [Option.map_some, Option.getD_some, keyed.2.values_eq, Layout.Modes.spelled,
        List.map_map, List.map_inj_left, strings, Option.mem_some_iff, forall_eq']
  have parts : x = y ↔ x.token = y.token ∧ x.kind = y.kind ∧ x.modes = y.modes := by
    cases x
    cases y
    rw [Entry.mk.injEq]
  rw [parts, Layout.Entry.Trim, tokens, modes]
  constructor
  · rintro ⟨token, -, modes⟩
    exact ⟨token, modes⟩
  · rintro ⟨token, modes⟩
    exact ⟨token, kinds, modes⟩

/-- Both readings agree exactly when no blank at the end of a text is trimmed. -/
theorem entries_eq_iff {es : List Layout.Entry} {xs ys : List Entry}
    (line : List.Forall₂ Matches (es.map Layout.Entry.declared) xs)
    (markup : List.Forall₂ Matches (es.map Layout.Entry.spelled) ys) :
    xs = ys ↔ ∀ e ∈ es, e.Trim := by
  induction es generalizing xs ys with
  | nil =>
    cases line
    cases markup
    simp
  | cons e es ih =>
    cases line with
    | cons first others =>
      cases markup with
      | cons first' others' =>
        rw [List.cons.injEq, entry_eq_iff first first', ih others others', List.forall_mem_cons]

/-- A layout of a manifest that is valid in both forms is the same manifest in both exactly when
nothing but spaces and tabs surrounds the tokens and modes that stand without quotes. -/
theorem ofText_eq_iff_trim (doc : Layout.Document) (markup : doc.IsMarkup) {m m' : Manifest}
    (line : ofText .line doc.text = .ok m) (structured : ofText .structured doc.text = .ok m') :
    m = m' ↔ ∀ e ∈ doc.entries, e.Trim := by
  have parsed : Form.line.parse doc.text = .ok (doc.declared.map Declared.raw) :=
    Line.parse_text doc
  have parsed' : Form.structured.parse doc.text = .ok (doc.spelled.map Declared.raw) :=
    Structured.parse_text doc markup
  obtain ⟨isLine, lineEntries⟩ := matches_of_ofText parsed line
  obtain ⟨isMarkup, markupEntries⟩ := matches_of_ofText parsed' structured
  rw [← entries_eq_iff lineEntries markupEntries]
  constructor
  · intro same
    rw [same]
  · intro same
    rw [isLine, isMarkup, same]

namespace Layout

/-- A manifest of one effect, with that word for its token. -/
def paddedDocument : Document :=
  { Document.ofDeclared [] with
    entries :=
      [{ Entry.ofDeclared ⟨"blur", "effect", none⟩ with
          token := { Assignment.ofString _ "blur" with scalar := .plain paddedWord } }] }

example : String.ofList paddedDocument.text =
    "entries:\n- token: blur\u00a0\n  kind: \"effect\"\n" := by decide

/-- The document is one for both readers. -/
theorem isMarkup_paddedDocument : paddedDocument.IsMarkup where
  allowed := List.all_eq_true.mp (by decide)
  head := nofun
  mark := nofun
  key := ⟨by decide, by decide⟩
  tail := trivial
  after := nofun
  entries := by
    intro e member
    obtain rfl := List.mem_singleton.mp member
    exact ⟨trivial, ⟨⟨by decide, by decide⟩, by decide, trivial, nofun⟩,
      ⟨⟨by decide, by decide⟩, by decide, trivial, nofun⟩, nofun⟩

end Layout

open Layout (paddedDocument isMarkup_paddedDocument)

/-- The line reader drops the blank. -/
theorem ofText_line_paddedDocument :
    ofText .line paddedDocument.text = .ok (ofEntries [⟨"blur", .effect, []⟩]) := by
  decide +kernel

/-- The structured reader keeps it. -/
theorem ofText_structured_paddedDocument :
    ofText .structured paddedDocument.text = .ok (ofEntries [⟨"blur\u00a0", .effect, []⟩]) := by
  decide +kernel

/-- Both forms read the manifest with the padded word, and its token is not trim. -/
theorem ofText_eq_iff_trim_padded :
    paddedDocument.IsMarkup ∧
      (ofEntries [⟨"blur", .effect, []⟩] = ofEntries [⟨"blur\u00a0", .effect, []⟩] ↔
        ∀ e ∈ paddedDocument.entries, e.Trim) :=
  ⟨isMarkup_paddedDocument, ofText_eq_iff_trim paddedDocument isMarkup_paddedDocument
    ofText_line_paddedDocument ofText_structured_paddedDocument⟩

/-- A text that both forms read without a fault, but not as the same manifest. -/
theorem exists_forms_disagree :
    ∃ text m m', ofText .line text = .ok m ∧ ofText .structured text = .ok m' ∧ m ≠ m' :=
  ⟨paddedDocument.text, _, _, ofText_line_paddedDocument, ofText_structured_paddedDocument,
    by decide⟩

end CatalogAudit.Manifest
