import CatalogAudit.Proofs.Manifest.Layout.Document

/-!
# A layout for every manifest

Whatever strings the tokens, kinds and modes of a manifest are, there is a layout that says so. All
values stand in double quotes; visible ASCII characters stand for themselves, and everything else is
written by its number, so that the text is plain ASCII.
-/

namespace CatalogAudit.Manifest.Layout

/-- A hexadecimal digit. -/
def hexDigit (n : Nat) : Char :=
  if n < 10 then Char.ofNat (0x30 + n) else Char.ofNat (0x61 + (n - 10))

/-- A number below sixteen has a hexadecimal digit. -/
theorem isHexDigit_hexDigit {n : Nat} (fits : n < 16) : Text.HexDigit (hexDigit n) n := by
  rw [hexDigit]
  split
  · rename_i decimal
    exact .decimal decimal
  · rename_i letter
    have value : n = 10 + (n - 10) := by omega
    have digit : Text.HexDigit (Char.ofNat (0x61 + (n - 10))) (10 + (n - 10)) :=
      .small (by omega)
    rwa [← value] at digit

/-- The last hexadecimal digits of a number, as many as `width`. -/
def hexDigits : (width : Nat) → (n : Nat) → List Char
  | 0, _ => []
  | width + 1, n => hexDigits width (n / 16) ++ [hexDigit (n % 16)]

/-- Numbers are written with the digits asked for. -/
theorem length_hexDigits (width n : Nat) : (hexDigits width n).length = width := by
  induction width generalizing n with
  | zero => rfl
  | succ width ih => rw [hexDigits, List.length_append, ih]; rfl

/-- Enough digits write a number. -/
theorem hexNumber_hexDigits {width n : Nat} (fits : n < Nat.pow 16 width) :
    Text.HexNumber (hexDigits width n) n := by
  induction width generalizing n with
  | zero =>
    obtain rfl : n = 0 := Nat.lt_one_iff.mp fits
    exact .nil
  | succ width ih =>
    have fitsRest : n / 16 < Nat.pow 16 width := by
      rw [Nat.div_lt_iff_lt_mul (by decide)]
      exact fits
    have number := (ih fitsRest).snoc (isHexDigit_hexDigit (Nat.mod_lt n (by decide)))
    rwa [Nat.div_add_mod] at number

/-- Whether the character is visible ASCII that stands for itself between double quotes. -/
def isPlainAscii (c : Char) : Bool := ' ' ≤ c && c ≤ '~' && c != '"' && c != '\\'

/-- A plain character stands for itself within quotes. -/
theorem inside_of_isPlainAscii {c : Char} (h : isPlainAscii c = true) :
    c ≠ '"' ∧ c ≠ '\\' ∧ Text.isLineEnd c = false := by
  simp only [isPlainAscii, Bool.and_eq_true, decide_eq_true_eq, bne_iff_ne] at h
  obtain ⟨⟨⟨low, -⟩, noQuote⟩, noBackslash⟩ := h
  refine ⟨noQuote, noBackslash, ?_⟩
  apply Text.isLineEnd_eq_false <;> rintro rfl <;> exact absurd low (by decide)

/-- Eight hexadecimal digits are enough for every character. -/
theorem toNat_lt (c : Char) : c.toNat < Nat.pow 16 8 := c.val.toNat_lt

/-- A way to write a character between double quotes. -/
def Piece.ofChar (c : Char) : Piece :=
  if h : isPlainAscii c = true then .literal c (inside_of_isPlainAscii h)
  else
    .number 'U' (hexDigits 8 c.toNat) c (by rw [length_hexDigits]; decide)
      (hexNumber_hexDigits (toNat_lt c))

/-- The piece of a character stands for it. -/
theorem Piece.char_ofChar (c : Char) : (Piece.ofChar c).char = c := by
  rw [Piece.ofChar]
  split <;> rfl

/-- A way to write a string. -/
def Scalar.ofString (s : String) : Scalar := .quoted (.double (s.toList.map Piece.ofChar))

/-- The scalar of a string has the string as its value. -/
theorem Scalar.value_ofString (s : String) : String.ofList (Scalar.ofString s).value = s := by
  simp [Scalar.ofString, Scalar.value, Quoted.value, Function.comp_def, Piece.char_ofChar]

/-- A key without quotes and gaps. -/
def Key.plain (name : List Char) : Key name := ⟨.bare, Gap.none⟩

/-- A gap of one space. -/
def Gap.one : Gap := Gap.spaces 1

/-- A gap of one space is not empty. -/
theorem Gap.one_ne_nil : Gap.one.text ≠ [] := by decide

/-- A way to write a key with its value. -/
def Assignment.ofString (name : List Char) (s : String) : Assignment name :=
  { key := Key.plain name
    gap := Gap.one
    apart := Gap.one_ne_nil
    scalar := Scalar.ofString s
    tail := .blank Gap.none
    after := [] }

/-- A way to write a list in brackets. -/
def FlowList.ofStrings : List String → FlowList
  | [] => .close Gap.none
  | s :: rest => .more ⟨Gap.none, Scalar.ofString s, trivial, Gap.none⟩ (ofStrings rest)

/-- The list of some strings has the strings as its values. -/
theorem FlowList.values_ofStrings (strings : List String) :
    (FlowList.ofStrings strings).values.map String.ofList = strings := by
  induction strings with
  | nil => rfl
  | cons s strings ih =>
    rw [FlowList.ofStrings, FlowList.values, List.map_cons, ih, Scalar.value_ofString]

/-- A way to write modes. -/
def Modes.ofStrings (modes : List String) : Modes :=
  .inline Gap.one Gap.one_ne_nil (FlowList.ofStrings modes) (.blank Gap.none) []

/-- A way to write an entry: token, kind and modes in this order, the token behind the dash. -/
def Entry.ofDeclared (d : Declared) : Entry :=
  { opening := .behindDash 0
    token := Assignment.ofString _ d.token
    kind := Assignment.ofString _ d.kind
    modes := d.modes.map fun modes => (Key.plain _, Modes.ofStrings modes)
    first := .token
    others := [.kind] ++ if d.modes.isSome then [.modes] else []
    complete := by rw [Option.isSome_map]; exact List.Perm.refl _ }

/-- The entry written for a declaration declares it. -/
theorem Entry.declared_ofDeclared (d : Declared) : (Entry.ofDeclared d).declared = d := by
  obtain ⟨token, kind, modes⟩ := d
  cases modes with
  | none =>
    simp [Entry.declared, Entry.ofDeclared, Assignment.ofString, Scalar.value_ofString]
  | some modes =>
    simp [Entry.declared, Entry.ofDeclared, Assignment.ofString, Scalar.value_ofString,
      Modes.ofStrings, Modes.values, FlowList.values_ofStrings]

/-- A way to write a manifest. -/
def Document.ofDeclared (entries : List Declared) : Document :=
  { head := []
    mark := none
    key := Key.plain _
    tail := .blank Gap.none
    after := []
    indent := 0
    entries := entries.map Entry.ofDeclared
    ends := fun _ => .feed
    closed := true }

/-- The layout of a manifest says what the manifest says. -/
theorem Document.declared_ofDeclared (entries : List Declared) :
    (Document.ofDeclared entries).declared = entries := by
  rw [Document.declared, Document.ofDeclared, List.map_map]
  have same : Entry.declared ∘ Entry.ofDeclared = id := funext Entry.declared_ofDeclared
  rw [same, List.map_id]

example : String.ofList (Document.ofDeclared [⟨"blur", "effect", some ["a\tb"]⟩]).text =
    "entries:\n- token: \"blur\"\n  kind: \"effect\"\n  modes: [\"a\\U00000009b\",]\n" := by
  decide

/-- A word with a blank behind it that is neither a space nor a tab. -/
def paddedWord : Plain where
  before := []
  text := "blur".toList
  after := ['\u00a0']
  padding := List.forall_mem_singleton.mpr (by decide)
  beforeSolid := nofun
  afterSolid := by
    rintro _ ⟨⟩
    decide
  filled := by decide
  oneLine := by decide
  begins := by
    rintro _ ⟨⟩
    decide
  ends := by
    rintro _ ⟨⟩
    decide
  unreserved := by
    rintro _ ⟨⟩
    decide
  unmarked := by
    intro c rest written mark
    obtain ⟨rfl, -⟩ := List.cons.inj written
    exact absurd mark (by decide)
  noKey := by
    intro c _ within
    exact absurd (within.subset List.mem_cons_self) (by decide)
  noColon := by decide
  noComment := by
    intro c _ within
    exact absurd (within.subset (List.mem_cons_of_mem _ List.mem_cons_self)) (by decide)
  string := by decide
  wholeString := by decide

/-- A manifest of one effect whose dash stands alone: the kind comes first, that word is the token,
and the mode below its key has escapes of both kinds. -/
def mixedDocument : Document :=
  { Document.ofDeclared [] with
    entries :=
      [{ opening := .ownLine Gap.none [.comment 1 "first".toList (by decide)] 3
         token := { Assignment.ofString _ "" with scalar := .plain paddedWord }
         kind :=
          { Assignment.ofString _ "" with
            scalar := .quoted (.single "effect".toList (by decide)) }
         modes := some (Key.plain _, .below (.blank Gap.none) [] 0
          { gap := Gap.one
            apart := Gap.one_ne_nil
            scalar := .quoted (.double [.literal 'a' (by decide), .letter 't' '\t' (by decide),
              .number 'x' "41".toList 'A' (by decide)
                (.snoc (.snoc .nil (.decimal (by decide : 4 < 10)))
                  (.decimal (by decide : 1 < 10)))])
            tail := .blank Gap.none
            after := [] } [])
         first := .kind
         others := [.token, .modes]
         complete := by decide }] }

end CatalogAudit.Manifest.Layout
