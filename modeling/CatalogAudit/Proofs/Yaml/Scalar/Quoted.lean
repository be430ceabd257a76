import CatalogAudit.Yaml.Scalar.Quoted
import CatalogAudit.Proofs.Manifest.Layout.Scalar
import CatalogAudit.Proofs.Text.Blank
import CatalogAudit.Proofs.Text.Escape
import CatalogAudit.Proofs.Yaml.Skipping

/-!
# Quoted values on one line

What stands between quotes on one line is read as the value meant. It is a run of items, each of
which stands for one character: blanks, which the reader folds to themselves, and everything else,
which it reads stretch by stretch.
-/

namespace CatalogAudit.Yaml.Quoted

open Manifest

/-- What stands for one character between quotes, other than a blank. -/
structure IsSolid (quote : Char) (text : List Char) (char : Char) : Prop where
  /-- It begins with no blank and no line end. -/
  begins : ∃ x rest, text = x :: rest ∧ isSeparator x = false
  /-- It is read as that character. -/
  reads : ∀ (fuel : Nat) (before : List Char) (c : Cursor) (rest : List Char),
    c.rest = text ++ rest →
      readStretch? quote (fuel + 1) before c
        = readStretch? quote fuel (char :: before) (c.forward text.length)

/-- What stands for one character between quotes. -/
def IsItem (quote : Char) (item : List Char × Char) : Prop :=
  item.1 = [item.2] ∧ Text.isGap item.2 = true ∨ IsSolid quote item.1 item.2

/-- What stands in the text for some characters. -/
def textOf (items : List (List Char × Char)) : List Char := items.flatMap (·.1)

/-- The characters meant. -/
def valueOf (items : List (List Char × Char)) : List Char := items.map (·.2)

/-- Whether the item is a blank. -/
def startsBlank (item : List Char × Char) : Bool := Text.startsWith Text.isGap item.1

/-- An item that is not blank is solid. -/
theorem isSolid_of_startsBlank {quote : Char} {item : List Char × Char} (h : IsItem quote item)
    (noBlank : startsBlank item = false) : IsSolid quote item.1 item.2 := by
  cases h with
  | inl blank =>
    rw [startsBlank, blank.1] at noBlank
    exact absurd (blank.2.symm.trans noBlank) (by decide)
  | inr solid => exact solid

/-- A blank item is one blank. -/
theorem blank_of_startsBlank {quote : Char} {item : List Char × Char} (h : IsItem quote item)
    (blank : startsBlank item = true) : item.1 = [item.2] ∧ Text.isGap item.2 = true := by
  cases h with
  | inl blank => exact blank
  | inr solid =>
    obtain ⟨x, rest, text, noSeparator⟩ := solid.begins
    rw [isSeparator, Bool.or_eq_false_iff] at noSeparator
    rw [startsBlank, text] at blank
    exact absurd (blank.symm.trans noSeparator.1) (by decide)

/-- Items other than blanks are read one after the other. -/
theorem readStretch?_solid {quote : Char} {items : List (List Char × Char)}
    (solid : ∀ item ∈ items, IsSolid quote item.1 item.2) {c : Cursor} {rest : List Char}
    (h : c.rest = textOf items ++ rest) (fuel : Nat) (before : List Char) :
    readStretch? quote (fuel + items.length) before c
      = readStretch? quote fuel ((valueOf items).reverse ++ before)
          (c.forward (textOf items).length) := by
  induction items generalizing c before with
  | nil => rfl
  | cons item items ih =>
    rw [List.forall_mem_cons] at solid
    have text : textOf (item :: items) = item.1 ++ textOf items := rfl
    have value : valueOf (item :: items) = item.2 :: valueOf items := rfl
    rw [text, List.append_assoc] at h
    have next : (c.forward item.1.length).rest = textOf items ++ rest :=
      Cursor.rest_forward_length h
    rw [List.length_cons, ← Nat.add_assoc, solid.1.reads _ before c _ h, ih solid.2 next,
      Cursor.forward_forward, text, value, List.length_append, List.reverse_cons,
      List.append_assoc, List.singleton_append]

/-- A stretch ends at a blank. -/
theorem readStretch?_blank {quote : Char} {c : Cursor} {x : Char} {rest : List Char}
    (h : c.rest = x :: rest) (blank : Text.isGap x = true) (fuel : Nat) (before : List Char) :
    readStretch? quote fuel before c = some (.ended before c) := by
  have separates : isSeparator x = true := by rw [isSeparator, blank, Bool.true_or]
  cases fuel with
  | zero => rfl
  | succ fuel =>
    rw [readStretch?, h]
    simp only [separates, if_true]

/-- A stretch ends at the closing quote. -/
theorem readStretch?_quote {quote : Char} (noSeparator : isSeparator quote = false) {c : Cursor}
    {rest : List Char} (h : c.rest = quote :: rest)
    (after : Text.startsWith (· == '\'') rest = false) (fuel : Nat) (before : List Char) :
    readStretch? quote fuel before c = some (.ended before c) := by
  cases fuel with
  | zero => rfl
  | succ fuel =>
    rw [readStretch?, h]
    simp [noSeparator, after]

/-- Blank items are their own text. -/
theorem textOf_blanks {quote : Char} {items : List (List Char × Char)}
    (all : ∀ item ∈ items, IsItem quote item) (blank : ∀ item ∈ items, startsBlank item = true) :
    textOf items = valueOf items ∧ ∀ x ∈ textOf items, Text.isGap x = true := by
  induction items with
  | nil => exact ⟨rfl, fun x mem => absurd mem List.not_mem_nil⟩
  | cons item items ih =>
    rw [List.forall_mem_cons] at all blank
    obtain ⟨text, isGap⟩ := blank_of_startsBlank all.1 blank.1
    obtain ⟨same, gaps⟩ := ih all.2 blank.2
    have split : textOf (item :: items) = item.2 :: textOf items := by
      rw [textOf, List.flatMap_cons, text]
      rfl
    rw [split, List.forall_mem_cons, same]
    exact ⟨rfl, isGap, same ▸ gaps⟩

/-- A stretch is read up to the blank or the closing quote that ends it. -/
theorem readStretch?_run {quote : Char} (noSeparator : isSeparator quote = false)
    {items : List (List Char × Char)} (solid : ∀ item ∈ items, IsSolid quote item.1 item.2)
    {c : Cursor} {x : Char} {rest : List Char} (h : c.rest = textOf items ++ x :: rest)
    (ends : Text.isGap x = true ∨ x = quote ∧ Text.startsWith (· == '\'') rest = false)
    {fuel : Nat} (enough : items.length ≤ fuel) (before : List Char) :
    readStretch? quote fuel before c
      = some (.ended ((valueOf items).reverse ++ before) (c.forward (textOf items).length)) := by
  obtain ⟨fuel, rfl⟩ : ∃ n, fuel = n + items.length := ⟨fuel - items.length, by omega⟩
  have behind : (c.forward (textOf items).length).rest = x :: rest := Cursor.rest_forward_length h
  rw [readStretch?_solid solid h]
  rcases ends with blank | ⟨rfl, after⟩
  · exact readStretch?_blank behind blank fuel _
  · exact readStretch?_quote noSeparator behind after fuel _

/-- Items are written one behind the other. -/
theorem textOf_append (items others : List (List Char × Char)) :
    textOf (items ++ others) = textOf items ++ textOf others := List.flatMap_append

/-- Items mean what they mean one behind the other. -/
theorem valueOf_append (items others : List (List Char × Char)) :
    valueOf (items ++ others) = valueOf items ++ valueOf others := List.map_append

/-- The text of items is at least as long as there are items. -/
theorem length_le_textOf {quote : Char} {items : List (List Char × Char)}
    (all : ∀ item ∈ items, IsItem quote item) : items.length ≤ (textOf items).length := by
  induction items with
  | nil => exact Nat.zero_le _
  | cons item items ih =>
    rw [List.forall_mem_cons] at all
    have filled : 1 ≤ item.1.length := by
      rcases all.1 with ⟨text, -⟩ | solid
      · rw [text]
        exact Nat.le_refl 1
      · obtain ⟨x, rest, text, -⟩ := solid.begins
        rw [text, List.length_cons]
        omega
    have text : textOf (item :: items) = item.1 ++ textOf items := rfl
    have shorter := ih all.2
    rw [text, List.length_append, List.length_cons]
    omega

/-- Before the closing quote, items that are no blanks begin with what separates nothing. -/
theorem noSeparator_of_head {quote : Char} (noSeparator : isSeparator quote = false)
    {items : List (List Char × Char)} (all : ∀ item ∈ items, IsItem quote item)
    (solid : ∀ item ∈ items.head?, startsBlank item = false) (rest : List Char) :
    ∀ x ∈ (textOf items ++ quote :: rest).head?, isSeparator x = false := by
  cases items with
  | nil =>
    intro x first
    obtain rfl : quote = x := Option.some.inj first
    exact noSeparator
  | cons item items =>
    rw [List.forall_mem_cons] at all
    obtain ⟨begins, -⟩ := isSolid_of_startsBlank all.1 (solid item rfl)
    obtain ⟨y, others, text, inside⟩ := begins
    have split : textOf (item :: items) = item.1 ++ textOf items := rfl
    rw [split, text]
    intro x first
    obtain rfl : y = x := Option.some.inj first
    exact inside

/-- Before the closing quote without a blank in between, one stretch is the last. -/
theorem readStretches?_last {quote : Char} (noSeparator : isSeparator quote = false)
    {items : List (List Char × Char)} (solid : ∀ item ∈ items, IsSolid quote item.1 item.2)
    {c : Cursor} {rest : List Char} (h : c.rest = textOf items ++ quote :: rest)
    (after : Text.startsWith (· == '\'') rest = false) (inLine : 0 < c.column) {fuel : Nat}
    (enough : items.length ≤ fuel) (before : List Char) :
    readStretches? quote (fuel + 1) before c
      = some (before.reverse ++ valueOf items, c.forward ((textOf items).length + 1)) := by
  have noMark := Cursor.atDocumentMark_eq_false inLine
  have run := readStretch?_run noSeparator solid h (.inr ⟨rfl, after⟩) enough before
  have behind : (c.forward (textOf items).length).rest = quote :: rest :=
    Cursor.rest_forward_length h
  rw [readStretches?, noMark]
  simp only [run, behind, Cursor.forward_forward, beq_self_eq_true, Bool.false_eq_true, if_false,
    if_true, List.reverse_append, List.reverse_reverse]

/-- A stretch is read with the blanks behind it, and reading goes on behind those. -/
theorem readStretches?_gap {quote : Char} (noSeparator : isSeparator quote = false)
    {items blanks : List (List Char × Char)} (solid : ∀ item ∈ items, IsSolid quote item.1 item.2)
    (all : ∀ item ∈ blanks, IsItem quote item) (blank : ∀ item ∈ blanks, startsBlank item = true)
    (filled : blanks ≠ []) {c : Cursor} {rest : List Char}
    (h : c.rest = textOf items ++ (textOf blanks ++ rest))
    (stops : ∀ x ∈ rest.head?, isSeparator x = false) (inLine : 0 < c.column) {fuel : Nat}
    (enough : items.length ≤ fuel) (room : (textOf blanks).length ≤ fuel) (before : List Char) :
    readStretches? quote (fuel + 1) before c
      = readStretches? quote fuel ((valueOf blanks).reverse ++ ((valueOf items).reverse ++ before))
          (c.forward ((textOf items).length + (textOf blanks).length)) := by
  have noMark := Cursor.atDocumentMark_eq_false inLine
  obtain ⟨same, gap⟩ := textOf_blanks all blank
  have behind : (c.forward (textOf items).length).rest = textOf blanks ++ rest :=
    Cursor.rest_forward_length h
  have read : Gap.readOn 0 fuel {} (c.forward (textOf items).length)
      = some ({ blanks := (valueOf blanks).reverse },
        (c.forward (textOf items).length).forward (textOf blanks).length) := by
    rw [← same]
    exact Gap.readOn_gap behind gap stops room
  cases text : textOf blanks with
  | nil =>
    have none := length_le_textOf all
    rw [text] at none
    exact absurd (List.eq_nil_of_length_eq_zero (Nat.le_zero.mp none)) filled
  | cons x others =>
    have isGap : Text.isGap x = true := gap x (by rw [text]; exact List.mem_cons_self)
    have noQuote : (x == quote) = false := by
      rw [beq_eq_false_iff_ne]
      rintro rfl
      rw [isSeparator, isGap, Bool.true_or] at noSeparator
      cases noSeparator
    rw [text] at h behind read
    have run := readStretch?_run noSeparator solid h (.inl isGap) enough before
    rw [readStretches?, noMark]
    simp only [run, behind, noQuote, read, Gap.fold_blanks, Bool.false_eq_true, if_false,
      List.cons_append, List.reverseAux_eq, Cursor.forward_forward]

/-- All items up to the closing quote are read. The induction goes from gap to gap. -/
theorem readStretches?_items {quote : Char} (noSeparator : isSeparator quote = false)
    {rest : List Char} (after : Text.startsWith (· == '\'') rest = false)
    {items : List (List Char × Char)} (all : ∀ item ∈ items, IsItem quote item) {c : Cursor}
    (h : c.rest = textOf items ++ quote :: rest) (inLine : 0 < c.column) {fuel : Nat}
    (enough : (textOf items).length < fuel) (before : List Char) :
    readStretches? quote fuel before c
      = some (before.reverse ++ valueOf items, c.forward ((textOf items).length + 1)) := by
  induction length : items.length using Nat.strongRecOn generalizing items c fuel before with
  | ind length ih =>
    obtain ⟨fuel, rfl⟩ : ∃ n, fuel = n + 1 := ⟨fuel - 1, by omega⟩
    obtain ⟨solid, later, rfl, noBlank, first⟩ :=
      Text.exists_run (fun item => !startsBlank item) items
    obtain ⟨blanks, more, rfl, blank, stops⟩ := Text.exists_run startsBlank later
    rw [List.forall_mem_append, List.forall_mem_append] at all
    obtain ⟨allSolid, allBlanks, allMore⟩ := all
    rw [textOf_append, textOf_append, List.append_assoc, List.append_assoc] at h
    rw [textOf_append, textOf_append, List.length_append, List.length_append] at enough
    have solidItems : ∀ item ∈ solid, IsSolid quote item.1 item.2 := by
      intro item mem
      exact isSolid_of_startsBlank (allSolid item mem) (by simpa using noBlank item mem)
    have short : solid.length ≤ fuel := by
      have filled := length_le_textOf allSolid
      omega
    cases blanks with
    | nil =>
      cases more with
      | nil =>
        rw [List.append_nil, List.append_nil]
        exact readStretches?_last noSeparator solidItems h after inLine short before
      | cons item others =>
        have noBlank := stops item rfl
        have blank := first item rfl
        rw [noBlank] at blank
        cases blank
    | cons item others =>
      have ends := noSeparator_of_head noSeparator allMore stops rest
      have filled := length_le_textOf allBlanks
      have behind : (c.forward ((textOf solid).length + (textOf (item :: others)).length)).rest
          = textOf more ++ quote :: rest := by
        rw [← Cursor.forward_forward]
        exact Cursor.rest_forward_length (Cursor.rest_forward_length h)
      rw [readStretches?_gap noSeparator solidItems allBlanks blank (List.cons_ne_nil _ _) h ends
        inLine short (by omega)]
      rw [List.length_cons] at filled
      rw [ih more.length ?_ allMore behind (Nat.add_pos_left inLine _) ?_ _ rfl,
        Cursor.forward_forward, textOf_append, textOf_append, valueOf_append, valueOf_append]
      · simp [Nat.add_assoc]
      · rw [← length, List.length_append, List.length_append, List.length_cons]
        omega
      · omega

/-- A character that is neither blank nor line end, nor a sign of its own, is read as itself. -/
theorem isSolid_char {quote x : Char} (noSeparator : isSeparator x = false) (noQuote : x ≠ quote)
    (noEscape : quote = '"' → x ≠ '\\') : IsSolid quote [x] x where
  begins := ⟨x, [], rfl, noSeparator⟩
  reads fuel before c rest h := by
    have escape : (quote == '"' && x == '\\') = false := by
      rw [Bool.and_eq_false_iff, beq_eq_false_iff_ne, beq_eq_false_iff_ne]
      exact Decidable.or_iff_not_imp_left.mpr fun double => noEscape (Decidable.not_not.mp double)
    rw [readStretch?, h]
    simp only [List.singleton_append, noSeparator, beq_eq_false_iff_ne.mpr noQuote, escape,
      Bool.false_eq_true, if_false, List.length_singleton]

/-- Two single quotes are read as one. -/
theorem isSolid_twoQuotes : IsSolid '\'' ['\'', '\''] '\'' where
  begins := ⟨'\'', ['\''], rfl, by decide⟩
  reads fuel before c rest h := by
    have noSeparator : isSeparator '\'' = false := by decide
    rw [readStretch?, h]
    simp [noSeparator, Text.startsWith]

/-- An escape is read as the character that it is written for. -/
theorem isSolid_letter {letter char : Char} (named : Text.letterEscape? letter = some char)
    (noBreak : isBreak letter = false) : IsSolid '"' ['\\', letter] char where
  begins := ⟨'\\', [letter], rfl, by decide⟩
  reads fuel before c rest h := by
    have noSeparator : isSeparator '\\' = false := by decide
    rw [readStretch?, h]
    simp [noSeparator, noBreak, named]

/-- An escape by number is read as the character with that number. -/
theorem isSolid_number {letter char : Char} {digits : List Char}
    (width : Text.escapeWidth? letter = some digits.length)
    (hex : ∀ d ∈ digits, (Number.digitIn? 16 d).isSome)
    (code : Number.readDigits 16 digits = char.toNat) (noBreak : isBreak letter = false) :
    IsSolid '"' ('\\' :: letter :: digits) char where
  begins := ⟨'\\', letter :: digits, rfl, by decide⟩
  reads fuel before c rest h := by
    have noSeparator : isSeparator '\\' = false := by decide
    have taken : (digits ++ rest).take digits.length = digits := List.take_left
    have read : readNumber? digits.length (digits ++ rest) = some char := by
      simp only [readNumber?, taken, Text.isHexOf_length hex, if_true, code,
        Text.charOfCodePoint?_toNat]
    have length : ('\\' :: letter :: digits).length = 2 + digits.length := by
      simp only [List.length_cons]
      omega
    rw [readStretch?, h, length]
    simp [noSeparator, noBreak, Text.letterEscape?_of_width width, width, read]

/-- What one piece between double quotes stands for. -/
theorem isItem_piece (piece : Layout.Piece) (noBreak : ∀ c ∈ piece.text, isBreak c = false) :
    IsItem '"' (piece.text, piece.char) := by
  cases piece with
  | literal c inside =>
    have onLine : isBreak c = false := noBreak c List.mem_cons_self
    cases blank : Text.isGap c with
    | true => exact .inl ⟨rfl, blank⟩
    | false =>
      have noSeparator : isSeparator c = false := by rw [isSeparator, blank, onLine]; rfl
      exact .inr (isSolid_char noSeparator inside.1 fun _ => inside.2.1)
  | letter letter c listed =>
    have named := Text.letterEscape?_eq_some_iff.mpr listed
    exact .inr (isSolid_letter named (noBreak letter (by simp [Layout.Piece.text])))
  | number letter digits c announced code =>
    have width := Text.escapeWidth?_eq_some_iff.mpr announced
    obtain ⟨hex, code⟩ := Text.hexNumber_iff.mp code
    exact .inr (isSolid_number width hex code (noBreak letter (by simp [Layout.Piece.text])))

/-- What one character between single quotes stands for. -/
theorem isItem_doubled {c : Char} (noBreak : isBreak c = false) :
    IsItem '\'' (Layout.Quoted.doubled c, c) := by
  rw [Layout.Quoted.doubled]
  split
  · rename_i quote
    subst quote
    exact .inr isSolid_twoQuotes
  · rename_i noQuote
    cases blank : Text.isGap c with
    | true => exact .inl ⟨rfl, blank⟩
    | false =>
      have noSeparator : isSeparator c = false := by rw [isSeparator, blank, noBreak]; rfl
      exact .inr (isSolid_char noSeparator noQuote fun double => absurd double (by decide))

/-- Items between quotes are read. -/
theorem read?_items {quote : Char} (noSeparator : isSeparator quote = false) {rest : List Char}
    (after : Text.startsWith (· == '\'') rest = false) {items : List (List Char × Char)}
    (all : ∀ item ∈ items, IsItem quote item) {c : Cursor}
    (h : c.rest = quote :: (textOf items ++ quote :: rest)) {fuel : Nat}
    (enough : (textOf items).length < fuel) :
    read? fuel c = some (valueOf items, c.forward ((textOf items).length + 2)) := by
  have behind : (c.forward 1).rest = textOf items ++ quote :: rest := Cursor.rest_forward_one h
  have inLine : 0 < (c.forward 1).column := Nat.succ_pos _
  have read := readStretches?_items noSeparator after all behind inLine enough []
  rw [read?, h]
  simp only [read, Cursor.forward_forward, List.reverse_nil, List.nil_append]
  rw [Nat.add_comm 1]

/-- What stands between the quotes of a value. -/
def itemsOf : Layout.Quoted → List (List Char × Char)
  | .double pieces => pieces.map fun piece => (piece.text, piece.char)
  | .single value _ => value.map fun c => (Layout.Quoted.doubled c, c)

/-- The quote around a value. -/
def quoteOf : Layout.Quoted → Char
  | .double _ => '"'
  | .single _ _ => '\''

/-- A string in quotes is its items between two quotes. -/
theorem text_eq (q : Layout.Quoted) :
    q.text = quoteOf q :: (textOf (itemsOf q) ++ [quoteOf q]) := by
  cases q with
  | double pieces => simp [Layout.Quoted.text, textOf, itemsOf, quoteOf, List.flatMap_map]
  | single value oneLine => simp [Layout.Quoted.text, textOf, itemsOf, quoteOf, List.flatMap_map]

/-- The items of a string mean its value. -/
theorem valueOf_itemsOf (q : Layout.Quoted) : valueOf (itemsOf q) = q.value := by
  cases q with
  | double pieces => simp [Layout.Quoted.value, valueOf, itemsOf, Function.comp_def]
  | single value oneLine => simp [Layout.Quoted.value, valueOf, itemsOf, Function.comp_def]

/-- The items of a string on one line are items for the reader. -/
theorem isItem_of_mem (q : Layout.Quoted) (noBreak : ∀ c ∈ q.text, isBreak c = false) :
    ∀ item ∈ itemsOf q, IsItem (quoteOf q) item := by
  have noBreakIn : ∀ c ∈ textOf (itemsOf q), isBreak c = false := by
    intro c mem
    apply noBreak
    rw [text_eq]
    exact List.mem_cons_of_mem _ (List.mem_append_left _ mem)
  cases q with
  | double pieces =>
    intro item mem
    obtain ⟨piece, inside, rfl⟩ := List.mem_map.mp mem
    apply isItem_piece
    intro c inPiece
    exact noBreakIn c (List.mem_flatMap.mpr ⟨_, mem, inPiece⟩)
  | single value oneLine =>
    intro item mem
    obtain ⟨c, inside, rfl⟩ := List.mem_map.mp mem
    apply isItem_doubled
    have inText : c ∈ Layout.Quoted.doubled c := by
      rw [Layout.Quoted.doubled]
      split
      · rename_i quote
        rw [quote]
        exact List.mem_cons_self
      · exact List.mem_singleton_self c
    exact noBreakIn c (List.mem_flatMap.mpr ⟨_, mem, inText⟩)

/-- A value between quotes on one line is read as itself, before anything but a single quote. -/
theorem read?_text (q : Layout.Quoted) (noBreak : ∀ c ∈ q.text, isBreak c = false) {c : Cursor}
    {rest : List Char} (h : c.rest = q.text ++ rest)
    (after : Text.startsWith (· == '\'') rest = false) {fuel : Nat}
    (enough : q.text.length ≤ fuel) :
    read? fuel c = some (q.value, c.forward q.text.length) := by
  have noSeparator : isSeparator (quoteOf q) = false := by cases q <;> rfl
  have length : q.text.length = (textOf (itemsOf q)).length + 2 := by
    rw [text_eq, List.length_cons, List.length_append, List.length_singleton]
  have split : c.rest = quoteOf q :: (textOf (itemsOf q) ++ quoteOf q :: rest) := by
    rw [h, text_eq]
    simp
  rw [read?_items noSeparator after (isItem_of_mem q noBreak) split (by omega), length,
    valueOf_itemsOf]

end CatalogAudit.Yaml.Quoted
