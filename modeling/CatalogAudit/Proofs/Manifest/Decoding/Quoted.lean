import CatalogAudit.Proofs.Manifest.Layout.Scalar
import CatalogAudit.Proofs.Text.Blank
import CatalogAudit.Proofs.Text.Escape
import CatalogAudit.Proofs.Text.Spelled

/-!
# Text between quotes

The grammar of quoted literals on one side, the reader on the other. A text that begins with a quote
either begins with a literal, which is read as its value, or is broken in one of five ways, each of
which has its fault. The two cases exclude each other because the reader gives one answer, so the
reader accepts the literals and nothing else.
-/

namespace CatalogAudit.Manifest.Line

open Layout

/-! ## Literals -/

/-- A stretch between double quotes that stands for one character. -/
inductive Stands : List Char → Char → Prop
  /-- The character itself. -/
  | literal {c : Char} (inside : c ≠ '"' ∧ c ≠ '\\') : Stands [c] c
  /-- A backslash and the letter for the character. -/
  | letter {letter c : Char} (listed : (letter, c.toNat) ∈ Text.escapeTable) :
      Stands ['\\', letter] c
  /-- A backslash, a letter that says how many digits follow, and the number of the character. -/
  | number {letter c : Char} {digits : List Char}
      (announced : (letter, digits.length) ∈ Text.widthTable)
      (code : Text.HexNumber digits c.toNat) : Stands ('\\' :: letter :: digits) c

/-- A literal between quotes, and its value. -/
inductive Quotes : List Char → List Char → Prop
  /-- Between single quotes any characters may stand; a single quote is written twice. -/
  | single (value : List Char) : Quotes ('\'' :: (value.flatMap Quoted.doubled ++ ['\''])) value
  /-- Between double quotes each stretch stands for one character. -/
  | double {text value : List Char} (spelled : Text.Spelled Stands text value) :
      Quotes ('"' :: (text ++ ['"'])) value

/-- What follows a literal does not go on with it: behind single quotes comes no third one. -/
def EndsBefore (literal rest : List Char) : Prop :=
  Text.startsWith (· == '\'') literal = true → Text.startsWith (· == '\'') rest = false

/-- Every character has a stretch that stands for it. -/
theorem exists_stands (c : Char) : ∃ stretch, Stands stretch c := by
  have quoteListed : ('"', '"'.toNat) ∈ Text.escapeTable := by decide
  have backslashListed : ('\\', '\\'.toNat) ∈ Text.escapeTable := by decide
  by_cases quote : c = '"'
  · subst quote
    exact ⟨_, .letter quoteListed⟩
  · by_cases backslash : c = '\\'
    · subst backslash
      exact ⟨_, .letter backslashListed⟩
    · exact ⟨_, .literal ⟨quote, backslash⟩⟩

/-- What stands for a character is not empty. -/
theorem Stands.ne_nil {stretch : List Char} {c : Char} (stands : Stands stretch c) :
    stretch ≠ [] := by
  cases stands <;> exact List.cons_ne_nil _ _

/-- Every value can be spelled between double quotes. -/
theorem exists_spelled (value : List Char) : ∃ text, Text.Spelled Stands text value := by
  induction value with
  | nil => exact ⟨[], .nil⟩
  | cons c value ih =>
    obtain ⟨stretch, first⟩ := exists_stands c
    obtain ⟨text, others⟩ := ih
    exact ⟨stretch ++ text, .cons first others⟩

/-- A string in quotes is not empty. -/
theorem Quotes.ne_nil {literal value : List Char} (quotes : Quotes literal value) :
    literal ≠ [] := by
  cases quotes <;> exact List.cons_ne_nil _ _

/-! ## Broken literals -/

/-- What comes behind the last stretch that stands for a character and is neither such a stretch nor
the closing quote. -/
inductive Stops : List Char → Fault → Prop
  /-- The text ends. -/
  | ended : Stops [] .unclosedQuote
  /-- The text ends in a backslash. -/
  | dangling : Stops ['\\'] .unclosedQuote
  /-- The letter behind a backslash is no escape. -/
  | unknown {letter : Char} {rest : List Char}
      (noLetter : ∀ n, (letter, n) ∉ Text.escapeTable)
      (noWidth : ∀ width, (letter, width) ∉ Text.widthTable) :
      Stops ('\\' :: letter :: rest) (.unknownEscape letter)
  /-- Digits are announced, but fewer of them come. -/
  | digits {letter : Char} {width : Nat} {rest : List Char}
      (announced : (letter, width) ∈ Text.widthTable)
      (few : (rest.take width).length < width ∨
        ∃ d ∈ rest.take width, ∀ v, ¬Text.HexDigit d v) :
      Stops ('\\' :: letter :: rest) (.invalidHex (rest.take width))
  /-- The digits write half of a surrogate pair, or a number beyond the last character. -/
  | noCharacter {letter : Char} {digits rest : List Char} {n : Nat}
      (announced : (letter, digits.length) ∈ Text.widthTable) (code : Text.HexNumber digits n)
      (beyond : (0xD800 ≤ n ∧ n < 0xE000) ∨ 0x110000 ≤ n) :
      Stops ('\\' :: letter :: (digits ++ rest)) (.invalidCodePoint digits)

/-- A text that begins with a quote but with no literal, and what is wrong with it. -/
inductive Broken : List Char → Fault → Prop
  /-- The closing single quote is missing. -/
  | single (value : List Char) : Broken ('\'' :: value.flatMap Quoted.doubled) .unclosedQuote
  /-- The text between double quotes breaks off. -/
  | double {text value rest : List Char} {fault : Fault} (spelled : Text.Spelled Stands text value)
      (stops : Stops rest fault) : Broken ('"' :: (text ++ rest)) fault

/-! ## Escapes -/

/-- An escape is read as the character it is written for. -/
theorem readEscape_letter {letter c : Char} (listed : (letter, c.toNat) ∈ Text.escapeTable)
    (rest : List Char) : readEscape (letter :: rest) = .ok (c, rest) := by
  simp [readEscape, Text.letterEscape?_eq_some_iff.mpr listed]

/-- Hexadecimal digits that write the number of a character are read as that character. -/
theorem readHex_of_code {digits : List Char} {c : Char} (code : Text.HexNumber digits c.toNat) :
    readHex digits.length digits = .ok c := by
  obtain ⟨hex, code⟩ := Text.hexNumber_iff.mp code
  rw [readHex, if_pos (Text.isHexOf_length hex), code, Text.charOfCodePoint?_toNat]

/-- What is read of the digits behind a letter that announces them. -/
theorem readEscape_digits {letter : Char} {digits : List Char} {width : Nat}
    (announced : (letter, width) ∈ Text.widthTable) (rest : List Char)
    (taken : rest.take width = digits) :
    readEscape (letter :: rest) = (readHex width digits).map fun c => (c, rest.drop width) := by
  have announced := Text.escapeWidth?_eq_some_iff.mpr announced
  simp only [readEscape, Text.letterEscape?_of_width announced, announced, taken]
  cases readHex width digits <;> rfl

/-- Digits behind a letter that announces them are read as the character with their number. -/
theorem readEscape_number {letter c : Char} {digits : List Char}
    (announced : (letter, digits.length) ∈ Text.widthTable) (code : Text.HexNumber digits c.toNat)
    (rest : List Char) : readEscape (letter :: (digits ++ rest)) = .ok (c, rest) := by
  rw [readEscape_digits announced _ List.take_left, readHex_of_code code, List.drop_left]
  rfl

/-! ## Literals are read as their values -/

/-- A backslash is passed together with the escape behind it. -/
theorem readDouble_backslash {text rest : List Char} {c : Char}
    (read : readEscape text = .ok (c, rest)) (before : List Char) :
    readDouble before ('\\' :: text) = readDouble (c :: before) rest := by
  rw [readDouble, if_neg (by decide), if_pos rfl]
  split
  · simp_all
  · simp_all

/-- One stretch of a text in double quotes is read as its character. -/
theorem readDouble_stretch {stretch : List Char} {c : Char} (stands : Stands stretch c)
    (before rest : List Char) :
    readDouble before (stretch ++ rest) = readDouble (c :: before) rest := by
  cases stands with
  | literal inside => rw [List.singleton_append, readDouble, if_neg inside.1, if_neg inside.2]
  | letter listed => exact readDouble_backslash (readEscape_letter listed rest) before
  | number announced code =>
    exact readDouble_backslash (readEscape_number announced code rest) before

/-- A spelled text is read as its value, whatever follows it. -/
theorem readDouble_spelled {text value : List Char} (spelled : Text.Spelled Stands text value)
    (before rest : List Char) :
    readDouble before (text ++ rest) = readDouble (value.reverse ++ before) rest := by
  induction spelled generalizing before with
  | nil => rfl
  | cons first _ ih =>
    rw [List.append_assoc, readDouble_stretch first, ih, List.reverse_cons, List.append_assoc,
      List.singleton_append]

/-- A character between single quotes is read as itself. -/
theorem readSingle_doubled (c : Char) (value rest : List Char) :
    readSingle value (Quoted.doubled c ++ rest) = readSingle (c :: value) rest := by
  rw [Quoted.doubled]
  split
  · rename_i quote
    rw [quote, List.cons_append, List.singleton_append, readSingle]
  · rename_i other
    rw [List.singleton_append, readSingle]
    · intro rest' quote
      exact absurd quote other
    · intro quote
      exact absurd quote other

/-- A text whose quotes are doubled is read as itself, whatever follows it. -/
theorem readSingle_flatMap (text before rest : List Char) :
    readSingle before (text.flatMap Quoted.doubled ++ rest)
      = readSingle (text.reverse ++ before) rest := by
  induction text generalizing before with
  | nil => rfl
  | cons c text ih =>
    rw [List.flatMap_cons, List.append_assoc, readSingle_doubled, ih, List.reverse_cons,
      List.append_assoc, List.singleton_append]

/-- A single quote that is not doubled ends the string. -/
theorem readSingle_close {rest : List Char} (after : Text.startsWith (· == '\'') rest = false)
    (before : List Char) : readSingle before ('\'' :: rest) = .ok (before.reverse, rest) := by
  rw [readSingle]
  intro rest' quote
  rw [quote] at after
  cases after

/-- A literal is read as its value, and the reader stops behind it. -/
theorem readQuoted_of_quotes {literal value rest : List Char} (quotes : Quotes literal value)
    (ends : EndsBefore literal rest) : readQuoted (literal ++ rest) = .ok (value, rest) := by
  cases quotes with
  | single =>
    rw [List.cons_append, List.append_assoc, List.singleton_append, readQuoted, readSingle_flatMap,
      readSingle_close (ends rfl), List.append_nil, List.reverse_reverse]
  | double spelled =>
    rw [List.cons_append, List.append_assoc, List.singleton_append, readQuoted,
      readDouble_spelled spelled, readDouble, if_pos rfl, List.append_nil, List.reverse_reverse]

/-! ## Broken literals are refused -/

/-- What is wrong with an escape is wrong with the string. -/
theorem readDouble_refused {text : List Char} {fault : Fault}
    (refused : readEscape text = .error fault) (before : List Char) :
    readDouble before ('\\' :: text) = .error fault := by
  rw [readDouble, if_neg (by decide), if_pos rfl]
  split
  · simp_all
  · simp_all

/-- What stops a text in double quotes is refused for that reason. -/
theorem readDouble_of_stops {rest : List Char} {fault : Fault} (stops : Stops rest fault)
    (before : List Char) : readDouble before rest = .error fault := by
  cases stops with
  | ended => rw [readDouble]
  | dangling => exact readDouble_refused rfl before
  | unknown noLetter noWidth =>
    refine readDouble_refused ?_ before
    simp only [readEscape, Text.letterEscape?_eq_none_iff.mpr noLetter,
      Text.escapeWidth?_eq_none_iff.mpr noWidth]
  | @digits letter width rest announced few =>
    refine readDouble_refused ?_ before
    have noHex : Text.isHexOf width (rest.take width) = false := by
      rw [← Bool.not_eq_true, Text.isHexOf_iff]
      rintro ⟨enough, hex⟩
      rcases few with few | ⟨d, mem, noDigit⟩
      · omega
      · obtain ⟨v, digit⟩ := Option.isSome_iff_exists.mp (hex d mem)
        exact noDigit v (Text.digitIn?_eq_some_iff.mp digit)
    simp only [readEscape_digits announced rest rfl, readHex, noHex, Bool.false_eq_true, if_false]
    rfl
  | noCharacter announced code beyond =>
    refine readDouble_refused ?_ before
    obtain ⟨hex, rfl⟩ := Text.hexNumber_iff.mp code
    simp only [readEscape_digits announced _ List.take_left, readHex,
      if_pos (Text.isHexOf_length hex), Text.charOfCodePoint?_eq_none_iff.mpr beyond]
    rfl

/-- A broken literal is refused for what is wrong with it. -/
theorem readQuoted_of_broken {text : List Char} {fault : Fault} (broken : Broken text fault) :
    readQuoted text = .error fault := by
  cases broken with
  | single value =>
    have read := readSingle_flatMap value [] []
    rw [List.append_nil] at read
    rw [readQuoted, read, readSingle]
  | double spelled stops => rw [readQuoted, readDouble_spelled spelled, readDouble_of_stops stops]

/-! ## There is nothing else -/

/-- Behind a letter that announces digits comes the number of a character, or what stops there. -/
theorem stops_or_stands_of_width {letter : Char} {width : Nat} (rest : List Char)
    (announced : (letter, width) ∈ Text.widthTable) :
    (∃ fault, Stops ('\\' :: letter :: rest) fault) ∨
      ∃ c, Stands ('\\' :: letter :: rest.take width) c := by
  by_cases isHex : Text.isHexOf width (rest.take width) = true
  · obtain ⟨enough, hex⟩ := Text.isHexOf_iff.mp isHex
    have announced' : (letter, (rest.take width).length) ∈ Text.widthTable := by
      rwa [enough]
    have code := Text.hexNumber_iff.mpr ⟨hex, rfl⟩
    cases named : Text.charOfCodePoint? (Number.readDigits 16 (rest.take width)) with
    | some c =>
      rw [← Text.toNat_of_charOfCodePoint? named] at code
      exact .inr ⟨c, .number announced' code⟩
    | none =>
      have stops : Stops ('\\' :: letter :: (rest.take width ++ rest.drop width)) _ :=
        .noCharacter announced' code (Text.charOfCodePoint?_eq_none_iff.mp named)
      rw [List.take_append_drop] at stops
      exact .inl ⟨_, stops⟩
  · refine .inl ⟨_, .digits announced ?_⟩
    rw [Text.isHexOf_iff, Classical.not_and_iff_not_or_not] at isHex
    cases isHex with
    | inl other =>
      have atMost := List.length_take_le width rest
      exact .inl (Nat.lt_of_le_of_ne atMost other)
    | inr noHex =>
      obtain ⟨d, noHex⟩ := not_forall.mp noHex
      obtain ⟨mem, noDigit⟩ := not_forall.mp noHex
      refine .inr ⟨d, mem, fun v digit => noDigit ?_⟩
      rw [Text.digitIn?_eq_some_iff.mpr digit]
      rfl

/-- Each text in double quotes is at its end, or stops there, or goes on with a stretch that stands
for a character. -/
theorem close_or_stops_or_stretch (text : List Char) :
    (∃ rest, text = '"' :: rest) ∨ (∃ fault, Stops text fault) ∨
      ∃ stretch c rest, Stands stretch c ∧ text = stretch ++ rest := by
  match text with
  | [] => exact .inr (.inl ⟨_, .ended⟩)
  | c :: rest =>
    by_cases quote : c = '"'
    · exact .inl ⟨rest, by rw [quote]⟩
    · refine .inr ?_
      by_cases backslash : c = '\\'
      · subst backslash
        cases rest with
        | nil => exact .inl ⟨_, .dangling⟩
        | cons letter rest =>
          cases named : Text.letterEscape? letter with
          | some c =>
            exact .inr ⟨_, c, rest, .letter (Text.letterEscape?_eq_some_iff.mp named), rfl⟩
          | none =>
            cases announced : Text.escapeWidth? letter with
            | none =>
              exact .inl ⟨_, .unknown (Text.letterEscape?_eq_none_iff.mp named)
                (Text.escapeWidth?_eq_none_iff.mp announced)⟩
            | some width =>
              have announced := Text.escapeWidth?_eq_some_iff.mp announced
              obtain stops | ⟨c, stands⟩ := stops_or_stands_of_width rest announced
              · exact .inl stops
              · refine .inr ⟨_, c, rest.drop width, stands, ?_⟩
                rw [List.cons_append, List.cons_append, List.take_append_drop]
      · exact .inr ⟨[c], c, rest, .literal ⟨quote, backslash⟩, rfl⟩

/-- A text behind an opening double quote is spelled up to its closing quote or to what stops it. -/
theorem spelled_up_to_end (text : List Char) :
    ∃ front value rest, text = front ++ rest ∧ Text.Spelled Stands front value ∧
      ((∃ behind, rest = '"' :: behind) ∨ ∃ fault, Stops rest fault) := by
  induction size : text.length using Nat.strongRecOn generalizing text with
  | ind n ih =>
    obtain close | stops | ⟨stretch, c, rest, stands, split⟩ := close_or_stops_or_stretch text
    · exact ⟨[], [], text, rfl, .nil, .inl close⟩
    · exact ⟨[], [], text, rfl, .nil, .inr stops⟩
    · have shorter : rest.length < n := by
        have filled := List.length_pos_iff.mpr stands.ne_nil
        rw [← size, split, List.length_append]
        omega
      obtain ⟨front, value, behind, rfl, spelled, ends⟩ := ih rest.length shorter rest rfl
      refine ⟨stretch ++ front, c :: value, behind, ?_, .cons stands spelled, ends⟩
      rw [split, List.append_assoc]

/-- A text behind an opening single quote holds only doubled quotes up to the closing one, or has no
closing one. -/
theorem doubled_up_to_end (text : List Char) :
    ∃ value rest, text = List.flatMap Quoted.doubled value ++ rest ∧
      (rest = [] ∨ ∃ behind, rest = '\'' :: behind ∧
        Text.startsWith (· == '\'') behind = false) := by
  -- The reader's own cases are used; what it has read before does not matter.
  obtain ⟨before⟩ : Nonempty (List Char) := ⟨[]⟩
  fun_induction readSingle before text with
  | case1 => exact ⟨[], [], rfl, .inl rfl⟩
  | case2 before rest ih =>
    obtain ⟨value, behind, rfl, ends⟩ := ih
    exact ⟨'\'' :: value, behind, rfl, ends⟩
  | case3 before rest single =>
    refine ⟨[], '\'' :: rest, rfl, .inr ⟨rest, rfl, ?_⟩⟩
    cases rest with
    | nil => rfl
    | cons c rest =>
      rw [Text.startsWith_cons, beq_eq_false_iff_ne]
      rintro rfl
      exact single rest rfl
  | case4 before c rest _ noQuote ih =>
    obtain ⟨value, behind, rfl, ends⟩ := ih
    refine ⟨c :: value, behind, ?_, ends⟩
    rw [List.flatMap_cons, Quoted.doubled, if_neg noQuote]
    rfl

/-- A text that begins with a quote begins with a literal, or is broken. -/
theorem quotes_or_broken {text : List Char} (quoted : Text.startsWith isQuote text = true) :
    (∃ literal value rest, text = literal ++ rest ∧ Quotes literal value ∧
      EndsBefore literal rest) ∨ ∃ fault, Broken text fault := by
  obtain ⟨quote, text, rfl⟩ := List.exists_cons_of_ne_nil (l := text) (by rintro rfl; cases quoted)
  rw [Text.startsWith_cons, isQuote, Bool.or_eq_true, beq_iff_eq, beq_iff_eq] at quoted
  rcases quoted with rfl | rfl
  · obtain ⟨front, value, _, rfl, spelled, ⟨rest, rfl⟩ | ⟨fault, stops⟩⟩ := spelled_up_to_end text
    · refine .inl ⟨_, value, rest, ?_, .double spelled, nofun⟩
      rw [List.cons_append, List.append_assoc, List.singleton_append]
    · exact .inr ⟨fault, .double spelled stops⟩
  · obtain ⟨value, _, rfl, rfl | ⟨rest, rfl, ends⟩⟩ := doubled_up_to_end text
    · rw [List.append_nil]
      exact .inr ⟨_, .single value⟩
    · refine .inl ⟨_, value, rest, ?_, .single value, fun _ => ends⟩
      rw [List.cons_append, List.append_assoc, List.singleton_append]

/-- **Quoted literals are what the reader accepts.** A text that begins with a quote is read as a
value and a rest exactly when it is a literal of that value followed by that rest, which goes on
with no third single quote. Otherwise it is refused, with the fault that says what is broken. Every
value has literals of both kinds, and so it is read back from each of them. -/
theorem readQuoted_isExact {text : List Char} (quoted : Text.startsWith isQuote text = true) :
    (∀ value rest, readQuoted text = .ok (value, rest) ↔
      ∃ literal, text = literal ++ rest ∧ Quotes literal value ∧ EndsBefore literal rest) ∧
    (∀ fault, readQuoted text = .error fault ↔ Broken text fault) ∧
    ∀ value, ∃ single double,
      Quotes ('\'' :: (single ++ ['\''])) value ∧ Quotes ('"' :: (double ++ ['"'])) value := by
  refine ⟨fun value rest => ⟨fun read => ?_, ?_⟩, fun fault => ⟨fun refused => ?_, ?_⟩, ?_⟩
  · obtain ⟨literal, value', rest', split, quotes, ends⟩ | ⟨fault, broken⟩ :=
      quotes_or_broken quoted
    · rw [split, readQuoted_of_quotes quotes ends] at read
      obtain ⟨rfl, rfl⟩ := Prod.mk.inj (Except.ok.inj read)
      exact ⟨literal, split, quotes, ends⟩
    · rw [readQuoted_of_broken broken] at read
      cases read
  · rintro ⟨literal, rfl, quotes, ends⟩
    exact readQuoted_of_quotes quotes ends
  · obtain ⟨literal, value, rest, split, quotes, ends⟩ | ⟨fault', broken⟩ :=
      quotes_or_broken quoted
    · rw [split, readQuoted_of_quotes quotes ends] at refused
      cases refused
    · rw [readQuoted_of_broken broken] at refused
      obtain rfl := Except.error.inj refused
      exact broken
  · exact readQuoted_of_broken
  · intro value
    obtain ⟨double, spelled⟩ := exists_spelled value
    exact ⟨_, double, .single value, .double spelled⟩

/-- A doubled quote is read as one, an escape as its character, and a number that names no character
is refused. -/
theorem readQuoted_isExact_doubled :
    (Text.startsWith isQuote "'it''s': x".toList = true ∧
      readQuoted "'it''s': x".toList = .ok ("it's".toList, ": x".toList)) ∧
    (Text.startsWith isQuote "\"a\\tb\\x41\"".toList = true ∧
      readQuoted "\"a\\tb\\x41\"".toList = .ok ("a\tbA".toList, [])) ∧
    (Text.startsWith isQuote "\"\\uD800\"".toList = true ∧
      readQuoted "\"\\uD800\"".toList = .error (.invalidCodePoint "D800".toList)) ∧
    Text.startsWith isQuote "\"\\q\"".toList = true ∧
      readQuoted "\"\\q\"".toList = .error (.unknownEscape 'q') := by
  have single : Text.startsWith isQuote "'it''s': x".toList = true := rfl
  have escaped : Text.startsWith isQuote "\"a\\tb\\x41\"".toList = true := rfl
  have double : Text.startsWith isQuote "\"\\uD800\"".toList = true := rfl
  have unknown : Text.startsWith isQuote "\"\\q\"".toList = true := rfl
  obtain ⟨reads, -, -⟩ := readQuoted_isExact single
  obtain ⟨readsEscaped, -, -⟩ := readQuoted_isExact escaped
  obtain ⟨-, refuses, -⟩ := readQuoted_isExact double
  obtain ⟨-, refusesUnknown, -⟩ := readQuoted_isExact unknown
  have tab : ('t', '\t'.toNat) ∈ Text.escapeTable := by decide
  have two : ('x', "41".toList.length) ∈ Text.widthTable := by decide
  have four : ('u', "D800".toList.length) ∈ Text.widthTable := by decide
  have code : Text.HexNumber "41".toList 'A'.toNat :=
    .snoc (.snoc .nil (.decimal (by decide : 4 < 10))) (.decimal (by decide : 1 < 10))
  have surrogate : Text.HexNumber "D800".toList 0xD800 :=
    .snoc (.snoc (.snoc (.snoc .nil (.capital (by decide : 3 < 6))) (.decimal (by decide : 8 < 10)))
      (.decimal (by decide : 0 < 10))) (.decimal (by decide : 0 < 10))
  have spelled : Text.Spelled Stands ("a".toList ++ ("\\t".toList ++ ("b".toList ++
      ("\\x41".toList ++ [])))) "a\tbA".toList :=
    .cons (.literal (by decide)) (.cons (.letter tab) (.cons (.literal (by decide))
      (.cons (.number two code) .nil)))
  have stops : Stops "\\uD800\"".toList (.invalidCodePoint "D800".toList) :=
    .noCharacter four surrogate (.inl (by decide))
  have noLetter : 'q' ∉ Text.escapeTable.map Prod.fst := by decide
  have noWidth : 'q' ∉ Text.widthTable.map Prod.fst := by decide
  have stopsUnknown : Stops "\\q\"".toList (.unknownEscape 'q') :=
    .unknown (fun n listed => noLetter (List.mem_map_of_mem listed))
      fun width listed => noWidth (List.mem_map_of_mem listed)
  exact ⟨⟨single, (reads _ _).mpr ⟨"'it''s'".toList, rfl, .single "it's".toList, fun _ => rfl⟩⟩,
    ⟨escaped, (readsEscaped _ _).mpr ⟨_, rfl, .double spelled, nofun⟩⟩,
    ⟨double, (refuses _).mpr (.double .nil stops)⟩,
    unknown, (refusesUnknown _).mpr (.double .nil stopsUnknown)⟩

end CatalogAudit.Manifest.Line
