import CatalogAudit.Json.Reading
import CatalogAudit.Proofs.Number.Decimal
import CatalogAudit.Proofs.Text.Blank
import CatalogAudit.Proofs.Text.Escape
import CatalogAudit.Proofs.Text.Spelled

/-!
# The grammar of JSON and its reader

A value can be spelled in many ways: blanks may stand between any two of its tokens, and a character
of a string may stand for itself or be escaped in one way or another. The reader takes every
spelling for the value that it spells. Numbers are whole here, as they are wherever a program puts a
value together.
-/

namespace CatalogAudit.Json

/-! ## Strings -/

/-- Within quotes, the stretch stands for the character. -/
inductive Stands : List Char → Char → Prop
  /-- A character stands for itself, unless it is a quote, a backslash or a control character. -/
  | plain {c : Char} (visible : 0x20 ≤ c.toNat) (noBackslash : c ≠ '\\') (noQuote : c ≠ '"') :
    Stands [c] c
  /-- A letter is escaped. -/
  | letter {letter c : Char} (named : letterEscape? letter = some c) : Stands ['\\', letter] c
  /-- The number of a character is escaped. -/
  | number {digits : List Char} {c : Char} (hex : Text.isHexOf 4 digits = true)
    (named : Number.readDigits 16 digits = c.toNat) : Stands ('\\' :: 'u' :: digits) c
  /-- The halves of a surrogate pair are escaped one behind the other. -/
  | pair {high low : List Char} (highHex : Text.isHexOf 4 high = true)
    (lowHex : Text.isHexOf 4 low = true)
    (isHigh : isHighHalf (Number.readDigits 16 high) = true)
    (isLow : isLowHalf (Number.readDigits 16 low) = true) :
    Stands ('\\' :: 'u' :: (high ++ '\\' :: 'u' :: low))
      (ofHalves (Number.readDigits 16 high) (Number.readDigits 16 low))

section Strings

variable {stretch text value : List Char} {c : Char}

/-- Four hexadecimal digits are read as their number. -/
theorem readHex?_of_isHexOf {digits : List Char} (hex : Text.isHexOf 4 digits = true)
    (rest : List Char) : readHex? (digits ++ rest) = some (Number.readDigits 16 digits, rest) := by
  obtain ⟨four, -⟩ := (Bool.and_eq_true _ _).mp hex
  rcases digits with _ | ⟨x, _ | ⟨y, _ | ⟨z, _ | ⟨w, _ | ⟨v, more⟩⟩⟩⟩⟩
  · cases four
  · cases four
  · cases four
  · cases four
  · exact if_pos hex
  · simp at four

/-- The number of a character is no half of a surrogate pair. -/
theorem unitOf_toNat (c : Char) (rest : List Char) : unitOf c.toNat rest = (some c, rest) := by
  have single : isHighHalf c.toNat = false := by
    have valid : c.toNat.isValidChar := c.valid
    unfold Nat.isValidChar at valid
    rw [isHighHalf, Bool.and_eq_false_iff, decide_eq_false_iff_not, decide_eq_false_iff_not]
    omega
  unfold unitOf
  rw [single, Text.charOfCodePoint?_toNat]
  rfl

/-- A stretch is read as one unit, and it is the character that it stands for. -/
theorem readUnit?_of_stands (stands : Stands stretch c) (rest : List Char) :
    readUnit? (stretch ++ rest) = some (some c, rest) := by
  cases stands with
  | plain visible noBackslash noQuote =>
    have noControl : ¬ c.toNat < 0x20 := Nat.not_lt.mpr visible
    unfold readUnit?
    split
    · contradiction
    · simp_all
    · simp_all
    · simp_all
  | @letter letter _ named =>
    have noNumber : letter ≠ 'u' := by
      rintro rfl
      cases named
    change readUnit? ('\\' :: letter :: rest) = _
    rw [readUnit?, named, Option.map_some]
    exact noNumber
  | number hex named =>
    change (readHex? (_ ++ rest)).map (fun read => unitOf read.1 read.2) = _
    rw [readHex?_of_isHexOf hex, Option.map_some, named, unitOf_toNat]
  | @pair high low highHex lowHex isHigh isLow =>
    change
      (readHex? (high ++ '\\' :: 'u' :: low ++ rest)).map (fun read => unitOf read.1 read.2) = _
    rw [List.append_assoc, readHex?_of_isHexOf highHex, Option.map_some]
    simp only [unitOf, isHigh, List.cons_append, readHex?_of_isHexOf lowHex, isLow, if_true]

/-- No stretch begins with a quote. -/
theorem Stands.exists_cons (stands : Stands stretch c) :
    ∃ first more, stretch = first :: more ∧ first ≠ '"' := by
  cases stands with
  | plain _ _ noQuote => exact ⟨_, _, rfl, noQuote⟩
  | letter | number | pair => exact ⟨'\\', _, rfl, by decide⟩

/-- The characters of a string are read up to the quote that closes it. -/
theorem readUnits?_of_spelled (spelled : Text.Spelled Stands text value) {fuel : Nat}
    (enough : text.length < fuel) (units : List StringUnit) (rest : List Char) :
    readUnits? fuel units (text ++ '"' :: rest) = some (units.reverse ++ value.map some, rest) := by
  induction spelled generalizing fuel units with
  | nil =>
    cases fuel with
    | zero => contradiction
    | succ fuel => simp [readUnits?]
  | @cons stretch text value c first _ ih =>
    cases fuel with
    | zero => contradiction
    | succ fuel =>
      have read := readUnit?_of_stands first (text ++ '"' :: rest)
      obtain ⟨d, more, rfl, noQuote⟩ := first.exists_cons
      rw [List.append_assoc]
      unfold readUnits?
      split
      · rename_i quote
        exact absurd (List.cons.inj quote).1 noQuote
      · rw [read]
        dsimp only
        have short : text.length < fuel := by
          rw [List.length_append, List.length_cons] at enough
          omega
        rw [ih short, List.reverse_cons, List.map_cons, List.append_assoc, List.singleton_append]

/-- What was made of each item is undone for all of them together. -/
theorem mapM_map_of_inverse {α β : Type} {f : β → Option α} {g : α → β}
    (inverse : ∀ a, f (g a) = some a) (items : List α) :
    (items.map g).mapM f = some items := by
  have undone : f ∘ g = fun a => pure (id a) := funext inverse
  rw [List.mapM_map, undone, List.mapM_pure, List.map_id]
  rfl

/-- A string is read from each of its spellings. -/
theorem readString?_of_spelled {string : String}
    (spelled : Text.Spelled Stands text string.toList) {fuel : Nat} (enough : text.length < fuel)
    (rest : List Char) : readString? fuel (text ++ '"' :: rest) = some (some string, rest) := by
  have characters : (string.toList.map some).mapM id = some string.toList :=
    mapM_map_of_inverse (f := id) (g := some) (fun c => rfl) _
  unfold readString?
  rw [readUnits?_of_spelled spelled enough, Option.map_some, List.reverse_nil, List.nil_append]
  dsimp only
  rw [characters, Option.map_some, String.ofList_toList]

end Strings

/-! ## Blanks -/

/-- Only blanks between tokens. -/
def IsGap (gap : List Char) : Prop := ∀ c ∈ gap, isSpace c = true

/-- No blank at all is a gap. -/
theorem isGap_nil : IsGap [] := fun _ member => absurd member List.not_mem_nil

/-- A gap is passed up to the first character that is none of it. -/
theorem skipSpace_gap {gap : List Char} (blank : IsGap gap) {c : Char} (solid : isSpace c = false)
    (text : List Char) : skipSpace (gap ++ c :: text) = c :: text := by
  refine Text.dropWhile_run blank fun d first => ?_
  rwa [← Option.mem_some.mp first]

/-- What may stand behind a value: nothing, or what begins with a blank, a comma or a closing
bracket. -/
def Follows (rest : List Char) : Prop :=
  ∀ c ∈ rest.head?, isSpace c = true ∨ c = ',' ∨ c = ']' ∨ c = '\x7d'

/-- A value is followed by blanks and the next token. -/
theorem follows_gap {gap : List Char} (blank : IsGap gap) {c : Char}
    (token : c = ',' ∨ c = ']' ∨ c = '\x7d') (rest : List Char) : Follows (gap ++ c :: rest) := by
  intro d first
  cases gap with
  | nil =>
    obtain rfl := Option.some.inj first
    exact .inr token
  | cons b gap =>
    obtain rfl := Option.some.inj first
    exact .inl (blank b List.mem_cons_self)

/-- Nothing that follows a value would go on a number. -/
theorem Follows.stops {rest : List Char} (follows : Follows rest) {c : Char}
    (first : c ∈ rest.head?) :
    Number.isDigit c = false ∧ c ≠ '.' ∧ (c == 'e' || c == 'E') = false := by
  rcases follows c first with blank | rfl | rfl | rfl
  · simp only [isSpace, Bool.or_eq_true, beq_iff_eq] at blank
    rcases blank with ((rfl | rfl) | rfl) | rfl <;> decide
  all_goals decide

/-! ## Numbers -/

section Numbers

open Number

/-- Digits are read up to what may follow a value. -/
theorem readDigits?_digits {digits rest : List Char} (filled : digits ≠ [])
    (isDigits : ∀ c ∈ digits, isDigit c = true) (follows : Follows rest) :
    readDigits? (digits ++ rest) = some (digits, rest) := by
  have ends : ∀ c ∈ rest.head?, isDigit c = false := fun c first => (follows.stops first).1
  unfold readDigits?
  rw [Text.takeWhile_run isDigits ends, Text.dropWhile_run isDigits ends]
  exact if_neg (by simpa using filled)

/-- Behind a whole number there is no fraction to read. -/
theorem readFraction?_of_follows {rest : List Char} (follows : Follows rest) :
    readFraction? rest = some ([], rest) := by
  unfold readFraction?
  split
  · exact absurd rfl (follows.stops rfl).2.1
  · rfl

/-- Behind a whole number there is no exponent to read. -/
theorem readExponent?_of_follows {rest : List Char} (follows : Follows rest) :
    readExponent? rest = some ([], rest) := by
  cases rest with
  | nil => rfl
  | cons c rest =>
    have noMark := (follows.stops rfl).2.2
    simp only [readExponent?, noMark, Bool.false_eq_true, if_false]

/-- The decimal digits of a number are read as they stand. -/
theorem readWhole?_toDigits (n : Nat) {rest : List Char} (follows : Follows rest) :
    readWhole? (Nat.toDigits 10 n ++ rest) = some (Nat.toDigits 10 n, rest) := by
  have unled : ¬ ((Nat.toDigits 10 n).head? = some '0' ∧ 1 < (Nat.toDigits 10 n).length) := by
    rintro ⟨zero, several⟩
    cases n with
    | zero => exact absurd several (by decide)
    | succ n => exact head?_toDigits n.succ_pos zero
  unfold readWhole?
  rw [readDigits?_digits Nat.toDigits_ne_nil (fun c => isDigit_of_mem_toDigits) follows]
  exact if_neg (by simpa using unled)

/-- A whole number begins with a digit. -/
theorem exists_toDigits (n : Nat) :
    ∃ c more, Nat.toDigits 10 n = c :: more ∧ isDigit c = true := by
  obtain ⟨c, more, digits⟩ := List.exists_cons_of_ne_nil (@Nat.toDigits_ne_nil n 10)
  refine ⟨c, more, digits, @isDigit_of_mem_toDigits n c ?_⟩
  rw [digits]
  exact List.mem_cons_self

/-- A whole number is read as it stands. -/
theorem readNumber?_toDigits (n : Nat) {rest : List Char} (follows : Follows rest) :
    readNumber? (Nat.toDigits 10 n ++ rest) = some (Nat.toDigits 10 n, rest) := by
  have whole := readWhole?_toDigits n follows
  obtain ⟨c, more, digits, digit⟩ := exists_toDigits n
  have noSign : c ≠ '-' := by
    rintro rfl
    exact absurd digit (by decide)
  rw [digits] at whole ⊢
  unfold readNumber?
  split
  rename_i sign unsigned split
  have plain : [] = sign ∧ c :: more ++ rest = unsigned := by
    split at split
    · rename_i minus
      exact absurd (List.cons.inj minus).1 noSign
    · exact Prod.mk.inj split
  rw [← plain.1, ← plain.2, whole]
  simp only [Option.bind_eq_bind, Option.bind_some, readFraction?_of_follows follows,
    readExponent?_of_follows follows, Option.pure_def, List.nil_append, List.append_nil]

end Numbers

/-! ## Values -/

mutual

/-- The text spells the value, with any blanks between its tokens. -/
inductive Spells : List Char → Json → Prop
  /-- The null value. -/
  | null : Spells ['n', 'u', 'l', 'l'] .null
  /-- The truth value of what holds. -/
  | holds : Spells ['t', 'r', 'u', 'e'] (.boolean true)
  /-- The truth value of what does not. -/
  | fails : Spells ['f', 'a', 'l', 's', 'e'] (.boolean false)
  /-- A whole number. -/
  | nat (n : Nat) : Spells (Nat.toDigits 10 n) (.ofNat n)
  /-- A string. -/
  | string {text : List Char} {string : String}
    (spelled : Text.Spelled Stands text string.toList) :
    Spells ('"' :: (text ++ ['"'])) (.ofString string)
  /-- The empty list. -/
  | noItems {gap : List Char} (blank : IsGap gap) : Spells ('[' :: (gap ++ [']'])) (.array [])
  /-- A list with items. -/
  | array {gap text : List Char} {items : List Json} (blank : IsGap gap)
    (spelled : SpellsItems text items) : Spells ('[' :: (gap ++ text)) (.array items)
  /-- The empty object. -/
  | noMembers {gap : List Char} (blank : IsGap gap) :
    Spells ('\x7b' :: (gap ++ ['\x7d'])) (.object [])
  /-- An object with members. -/
  | object {gap text : List Char} {members : List (String × Json)} (blank : IsGap gap)
    (spelled : SpellsMembers text members) : Spells ('\x7b' :: (gap ++ text)) (.ofMembers members)

/-- The text spells the items of a list, from the first one on, and the bracket behind them. -/
inductive SpellsItems : List Char → List Json → Prop
  /-- The last item. -/
  | last {text gap : List Char} {item : Json} (spelled : Spells text item) (blank : IsGap gap) :
    SpellsItems (text ++ (gap ++ [']'])) [item]
  /-- An item with others behind it. -/
  | more {text before behind others : List Char} {item : Json} {items : List Json}
    (spelled : Spells text item) (blankBefore : IsGap before) (blankBehind : IsGap behind)
    (rest : SpellsItems others items) :
    SpellsItems (text ++ (before ++ ',' :: (behind ++ others))) (item :: items)

/-- The text spells one member of an object. -/
inductive SpellsMember : List Char → String × Json → Prop
  /-- A key in quotes, a colon and a value. -/
  | intro {quoted before behind text : List Char} {key : String} {value : Json}
    (named : Text.Spelled Stands quoted key.toList) (blankBefore : IsGap before)
    (blankBehind : IsGap behind) (spelled : Spells text value) :
    SpellsMember ('"' :: (quoted ++ '"' :: (before ++ ':' :: (behind ++ text)))) (key, value)

/-- The text spells the members of an object, from the first one on, and the brace behind them. -/
inductive SpellsMembers : List Char → List (String × Json) → Prop
  /-- The last member. -/
  | last {text gap : List Char} {member : String × Json} (spelled : SpellsMember text member)
    (blank : IsGap gap) : SpellsMembers (text ++ (gap ++ ['\x7d'])) [member]
  /-- A member with others behind it. -/
  | more {text before behind others : List Char} {member : String × Json}
    {members : List (String × Json)} (spelled : SpellsMember text member)
    (blankBefore : IsGap before) (blankBehind : IsGap behind)
    (rest : SpellsMembers others members) :
    SpellsMembers (text ++ (before ++ ',' :: (behind ++ others))) (member :: members)

end

/-! ## First characters -/

section First

variable {text : List Char} {value item : Json} {items : List Json} {member : String × Json}
  {members : List (String × Json)}

/-- A value begins with no blank, and with no bracket that closes. -/
theorem Spells.exists_cons (spelled : Spells text value) :
    ∃ c more, text = c :: more ∧ isSpace c = false ∧ c ≠ ']' := by
  cases spelled with
  | nat n =>
    obtain ⟨c, more, digits, digit⟩ := exists_toDigits n
    refine ⟨c, more, digits, ?_, ?_⟩
    · rw [Bool.eq_false_iff]
      intro blank
      simp only [isSpace, Bool.or_eq_true, beq_iff_eq] at blank
      rcases blank with ((rfl | rfl) | rfl) | rfl <;> exact absurd digit (by decide)
    · rintro rfl
      exact absurd digit (by decide)
  | null | holds | fails | string | noItems | array | noMembers | object =>
    exact ⟨_, _, rfl, rfl, by decide⟩

/-- The items of a list do not begin with a blank or the bracket that closes it. -/
theorem SpellsItems.exists_cons (spelled : SpellsItems text items) :
    ∃ c more, text = c :: more ∧ isSpace c = false ∧ c ≠ ']' := by
  cases spelled with
  | last spelled =>
    obtain ⟨c, more, rfl, solid, noClose⟩ := spelled.exists_cons
    exact ⟨c, _, rfl, solid, noClose⟩
  | more spelled =>
    obtain ⟨c, more, rfl, solid, noClose⟩ := spelled.exists_cons
    exact ⟨c, _, rfl, solid, noClose⟩

/-- The members of an object begin with the quote of a key. -/
theorem SpellsMembers.exists_cons (spelled : SpellsMembers text members) :
    ∃ more, text = '"' :: more := by
  cases spelled with
  | last spelled =>
    cases spelled
    exact ⟨_, rfl⟩
  | more spelled =>
    cases spelled
    exact ⟨_, rfl⟩

end First

/-! ## One value, item or member at a time -/

section Steps

variable {fuel : Nat} {item value : Json} {before : List Json}
  {members : List (Option String × Json)} {key : Option String}
  {text behind behindKey behindValue after : List Char}

/-- Behind an item and a comma the reading goes on at the next item. -/
theorem readItems?_comma (read : readValue? fuel text = some (item, behind))
    (comma : skipSpace behind = ',' :: after) :
    readItems? (fuel + 1) before text = readItems? fuel (item :: before) (skipSpace after) := by
  rw [readItems?]
  simp only [read, comma]

/-- An item and a closing bracket end the list. -/
theorem readItems?_close (read : readValue? fuel text = some (item, behind))
    (close : skipSpace behind = ']' :: after) :
    readItems? (fuel + 1) before text = some (before.reverse ++ [item], after) := by
  rw [readItems?]
  simp only [read, close, List.reverse_cons]

/-- Behind a member and a comma the reading goes on at the next member. -/
theorem readMembers?_comma (string : readString? fuel text = some (key, behindKey))
    (colon : skipSpace behindKey = ':' :: behind)
    (read : readValue? fuel (skipSpace behind) = some (value, behindValue))
    (comma : skipSpace behindValue = ',' :: after) :
    readMembers? (fuel + 1) members ('"' :: text) =
      readMembers? fuel ((key, value) :: members) (skipSpace after) := by
  rw [readMembers?]
  simp only [string, colon, read, comma]

/-- A member and a closing brace end the object. -/
theorem readMembers?_close (string : readString? fuel text = some (key, behindKey))
    (colon : skipSpace behindKey = ':' :: behind)
    (read : readValue? fuel (skipSpace behind) = some (value, behindValue))
    (close : skipSpace behindValue = '\x7d' :: after) :
    readMembers? (fuel + 1) members ('"' :: text) =
      some (members.reverse ++ [(key, value)], after) := by
  rw [readMembers?]
  simp only [string, colon, read, close, List.reverse_cons]

/-- Digits begin like no other kind of value. -/
theorem readValue?_digits {c : Char} {literal : List Char} (digit : Number.isDigit c = true)
    (read : readNumber? (c :: text) = some (literal, after)) :
    readValue? (fuel + 1) (c :: text) = some (.number literal, after) := by
  unfold readValue?
  split
  case h_7 => rw [read, Option.map_some]
  all_goals
    simp only [List.cons.injEq] at *
    simp_all
    exact absurd digit (by decide)

/-- A quote begins a string. -/
theorem readValue?_quote {value : Option String}
    (read : readString? fuel text = some (value, after)) :
    readValue? (fuel + 1) ('"' :: text) = some (.string value, after) := by
  rw [readValue?]
  simp only [read, Option.map_some]

/-- A bracket with something before its closing one begins a list of items. -/
theorem readValue?_bracket {c : Char} {items : List Json} (first : skipSpace text = c :: behind)
    (more : c ≠ ']') (read : readItems? fuel [] (c :: behind) = some (items, after)) :
    readValue? (fuel + 1) ('[' :: text) = some (.array items, after) := by
  rw [readValue?]
  simp only [first]
  split
  · rename_i close
    exact absurd (List.cons.inj close).1 more
  · rw [read, Option.map_some]

/-- A bracket and its closing one are the empty list. -/
theorem readValue?_noItems (close : skipSpace text = ']' :: after) :
    readValue? (fuel + 1) ('[' :: text) = some (.array [], after) := by
  rw [readValue?]
  simp only [close]

/-- A brace with a key behind it begins an object of members. -/
theorem readValue?_brace (first : skipSpace text = '"' :: behind)
    (read : readMembers? fuel [] ('"' :: behind) = some (members, after)) :
    readValue? (fuel + 1) ('\x7b' :: text) = some (.object members, after) := by
  rw [readValue?]
  simp only [first]
  exact congrArg (Option.map _) read

/-- A brace and its closing one are the empty object. -/
theorem readValue?_noMembers (close : skipSpace text = '\x7d' :: after) :
    readValue? (fuel + 1) ('\x7b' :: text) = some (.object [], after) := by
  rw [readValue?]
  simp only [close]

end Steps

/-! ## All values -/

/-- A member whose key has a text. -/
def keyed (member : String × Json) : Option String × Json := (some member.1, member.2)

/-- With `fuel`, what spells a value, items or members is read, whatever follows. -/
structure Reads (fuel : Nat) : Prop where
  /-- A value is read up to its end. -/
  value : ∀ {text rest : List Char} {value : Json}, Spells text value → Follows rest →
    text.length ≤ fuel → readValue? fuel (text ++ rest) = some (value, rest)
  /-- Items are read up to and with the bracket that closes the list. -/
  items : ∀ {text : List Char} {items : List Json} (before : List Json) (rest : List Char),
    SpellsItems text items → text.length ≤ fuel →
      readItems? fuel before (text ++ rest) = some (before.reverse ++ items, rest)
  /-- Members are read up to and with the brace that closes the object. -/
  members : ∀ {text : List Char} {members : List (String × Json)}
    (before : List (Option String × Json)) (rest : List Char),
    SpellsMembers text members → text.length ≤ fuel →
      readMembers? fuel before (text ++ rest) = some (before.reverse ++ members.map keyed, rest)

/-- Without fuel nothing is read, and nothing fits so little fuel. -/
theorem reads_zero : Reads 0 where
  value spelled _ enough := by
    obtain ⟨c, more, rfl, -⟩ := spelled.exists_cons
    contradiction
  items _ _ spelled enough := by
    obtain ⟨c, more, rfl, -⟩ := spelled.exists_cons
    contradiction
  members _ _ spelled enough := by
    obtain ⟨more, rfl⟩ := spelled.exists_cons
    contradiction

namespace Reads

variable {fuel : Nat} (reads : Reads fuel) {text rest : List Char}

include reads

/-- Items are read with one more unit of fuel. -/
theorem readItems?_spelled {items : List Json} (before : List Json) (rest : List Char)
    (spelled : SpellsItems text items) (enough : text.length ≤ fuel + 1) :
    readItems? (fuel + 1) before (text ++ rest) = some (before.reverse ++ items, rest) := by
  cases spelled with
  | @last text gap item spelled blank =>
    have short : text.length ≤ fuel := by
      simp only [List.length_append, List.length_singleton] at enough
      omega
    have read := reads.value spelled (follows_gap blank (.inr (.inl rfl)) rest) short
    rw [List.append_assoc, List.append_assoc]
    exact readItems?_close read (skipSpace_gap blank rfl rest)
  | @more text gap behind others item items spelled blank blankBehind more =>
    have short : text.length ≤ fuel ∧ others.length ≤ fuel := by
      simp only [List.length_append, List.length_cons] at enough
      omega
    have read := reads.value spelled (follows_gap blank (.inl rfl) (behind ++ others ++ rest))
      short.1
    obtain ⟨c, next, first, solid, -⟩ := more.exists_cons
    have next : skipSpace (behind ++ others ++ rest) = others ++ rest := by
      rw [first, List.append_assoc]
      exact skipSpace_gap blankBehind solid _
    rw [List.append_assoc, List.append_assoc, List.cons_append,
      readItems?_comma read (skipSpace_gap blank rfl _), next, reads.items _ rest more short.2,
      List.reverse_cons, List.append_assoc, List.singleton_append]

/-- What spells a member is read as its key, a colon and its value. -/
theorem exists_readMember {key : String} {value : Json} (spelled : SpellsMember text (key, value))
    (enough : text.length ≤ fuel) :
    ∃ inner, text = '"' :: inner ∧ ∀ rest, Follows rest → ∃ behindKey behind,
      readString? fuel (inner ++ rest) = some (some key, behindKey) ∧
        skipSpace behindKey = ':' :: behind ∧
        readValue? fuel (skipSpace behind) = some (value, rest) := by
  cases spelled with
  | @intro quoted before behind text key value named blank blankBehind spelled =>
    simp only [List.length_append, List.length_cons] at enough
    refine ⟨_, rfl, fun rest follows => ?_⟩
    refine ⟨before ++ ':' :: (behind ++ text ++ rest), behind ++ text ++ rest, ?_, ?_, ?_⟩
    · have read := readString?_of_spelled named (by omega : quoted.length < fuel)
        (before ++ ':' :: (behind ++ text ++ rest))
      simpa only [List.append_assoc, List.cons_append] using read
    · exact skipSpace_gap blank rfl _
    · have read := reads.value spelled follows (by omega)
      obtain ⟨c, more, rfl, solid, -⟩ := spelled.exists_cons
      rw [List.append_assoc]
      exact (congrArg _ (skipSpace_gap blankBehind solid _)).trans read

/-- Members are read with one more unit of fuel. -/
theorem readMembers?_spelled {members : List (String × Json)}
    (before : List (Option String × Json)) (rest : List Char)
    (spelled : SpellsMembers text members) (enough : text.length ≤ fuel + 1) :
    readMembers? (fuel + 1) before (text ++ rest) =
      some (before.reverse ++ members.map keyed, rest) := by
  cases spelled with
  | @last text gap member spelled blank =>
    have short : text.length ≤ fuel := by
      simp only [List.length_append, List.length_singleton] at enough
      omega
    obtain ⟨inner, rfl, read⟩ := reads.exists_readMember spelled short
    obtain ⟨_, _, string, colon, read⟩ :=
      read _ (follows_gap blank (.inr (.inr rfl)) rest)
    rw [List.append_assoc, List.append_assoc]
    exact readMembers?_close string colon read (skipSpace_gap blank rfl rest)
  | @more text gap behind others member members spelled blank blankBehind more =>
    have short : text.length ≤ fuel ∧ others.length ≤ fuel := by
      simp only [List.length_append, List.length_cons] at enough
      omega
    obtain ⟨inner, rfl, read⟩ := reads.exists_readMember spelled short.1
    obtain ⟨_, _, string, colon, read⟩ :=
      read _ (follows_gap blank (.inl rfl) (behind ++ others ++ rest))
    obtain ⟨next, first⟩ := more.exists_cons
    have next : skipSpace (behind ++ others ++ rest) = others ++ rest := by
      rw [first, List.append_assoc]
      exact skipSpace_gap blankBehind rfl _
    rw [List.append_assoc, List.append_assoc, List.cons_append, List.cons_append,
      readMembers?_comma string colon read (skipSpace_gap blank rfl _), next,
      reads.members _ rest more short.2, List.reverse_cons, List.append_assoc,
      List.singleton_append]
    rfl

/-- A value is read with one more unit of fuel. -/
theorem readValue?_spelled {value : Json} (spelled : Spells text value) (follows : Follows rest)
    (enough : text.length ≤ fuel + 1) :
    readValue? (fuel + 1) (text ++ rest) = some (value, rest) := by
  cases spelled with
  | null | holds | fails => rfl
  | nat n =>
    have read := readNumber?_toDigits n follows
    obtain ⟨c, more, digits, digit⟩ := exists_toDigits n
    rw [ofNat]
    rw [digits] at read ⊢
    exact readValue?_digits digit read
  | @string text string spelled =>
    have short : text.length < fuel := by
      simp only [List.length_append, List.length_cons, List.length_nil] at enough
      omega
    rw [List.cons_append, List.append_assoc]
    exact readValue?_quote (readString?_of_spelled spelled short rest)
  | noItems blank =>
    rw [List.cons_append, List.append_assoc]
    exact readValue?_noItems (skipSpace_gap blank rfl rest)
  | @array gap text items blank spelled =>
    have short : text.length ≤ fuel := by
      simp only [List.length_append, List.length_cons] at enough
      omega
    have read := reads.items [] rest spelled short
    obtain ⟨c, more, rfl, solid, noClose⟩ := spelled.exists_cons
    rw [List.cons_append, List.append_assoc]
    exact readValue?_bracket (skipSpace_gap blank solid _) noClose read
  | noMembers blank =>
    rw [List.cons_append, List.append_assoc]
    exact readValue?_noMembers (skipSpace_gap blank rfl rest)
  | @object gap text members blank spelled =>
    have short : text.length ≤ fuel := by
      simp only [List.length_append, List.length_cons] at enough
      omega
    have read := reads.members [] rest spelled short
    obtain ⟨more, rfl⟩ := spelled.exists_cons
    rw [List.cons_append, List.append_assoc]
    exact readValue?_brace (skipSpace_gap blank rfl _) read

/-- What is read with some fuel is read with more. -/
theorem succ : Reads (fuel + 1) where
  value := reads.readValue?_spelled
  items := reads.readItems?_spelled
  members := reads.readMembers?_spelled

end Reads

/-- Whatever the fuel, what fits it is read: induction on the fuel, one call deeper at each step. -/
theorem reads (fuel : Nat) : Reads fuel := by
  induction fuel with
  | zero => exact reads_zero
  | succ fuel reads => exact reads.succ

/-- A text is read as the value that it spells, with any blanks around it. -/
theorem ofText?_of_spells {text front back : List Char} {value : Json} (spelled : Spells text value)
    (blankFront : IsGap front) (blankBack : IsGap back) :
    ofText? (front ++ (text ++ back)) = some value := by
  have follows : Follows back := by
    intro c first
    exact .inl (blankBack c (List.mem_of_mem_head? first))
  have spent : skipSpace back = [] := by
    rw [skipSpace, List.dropWhile_eq_nil_iff]
    exact blankBack
  have short : text.length ≤ 2 * (front ++ (text ++ back)).length + 2 := by
    simp only [List.length_append]
    omega
  have read := (reads _).value spelled follows short
  have first : skipSpace (front ++ (text ++ back)) = text ++ back := by
    obtain ⟨c, more, rfl, solid, -⟩ := spelled.exists_cons
    exact skipSpace_gap blankFront solid _
  unfold ofText?
  rw [first, read]
  simp only [spent, List.isEmpty_nil, if_true]

end CatalogAudit.Json
