import CatalogAudit.Proofs.Manifest.Numerals

/-!
# Plain values that are no strings

The grammar of the plain values that stand for null, a truth value or a number, written without the
tables of the reader: a few words in three casings each, infinity and the undefined number behind a
point, and the numerals behind at most one sign. The reader gives a plain value a type of its own
exactly when the grammar does, and that type.
-/

namespace CatalogAudit.Manifest.Line

open Number (Sign)

/-- The casings of a word: small letters, a capital in front, and all capitals. -/
def casings : List Char → List (List Char)
  | [] => [[]]
  | c :: rest => [c :: rest, c.toUpper :: rest, (c :: rest).map Char.toUpper]

/-- A plain text that is no string, and the type of what it stands for. -/
inductive Resolves : List Char → ValueType → Prop
  /-- The tilde is null. -/
  | tilde : Resolves ['~'] .null
  /-- So is the word for it. -/
  | null {word : List Char} (cased : word ∈ casings "null".toList) : Resolves word .null
  /-- The words for the truth values. -/
  | truth {word : List Char}
      (cased : word ∈ casings "true".toList ∨ word ∈ casings "false".toList) :
      Resolves word .boolean
  /-- Infinity is written behind a point, with a sign if wanted. -/
  | infinity (sign : Sign) {word : List Char} (cased : word ∈ casings "inf".toList) :
      Resolves (sign.text ++ '.' :: word) .number
  /-- The undefined number is written behind a point, without a sign. -/
  | undefined {word : List Char}
      (cased : word ∈ ["nan".toList, "NaN".toList, "NAN".toList]) : Resolves ('.' :: word) .number
  /-- A numeral with at most one sign. -/
  | numeral (sign : Sign) {literal : List Char} (numeral : IsNumeral literal) :
      Resolves (sign.text ++ literal) .number

/-- The reader's words for null stand for null. -/
theorem resolves_of_mem_nullWords : ∀ word ∈ nullWords, Resolves word.toList .null := by
  simp only [nullWords, List.forall_mem_cons]
  exact ⟨.tilde, .null (by decide), .null (by decide), .null (by decide), nofun⟩

/-- The reader's words for the truth values stand for them. -/
theorem resolves_of_mem_booleanWords : ∀ word ∈ booleanWords, Resolves word.toList .boolean := by
  simp only [booleanWords, List.forall_mem_cons]
  exact ⟨.truth (by decide), .truth (by decide), .truth (by decide), .truth (by decide),
    .truth (by decide), .truth (by decide), nofun⟩

/-- The reader's words for numbers without a numeral stand for numbers. -/
theorem resolves_of_mem_specialNumbers :
    ∀ word ∈ specialNumbers, Resolves word.toList .number := by
  have infinity : ∀ (sign : Sign) {word : List Char}, word ∈ casings "inf".toList →
      Resolves (sign.text ++ '.' :: word) .number := fun sign _ cased => .infinity sign cased
  simp only [specialNumbers, List.forall_mem_cons]
  exact ⟨infinity .none (by decide), infinity .none (by decide), infinity .none (by decide),
    infinity .plus (by decide), infinity .plus (by decide), infinity .plus (by decide),
    infinity .minus (by decide), infinity .minus (by decide), infinity .minus (by decide),
    .undefined (by decide), .undefined (by decide), .undefined (by decide), nofun⟩

/-- No word of the reader is a numeral with a sign. -/
theorem not_isNumber_of_mem_words :
    ∀ word ∈ nullWords ++ booleanWords, isNumber word.toList = false := by decide

/-- A text among the reader's words is one of them. -/
theorem exists_word_of_contains {words : List String} {text : List Char}
    (listed : words.contains (String.ofList text) = true) : ∃ word ∈ words, text = word.toList :=
  ⟨_, List.contains_iff_mem.mp listed, String.toList_ofList.symm⟩

/-- The reader takes a numeral for a number, as it is none of the words before. -/
theorem spelledType?_of_isNumber {text : List Char} (number : isNumber text = true) :
    spelledType? text = some .number := by
  have noWord : ∀ {words : List String}, (∀ word ∈ words, isNumber word.toList = false) →
      words.contains (String.ofList text) = false := by
    intro words noNumber
    rw [← Bool.not_eq_true]
    intro listed
    obtain ⟨word, mem, rfl⟩ := exists_word_of_contains listed
    rw [noNumber word mem] at number
    cases number
  have noNull := noWord fun word mem =>
    not_isNumber_of_mem_words word (List.mem_append_left _ mem)
  have noTruth := noWord fun word mem =>
    not_isNumber_of_mem_words word (List.mem_append_right _ mem)
  simp only [spelledType?, noNull, noTruth, number, Bool.false_eq_true, if_false, if_true,
    ite_self]

/-- A type that the reader gives is that of the grammar. -/
theorem resolves_of_spelledType? {text : List Char} {type : ValueType}
    (spelled : spelledType? text = some type) : Resolves text type := by
  unfold spelledType? at spelled
  dsimp only at spelled
  split at spelled
  · rename_i listed
    obtain ⟨word, mem, rfl⟩ := exists_word_of_contains listed
    obtain rfl := Option.some.inj spelled
    exact resolves_of_mem_nullWords word mem
  split at spelled
  · rename_i listed
    obtain ⟨word, mem, rfl⟩ := exists_word_of_contains listed
    obtain rfl := Option.some.inj spelled
    exact resolves_of_mem_booleanWords word mem
  split at spelled
  · rename_i listed
    obtain ⟨word, mem, rfl⟩ := exists_word_of_contains listed
    obtain rfl := Option.some.inj spelled
    exact resolves_of_mem_specialNumbers word mem
  split at spelled
  · rename_i number
    obtain ⟨sign, literal, rfl, numeral⟩ := isNumber_eq_true_iff.mp number
    obtain rfl := Option.some.inj spelled
    exact .numeral sign numeral
  · cases spelled

/-- A type of the grammar is given by the reader. -/
theorem spelledType?_of_resolves {text : List Char} {type : ValueType}
    (resolves : Resolves text type) : spelledType? text = some type := by
  cases resolves with
  | tilde => rfl
  | null cased =>
    have all : ∀ word ∈ casings "null".toList, spelledType? word = some .null := by decide
    exact all text cased
  | truth cased =>
    have all : ∀ word ∈ casings "true".toList ++ casings "false".toList,
        spelledType? word = some .boolean := by decide
    exact all text (List.mem_append.mpr cased)
  | infinity sign cased =>
    have all : ∀ word ∈ casings "inf".toList,
        spelledType? (sign.text ++ '.' :: word) = some .number := by cases sign <;> decide
    exact all _ cased
  | undefined cased =>
    have all : ∀ word ∈ ["nan".toList, "NaN".toList, "NAN".toList],
        spelledType? ('.' :: word) = some .number := by decide
    exact all _ cased
  | @numeral sign literal numeral =>
    exact spelledType?_of_isNumber (isNumber_eq_true_iff.mpr ⟨sign, literal, rfl, numeral⟩)

/-- **The types of plain values.** The reader gives a plain value a type exactly when the grammar
does, and the same one. -/
theorem spelledType?_eq_some_iff {text : List Char} {type : ValueType} :
    spelledType? text = some type ↔ Resolves text type :=
  ⟨resolves_of_spelledType?, spelledType?_of_resolves⟩

/-- The grammar gives a plain text no type, so that it is a string. -/
def IsString (text : List Char) : Prop := ∀ type, ¬Resolves text type

/-- A plain value is a string for the reader exactly when it is one in the grammar. -/
theorem spelledType?_eq_none_iff {text : List Char} : spelledType? text = none ↔ IsString text := by
  rw [Option.eq_none_iff_forall_ne_some]
  exact forall_congr' fun type => not_congr spelledType?_eq_some_iff

instance (text : List Char) : Decidable (IsString text) :=
  decidable_of_iff (spelledType? text = none) spelledType?_eq_none_iff

end CatalogAudit.Manifest.Line
