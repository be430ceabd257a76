import CatalogAudit.Proofs.Pattern.Trails
import CatalogAudit.Proofs.Text.Blank
import CatalogAudit.Scan.Settings
import Mathlib.Data.List.Basic

/-!
# Registrations in a source file

The usual pattern of a registration is read as a keyword with its arguments. From the keyword of a
registration all its trails lead to its closing parenthesis: the subject ends at the first comma,
and the token at the next quotation mark. The keyword overlaps with no copy of itself, so it begins
nowhere in the text between registrations, and a search comes upon one registration after the other.
-/

namespace CatalogAudit.Scan

open Pattern

/-! ## Source texts -/

/-- What every registration begins with. -/
def keyword : List Char := "REGISTER_AVS_EFFECT(".toList

/-- A registration as a source file writes it. -/
structure Registration where
  /-- White space behind the opening parenthesis. -/
  behindOpening : List Char
  /-- What is registered. -/
  subject : List Char
  /-- White space behind the comma. -/
  behindComma : List Char
  /-- The token for which it is registered. -/
  token : List Char
  /-- White space behind the token. -/
  behindToken : List Char
  /-- White space is blank. -/
  blank : ∀ c ∈ behindOpening ++ behindComma ++ behindToken, Text.isBlank c = true
  /-- Something is registered. -/
  subject_ne_nil : subject ≠ []
  /-- A comma would end the subject. -/
  subject_free : ',' ∉ subject
  /-- No token is empty. -/
  token_ne_nil : token ≠ []
  /-- A quotation mark would end the token. -/
  token_free : '"' ∉ token

namespace Registration

/-- What follows the token of a registration. -/
def ending (r : Registration) : List Char := '"' :: (r.behindToken ++ [')'])

/-- What follows the keyword of a registration. -/
def arguments (r : Registration) : List Char :=
  (r.behindOpening ++ r.subject) ++ ',' :: (r.behindComma ++ '"' :: (r.token ++ r.ending))

/-- The text of a registration. -/
def text (r : Registration) : List Char := keyword ++ r.arguments

/-- A registration has a character. -/
theorem length_text_pos (r : Registration) : 0 < r.text.length := by
  rw [text, List.length_append]
  exact Nat.add_pos_left (by decide) _

end Registration

/-- A source text: registrations, with other text in front of them and behind each. -/
structure SourceText where
  /-- The text in front of all registrations. -/
  lead : List Char
  /-- The registrations, each with the text behind it. -/
  rows : List (Registration × List Char)
  /-- The other text never holds the keyword. -/
  lead_free : ¬ keyword <:+: lead
  /-- The other text never holds the keyword. -/
  rows_free : ∀ row ∈ rows, ¬ keyword <:+: row.2

/-- The text of registrations and of what is behind them. -/
def rowsText (rows : List (Registration × List Char)) : List Char :=
  rows.flatMap fun row => row.1.text ++ row.2

namespace SourceText

/-- The whole text. -/
def text (source : SourceText) : List Char := source.lead ++ rowsText source.rows

/-- The registered tokens, one for each registration. -/
def tokens (source : SourceText) : List String :=
  source.rows.map fun row => String.ofList row.1.token

end SourceText

/-! ## The pattern -/

/-- The characters other than a given one. -/
def except (c : Char) : CharSet := .compl (.union .none (.single c))

/-- A token, which is the first group, and what follows it. -/
def tokenPattern : Pattern :=
  .seq (.group 1 (many 1 (except '"'))) (.seq (char '"') (.seq (many 0 .blank) (char ')')))

/-- The arguments of a registration. -/
def argumentsPattern : Pattern :=
  .seq (many 0 .blank) (.seq (many 1 (except ',')) (.seq (char ',') (.seq (many 0 .blank)
    (.seq (char '"') tokenPattern))))

/-- A registration whose token is the first group. -/
def registrationPattern : Pattern := spelled keyword argumentsPattern

/-- The usual pattern of a registration is read as the keyword with its arguments. -/
theorem readPattern_tokenPattern :
    Config.readPattern .tokenPattern ({} : Config).tokenPattern = .ok registrationPattern := by
  have read : Pattern.ofText? ({} : Config).tokenPattern.toList = some registrationPattern := by
    decide +kernel
  rw [Config.readPattern, read]
  rfl

/-! ## The arguments of a registration -/

section Arguments

variable {t u v : Trail} {c d : Char} {stretch more : List Char} {r : Registration}

/-- The set of all other characters contains any other one. -/
theorem contains_except : (except c).contains d = true ↔ d ≠ c := by
  unfold except
  rw [CharSet.contains, CharSet.contains, CharSet.contains, Bool.false_or, Bool.not_eq_true',
    Bool.eq_false_iff, ne_eq, contains_single]

/-- The set of all other characters does not contain the one left out. -/
theorem contains_except_self (c : Char) : (except c).contains c = false := by
  rw [Bool.eq_false_iff, ne_eq, contains_except]
  exact fun other => other rfl

/-- Characters of a set and then one that is not in the set make one way only. -/
theorem exists_of_mem_trails_many {least : Nat} {set : CharSet} (outside : set.contains c = false)
    (run : v ∈ (many least set).trails t) (next : u ∈ (char c).trails v) :
    ∃ stretch rest, t.place.rest = stretch ++ c :: rest ∧ c ∉ stretch ∧
      v = t.across stretch ∧ u = t.across (stretch ++ [c]) := by
  obtain ⟨stretch, rest, split, inside, -, rfl⟩ := mem_trails_many.mp run
  obtain ⟨more, behind, rfl⟩ := mem_trails_char.mp next
  rw [Trail.rest_across split] at behind
  refine ⟨stretch, more, by rw [split, behind], fun member => ?_, rfl, ?_⟩
  · rw [inside c member] at outside
    contradiction
  · rw [Trail.across_append]

namespace Registration

/-- Only white space stands behind the opening parenthesis. -/
theorem blank_behindOpening (r : Registration) : ∀ c ∈ r.behindOpening, Text.isBlank c = true :=
  (List.forall_mem_append.mp (List.forall_mem_append.mp r.blank).1).1

/-- Only white space stands behind the comma. -/
theorem blank_behindComma (r : Registration) : ∀ c ∈ r.behindComma, Text.isBlank c = true :=
  (List.forall_mem_append.mp (List.forall_mem_append.mp r.blank).1).2

/-- Only white space stands behind the token. -/
theorem blank_behindToken (r : Registration) : ∀ c ∈ r.behindToken, Text.isBlank c = true :=
  (List.forall_mem_append.mp r.blank).2

end Registration

/-- In white space there is no other character. -/
theorem not_mem_of_blank (solid : Text.isBlank c = false)
    (blank : ∀ d ∈ stretch, Text.isBlank d = true) : c ∉ stretch := by
  intro member
  rw [blank c member] at solid
  contradiction

/-- Every trail through a token and its ending leads to their end, and its first group is the
token. -/
theorem eq_of_mem_trails_token (text : t.place.rest = r.token ++ (r.ending ++ more))
    (member : u ∈ tokenPattern.trails t) :
    u = { place := t.place.across (r.token ++ r.ending)
          first := some ⟨r.token ++ (r.ending ++ more), r.token.length⟩ } := by
  obtain ⟨_, grouped, member⟩ := exists_of_mem_trails_seq member
  obtain ⟨v, run, rfl⟩ := mem_trails_group.mp grouped
  obtain ⟨token, rest, split, inside, -, rfl⟩ := mem_trails_many.mp run
  obtain ⟨_, quote, member⟩ := exists_of_mem_trails_seq member
  obtain ⟨rest', behind, rfl⟩ := mem_trails_char.mp quote
  have free : '"' ∉ token := fun member => contains_except.mp (inside _ member) rfl
  have atQuote : rest = '"' :: rest' := (Trail.rest_across split).symm.trans behind
  rw [text, atQuote, Registration.ending, List.cons_append, List.append_assoc] at split
  obtain ⟨rfl, rfl⟩ := Text.cut_inj r.token_free free split
  obtain ⟨_, gap, parenthesis⟩ := exists_of_mem_trails_seq member
  obtain ⟨gap, _, split, free, -, rfl⟩ := exists_of_mem_trails_many rfl gap parenthesis
  obtain ⟨rfl, -⟩ := Text.cut_inj (not_mem_of_blank rfl r.blank_behindToken) free
    ((Trail.rest_across behind).symm.trans split)
  have across : t.place.across (r.token ++ r.ending) =
      ((t.place.across r.token).across ['"']).across (r.behindToken ++ [')']) := by
    rw [← Place.across_append, ← Place.across_append]
    rfl
  rw [across, text]
  simp [Trail.across, Place.across]

/-- Every trail through the arguments of a registration leads to their end, and its first group is
the token. -/
theorem eq_of_mem_trails_arguments (text : t.place.rest = r.arguments ++ more)
    (member : u ∈ argumentsPattern.trails t) :
    u = { place := t.place.across r.arguments
          first := some ⟨r.token ++ (r.ending ++ more), r.token.length⟩ } := by
  have atStart : t.place.rest = (r.behindOpening ++ r.subject) ++
      ',' :: (r.behindComma ++ '"' :: (r.token ++ (r.ending ++ more))) := by
    rw [text]
    simp [Registration.arguments]
  -- The subject ends at the first comma, wherever the white space before it ends.
  obtain ⟨_, gap, member⟩ := exists_of_mem_trails_seq member
  obtain ⟨gap, _, split, blank, -, rfl⟩ := mem_trails_many.mp gap
  obtain ⟨_, subject, member⟩ := exists_of_mem_trails_seq member
  obtain ⟨_, comma, member⟩ := exists_of_mem_trails_seq member
  obtain ⟨subject, _, split', plain, -, rfl⟩ :=
    exists_of_mem_trails_many (contains_except_self ',') subject comma
  rw [Trail.rest_across split] at split'
  rw [atStart, split', ← List.append_assoc _ subject] at split
  obtain ⟨front, rfl⟩ := Text.cut_inj
    (List.not_mem_append (not_mem_of_blank rfl r.blank_behindOpening) r.subject_free)
    (List.not_mem_append (not_mem_of_blank rfl blank) plain) split
  rw [← Trail.across_append, ← List.append_assoc, ← front] at member
  have behindComma : (t.across (r.behindOpening ++ r.subject ++ [','])).place.rest =
      r.behindComma ++ '"' :: (r.token ++ (r.ending ++ more)) :=
    Trail.rest_across (by rw [atStart]; simp)
  -- White space goes on up to the first quotation mark.
  obtain ⟨_, gap, member⟩ := exists_of_mem_trails_seq member
  obtain ⟨_, quote, member⟩ := exists_of_mem_trails_seq member
  obtain ⟨gap, _, split, free, -, rfl⟩ := exists_of_mem_trails_many rfl gap quote
  obtain ⟨rfl, -⟩ := Text.cut_inj (not_mem_of_blank rfl r.blank_behindComma) free
    (behindComma.symm.trans split)
  rw [← Trail.across_append] at member
  have atToken : (t.across (r.behindOpening ++ r.subject ++ [','] ++
      (r.behindComma ++ ['"']))).place.rest = r.token ++ (r.ending ++ more) :=
    Trail.rest_across (by rw [atStart]; simp)
  rw [eq_of_mem_trails_token atToken member, Trail.across, ← Place.across_append]
  simp [Registration.arguments]

/-- From the token of a registration the pattern leads on. -/
theorem trails_token_ne_nil (text : t.place.rest = r.token ++ (r.ending ++ more)) :
    tokenPattern.trails t ≠ [] := by
  have long : 1 ≤ r.token.length := List.length_pos_iff.mpr r.token_ne_nil
  have inside : ∀ c ∈ r.token, (except '"').contains c = true := fun c member =>
    contains_except.mpr fun same => r.token_free (same ▸ member)
  have behind : (t.across r.token).place.rest = '"' :: (r.behindToken ++ ')' :: more) := by
    rw [Trail.rest_across text]
    simp [Registration.ending]
  refine trails_seq_ne_nil (mem_trails_group.mpr ⟨t.across r.token,
    mem_trails_many.mpr ⟨r.token, _, text, inside, long, rfl⟩, rfl⟩) ?_
  refine trails_seq_ne_nil (mem_trails_char.mpr ⟨_, behind, rfl⟩) ?_
  refine trails_seq_ne_nil (mem_trails_many.mpr ⟨r.behindToken, _, Trail.rest_across behind,
    r.blank_behindToken, Nat.zero_le _, rfl⟩) ?_
  exact List.ne_nil_of_mem (mem_trails_char.mpr
    ⟨more, Trail.rest_across (Trail.rest_across behind), rfl⟩)

/-- From the arguments of a registration the pattern leads on. -/
theorem trails_arguments_ne_nil (text : t.place.rest = r.arguments ++ more) :
    argumentsPattern.trails t ≠ [] := by
  have long : 1 ≤ r.subject.length := List.length_pos_iff.mpr r.subject_ne_nil
  have inside : ∀ c ∈ r.subject, (except ',').contains c = true := fun c member =>
    contains_except.mpr fun same => r.subject_free (same ▸ member)
  have atStart : t.place.rest = r.behindOpening ++ (r.subject ++
      ',' :: (r.behindComma ++ '"' :: (r.token ++ (r.ending ++ more)))) := by
    rw [text]
    simp [Registration.arguments]
  have atSubject := Trail.rest_across atStart
  have atComma := Trail.rest_across atSubject
  refine trails_seq_ne_nil (mem_trails_many.mpr ⟨r.behindOpening, _, atStart,
    r.blank_behindOpening, Nat.zero_le _, rfl⟩) ?_
  refine trails_seq_ne_nil (mem_trails_many.mpr ⟨r.subject, _, atSubject, inside, long, rfl⟩) ?_
  refine trails_seq_ne_nil (mem_trails_char.mpr ⟨_, atComma, rfl⟩) ?_
  have behindComma : (((t.across r.behindOpening).across r.subject).across [',']).place.rest =
      r.behindComma ++ '"' :: (r.token ++ (r.ending ++ more)) := Trail.rest_across atComma
  have atQuote := Trail.rest_across behindComma
  refine trails_seq_ne_nil (mem_trails_many.mpr ⟨r.behindComma, _, behindComma,
    r.blank_behindComma, Nat.zero_le _, rfl⟩) ?_
  exact trails_seq_ne_nil (mem_trails_char.mpr ⟨_, atQuote, rfl⟩)
    (trails_token_ne_nil (Trail.rest_across atQuote))

/-- Some trail passes over a registration, and its first group is the token. -/
theorem head?_trails_registration (text : t.place.rest = r.text ++ more) :
    (registrationPattern.trails t).head? = some
      { place := t.place.across r.text
        first := some ⟨r.token ++ (r.ending ++ more), r.token.length⟩ } := by
  have atArguments : (t.across keyword).place.rest = r.arguments ++ more :=
    Trail.rest_across (by rw [text, Registration.text, List.append_assoc])
  obtain ⟨u, others, all⟩ := List.exists_cons_of_ne_nil (trails_spelled_ne_nil
    (text.trans (List.append_assoc keyword r.arguments more)) (trails_arguments_ne_nil atArguments))
  have member : u ∈ registrationPattern.trails t := by
    rw [registrationPattern, all]
    exact List.mem_cons_self
  obtain ⟨-, -, member⟩ := exists_of_mem_trails_spelled member
  rw [registrationPattern, all, List.head?_cons, eq_of_mem_trails_arguments atArguments member,
    Trail.across, ← Place.across_append]
  rfl

end Arguments

/-! ## The text around registrations -/

section Around

variable {front back filler rest : List Char} {place : Place}

/-- The keyword ends in a parenthesis and has no other one. -/
theorem keyword_eq : ∃ word, keyword = word ++ ['('] ∧ '(' ∉ word :=
  ⟨"REGISTER_AVS_EFFECT".toList, by decide, by decide⟩

/-- No copy of the keyword begins within another copy. -/
theorem eq_nil_of_keyword_overlap {more : List Char} (split : keyword = front ++ back)
    (overlap : back <+: keyword ++ more) (filled : front ≠ []) : back = [] := by
  obtain ⟨word, same, free⟩ := keyword_eq
  cases back using List.reverseRecOn with
  | nil => rfl
  | append_singleton before last =>
    rw [same, ← List.append_assoc] at split
    obtain ⟨rfl, ends⟩ := List.append_inj' split rfl
    obtain rfl := List.cons.inj ends |>.1
    -- The end of the keyword would be a beginning of it, without the parenthesis.
    have short : (before ++ ['(']).length ≤ (front ++ before).length := by
      have := List.length_pos_iff.mpr filled
      simp only [List.length_append, List.length_singleton]
      omega
    have inside : before ++ ['('] <+: front ++ before := by
      refine List.prefix_of_prefix_length_le overlap ?_ short
      rw [same, List.append_assoc]
      exact List.prefix_append _ _
    exact absurd (inside.subset (by simp)) free

/-- In front of a registration, and of the end of the text, the keyword begins nowhere in a text
that does not hold it. -/
theorem not_keyword_prefix (free : ¬ keyword <:+: filler) (next : rest = [] ∨ keyword <+: rest)
    (split : filler = front ++ back) (filled : back ≠ []) : ¬ keyword <+: back ++ rest := by
  have outside : ¬ keyword <+: back := fun begins => by
    refine free (begins.isInfix.trans ?_)
    rw [split]
    exact (List.suffix_append front back).isInfix
  rintro ⟨behind, same⟩
  rcases List.append_eq_append_iff.mp same with ⟨more, rfl, -⟩ | ⟨more, cut, below⟩
  · exact outside (List.prefix_append _ _)
  · have ends : more = [] := by
      rcases next with rfl | ⟨after, rfl⟩
      · exact (List.append_eq_nil_iff.mp below.symm).1
      · exact eq_nil_of_keyword_overlap cut ⟨behind, below.symm⟩ filled
    rw [ends, List.append_nil] at cut
    exact outside (cut ▸ List.prefix_rfl)

/-- A registration begins nowhere but at the keyword. -/
theorem trails_registration_eq_nil {t : Trail} (elsewhere : ¬ keyword <+: t.place.rest) :
    registrationPattern.trails t = [] := by
  refine List.eq_nil_iff_forall_not_mem.mpr fun u member => elsewhere ?_
  obtain ⟨behind, begins, -⟩ := exists_of_mem_trails_spelled member
  exact ⟨behind, begins.symm⟩

/-- A search passes over text that does not hold the keyword. -/
theorem findFrom?_registration (free : ¬ keyword <:+: filler) (next : rest = [] ∨ keyword <+: rest)
    (text : place.rest = filler ++ rest) :
    registrationPattern.findFrom? place place.rest =
      registrationPattern.findFrom? (place.across filler) rest := by
  refine findFrom?_append text fun front back split filled => trails_registration_eq_nil ?_
  have here : (place.across front).rest = back ++ rest :=
    Place.rest_across (by rw [text, split, List.append_assoc])
  rw [here]
  exact not_keyword_prefix free next split filled

end Around

/-! ## All registrations of a text -/

section All

variable {filler : List Char} {rows : List (Registration × List Char)} {place : Place}

/-- The text of registrations begins with the first one and what is behind it. -/
theorem rowsText_cons (r : Registration) (behind : List Char)
    (rows : List (Registration × List Char)) :
    rowsText ((r, behind) :: rows) = r.text ++ (behind ++ rowsText rows) := by
  rw [rowsText, List.flatMap_cons, List.append_assoc]
  rfl

/-- The text of registrations is empty or begins with the keyword. -/
theorem rowsText_cases (rows : List (Registration × List Char)) :
    rowsText rows = [] ∨ keyword <+: rowsText rows := by
  cases rows with
  | nil => exact .inl rfl
  | cons row rows =>
    right
    rw [rowsText_cons, Registration.text, List.append_assoc]
    exact List.prefix_append _ _

/-- There are no more registrations than characters in their text. -/
theorem length_le_rowsText (rows : List (Registration × List Char)) :
    rows.length ≤ (rowsText rows).length := by
  induction rows with
  | nil => exact Nat.le_refl _
  | cons row rows ih =>
    have filled := row.1.length_text_pos
    rw [rowsText_cons, List.length_cons, List.length_append, List.length_append]
    omega

/-- The matches from a place on are the registrations that follow, one after the other. -/
theorem tokens_findAllFrom (free : ¬ keyword <:+: filler)
    (rowsFree : ∀ row ∈ rows, ¬ keyword <:+: row.2) (text : place.rest = filler ++ rowsText rows)
    {fuel : Nat} (enough : rows.length < fuel) (lastEnd : Option Nat) :
    (registrationPattern.findAllFrom fuel lastEnd place).filterMap
        (fun m => m.group?.map String.ofList) = rows.map fun row => String.ofList row.1.token := by
  induction rows generalizing filler place fuel lastEnd with
  | nil =>
    obtain ⟨fuel, rfl⟩ := Nat.exists_eq_succ_of_ne_zero (Nat.ne_zero_of_lt enough)
    have ended : (place.across filler).rest = [] := Place.rest_across text
    have none : registrationPattern.trails { place := place.across filler } = [] := by
      refine trails_registration_eq_nil ?_
      rw [ended]
      decide
    unfold findAllFrom findNext?
    rw [findFrom?_registration free (.inl rfl) text, findFrom?, none]
    rfl
  | cons row rows ih =>
    obtain ⟨fuel, rfl⟩ := Nat.exists_eq_succ_of_ne_zero (Nat.ne_zero_of_lt enough)
    obtain ⟨r, behind⟩ := row
    rw [List.forall_mem_cons] at rowsFree
    have found := findFrom?_registration free (rowsText_cases _) text
    rw [rowsText_cons] at text
    have here : (place.across filler).rest = r.text ++ (behind ++ rowsText rows) :=
      Place.rest_across text
    have first := head?_trails_registration (t := { place := place.across filler }) here
    rw [findFrom?_of_head? first] at found
    have long :
        (place.across filler).position ≠ ((place.across filler).across r.text).position := by
      have filled := r.length_text_pos
      simp only [Place.across]
      omega
    rw [findAllFrom, findNext?_of_findFrom? found long, List.filterMap_cons,
      ih rowsFree.1 rowsFree.2 (Place.rest_across here) (Nat.lt_of_succ_lt_succ enough)]
    simp [Match.group?, Stretch.text]

end All

/-! ## Declared names -/

/-- One list keeps of every item of another one the first occurrence, in the order of those. -/
structure KeepsFirsts (items kept : List String) : Prop where
  /-- The same items occur. -/
  mem_iff : ∀ item, item ∈ kept ↔ item ∈ items
  /-- They stand in the order in which they occur first, so none stands twice. -/
  ordered : kept.Pairwise fun item later => items.idxOf item < items.idxOf later

/-- To erase duplicates is to keep first occurrences. -/
theorem keepsFirsts_eraseDups (items : List String) : KeepsFirsts items items.eraseDups := by
  refine ⟨fun item => List.mem_eraseDups, ?_⟩
  induction items using List.reverseRecOn with
  | nil => exact .nil
  | append_singleton items last ih =>
    have earlier : ∀ item ∈ items, (items ++ [last]).idxOf item = items.idxOf item :=
      fun item member => List.idxOf_append_of_mem member
    have kept : items.eraseDups.Pairwise fun item later =>
        (items ++ [last]).idxOf item < (items ++ [last]).idxOf later :=
      ih.imp_of_mem fun member member' before => by
        rwa [earlier _ (List.mem_eraseDups.mp member), earlier _ (List.mem_eraseDups.mp member')]
    rw [List.eraseDups_append]
    by_cases again : last ∈ items
    · simpa [List.removeAll, again] using kept
    · have own : ([last].removeAll items).eraseDups = [last] := by
        simp [List.removeAll, again, List.eraseDups_cons]
      rw [own, List.pairwise_append]
      refine ⟨kept, List.pairwise_singleton _ _, fun item member later new => ?_⟩
      have known := List.mem_eraseDups.mp member
      rw [List.mem_singleton.mp new, earlier item known, List.idxOf_append_of_notMem again]
      exact Nat.lt_add_right _ (List.idxOf_lt_length_of_mem known)

/-- Among first occurrences none repeats. -/
theorem KeepsFirsts.nodup {items kept : List String} (keeps : KeepsFirsts items kept) :
    kept.Nodup := by
  refine keeps.ordered.imp fun {item later} before => ?_
  rintro rfl
  exact Nat.lt_irrefl _ before

/-- In a source text with any registrations, the usual pattern finds the tokens of all of them, in
their order and repeated as there, and nothing else; and of the declared names every first
occurrence is kept and no other. -/
theorem extract_readsSource (source : SourceText) (symbol heuristic : Pattern) (path : String)
    (fileName : List Char) :
    ∃ token, Config.readPattern .tokenPattern ({} : Config).tokenPattern = .ok token ∧
      (Patterns.extract ⟨token, symbol, heuristic⟩ path fileName source.text).tokens =
        source.tokens ∧
      (Patterns.extract ⟨token, symbol, heuristic⟩ path fileName source.text).symbols.Nodup ∧
      KeepsFirsts (firstGroups symbol source.text)
        (Patterns.extract ⟨token, symbol, heuristic⟩ path fileName source.text).symbols := by
  refine ⟨registrationPattern, readPattern_tokenPattern, ?_, (keepsFirsts_eraseDups _).nodup,
    keepsFirsts_eraseDups _⟩
  refine tokens_findAllFrom source.lead_free source.rows_free rfl ?_ none
  have fewer := length_le_rowsText source.rows
  rw [SourceText.text, List.length_append]
  omega

/-- The keyword stands in a comment and in what is registered, the first registration goes on over
two lines, and the second repeats its token. -/
def sampleSource : SourceText where
  lead := "/* REGISTER_AVS_EFFECT */".toList
  rows :=
    [({ behindOpening := [], subject := "REGISTER_AVS_EFFECT(B".toList
        behindComma := ['\n'], token := "glow".toList, behindToken := [' ']
        blank := List.all_eq_true.mp rfl
        subject_ne_nil := by decide, subject_free := by decide
        token_ne_nil := by decide, token_free := by decide }, ";\n".toList),
     ({ behindOpening := [], subject := "C".toList
        behindComma := [], token := "glow".toList, behindToken := []
        blank := List.all_eq_true.mp rfl
        subject_ne_nil := by decide, subject_free := by decide
        token_ne_nil := by decide, token_free := by decide }, ";".toList)]
  lead_free := by decide +kernel
  rows_free := by decide +kernel

/-- Both registrations of the sample are found, with what the symbol pattern finds besides. -/
theorem extract_readsSource_wrapped :
    sampleSource.text = ("/* REGISTER_AVS_EFFECT */REGISTER_AVS_EFFECT(REGISTER_AVS_EFFECT(B,\n" ++
        "\"glow\" );\nREGISTER_AVS_EFFECT(C,\"glow\");").toList ∧
      ∃ token, Config.readPattern .tokenPattern ({} : Config).tokenPattern = .ok token ∧
        (Patterns.extract ⟨token, .empty, .empty⟩ "p.cpp" [] sampleSource.text).tokens =
          ["glow", "glow"] := by
  have tokens : sampleSource.tokens = ["glow", "glow"] := by decide +kernel
  obtain ⟨token, read, found, -⟩ := extract_readsSource sampleSource .empty .empty "p.cpp" []
  exact ⟨by decide +kernel, token, read, found.trans tokens⟩

end CatalogAudit.Scan
