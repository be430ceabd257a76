import CatalogAudit.Yaml.Token.Reader
import CatalogAudit.Proofs.Yaml.Cursor

/-!
# Passing what does not count

Between two tokens the reader of markup passes blanks, comments and line ends. `Passes` tells which
texts are passed, and where that ends. Both the skipping between tokens and the reading on behind
the words of a plain scalar go along such a text: the one to its end, and the other at least to its
first comment, from where the first comes to the same end.
-/

namespace CatalogAudit.Yaml

/-- The text, which stands at a column, begins with a character that is not passed there, or is at
its end. -/
def Solid (column : Nat) (text : List Char) : Prop :=
  ∀ x ∈ text.head?, x ≠ ' ' ∧ x ≠ '\t' ∧ x ≠ '#' ∧ isBreak x = false ∧ (column = 0 → x ≠ '\uFEFF')

/-- A text is solid when its first character is no separator and begins no comment. -/
theorem solid_cons {x : Char} (noSeparator : isSeparator x = false) (noComment : x ≠ '#')
    {column : Nat} (noMark : column = 0 → x ≠ '\uFEFF') (rest : List Char) :
    Solid column (x :: rest) := by
  intro y first
  obtain rfl : x = y := Option.some.inj first
  rw [isSeparator, Bool.or_eq_false_iff, Text.isGap, Bool.or_eq_false_iff, beq_eq_false_iff_ne,
    beq_eq_false_iff_ne] at noSeparator
  exact ⟨noSeparator.1.1, noSeparator.1.2, noComment, noSeparator.2, noMark⟩

/-- From a column on, nothing that counts stands in the text before `here`, which stands at the
column `target`. Tabs are passed only `behind` a token, before the first line end. At the end of the
text no column is asked for. -/
inductive Passes (here : List Char) (target : Nat) : (behind : Bool) → Nat → List Char → Prop
  /-- Here it is. -/
  | stop (solid : Solid target here) : Passes here target false target here
  /-- The text is over. -/
  | textEnd {behind : Bool} {column : Nat} (finished : here = []) :
      Passes here target behind column []
  /-- A space. -/
  | space {behind : Bool} {column : Nat} {rest : List Char}
      (passes : Passes here target behind (column + 1) rest) :
      Passes here target behind column (' ' :: rest)
  /-- A tab. -/
  | tab {column : Nat} {rest : List Char} (passes : Passes here target true (column + 1) rest) :
      Passes here target true column ('\t' :: rest)
  /-- A comment, up to the end of its line. -/
  | comment {behind : Bool} {column : Nat} {rest : List Char} (words : List Char)
      (noBreak : ∀ x ∈ words, isBreak x = false) (ended : atLineEnd rest = true)
      (passes : Passes here target behind (column + (words.length + 1)) rest) :
      Passes here target behind column ('#' :: (words ++ rest))
  /-- A line end. -/
  | lineEnd {behind : Bool} {column : Nat} {rest : List Char} (lineEnd : Text.LineEnd)
      (passes : Passes here target false 0 rest) :
      Passes here target behind column (lineEnd.text ++ rest)

/-- What is passed to is no longer than the text. -/
theorem Passes.length_le {here : List Char} {target : Nat} {behind : Bool} {column : Nat}
    {text : List Char} (passes : Passes here target behind column text) :
    here.length ≤ text.length := by
  induction passes with
  | stop solid => exact Nat.le_refl _
  | textEnd finished => simp [finished]
  | space passes ih => exact Nat.le_succ_of_le ih
  | tab passes ih => exact Nat.le_succ_of_le ih
  | comment words noBreak ended passes ih => simp only [List.length_cons, List.length_append]; omega
  | lineEnd lineEnd passes ih => rw [List.length_append]; omega

/-- In an empty text nothing but its end is passed. -/
theorem Passes.eq_nil {here : List Char} {target : Nat} {behind : Bool} {column : Nat}
    {text : List Char} (passes : Passes here target behind column text) (finished : text = []) :
    here = [] := by
  cases passes with
  | stop solid => exact finished
  | textEnd none => exact none
  | space passes => cases finished
  | tab passes => cases finished
  | comment words noBreak ended passes => cases finished
  | lineEnd lineEnd passes => cases lineEnd <;> cases finished

namespace Token.Reader

/-- Where nothing is to be passed the reader stays. -/
theorem skipIgnored_solid {c : Cursor} (solid : Solid c.column c.rest) (flow : Bool) (fuel : Nat)
    (keyAllowed : Bool) :
    skipIgnored flow (fuel + 1) keyAllowed c = (keyAllowed, c) := by
  have stays : c.skipWhile (fun x => x == ' ' || ((flow || !keyAllowed) && x == '\t')) = c := by
    apply Cursor.skipWhile_eq_self
    intro x first
    obtain ⟨noSpace, noTab, -⟩ := solid x first
    simp [noSpace, noTab]
  have noMark : (c.column == 0 && c.at? (· == '\uFEFF')) = false := by
    cases margin : c.column == 0 with
    | false => rfl
    | true =>
      rw [Bool.true_and]
      apply Cursor.at?_eq_false
      intro x first
      exact beq_eq_false_iff_ne.mpr ((solid x first).2.2.2.2 (beq_iff_eq.mp margin))
  have noComment : c.at? (· == '#') = false := by
    apply Cursor.at?_eq_false
    intro x first
    simp [(solid x first).2.2.1]
  have noBreak : c.at? isBreak = false := Cursor.at?_eq_false fun x first => (solid x first).2.2.2.1
  rw [skipIgnored, noMark]
  simp [stays, noComment, noBreak]

/-- A blank is passed. -/
theorem skipIgnored_blank {c : Cursor} {x : Char} {rest : List Char} (h : c.rest = x :: rest)
    {flow keyAllowed : Bool} (blank : x = ' ' ∨ (flow || !keyAllowed) = true ∧ x = '\t')
    (fuel : Nat) :
    skipIgnored flow (fuel + 1) keyAllowed c
      = skipIgnored flow (fuel + 1) keyAllowed (c.forward 1) := by
  have counts : (x == ' ' || ((flow || !keyAllowed) && x == '\t')) = true := by
    cases blank with
    | inl space => simp [space]
    | inr tab => simp [tab.1, tab.2]
  have noMark : c.at? (· == '\uFEFF') = false := by
    rw [Cursor.at?_cons h]
    rcases blank with rfl | ⟨-, rfl⟩ <;> rfl
  have later : ((c.forward 1).column == 0) = false := by simp [Cursor.forward]
  have passed : c.skipWhile (fun x => x == ' ' || ((flow || !keyAllowed) && x == '\t'))
      = (c.forward 1).skipWhile (fun x => x == ' ' || ((flow || !keyAllowed) && x == '\t')) :=
    Cursor.skipWhile_cons h counts
  rw [skipIgnored, skipIgnored, noMark, later]
  simp only [Bool.and_false, Bool.false_and, Bool.false_eq_true, if_false, passed]

/-- A stretch of blanks is passed. -/
theorem skipIgnored_blanks {c : Cursor} {gap rest : List Char} (h : c.rest = gap ++ rest)
    {flow keyAllowed : Bool}
    (blank : ∀ x ∈ gap, x = ' ' ∨ (flow || !keyAllowed) = true ∧ x = '\t') (fuel : Nat) :
    skipIgnored flow (fuel + 1) keyAllowed c
      = skipIgnored flow (fuel + 1) keyAllowed (c.forward gap.length) := by
  induction gap generalizing c with
  | nil => rw [List.length_nil, Cursor.forward_zero]
  | cons x gap ih =>
    rw [List.forall_mem_cons] at blank
    have next : (c.forward 1).rest = gap ++ rest := Cursor.rest_forward_one h
    have further : 1 + gap.length = (x :: gap).length := Nat.add_comm _ _
    rw [skipIgnored_blank h blank.1, ih next blank.2, Cursor.forward_forward, further]

/-- A break is no character within a line. -/
theorem ne_of_isBreak {x y : Char} (ends : isBreak x = true) (inside : isBreak y = false) :
    x ≠ y := by
  rintro rfl
  rw [ends] at inside
  exact absurd inside (by decide)

/-- At the end of a line the next line is gone on with. -/
theorem skipIgnored_atLineEnd {c : Cursor} (ended : atLineEnd c.rest = true)
    (flow keyAllowed : Bool) (fuel : Nat) :
    skipIgnored flow (fuel + 1) keyAllowed c
      = if c.at? isBreak then skipIgnored flow fuel (!flow || keyAllowed) c.readBreak.2
        else (keyAllowed, c) := by
  have stops : ∀ y, isBreak y = false → ∀ x ∈ c.rest.head?, (x == y) = false := by
    intro y inside x first
    cases rest : c.rest with
    | nil => simp [rest] at first
    | cons z others =>
      rw [rest] at ended first
      obtain rfl : z = x := Option.some.inj first
      exact beq_eq_false_iff_ne.mpr (ne_of_isBreak ended inside)
  have stays : c.skipWhile (fun x => x == ' ' || ((flow || !keyAllowed) && x == '\t')) = c := by
    apply Cursor.skipWhile_eq_self
    intro x first
    rw [stops ' ' (by decide) x first, stops '\t' (by decide) x first, Bool.and_false,
      Bool.false_or]
  have noMark : c.at? (· == '\uFEFF') = false := Cursor.at?_eq_false (stops _ (by decide))
  have noComment : c.at? (· == '#') = false := Cursor.at?_eq_false (stops _ (by decide))
  rw [skipIgnored, noMark, Bool.and_false]
  simp only [Bool.false_eq_true, if_false, stays, noComment]

/-- A comment is passed up to the end of its line. -/
theorem skipIgnored_comment {c : Cursor} {words rest : List Char}
    (h : c.rest = '#' :: (words ++ rest)) (noBreak : ∀ x ∈ words, isBreak x = false)
    (ended : atLineEnd rest = true) (flow keyAllowed : Bool) (fuel : Nat) :
    skipIgnored flow (fuel + 1) keyAllowed c
      = skipIgnored flow (fuel + 1) keyAllowed (c.forward (words.length + 1)) := by
  have comment : c.toLineEnd = c.forward (words.length + 1) := by
    have passed : ∀ x ∈ '#' :: words, (!isBreak x) = true := by
      rw [List.forall_mem_cons]
      exact ⟨rfl, fun x mem => by rw [noBreak x mem]; rfl⟩
    refine Cursor.skipWhile_append h passed ?_
    cases rest with
    | nil => simp
    | cons x rest =>
      intro y first
      obtain rfl : x = y := Option.some.inj first
      exact congrArg Bool.not ended
  have split : c.rest = ('#' :: words) ++ rest := h
  have behind : (c.forward (words.length + 1)).rest = rest := Cursor.rest_forward_length split
  have noMark : c.at? (· == '\uFEFF') = false := Cursor.at?_cons h _
  have isComment : c.at? (· == '#') = true := Cursor.at?_cons h _
  have stays : c.skipWhile (fun x => x == ' ' || ((flow || !keyAllowed) && x == '\t')) = c := by
    apply Cursor.skipWhile_eq_self
    intro x first
    rw [h] at first
    obtain rfl : '#' = x := Option.some.inj first
    simp
  have endedBehind : atLineEnd (c.forward (words.length + 1)).rest = true := by rwa [behind]
  rw [skipIgnored_atLineEnd endedBehind, skipIgnored, noMark, Bool.and_false]
  simp only [Bool.false_eq_true, if_false, stays, isComment, if_true, comment]

/-- A line end is passed. -/
theorem skipIgnored_lineEnd {c : Cursor} {lineEnd : Text.LineEnd} {rest : List Char}
    (h : c.rest = lineEnd.text ++ rest) (keyAllowed : Bool) (fuel : Nat) :
    skipIgnored false (fuel + 1) keyAllowed c
      = skipIgnored false fuel true ⟨rest, c.index + lineEnd.text.length, c.line + 1, 0⟩ := by
  have ended : atLineEnd c.rest = true := by
    rw [h]
    cases lineEnd <;> rfl
  rw [skipIgnored_atLineEnd ended, if_pos (Cursor.at?_lineEnd h), Cursor.readBreak_lineEnd h]
  rfl

/-- What does not count is passed. Where something comes then, a key is allowed. -/
theorem exists_skipIgnored_of_passes {here : List Char} {target : Nat} {behind : Bool}
    {column : Nat} {text : List Char} (passes : Passes here target behind column text) {c : Cursor}
    (rest : c.rest = text) (at' : c.column = column) {fuel : Nat} (enough : text.length < fuel) :
    ∃ keyAllowed c', skipIgnored false fuel (!behind) c = (keyAllowed, c') ∧ c'.rest = here ∧
      (here ≠ [] → c'.column = target ∧ keyAllowed = true) := by
  obtain ⟨fuel, rfl⟩ : ∃ n, fuel = n + 1 := ⟨fuel - 1, by omega⟩
  induction passes generalizing c fuel with
  | stop solid =>
    refine ⟨true, c, ?_, rest, fun _ => ⟨at', rfl⟩⟩
    exact skipIgnored_solid (by rwa [rest, at']) false fuel true
  | @textEnd behind column finished =>
    refine ⟨!behind, c, ?_, by rw [rest, finished], fun some => absurd finished some⟩
    exact skipIgnored_solid (by simp [rest, Solid]) false fuel (!behind)
  | @space behind column others passes ih =>
    rw [skipIgnored_blank rest (.inl rfl)]
    refine ih (Cursor.rest_forward_one rest) ?_ fuel (Nat.lt_of_succ_lt enough)
    rw [Cursor.column_forward, at']
  | @tab column others passes ih =>
    rw [skipIgnored_blank rest (.inr ⟨rfl, rfl⟩)]
    refine ih (Cursor.rest_forward_one rest) ?_ fuel (Nat.lt_of_succ_lt enough)
    rw [Cursor.column_forward, at']
  | @comment behind column others words noBreak ended passes ih =>
    have split : c.rest = ('#' :: words) ++ others := rest
    rw [skipIgnored_comment rest noBreak ended]
    refine ih ?_ ?_ fuel ?_
    · exact Cursor.rest_forward_length split
    · rw [Cursor.column_forward, at']
    · rw [List.length_cons, List.length_append] at enough
      omega
  | @lineEnd behind column others lineEnd passes ih =>
    have long : 1 ≤ lineEnd.text.length := by cases lineEnd <;> decide
    rw [List.length_append] at enough
    obtain ⟨fuel, rfl⟩ : ∃ n, fuel = n + 1 := ⟨fuel - 1, by omega⟩
    rw [skipIgnored_lineEnd rest]
    exact ih rfl rfl fuel (by omega)

end Token.Reader

namespace Gap

/-- A blank is read on over; a tab only on the line on which the gap began. -/
theorem exists_readOn_blank {margin : Nat} {g : Gap} {c : Cursor} {x : Char} {rest : List Char}
    (h : c.rest = x :: rest) (blank : x = ' ' ∨ g.broken = false ∧ x = '\t') (fuel : Nat) :
    ∃ g', readOn margin (fuel + 1) g c = readOn margin fuel g' (c.forward 1) ∧
      g'.broken = g.broken ∧ (g.broken = false → g' = { g with blanks := x :: g.blanks }) := by
  have isGap : Text.isGap x = true := by rcases blank with rfl | ⟨-, rfl⟩ <;> rfl
  rw [readOn, h]
  cases broken : g.broken with
  | true =>
    have space : x = ' ' := by simpa [broken] using blank
    refine ⟨g, ?_, broken, fun onLine => absurd onLine (by decide)⟩
    simp [space, Text.isGap]
  | false =>
    refine ⟨{ g with blanks := x :: g.blanks }, ?_, broken, fun _ => by rw [broken]⟩
    simp [broken, isGap]

/-- Blanks on a line are kept. -/
theorem readOn_blanks {margin : Nat} {g : Gap} (onLine : g.broken = false) {c : Cursor}
    {gap rest : List Char} (h : c.rest = gap ++ rest) (blank : ∀ x ∈ gap, Text.isGap x = true)
    (fuel : Nat) :
    readOn margin (fuel + gap.length) g c
      = readOn margin fuel { g with blanks := gap.reverse ++ g.blanks } (c.forward gap.length) := by
  induction gap generalizing g c with
  | nil => rw [List.length_nil, Cursor.forward_zero]; rfl
  | cons x gap ih =>
    rw [List.forall_mem_cons] at blank
    have next : (c.forward 1).rest = gap ++ rest := Cursor.rest_forward_one h
    have further : 1 + gap.length = (x :: gap).length := Nat.add_comm _ _
    have one : x = ' ' ∨ g.broken = false ∧ x = '\t' := by
      have isGap := blank.1
      rw [Text.isGap, Bool.or_eq_true, beq_iff_eq, beq_iff_eq] at isGap
      exact isGap.imp_right fun tab => ⟨onLine, tab⟩
    obtain ⟨g', step, broken, kept⟩ := exists_readOn_blank h one (fuel + gap.length)
    rw [List.length_cons, ← Nat.add_assoc, step, ih (broken.trans onLine) next blank.2, kept onLine,
      Cursor.forward_forward, further, List.reverse_cons, List.append_assoc, List.singleton_append]
    rfl

/-- A line end is read on over. -/
theorem exists_readOn_lineEnd {margin : Nat} (g : Gap) {c : Cursor} {lineEnd : Text.LineEnd}
    {rest : List Char} (h : c.rest = lineEnd.text ++ rest) (fuel : Nat) :
    ∃ g', readOn margin (fuel + 1) g c
        = readOn margin fuel g' ⟨rest, c.index + lineEnd.text.length, c.line + 1, 0⟩ ∧
      g'.broken = true := by
  have split : ∃ x others, c.rest = x :: others ∧ isBreak x = true ∧ Text.isGap x = false := by
    cases lineEnd with
    | feed => exact ⟨'\n', rest, h, by decide, by decide⟩
    | returnFeed => exact ⟨'\r', '\n' :: rest, h, by decide, by decide⟩
  obtain ⟨x, others, first, ends, noGap⟩ := split
  rw [readOn, first]
  simp only [noGap, ends, Cursor.readBreak_lineEnd h, Bool.false_eq_true, if_false, if_true]
  cases broken : g.broken with
  | true => exact ⟨{ g with more := ['\n'] ++ g.more }, by simp [broken], broken⟩
  | false =>
    exact ⟨{ g with broken := true, blanks := [], first := ['\n'] }, by simp, rfl⟩

/-- Nothing is read on where no blank and no line end stands. -/
theorem readOn_eq_self {margin : Nat} {g : Gap} {c : Cursor}
    (stops : ∀ x ∈ c.rest.head?, isSeparator x = false) (fuel : Nat) :
    readOn margin fuel g c = some (g, c) := by
  cases fuel with
  | zero => rfl
  | succ fuel =>
    cases rest : c.rest with
    | nil => rw [readOn, rest]
    | cons x others =>
      have inside := stops x (by simp [rest])
      rw [isSeparator, Bool.or_eq_false_iff] at inside
      rw [readOn, rest]
      simp only [inside.1, inside.2, Bool.false_eq_true, if_false]

/-- On a line, the gap before anything that is neither blank nor line end is kept as it is. -/
theorem readOn_gap {margin : Nat} {c : Cursor} {gap rest : List Char} (h : c.rest = gap ++ rest)
    (blank : ∀ x ∈ gap, Text.isGap x = true) (stops : ∀ x ∈ rest.head?, isSeparator x = false)
    {fuel : Nat} (enough : gap.length ≤ fuel) :
    readOn margin fuel {} c = some ({ blanks := gap.reverse }, c.forward gap.length) := by
  obtain ⟨fuel, rfl⟩ : ∃ n, fuel = n + gap.length := ⟨fuel - gap.length, by omega⟩
  have behind : (c.forward gap.length).rest = rest := Cursor.rest_forward_length h
  rw [readOn_blanks rfl h blank, List.append_nil, readOn_eq_self]
  rwa [behind]

/-- Blanks on one line are kept as they are. -/
theorem fold_blanks (gap : List Char) : fold { blanks := gap.reverse } = gap := by
  simp [fold]

/-- Behind a word, reading on stops within what does not count: at its end or at a comment. -/
theorem exists_readOn_of_passes {here : List Char} {target : Nat} {behind : Bool} {column : Nat}
    {text : List Char} (passes : Passes here target behind column text) {c : Cursor}
    (rest : c.rest = text) (at' : c.column = column) {fuel : Nat} (enough : text.length < fuel)
    (margin : Nat) {g : Gap} (broken : g.broken = !behind) :
    ∃ g' c', readOn margin fuel g c = some (g', c') ∧ c'.rest.length ≤ text.length ∧
      Passes here target (!g'.broken) c'.column c'.rest ∧
      (c'.at? (· == '#') = true ∨ c'.rest = here ∧ (here ≠ [] → c'.column = target)) := by
  induction passes generalizing c g fuel with
  | stop solid =>
    have stays : readOn margin fuel g c = some (g, c) := by
      apply readOn_eq_self
      intro x first
      rw [rest] at first
      obtain ⟨noSpace, noTab, -, noBreak, -⟩ := solid x first
      simp [isSeparator, Text.isGap, noSpace, noTab, noBreak]
    refine ⟨g, c, stays, Nat.le_of_eq (by rw [rest]), ?_, .inr ⟨rest, fun _ => at'⟩⟩
    rw [rest, at', broken]
    exact .stop solid
  | @textEnd behind column finished =>
    have stays : readOn margin fuel g c = some (g, c) := by
      apply readOn_eq_self
      simp [rest]
    refine ⟨g, c, stays, Nat.le_of_eq (by rw [rest]), ?_,
      .inr ⟨by rw [rest, finished], fun some => absurd finished some⟩⟩
    rw [rest]
    exact .textEnd finished
  | @space behind column others passes ih =>
    obtain ⟨fuel, rfl⟩ : ∃ n, fuel = n + 1 := ⟨fuel - 1, by omega⟩
    obtain ⟨g', step, same, -⟩ := exists_readOn_blank rest (.inl rfl) fuel
    have behind : (c.forward 1).rest = others := Cursor.rest_forward_one rest
    obtain ⟨g'', c', read, less, passed⟩ := ih behind (by rw [Cursor.column_forward, at'])
      (Nat.lt_of_succ_lt_succ enough) (same.trans broken)
    exact ⟨g'', c', step.trans read, Nat.le_succ_of_le less, passed⟩
  | @tab column others passes ih =>
    obtain ⟨fuel, rfl⟩ : ∃ n, fuel = n + 1 := ⟨fuel - 1, by omega⟩
    obtain ⟨g', step, same, -⟩ := exists_readOn_blank rest (.inr ⟨broken, rfl⟩) fuel
    have behind : (c.forward 1).rest = others := Cursor.rest_forward_one rest
    obtain ⟨g'', c', read, less, passed⟩ := ih behind (by rw [Cursor.column_forward, at'])
      (Nat.lt_of_succ_lt_succ enough) (same.trans broken)
    exact ⟨g'', c', step.trans read, Nat.le_succ_of_le less, passed⟩
  | @comment behind column others words noBreak ended passes ih =>
    have stays : readOn margin fuel g c = some (g, c) := by
      apply readOn_eq_self
      intro x first
      rw [rest] at first
      obtain rfl : '#' = x := Option.some.inj first
      rfl
    refine ⟨g, c, stays, Nat.le_of_eq (by rw [rest]), ?_, .inl (Cursor.at?_cons rest _)⟩
    rw [rest, at', broken, Bool.not_not]
    exact .comment words noBreak ended passes
  | @lineEnd behind column others lineEnd passes ih =>
    have long : 1 ≤ lineEnd.text.length := by cases lineEnd <;> decide
    rw [List.length_append] at enough ⊢
    obtain ⟨fuel, rfl⟩ : ∃ n, fuel = n + 1 := ⟨fuel - 1, by omega⟩
    have shorter : others.length < fuel := by omega
    obtain ⟨g', step, broken'⟩ := exists_readOn_lineEnd g rest fuel
    obtain ⟨g'', c', read, less, passed⟩ :=
      ih (c := ⟨others, c.index + lineEnd.text.length, c.line + 1, 0⟩) rfl rfl shorter broken'
    exact ⟨g'', c', step.trans read, Nat.le_add_left_of_le less, passed⟩

end Gap

end CatalogAudit.Yaml
