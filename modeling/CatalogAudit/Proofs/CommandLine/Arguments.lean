import CatalogAudit.CommandLine

/-!
# Arguments without some options

What it takes for arguments to be accepted is told option by option. Arguments that are accepted are
accepted without the options of some names too, and everything else that they say stays the same.
Left out may be, for instance, the options that only say in which form results are shown and where
they are put, and how much is told on the way.
-/

namespace CatalogAudit.CommandLine

/-! ## Leaving options out -/

/-- Whether the option of a name only says how and where results are shown. -/
def shows (name : String) : Bool :=
  ["format", "out", "report", "scan-details", "verbose"].contains name

/-- The name in an argument behind its two hyphens. -/
def nameIn (long : List Char) : String := String.ofList (long.takeWhile (· != '='))

/-- Whether an argument, behind its two hyphens, waits for its value in the next argument. -/
def waits (long : List Char) : Bool :=
  (long.dropWhile (· != '=')).isEmpty && hasValue (nameIn long)

/-- The arguments without the options of some names. -/
def without (named : String → Bool) : List String → List String
  | [] => []
  | argument :: rest =>
    match argument.toList with
    | '-' :: '-' :: long =>
      if named (nameIn long) then
        if waits long then
          match rest with
          | [] => []
          | _ :: rest => without named rest
        else without named rest
      else argument :: without named rest
    | '-' :: 'v' :: letters =>
      if named "verbose" && letters.all (· == 'v') then without named rest
      else argument :: without named rest
    | _ => argument :: without named rest

/-- What is said without the options of some names. -/
def Options.without (named : String → Bool) (o : Options) : Options where
  manifest := if named "manifest" then none else o.manifest
  sourceRoots := if named "source-root" then [] else o.sourceRoots
  repoRoot := if named "repo-root" then none else o.repoRoot
  config := if named "config" then none else o.config
  out := if named "out" then none else o.out
  report := if named "report" then none else o.report
  ci := if named "ci" then false else o.ci
  format := if named "format" then none else o.format
  parser := if named "parser" then none else o.parser
  details := if named "scan-details" then false else o.details

/-- Nothing is said without any options. -/
theorem without_default (named : String → Bool) : ({} : Options).without named = {} := by
  simp only [Options.without, ite_self]

/-! ## One option -/

section Option

variable {named : String → Bool} {o next : Options} {name value : String}
  {long letters : List Char}

/-- An option that is kept is set without the others. -/
theorem without_setValue (kept : named name = false)
    (set : o.setValue name value = some (some next)) :
    (o.without named).setValue name value = some (some (next.without named)) := by
  unfold Options.setValue at set
  split at set
  case h_9 => cases set
  all_goals
    rw [Option.some_inj, Option.map_eq_some_iff] at set
    obtain ⟨x, given, rfl⟩ := set
    simp only [Options.setValue, Options.without, kept, given, Option.map_some,
      if_neg Bool.false_ne_true]

/-- An option that is left out sets nothing else. -/
theorem without_of_setValue (left : named name = true)
    (set : o.setValue name value = some (some next)) : next.without named = o.without named := by
  unfold Options.setValue at set
  split at set
  case h_9 => cases set
  all_goals
    rw [Option.some_inj, Option.map_eq_some_iff] at set
    obtain ⟨x, -, rfl⟩ := set
    simp only [Options.without, left, if_true]

/-- A flag that is kept sets what is kept. -/
theorem without_setFlag (kept : named name = false) (set : o.setFlag name = .on next) :
    (o.without named).setFlag name = .on (next.without named) := by
  unfold Options.setFlag at set
  split at set
  case h_1 | h_2 =>
    split at set
    · cases set
    · rename_i unset
      cases set
      simp only [Options.setFlag, Options.without, kept, unset, if_neg Bool.false_ne_true]
  case h_3 =>
    cases set
    rfl
  all_goals cases set

/-- A flag that is left out sets nothing that is kept. -/
theorem without_of_setFlag (left : named name = true) (set : o.setFlag name = .on next) :
    next.without named = o.without named := by
  unfold Options.setFlag at set
  split at set
  case h_1 | h_2 =>
    split at set
    · cases set
    · cases set
      simp only [Options.without, left, if_true]
  case h_3 =>
    cases set
    rfl
  all_goals cases set

/-- What an option without a value stops for is no audit. -/
theorem setFlag_ne_audit {last : Options} : o.setFlag name ≠ .stop (.audit last) := by
  unfold Options.setFlag
  split
  · split <;> nofun
  · split <;> nofun
  all_goals nofun

/-- Letters that set something only ask for more words. -/
theorem setLetters_on {letters : List Char} (set : o.setLetters letters = .on next) :
    next = o ∧ letters.all (· == 'v') = true := by
  induction letters with
  | nil =>
    cases set
    exact ⟨rfl, rfl⟩
  | cons c letters ih =>
    unfold Options.setLetters longName at set
    split at set
    · rename_i flag
      split at flag
      · cases flag
        obtain ⟨same, all⟩ := ih set
        exact ⟨same, all⟩
      all_goals cases flag
    · cases set

/-- Letters that ask for more words set nothing. -/
theorem setLetters_of_all (all : letters.all (· == 'v') = true) : o.setLetters letters = .on o := by
  induction letters with
  | nil => rfl
  | cons c letters ih =>
    obtain ⟨first, others⟩ := Bool.and_eq_true_iff.mp all
    obtain rfl := eq_of_beq first
    exact ih others

/-- No letters start the audit. -/
theorem setLetters_ne_audit {last : Options} {letters : List Char} :
    o.setLetters letters ≠ .stop (.audit last) := by
  induction letters with
  | nil => nofun
  | cons c letters ih =>
    unfold Options.setLetters longName
    intro stops
    split at stops
    · rename_i flag
      split at flag
      · cases flag
        exact ih stops
      all_goals cases flag
    · rename_i flag
      cases stops
      exact setFlag_ne_audit flag

/-! ## Long options -/

/-- An option asks for its value exactly when it waits for it. -/
theorem setLong_eq_none_iff : o.setLong long = none ↔ waits long = true := by
  unfold Options.setLong waits nameIn
  cases long.dropWhile (· != '=') with
  | nil =>
    dsimp only
    cases hasValue (String.ofList (long.takeWhile (· != '='))) with
    | true => exact ⟨fun _ => rfl, fun _ => rfl⟩
    | false => exact ⟨nofun, nofun⟩
  | cons c value =>
    refine ⟨fun waiting => ?_, nofun⟩
    dsimp only at waiting
    split at waiting <;> cases waiting

/-- An option that sets something waits for nothing. -/
theorem waits_of_setLong {switch : Switch} (set : o.setLong long = some switch) :
    waits long = false := by
  rw [← Bool.not_eq_true, ← setLong_eq_none_iff (o := o), set]
  exact Option.some_ne_none _

/-- A long option has its value behind an equals sign, or has none. -/
theorem setLong_on_iff :
    o.setLong long = some (.on next) ↔
      (∃ c value, long.dropWhile (· != '=') = c :: value ∧
        o.setValue (nameIn long) (String.ofList value) = some (some next)) ∨
      long.dropWhile (· != '=') = [] ∧ hasValue (nameIn long) = false ∧
        o.setFlag (nameIn long) = .on next := by
  unfold Options.setLong nameIn
  cases long.dropWhile (· != '=') with
  | nil =>
    dsimp only
    cases hasValue (String.ofList (long.takeWhile (· != '='))) with
    | true => simp
    | false => simp
  | cons c value =>
    dsimp only
    constructor
    · intro on
      split at on
      · rename_i set
        cases on
        exact .inl ⟨c, value, rfl, set⟩
      · cases on
    · rintro (⟨c', value', same, set⟩ | ⟨alone, -⟩)
      · cases same
        rw [set]
      · cases alone

/-- A long option that is kept is set without the others. -/
theorem without_setLong (kept : named (nameIn long) = false)
    (set : o.setLong long = some (.on next)) :
    (o.without named).setLong long = some (.on (next.without named)) := by
  rw [setLong_on_iff] at set ⊢
  rcases set with ⟨c, value, behind, set⟩ | ⟨alone, valueless, set⟩
  · exact .inl ⟨c, value, behind, without_setValue kept set⟩
  · exact .inr ⟨alone, valueless, without_setFlag kept set⟩

/-- An option that is left out sets nothing that is kept. -/
theorem without_of_setLong (left : named (nameIn long) = true)
    (set : o.setLong long = some (.on next)) : next.without named = o.without named := by
  rcases setLong_on_iff.mp set with ⟨c, value, -, set⟩ | ⟨-, -, set⟩
  · exact without_of_setValue left set
  · exact without_of_setFlag left set

/-- No single option starts the audit. -/
theorem setLong_ne_audit {last : Options} : o.setLong long ≠ some (.stop (.audit last)) := by
  unfold Options.setLong
  dsimp only
  intro stops
  split at stops
  · split at stops <;> cases stops
  · split at stops
    · cases stops
    · exact setFlag_ne_audit (Option.some.inj stops)

/-- The whole argument is the name when there is no equals sign. -/
theorem nameIn_of_alone (alone : long.dropWhile (· != '=') = []) :
    nameIn long = String.ofList long := by
  have whole : long.takeWhile (· != '=') ++ long.dropWhile (· != '=') = long :=
    List.takeWhile_append_dropWhile
  rw [alone, List.append_nil] at whole
  rw [nameIn, whole]

/-- The whole argument is the name when the value is the next argument. -/
theorem nameIn_of_waits (waiting : waits long = true) : nameIn long = String.ofList long := by
  unfold waits at waiting
  exact nameIn_of_alone (List.isEmpty_iff.mp (Bool.and_eq_true_iff.mp waiting).1)

end Option

/-! ## All arguments -/

section Arguments

variable {named : String → Bool} {o next last : Options} {argument value : String}
  {rest arguments : List String} {long letters : List Char} {c : Char}

/-- A long option is left out together with its value, or kept. -/
theorem without_of_long (is : argument.toList = '-' :: '-' :: long) :
    without named (argument :: rest) =
      if named (nameIn long) then without named (if waits long then rest.tail else rest)
      else argument :: without named rest := by
  rw [without.eq_def]
  dsimp only
  rw [is]
  cases waiting : waits long with
  | false => simp only [waiting, if_neg Bool.false_ne_true]
  | true =>
    cases rest with
    | nil => simp only [waiting, if_true, List.tail_nil, without]
    | cons value rest => simp only [waiting, if_true, List.tail_cons]

/-- An option that is left out and complete leaves one argument out. -/
theorem without_of_left (is : argument.toList = '-' :: '-' :: long)
    (left : named (nameIn long) = true) (complete : waits long = false) :
    without named (argument :: rest) = without named rest := by
  rw [without_of_long is, if_pos left, complete, if_neg Bool.false_ne_true]

/-- An option that is left out and waits for its value leaves two arguments out. -/
theorem without_of_waits (is : argument.toList = '-' :: '-' :: long)
    (left : named (nameIn long) = true) (waiting : waits long = true) :
    without named (argument :: value :: rest) = without named rest := by
  rw [without_of_long is, if_pos left, if_pos waiting, List.tail_cons]

/-- An option that is kept stays. -/
theorem without_of_kept (is : argument.toList = '-' :: '-' :: long)
    (kept : named (nameIn long) = false) :
    without named (argument :: rest) = argument :: without named rest := by
  rw [without_of_long is, kept, if_neg Bool.false_ne_true]

/-- Letters behind one hyphen stay exactly when they are not left out. -/
theorem without_of_letters (is : argument.toList = '-' :: 'v' :: letters)
    (all : letters.all (· == 'v') = true) :
    without named (argument :: rest) =
      if named "verbose" then without named rest else argument :: without named rest := by
  rw [without.eq_def]
  dsimp only
  rw [is]
  simp only [all, Bool.and_true]

/-- A value does not begin like an option. -/
theorem canBeValue_eq_false (is : value.toList = '-' :: c :: letters) :
    canBeValue value = false := by
  have different : value ≠ "-" := by
    rintro rfl
    cases is
  unfold canBeValue
  rw [is, beq_false_of_ne different]
  rfl

/-- What is no option stays. -/
theorem without_of_value (usable : canBeValue value = true) :
    without named (value :: rest) = value :: without named rest := by
  rw [without.eq_def]
  dsimp only
  split
  · rename_i is
    rw [canBeValue_eq_false is] at usable
    cases usable
  · rename_i is
    rw [canBeValue_eq_false is] at usable
    cases usable
  · rfl

/-- An option that is complete is one argument read. -/
theorem readArguments_long (is : argument.toList = '-' :: '-' :: long) (filled : long ≠ [])
    (set : o.setLong long = some (.on next)) :
    readArguments o (argument :: rest) = readArguments next rest := by
  obtain ⟨c, more, rfl⟩ := List.exists_cons_of_ne_nil filled
  rw [readArguments.eq_def]
  dsimp only
  rw [is]
  simp only [set]

/-- An option that waits is read with the argument behind it. -/
theorem readArguments_value (is : argument.toList = '-' :: '-' :: long) (filled : long ≠ [])
    (waiting : o.setLong long = none) (usable : canBeValue value = true)
    (set : o.setValue (String.ofList long) value = some (some next)) :
    readArguments o (argument :: value :: rest) = readArguments next rest := by
  obtain ⟨c, more, rfl⟩ := List.exists_cons_of_ne_nil filled
  rw [readArguments.eq_def]
  dsimp only
  rw [is]
  simp only [waiting, usable, set, if_true]

/-- Letters that repeat one wish are one argument read. -/
theorem readArguments_letters (is : argument.toList = '-' :: 'v' :: letters)
    (all : letters.all (· == 'v') = true) :
    readArguments o (argument :: rest) = readArguments o rest := by
  have set : o.setLetters ('v' :: letters) = .on o := setLetters_of_all all
  rw [readArguments.eq_def]
  dsimp only
  rw [is]
  split
  case h_1 same | h_2 same => cases same
  case h_3 same =>
    cases same
    rw [set]
  case h_4 other => exact absurd rfl (other 'v' letters)

/-- How arguments are accepted: each says something besides what the ones before it said, and `last`
is what is said in the end. -/
inductive Accepts (last : Options) : Options → List String → Prop
  /-- There are no more of them. -/
  | done : Accepts last last []
  /-- Two hyphens alone are the last one. -/
  | ended {argument : String} (is : argument.toList = ['-', '-']) : Accepts last last [argument]
  /-- A long option is complete. -/
  | long {o next : Options} {argument : String} {long : List Char} {rest : List String}
      (is : argument.toList = '-' :: '-' :: long) (filled : long ≠ [])
      (set : o.setLong long = some (.on next)) (others : Accepts last next rest) :
      Accepts last o (argument :: rest)
  /-- The value of a long option is the next argument. -/
  | value {o next : Options} {argument value : String} {long : List Char} {rest : List String}
      (is : argument.toList = '-' :: '-' :: long) (filled : long ≠ [])
      (waiting : waits long = true) (usable : canBeValue value = true)
      (set : o.setValue (nameIn long) value = some (some next))
      (others : Accepts last next rest) : Accepts last o (argument :: value :: rest)
  /-- Letters ask for more words. -/
  | letters {o : Options} {argument : String} {letters : List Char} {rest : List String}
      (is : argument.toList = '-' :: 'v' :: letters) (all : letters.all (· == 'v') = true)
      (others : Accepts last o rest) : Accepts last o (argument :: rest)

/-- The arguments of an audit are those that are accepted. -/
theorem readArguments_eq_audit_iff :
    readArguments o arguments = .audit last ↔ Accepts last o arguments := by
  constructor
  · fun_induction readArguments o arguments with
    | case1 o =>
      rintro ⟨⟩
      exact .done
    | case2 o argument rest is alone =>
      rintro ⟨⟩
      rw [List.isEmpty_iff.mp alone]
      exact .ended is
    | case4 o argument long filled is next rest set ih =>
      exact fun read => .long is filled set (ih read)
    | case5 o argument rest long filled is command stops =>
      rintro rfl
      exact absurd stops setLong_ne_audit
    | case7 o argument long filled is value rest waiting usable next set ih =>
      intro read
      have waiting := setLong_eq_none_iff.mp waiting
      rw [← nameIn_of_waits waiting] at set
      exact .value is filled waiting usable set (ih read)
    | case10 o argument rest c letters _ noHyphen is next set ih =>
      intro read
      obtain ⟨rfl, all⟩ := setLetters_on set
      obtain ⟨first, others⟩ := Bool.and_eq_true_iff.mp all
      obtain rfl := eq_of_beq first
      exact .letters is others (ih read)
    | case11 o argument rest c letters _ noHyphen is command stops =>
      rintro rfl
      exact absurd stops setLetters_ne_audit
    | case3 | case6 | case8 | case9 | case12 => exact nofun
  · intro accepts
    induction accepts with
    | done => rfl
    | ended is =>
      rw [readArguments.eq_def]
      dsimp only
      rw [is]
      rfl
    | long is filled set _ ih => rwa [readArguments_long is filled set]
    | value is filled waiting usable set _ ih =>
      rw [nameIn_of_waits waiting] at set
      rwa [readArguments_value is filled (setLong_eq_none_iff.mpr waiting) usable set]
    | letters is all _ ih => rwa [readArguments_letters is all]

/-- What is accepted is accepted without the options of some names, and says the same besides. -/
theorem Accepts.without (named : String → Bool) (accepts : Accepts last o arguments) :
    Accepts (last.without named) (o.without named) (without named arguments) := by
  induction accepts with
  | done => exact .done
  | ended is =>
    cases left : named "" with
    | true =>
      rw [without_of_left is left (by decide)]
      exact .done
    | false =>
      rw [without_of_kept is left]
      exact .ended is
  | @long o next argument long rest is filled set _ ih =>
    cases left : named (nameIn long) with
    | true =>
      rw [without_of_left is left (waits_of_setLong set), ← without_of_setLong left set]
      exact ih
    | false =>
      rw [without_of_kept is left]
      exact .long is filled (without_setLong left set) ih
  | @value o next argument value long rest is filled waiting usable set _ ih =>
    cases left : named (nameIn long) with
    | true =>
      rw [without_of_waits is left waiting, ← without_of_setValue left set]
      exact ih
    | false =>
      rw [without_of_kept is left, without_of_value usable]
      exact .value is filled waiting usable (without_setValue left set) ih
  | letters is all _ ih =>
    rw [without_of_letters is all]
    split
    · exact ih
    · exact .letters is all ih

/-- The arguments of the program without the options of some names. -/
theorem accepted_without (named : String → Bool)
    (accepted : readArguments {} arguments = .audit o) :
    readArguments {} (without named arguments) = .audit (o.without named) := by
  have accepts := (readArguments_eq_audit_iff.mp accepted).without named
  rw [without_default] at accepts
  exact readArguments_eq_audit_iff.mpr accepts

example : without shows ["--ci", "-vv", "--report", "a", "--config", "b", "--format=text"] =
    ["--ci", "--config", "b"] := by decide +kernel

end Arguments

end CatalogAudit.CommandLine
