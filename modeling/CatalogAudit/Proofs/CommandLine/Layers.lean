import CatalogAudit.Proofs.CommandLine.Arguments
import CatalogAudit.Proofs.Config.Loading
import CatalogAudit.Proofs.FileTree.Finding

/-!
# Layers of a configuration

The configuration of an audit is made of three layers: the defaults, a file that sets some fields,
and arguments that set three of them. Each layer wins over the one below it, field by field, and
leaves the other fields alone.
-/

namespace CatalogAudit.CommandLine

/-! ## What arguments say -/

/-- The value that an option gives to the option of a name: its own if it has that name. -/
def given (name : String) (long : List Char) (value : String) : List String :=
  if nameIn long = name then [value] else []

/-- The values that arguments give to the option of a name, in their order. -/
def valuesOf (name : String) : List String → List String
  | [] => []
  | argument :: rest =>
    match argument.toList with
    | '-' :: '-' :: long =>
      if waits long then
        match rest with
        | [] => []
        | value :: rest => given name long value ++ valuesOf name rest
      else given name long (String.ofList (long.dropWhile (· != '=')).tail) ++ valuesOf name rest
    | _ => valuesOf name rest

/-- The options `next` are `o` with what was given besides. -/
structure Options.Adds (o next : Options) (manifests sourceRoots : List String) (ci : Bool) :
    Prop where
  /-- The first manifest counts. -/
  manifest : next.manifest = o.manifest.or manifests.head?
  /-- All source roots count, the last first. -/
  sourceRoots : next.sourceRoots = sourceRoots.reverse ++ o.sourceRoots
  /-- Strictness is only switched on. -/
  ci : next.ci = (o.ci || ci)

namespace Options.Adds

variable {o middle next : Options} {manifests manifests' roots roots' : List String} {ci ci' : Bool}

/-- Nothing was given. -/
theorem refl (o : Options) : o.Adds o [] [] false :=
  ⟨(Option.or_none).symm, rfl, (Bool.or_false o.ci).symm⟩

/-- What was given first comes before what was given later. -/
theorem trans (first : o.Adds middle manifests roots ci)
    (later : middle.Adds next manifests' roots' ci') :
    o.Adds next (manifests ++ manifests') (roots ++ roots') (ci || ci') where
  manifest := by
    rw [later.manifest, first.manifest, Option.or_assoc, List.head?_append]
  sourceRoots := by
    rw [later.sourceRoots, first.sourceRoots, List.reverse_append, List.append_assoc]
  ci := by rw [later.ci, first.ci, Bool.or_assoc]

end Options.Adds

section Option

variable {o next : Options} {name value : String} {long : List Char}

/-- A path is given as it is. -/
theorem eq_of_pathText? {text : String} (path : pathText? value = some text) : text = value := by
  unfold pathText? at path
  split at path
  · cases path
  · exact (Option.some.inj path).symm

/-- What may be said once was not said before. -/
theorem eq_of_once? {α : Type} {current new set : Option α} (once : once? current new = some set) :
    current = none ∧ set = new := by
  unfold once? at once
  split at once
  · exact ⟨rfl, (Option.some.inj once).symm⟩
  · cases once

/-- An option with a value gives that value, to itself only. -/
theorem adds_of_setValue (set : o.setValue (nameIn long) value = some (some next)) :
    o.Adds next (given "manifest" long value) (given "source-root" long value) false := by
  unfold given
  unfold Options.setValue at set
  split at set
  case h_9 => cases set
  all_goals
    rename_i name
    rw [name]
    rw [Option.some_inj, Option.map_eq_some_iff] at set
    obtain ⟨x, set, rfl⟩ := set
  case h_1 =>
    obtain ⟨none, rfl⟩ := eq_of_once? set
    cases path : pathText? value with
    | none =>
      rw [none, path] at set
      cases set
    | some p =>
      obtain rfl := eq_of_pathText? path
      exact ⟨by rw [none]; rfl, rfl, (Bool.or_false o.ci).symm⟩
  case h_2 =>
    rw [eq_of_pathText? set]
    exact ⟨(Option.or_none).symm, rfl, (Bool.or_false o.ci).symm⟩
  all_goals exact ⟨(Option.or_none).symm, rfl, (Bool.or_false o.ci).symm⟩

/-- A flag adds no values. -/
theorem adds_of_setFlag (set : o.setFlag name = .on next) : o.Adds next [] [] (name == "ci") := by
  unfold Options.setFlag at set
  split at set
  case h_1 =>
    split at set
    · cases set
    · cases set
      exact ⟨(Option.or_none).symm, rfl, (Bool.or_true o.ci).symm⟩
  case h_2 =>
    split at set
    · cases set
    · cases set
      exact ⟨(Option.or_none).symm, rfl, (Bool.or_false o.ci).symm⟩
  case h_3 =>
    cases set
    exact .refl o
  all_goals cases set

/-- A long option that is complete gives its value to itself, or has none. -/
theorem adds_of_setLong (set : o.setLong long = some (.on next)) :
    o.Adds next (given "manifest" long (String.ofList (long.dropWhile (· != '=')).tail))
      (given "source-root" long (String.ofList (long.dropWhile (· != '=')).tail))
      (decide (long = ['c', 'i'])) := by
  rcases setLong_on_iff.mp set with ⟨c, value, behind, set⟩ | ⟨alone, valueless, set⟩
  · have other : long ≠ ['c', 'i'] := by
      rintro rfl
      cases behind
    rw [behind, List.tail_cons, decide_eq_false other]
    exact adds_of_setValue set
  · have other : ∀ option, hasValue option = true → nameIn long ≠ option := by
      rintro option hasValue rfl
      rw [valueless] at hasValue
      cases hasValue
    have same : (nameIn long == "ci") = decide (long = ['c', 'i']) := by
      rw [nameIn_of_alone alone, Bool.eq_iff_iff, beq_iff_eq, decide_eq_true_iff,
        ← String.toList_inj, String.toList_ofList]
      rfl
    rw [given, given, if_neg (other _ (by decide)), if_neg (other _ (by decide)), ← same]
    exact adds_of_setFlag set

end Option

/-! ## All arguments -/

section Arguments

variable {o last : Options} {name argument value : String} {rest arguments : List String}
  {long : List Char}

/-- An option that is complete gives what stands behind its sign. -/
theorem valuesOf_long (is : argument.toList = '-' :: '-' :: long) (complete : waits long = false) :
    valuesOf name (argument :: rest) =
      given name long (String.ofList (long.dropWhile (· != '=')).tail) ++ valuesOf name rest := by
  rw [valuesOf.eq_def]
  dsimp only
  rw [is]
  simp only [complete, if_neg Bool.false_ne_true]

/-- An option that waits gives the next argument. -/
theorem valuesOf_waits (is : argument.toList = '-' :: '-' :: long) (waiting : waits long = true) :
    valuesOf name (argument :: value :: rest) = given name long value ++ valuesOf name rest := by
  rw [valuesOf.eq_def]
  dsimp only
  rw [is]
  simp only [waiting, if_true]

/-- What is no long option gives nothing. -/
theorem valuesOf_other (other : ∀ long, argument.toList ≠ '-' :: '-' :: long) :
    valuesOf name (argument :: rest) = valuesOf name rest := by
  rw [valuesOf.eq_def]
  dsimp only
  split
  · rename_i long is
    exact absurd is (other long)
  · rfl

/-- The argument that switches strictness on is recognised by what follows its hyphens. -/
theorem isCi (is : argument.toList = '-' :: '-' :: long) :
    ("--ci" == argument) = decide (long = ['c', 'i']) := by
  rw [Bool.eq_iff_iff, beq_iff_eq, decide_eq_true_iff, ← String.toList_inj, is]
  constructor
  · intro same
    exact (List.cons.inj (List.cons.inj same).2).2.symm
  · rintro rfl
    rfl

/-- What is no long option does not switch strictness on. -/
theorem not_isCi (other : ∀ long, argument.toList ≠ '-' :: '-' :: long) :
    ("--ci" == argument) = false := by
  rw [beq_eq_false_iff_ne]
  rintro rfl
  exact other _ rfl

/-- What arguments give is what they say about the configuration. -/
theorem Accepts.adds (accepts : Accepts last o arguments) :
    o.Adds last (valuesOf "manifest" arguments) (valuesOf "source-root" arguments)
      (arguments.contains "--ci") := by
  induction accepts with
  | done => exact .refl _
  | ended is =>
    rw [valuesOf_long is rfl, valuesOf_long is rfl, List.contains_cons, isCi is]
    exact .refl _
  | long is filled set _ ih =>
    have complete := waits_of_setLong set
    rw [valuesOf_long is complete, valuesOf_long is complete, List.contains_cons, isCi is]
    exact (adds_of_setLong set).trans ih
  | @value o next argument value long rest is filled waiting usable set _ ih =>
    have noFlag : long ≠ ['c', 'i'] := by
      rintro rfl
      cases waiting
    have noOption : ∀ long, value.toList ≠ '-' :: '-' :: long := by
      intro long is
      rw [canBeValue_eq_false is] at usable
      cases usable
    rw [valuesOf_waits is waiting, valuesOf_waits is waiting, List.contains_cons, isCi is,
      decide_eq_false noFlag, List.contains_cons, not_isCi noOption, Bool.false_or]
    exact (adds_of_setValue set).trans ih
  | @letters o argument letters rest is all _ ih =>
    have noOption : ∀ long, argument.toList ≠ '-' :: '-' :: long := by
      intro long same
      rw [is] at same
      cases same
    rw [valuesOf_other noOption, valuesOf_other noOption, List.contains_cons, not_isCi noOption,
      Bool.false_or]
    exact ih

/-- The configuration with the options in their place, told from the arguments. -/
theorem apply_of_accepted (accepted : readArguments {} arguments = .audit last) (c : Config) :
    last.apply c =
      { c with
        manifest := (valuesOf "manifest" arguments).head?.getD c.manifest
        sourceRoots :=
          if valuesOf "source-root" arguments = [] then c.sourceRoots
          else valuesOf "source-root" arguments
        strictDuplicates := arguments.contains "--ci" || c.strictDuplicates } := by
  obtain ⟨manifest, sourceRoots, ci⟩ := (readArguments_eq_audit_iff.mp accepted).adds
  rw [Option.none_or] at manifest
  rw [List.append_nil] at sourceRoots
  rw [Bool.false_or] at ci
  have roots : (if last.sourceRoots.isEmpty then c.sourceRoots else last.sourceRoots.reverse) =
      if valuesOf "source-root" arguments = [] then c.sourceRoots
      else valuesOf "source-root" arguments := by
    rw [sourceRoots, List.reverse_reverse, List.isEmpty_reverse]
    simp only [List.isEmpty_iff]
  rw [Options.apply, manifest, ci, roots]

end Arguments

/-- **Layers compose field by field.** A file with some fields of a configuration, in any order and
any spelling, is loaded as these fields over the defaults, and one with all of them as that
configuration; what is printed is such a spelling. A file with an unknown or a repeated key is
refused. Over what was loaded the arguments replace the manifest if they name one, replace the
source roots as a whole if they name any, and can make the audit strict; every other field stays. -/
theorem layers_compose :
    (∀ (tree : FileTree) (path : Path) (c : Config) (fields : List Config.Field)
        (text front back : List Char), fields.Nodup → Json.Spells text (c.toJson fields) →
      Json.IsGap front → Json.IsGap back →
      tree.readText path = .ok (front ++ (text ++ back)) →
      Config.load tree path = .ok (({} : Config).overlay c fields)) ∧
    (∀ (tree : FileTree) (path : Path) (c : Config) (fields : List Config.Field)
        (text front back : List Char), fields.Nodup → (∀ field, field ∈ fields) →
      Json.Spells text (c.toJson fields) → Json.IsGap front → Json.IsGap back →
      tree.readText path = .ok (front ++ (text ++ back)) →
      Config.load tree path = .ok c) ∧
    (∀ (c : Config) (fields : List Config.Field),
      Json.Spells (c.toJson fields).print (c.toJson fields)) ∧
    (∀ (tree : FileTree) (path : Path) (text : List Char) (members : List (Option String × Json)),
      tree.readText path = .ok text → Json.ofText? text = some (.object members) →
      Config.HasBadKey members →
      Config.load tree path = .error (.config (.unreadable path))) ∧
    ∀ (arguments : List String) (o : Options) (c : Config),
      readArguments {} arguments = .audit o →
      o.apply c =
        { c with
          manifest := (valuesOf "manifest" arguments).head?.getD c.manifest
          sourceRoots :=
            if valuesOf "source-root" arguments = [] then c.sourceRoots
            else valuesOf "source-root" arguments
          strictDuplicates := arguments.contains "--ci" || c.strictDuplicates } := by
  refine ⟨?_, ?_, Config.spells_print, ?_, ?_⟩
  · intro tree path c fields text front back distinct spelled blankFront blankBack read
    exact Config.load_of_spells distinct spelled blankFront blankBack read
  · intro tree path c fields text front back distinct every spelled blankFront blankBack read
    rw [Config.load_of_spells distinct spelled blankFront blankBack read,
      Config.overlay_of_every every]
  · intro tree path text members read object bad
    exact Config.load_of_hasBadKey read object bad
  · intro arguments o c accepted
    exact apply_of_accepted accepted c

/-- A tree with one file of a text. -/
def treeWith (text : String) : FileTree := { items := [([.ofString "c"], .file text.toUTF8)] }

/-- The path of that file. -/
def pathWith : Path := .ofString "/c"

/-- The text of the configuration can be read. -/
theorem readText_treeWith (text : String) : (treeWith text).readText pathWith = .ok text.toList :=
  FileTree.readText_of_read rfl

/-- A configuration that differs from the defaults. -/
def strictConfig : Config := { tokenPattern := "\"(\\w+)\"", strictDuplicates := true }

/-- Some fields of that configuration as a text. -/
def strictText (fields : List Config.Field) : String :=
  String.ofList (strictConfig.toJson fields).print

/-- An object with a key that comes twice. -/
def twice : Json := .ofMembers [("extensions", .ofStrings []), ("extensions", .ofStrings ["*"])]

/-- A file with two fields, one with all, one with a field repeated, and options on top. -/
theorem layers_compose_each :
    Config.load (treeWith (strictText [.strictDuplicates, .tokenPattern])) pathWith =
        .ok (({} : Config).overlay strictConfig [.strictDuplicates, .tokenPattern]) ∧
    Config.load (treeWith (strictText Config.Field.all)) pathWith = .ok strictConfig ∧
    Config.load (treeWith (String.ofList twice.print)) pathWith =
      .error (.config (.unreadable pathWith)) ∧
    ∃ o, readArguments {} ["--source-root", "a", "--ci", "--source-root=b"] = .audit o ∧
      o.apply {} = { sourceRoots := ["a", "b"], strictDuplicates := true } := by
  obtain ⟨loads, whole, spells, refuses, applies⟩ := layers_compose
  have read : ∀ fields : List Config.Field, (treeWith (strictText fields)).readText pathWith =
      .ok ([] ++ ((strictConfig.toJson fields).print ++ [])) := by
    intro fields
    rw [readText_treeWith, strictText, String.toList_ofList, List.nil_append, List.append_nil]
  refine ⟨?_, ?_, ?_, ?_⟩
  · exact loads _ _ _ _ _ [] [] (by decide) (spells _ _) Json.isGap_nil Json.isGap_nil (read _)
  · refine whole _ _ _ Config.Field.all _ [] [] (by decide) ?_ (spells _ _) Json.isGap_nil
      Json.isGap_nil (read _)
    intro field
    cases field <;> decide
  · have plain : twice.IsPlain := by
      refine .object ?_
      simp only [List.forall_mem_cons]
      exact ⟨Json.isPlain_ofStrings _, Json.isPlain_ofStrings _, List.forall_mem_nil _⟩
    have read := readText_treeWith (String.ofList twice.print)
    rw [String.toList_ofList] at read
    exact refuses _ _ _ _ read (Json.ofText?_print plain) (.inr (by decide))
  · have accepted : readArguments {} ["--source-root", "a", "--ci", "--source-root=b"] =
        .audit { sourceRoots := ["b", "a"], ci := true } := by decide +kernel
    exact ⟨_, accepted, (applies _ _ {} accepted).trans (by decide +kernel)⟩

end CatalogAudit.CommandLine
