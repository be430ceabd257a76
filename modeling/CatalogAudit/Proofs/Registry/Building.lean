import CatalogAudit.Proofs.Registry.Members
import Mathlib.Logic.Function.Basic
import Mathlib.Tactic.TFAE

/-!
# Registries built in parts

Registrations are recorded in any number of builders, and a builder may be merged into another one,
which uses it up. What a builder holds in the end is the union of what went into it, directly or
inside a builder that was merged into it; when and in which order that happened leaves no trace.
-/

namespace CatalogAudit

namespace NameTable

variable {α : Type}

/-- A table is determined by what its names are looked up as. -/
theorem eq_of_get?_eq {t u : NameTable α} (same : ∀ name, t.get? name = u.get? name) : t = u := by
  have mem : ∀ row, row ∈ t.rows ↔ row ∈ u.rows := by
    rintro ⟨name, a⟩
    rw [← get?_eq_some_iff, ← get?_eq_some_iff, same]
  have distinct : ∀ t : NameTable α, t.rows.Nodup := fun t =>
    t.ascending.imp fun below equal => String.ne_of_lt below (congrArg Prod.fst equal)
  have perm : t.rows.Perm u.rows :=
    (List.perm_ext_iff_of_nodup (distinct t) (distinct u)).mpr mem
  have rows : t.rows = u.rows := by
    refine perm.eq_of_pairwise (fun x y _ _ below above => ?_) t.ascending u.ascending
    exact absurd above (String.lt_asymm below)
  cases t
  cases u
  rw [mk.injEq]
  exact rows

end NameTable

namespace Registry

/-- A registry is determined by the paths of its tokens. -/
theorem eq_of_mem_pathsOf_iff {r s : Registry}
    (same : ∀ token path, path ∈ (r.pathsOf token).names ↔ path ∈ (s.pathsOf token).names) :
    r = s := by
  have paths : r.paths = s.paths := by
    apply NameTable.eq_of_get?_eq
    intro token
    have equal : r.pathsOf token = s.pathsOf token := NameSet.eq_of_mem_iff (same token)
    change r.get? token = s.get? token
    rw [get?_eq_ite, get?_eq_ite, equal]
  cases r
  cases s
  rw [mk.injEq]
  exact paths

/-- Adding a row adds its paths to those of its token. -/
theorem mem_pathsOf_addRow {r : Registry} {token other path : String} {paths : NameSet}
    {some : paths.names ≠ []} :
    path ∈ ((r.addRow token paths some).pathsOf other).names ↔
      (other = token ∧ path ∈ paths.names) ∨ path ∈ (r.pathsOf other).names := by
  have looked : (r.addRow token paths some).get? other =
      if other = token then .some ((r.pathsOf token).union paths) else r.get? other :=
    NameTable.get?_update
  unfold pathsOf at looked ⊢
  rw [looked]
  by_cases same : other = token
  · subst same
    simp [NameSet.mem_union]
  · simp [same]

/-- After rows were added, a path is there when it is in one of them or was there before. -/
theorem mem_pathsOf_addRows {r : Registry} {rows : List (String × NameSet)}
    (filled : ∀ row ∈ rows, row.2.names ≠ []) {token path : String} :
    path ∈ ((r.addRows rows filled).pathsOf token).names ↔
      (∃ paths, (token, paths) ∈ rows ∧ path ∈ paths.names) ∨ path ∈ (r.pathsOf token).names := by
  induction rows generalizing r with
  | nil => simp [addRows]
  | cons row rest ih =>
    obtain ⟨name, added⟩ := row
    rw [addRows, ih, mem_pathsOf_addRow]
    simp only [List.mem_cons, Prod.mk.injEq]
    constructor
    · rintro (⟨paths, later, held⟩ | ⟨rfl, held⟩ | held)
      · exact .inl ⟨paths, .inr later, held⟩
      · exact .inl ⟨added, .inl ⟨rfl, rfl⟩, held⟩
      · exact .inr held
    · rintro (⟨paths, ⟨rfl, rfl⟩ | later, held⟩ | held)
      · exact .inr (.inl ⟨rfl, held⟩)
      · exact .inl ⟨paths, later, held⟩
      · exact .inr (.inr held)

/-- The paths of a token stand in its row. -/
theorem mem_pathsOf_iff {r : Registry} {token path : String} :
    path ∈ (r.pathsOf token).names ↔
      ∃ paths, (token, paths) ∈ r.paths.rows ∧ path ∈ paths.names := by
  simp only [← NameTable.get?_eq_some_iff]
  change _ ↔ ∃ paths, r.get? token = some paths ∧ _
  unfold pathsOf
  cases r.get? token with
  | none => simp [NameSet.empty]
  | some paths => simp

/-- Merging makes the union. -/
theorem mem_pathsOf_merge {r s : Registry} {token path : String} :
    path ∈ ((r.merge s).pathsOf token).names ↔
      path ∈ (s.pathsOf token).names ∨ path ∈ (r.pathsOf token).names := by
  rw [merge, mem_pathsOf_addRows, ← mem_pathsOf_iff]

/-- Registrations may be recorded in parts that are merged one after the other. -/
theorem foldl_merge_ofList (parts : List (List (String × String))) :
    (parts.map ofList).foldl merge empty = ofList parts.flatten := by
  have union : ∀ (r : Registry) (token path : String),
      path ∈ (((parts.map ofList).foldl merge r).pathsOf token).names ↔
        (token, path) ∈ parts.flatten ∨ path ∈ (r.pathsOf token).names := by
    induction parts with
    | nil => simp
    | cons part parts ih =>
      intro r token path
      rw [List.map_cons, List.foldl_cons, ih, mem_pathsOf_merge, mem_pathsOf_ofList,
        List.flatten_cons, List.mem_append]
      tauto
  apply eq_of_mem_pathsOf_iff
  intro token path
  rw [union, mem_pathsOf_ofList, or_iff_left mem_pathsOf_empty]

/-! ## Builders -/

/-- A step in the building of registries. Builders are told apart by numbers. -/
inductive Step
  /-- A registration is recorded in a builder. -/
  | record (builder : Nat) (token path : String)
  /-- A builder is merged into a second one and used up. Its number then stands for a new one. -/
  | merge (builder other : Nat) (apart : builder ≠ other)

/-- The registries that builders hold. -/
abbrev Builders := Nat → Registry

namespace Step

/-- What the builders hold after a step. -/
def run (builders : Builders) : Step → Builders
  | record builder token path =>
    Function.update builders builder ((builders builder).record token path)
  | merge builder other _ =>
    Function.update (Function.update builders other empty) builder
      ((builders builder).merge (builders other))

/-- The builder in which one finds after a step what was in a builder before. -/
def carry (builder : Nat) : Step → Nat
  | record _ _ _ => builder
  | merge into other _ => if builder = other then into else builder

end Step

/-- What the builders hold after some steps. -/
def build (builders : Builders) (steps : List Step) : Builders := steps.foldl Step.run builders

/-- The builder in which one finds after some steps what was in a builder before. -/
def carry (builder : Nat) (steps : List Step) : Nat := steps.foldl Step.carry builder

/-- In the course of the steps the registration went into the builder: it was recorded in a builder
that is this one, or that was merged into this one, or into one that was, and so on. -/
def Enters (steps : List Step) (builder : Nat) (token path : String) : Prop :=
  ∃ before first after, steps = before ++ .record first token path :: after ∧
    carry first after = builder

/-- Without steps nothing enters. -/
theorem enters_nil {builder : Nat} {token path : String} : ¬Enters [] builder token path := by
  rintro ⟨before, first, after, split, -⟩
  exact absurd split.symm (List.append_ne_nil_of_right_ne_nil _ (List.cons_ne_nil _ _))

/-- What enters does so in the first step, carried on by the others, or in these. -/
theorem enters_cons {step : Step} {steps : List Step} {builder : Nat} {token path : String} :
    Enters (step :: steps) builder token path ↔
      (∃ first, step = .record first token path ∧ carry first steps = builder) ∨
        Enters steps builder token path := by
  constructor
  · rintro ⟨before, first, after, split, carried⟩
    cases before with
    | nil =>
      obtain ⟨rfl, rfl⟩ := List.cons.inj split
      exact .inl ⟨first, rfl, carried⟩
    | cons other before =>
      obtain ⟨-, rest⟩ := List.cons.inj split
      exact .inr ⟨before, first, after, rest, carried⟩
  · rintro (⟨first, rfl, carried⟩ | ⟨before, first, after, rfl, carried⟩)
    · exact ⟨[], first, steps, rfl, carried⟩
    · exact ⟨step :: before, first, after, rfl, carried⟩

/-- After a step a builder holds what was carried into it and what was recorded in it. -/
theorem mem_pathsOf_run {builders : Builders} {step : Step} {builder : Nat} {token path : String} :
    path ∈ ((step.run builders builder).pathsOf token).names ↔
      step = .record builder token path ∨
        ∃ source, step.carry source = builder ∧ path ∈ ((builders source).pathsOf token).names := by
  cases step with
  | record here token' path' =>
    simp only [Step.run, Step.carry, exists_eq_left, Step.record.injEq, Function.update_apply]
    by_cases same : builder = here
    · rw [if_pos same, mem_pathsOf_record, same]
      tauto
    · rw [if_neg same]
      tauto
  | merge into other apart =>
    simp only [Step.run, Step.carry, reduceCtorEq, false_or, Function.update_apply]
    by_cases target : builder = into
    · -- The target holds what it held and what the other one held.
      rw [if_pos target, mem_pathsOf_merge, target]
      constructor
      · rintro (given | own)
        · exact ⟨other, if_pos rfl, given⟩
        · exact ⟨into, if_neg apart, own⟩
      · rintro ⟨source, carried, held⟩
        split at carried
        · rename_i same
          rw [same] at held
          exact .inl held
        · rw [carried] at held
          exact .inr held
    · rw [if_neg target]
      by_cases used : builder = other
      · rw [if_pos used]
        constructor
        · intro held
          exact absurd held mem_pathsOf_empty
        · rintro ⟨source, carried, -⟩
          split at carried
          · exact absurd carried.symm target
          · rename_i differs
            exact absurd (carried.trans used) differs
      · rw [if_neg used]
        constructor
        · intro held
          exact ⟨builder, if_neg used, held⟩
        · rintro ⟨source, carried, held⟩
          split at carried
          · exact absurd carried.symm target
          · rwa [carried] at held

/-- After some steps a builder holds what entered it and what was carried into it. -/
theorem mem_pathsOf_build {steps : List Step} {builders : Builders} {builder : Nat}
    {token path : String} :
    path ∈ ((build builders steps builder).pathsOf token).names ↔
      Enters steps builder token path ∨
        ∃ source, carry source steps = builder ∧
          path ∈ ((builders source).pathsOf token).names := by
  induction steps generalizing builders with
  | nil => simp [build, carry, enters_nil]
  | cons step steps ih =>
    have onward : build builders (step :: steps) = build (step.run builders) steps := rfl
    have further : ∀ source, carry source (step :: steps) = carry (step.carry source) steps :=
      fun _ => rfl
    simp only [onward, ih, further, enters_cons, mem_pathsOf_run]
    constructor
    · rintro (entered | ⟨middle, carried, recorded | ⟨source, rfl, held⟩⟩)
      · exact .inl (.inr entered)
      · exact .inl (.inl ⟨middle, recorded, carried⟩)
      · exact .inr ⟨source, carried, held⟩
    · rintro ((⟨first, recorded, carried⟩ | entered) | ⟨source, carried, held⟩)
      · exact .inr ⟨first, carried, .inl recorded⟩
      · exact .inl entered
      · exact .inr ⟨_, carried, .inr ⟨source, rfl, held⟩⟩

/-! ## What is built -/

/-- The registry is the union of some registrations, and nothing of how it came about is left in
it. -/
structure IsUnion (r : Registry) (went : String → String → Prop) : Prop where
  /-- The paths of a token are those of its registrations. -/
  mem : ∀ token path, path ∈ (r.pathsOf token).names ↔ went token path
  /-- A list of the registrations, in any order and with any repetitions, gives the same. -/
  direct : ∀ registrations, (∀ token path, (token, path) ∈ registrations ↔ went token path) →
    ofList registrations = r
  /-- Whether a token is known can be asked in several ways, and none is known without a path. -/
  known : ∀ token, [r.contains token = true, (r.get? token).isSome = true,
    ∃ paths, r.get? token = some paths ∧ paths.names ≠ [], token ∈ r.tokens,
    ∃ path, went token path].TFAE
  /-- No token has an empty set of paths. -/
  filled : ∀ token paths, r.get? token = some paths → paths.names ≠ []
  /-- The tokens ascend. -/
  ascending : r.tokens.Pairwise (· < ·)
  /-- The registry is as large as there are different tokens. -/
  size : ∀ tokens : Finset String, (∀ token, token ∈ tokens ↔ ∃ path, went token path) →
    r.size = tokens.card

/-- No token has an empty row. -/
theorem filled_of_get? {r : Registry} {token : String} {paths : NameSet}
    (found : r.get? token = some paths) : paths.names ≠ [] :=
  r.filled _ (NameTable.get?_eq_some_iff.mp found)

/-- There are as many rows as different tokens. -/
theorem size_eq_card_of_mem_iff {r : Registry} {tokens : Finset String}
    (same : ∀ token, token ∈ tokens ↔ token ∈ r.tokens) : r.size = tokens.card := by
  have distinct : r.tokens.Nodup := r.paths.nameSet.nodup
  have all : tokens = r.tokens.toFinset := by
    ext token
    rw [same, List.mem_toFinset]
  have length : r.tokens.length = r.size := List.length_map _
  rw [all, List.toFinset_card_of_nodup distinct, length]

/-- A registry with the right members is the union. -/
theorem isUnion_of_mem_iff {r : Registry} {went : String → String → Prop}
    (mem : ∀ token path, path ∈ (r.pathsOf token).names ↔ went token path) : IsUnion r went where
  mem := mem
  direct registrations listed := by
    apply eq_of_mem_pathsOf_iff
    intro token path
    rw [mem_pathsOf_ofList, listed, mem]
  known token := by
    tfae_have 1 ↔ 2 := by rw [contains_eq]
    tfae_have 2 → 3 := by
      intro some
      obtain ⟨paths, found⟩ := Option.isSome_iff_exists.mp some
      exact ⟨paths, found, filled_of_get? found⟩
    tfae_have 3 → 2 := by
      rintro ⟨paths, found, -⟩
      rw [found]
      rfl
    tfae_have 4 ↔ 1 := mem_tokens_iff
    tfae_have 1 ↔ 5 := by
      rw [contains_iff]
      exact exists_congr fun path => mem token path
    tfae_finish
  filled _ _ found := filled_of_get? found
  ascending := r.paths.ascending_names
  size tokens listed := by
    apply size_eq_card_of_mem_iff
    intro token
    rw [listed, mem_tokens_iff, contains_iff]
    exact exists_congr fun path => (mem token path).symm

/-- Whatever is recorded in builders and however they are merged, a builder holds the union of the
registrations that went into it, and two builders into which the same ones went hold the same. -/
theorem build_isUnion (steps : List Step) (builder : Nat) :
    IsUnion (build (fun _ => empty) steps builder) (Enters steps builder) ∧
      ∀ steps' builder',
        (∀ token path, Enters steps' builder' token path ↔ Enters steps builder token path) →
          build (fun _ => empty) steps' builder' = build (fun _ => empty) steps builder := by
  have mem : ∀ steps builder token path,
      path ∈ ((build (fun _ => empty) steps builder).pathsOf token).names ↔
        Enters steps builder token path := by
    intro steps builder token path
    rw [mem_pathsOf_build, or_iff_left]
    rintro ⟨source, -, held⟩
    exact mem_pathsOf_empty held
  refine ⟨isUnion_of_mem_iff (mem steps builder), fun steps' builder' same => ?_⟩
  apply eq_of_mem_pathsOf_iff
  intro token path
  rw [mem, mem, same]

/-- Two builders are merged into a third one, the first of them earlier or later. -/
theorem build_isUnion_sample :
    build (fun _ => empty) [.record 0 "blur" "a.cpp", .record 1 "blur" "b.cpp",
        .record 1 "blur" "a.cpp", .merge 2 1 (by decide), .merge 2 0 (by decide)] 2
      = build (fun _ => empty) [.record 0 "blur" "a.cpp", .record 1 "blur" "b.cpp",
        .merge 2 0 (by decide), .merge 2 1 (by decide)] 2 := by
  apply (build_isUnion _ 2).2
  intro token path
  simp only [enters_cons, enters_nil, carry, Step.carry, List.foldl_cons, List.foldl_nil,
    Step.record.injEq, reduceCtorEq]
  constructor
  · rintro (⟨_, ⟨rfl, rfl, rfl⟩, -⟩ | ⟨_, ⟨rfl, rfl, rfl⟩, -⟩ | ⟨_, ⟨rfl, rfl, rfl⟩, -⟩ | h)
    · exact .inl ⟨0, ⟨rfl, rfl, rfl⟩, rfl⟩
    · exact .inr (.inl ⟨1, ⟨rfl, rfl, rfl⟩, rfl⟩)
    · exact .inl ⟨0, ⟨rfl, rfl, rfl⟩, rfl⟩
    · simp at h
  · rintro (⟨_, ⟨rfl, rfl, rfl⟩, -⟩ | ⟨_, ⟨rfl, rfl, rfl⟩, -⟩ | h)
    · exact .inl ⟨0, ⟨rfl, rfl, rfl⟩, rfl⟩
    · exact .inr (.inl ⟨1, ⟨rfl, rfl, rfl⟩, rfl⟩)
    · simp at h

end Registry

end CatalogAudit
