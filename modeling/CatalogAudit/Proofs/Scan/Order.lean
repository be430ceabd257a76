import CatalogAudit.Scan.Run
import Mathlib.Data.List.Lex
import Mathlib.Data.Nat.Basic
import Mathlib.Data.Char
import Mathlib.Data.Prod.Lex

/-!
# The order of source files

Sorting is stable, so what a sorted list is depends only on the order of the elements that tie.
Steps are ordered by kind and then by name, places by their steps, and files at the same place by
the path shown. All of these are total orders, so files at the same place stand together once a list
of files has been sorted, and the one that is kept of them is shown by the least path.
-/

namespace CatalogAudit.Scan

/-! ## Stable sorting -/

section Stable

variable {α : Type*} {le : α → α → Bool}

/-- Whether the order does not tell two elements apart. -/
def ties (le : α → α → Bool) (a b : α) : Bool := le a b && le b a

/-- Two elements tie when each may stand before the other. -/
theorem ties_iff {a b : α} : ties le a b = true ↔ le a b = true ∧ le b a = true :=
  Bool.and_eq_true_iff

/-- Sorting leaves elements that tie in their order. -/
theorem filter_ties_mergeSort (trans : ∀ a b c, le a b = true → le b c = true → le a c = true)
    (total : ∀ a b, (le a b || le b a) = true) (a : α) (xs : List α) :
    (xs.mergeSort le).filter (ties le a) = xs.filter (ties le a) := by
  have alike : (xs.filter (ties le a)).Pairwise fun b c => le b c = true := by
    refine (List.pairwise_of_forall_mem_list fun b member c there => ?_)
    have first := ties_iff.mp (List.mem_filter.mp member).2
    have second := ties_iff.mp (List.mem_filter.mp there).2
    exact trans b a c first.2 second.1
  have within := (List.sublist_mergeSort trans total alike List.filter_sublist).filter (ties le a)
  rw [List.filter_filter] at within
  simp only [Bool.and_self] at within
  exact (within.eq_of_length (((List.mergeSort_perm xs le).filter _).length_eq.symm)).symm

/-- Every element ties with itself. -/
theorem ties_self (total : ∀ a b, (le a b || le b a) = true) (a : α) : ties le a a = true := by
  have same : le a a = true := by simpa using total a a
  exact ties_iff.mpr ⟨same, same⟩

/-- Lists with the same ties have the same elements. -/
theorem mem_iff_of_filter_ties_eq (total : ∀ a b, (le a b || le b a) = true) {xs ys : List α}
    (alike : ∀ a, xs.filter (ties le a) = ys.filter (ties le a)) (a : α) : a ∈ xs ↔ a ∈ ys := by
  have member := congrArg (a ∈ ·) (alike a)
  simpa [ties_self total a] using member

/-- The first element of a sorted list is least in it. -/
theorem head_least (total : ∀ a b, (le a b || le b a) = true) {x y : α} {xs : List α}
    (sorted : (x :: xs).Pairwise fun a b => le a b = true) (member : y ∈ x :: xs) :
    le x y = true := by
  rcases List.mem_cons.mp member with rfl | member
  · exact (ties_iff.mp (ties_self total y)).1
  · exact (List.pairwise_cons.mp sorted).1 y member

/-- A sorted list is determined by the order of the elements that tie. -/
theorem eq_of_filter_ties_eq (total : ∀ a b, (le a b || le b a) = true) {xs ys : List α}
    (sorted : xs.Pairwise fun a b => le a b = true) (sorted' : ys.Pairwise fun a b => le a b = true)
    (alike : ∀ a, xs.filter (ties le a) = ys.filter (ties le a)) : xs = ys := by
  have members := mem_iff_of_filter_ties_eq total alike
  induction xs generalizing ys with
  | nil =>
    have none : ∀ a, a ∉ ys := fun a member => absurd ((members a).mpr member) List.not_mem_nil
    exact (List.eq_nil_iff_forall_not_mem.mpr none).symm
  | cons x xs ih =>
    cases ys with
    | nil => exact absurd ((members x).mp List.mem_cons_self) List.not_mem_nil
    | cons y ys =>
      -- Each of the two heads is least in both lists, so they tie, and ties keep their order.
      have before : le x y = true :=
        head_least total sorted ((members y).mpr List.mem_cons_self)
      have after : le y x = true :=
        head_least total sorted' ((members x).mp List.mem_cons_self)
      have heads := alike x
      rw [List.filter_cons_of_pos (ties_self total x),
        List.filter_cons_of_pos (ties_iff.mpr ⟨before, after⟩)] at heads
      obtain rfl := (List.cons.inj heads).1
      have others : ∀ a, xs.filter (ties le a) = ys.filter (ties le a) := by
        intro a
        have both := alike a
        rw [List.filter_cons, List.filter_cons] at both
        split at both
        · exact (List.cons.inj both).2
        · exact both
      rw [ih sorted.of_cons sorted'.of_cons others (mem_iff_of_filter_ties_eq total others)]

/-- Two lists are the same once sorted exactly when elements that tie stand in the same order in
both. -/
theorem mergeSort_eq_mergeSort_iff
    (trans : ∀ a b c, le a b = true → le b c = true → le a c = true)
    (total : ∀ a b, (le a b || le b a) = true) {xs ys : List α} :
    xs.mergeSort le = ys.mergeSort le ↔ ∀ a, xs.filter (ties le a) = ys.filter (ties le a) := by
  constructor
  · intro same a
    rw [← filter_ties_mergeSort trans total, same, filter_ties_mergeSort trans total]
  · intro alike
    refine eq_of_filter_ties_eq total (List.pairwise_mergeSort trans total xs)
      (List.pairwise_mergeSort trans total ys) fun a => ?_
    rw [filter_ties_mergeSort trans total, filter_ties_mergeSort trans total, alike]

/-- The order by a text is one by which lists can be sorted. -/
theorem textOrder_trans (text : α → String) :
    ∀ a b c, decide (text a ≤ text b) = true → decide (text b ≤ text c) = true →
      decide (text a ≤ text c) = true := by
  intro a b c first second
  rw [decide_eq_true_eq] at first second ⊢
  exact String.le_trans first second

/-- Of any two texts one is at most the other. -/
theorem textOrder_total (text : α → String) :
    ∀ a b, (decide (text a ≤ text b) || decide (text b ≤ text a)) = true := by
  intro a b
  rw [Bool.or_eq_true, decide_eq_true_eq, decide_eq_true_eq]
  exact String.le_total _ _

/-- In the order of their texts, what ties has the same text. -/
theorem ties_textOrder (text : α → String) (a : α) :
    ties (fun a b => decide (text a ≤ text b)) a = fun b => text b == text a := by
  funext b
  rw [Bool.eq_iff_iff, ties_iff, decide_eq_true_eq, decide_eq_true_eq, beq_iff_eq]
  constructor
  · rintro ⟨before, after⟩
    exact String.le_antisymm after before
  · intro same
    rw [same]
    exact ⟨String.le_refl _, String.le_refl _⟩

end Stable

/-! ## Steps and files -/

/-- Bytes are ordered by their values. -/
instance byteOrder : LinearOrder UInt8 where
  le_refl := UInt8.le_refl
  le_trans _ _ _ := UInt8.le_trans
  le_antisymm _ _ := UInt8.le_antisymm
  le_total := UInt8.le_total
  lt_iff_le_not_ge _ _ := Std.lt_iff_le_and_not_ge
  toDecidableLE := inferInstance

/-- Kind and name of a step; the order of steps is the order of these. -/
def stepKey : Path.Step → ℕ ×ₗ Name
  | .down name => toLex (3, name)
  | step => toLex (stepRank step, [])

/-- Kind and name make up a step. -/
theorem stepKey_injective : Function.Injective stepKey := by
  intro x y h
  cases x <;> cases y <;> simp_all [stepKey, stepRank]

/-- The order of steps is the order of their kinds and names. -/
theorem stepBefore_iff {x y : Path.Step} : stepBefore x y = true ↔ stepKey x < stepKey y := by
  rw [Prod.Lex.lt_iff]
  cases x <;> cases y <;> simp [stepBefore, stepKey, stepRank]

/-- A location is at most itself. -/
theorem stepsAtMost_refl (xs : List Path.Step) : stepsAtMost xs xs = true := by
  induction xs with
  | nil => rfl
  | cons x xs ih => simpa [stepsAtMost] using ih

/-- The first step decides, and where it is the same, the rest does. -/
theorem stepsAtMost_cons_iff {x y : Path.Step} {xs ys : List Path.Step} :
    stepsAtMost (x :: xs) (y :: ys) = true ↔
      stepKey x < stepKey y ∨ x = y ∧ stepsAtMost xs ys = true := by
  rw [stepsAtMost]
  by_cases same : x = y <;> simp [same, stepBefore_iff]

/-- The order of locations is transitive. -/
theorem stepsAtMost_trans {xs ys zs : List Path.Step} (first : stepsAtMost xs ys = true)
    (second : stepsAtMost ys zs = true) : stepsAtMost xs zs = true := by
  induction xs generalizing ys zs with
  | nil => rfl
  | cons x xs ih =>
    cases ys with
    | nil => contradiction
    | cons y ys =>
      cases zs with
      | nil => contradiction
      | cons z zs =>
        rw [stepsAtMost_cons_iff] at first second ⊢
        rcases first with before | ⟨rfl, first⟩
        · rcases second with after | ⟨rfl, second⟩
          · exact .inl (before.trans after)
          · exact .inl before
        · rcases second with after | ⟨rfl, second⟩
          · exact .inl after
          · exact .inr ⟨rfl, ih first second⟩

/-- Of any two locations one is at most the other. -/
theorem stepsAtMost_total (xs ys : List Path.Step) :
    stepsAtMost xs ys = true ∨ stepsAtMost ys xs = true := by
  induction xs generalizing ys with
  | nil => exact .inl rfl
  | cons x xs ih =>
    cases ys with
    | nil => exact .inr rfl
    | cons y ys =>
      rw [stepsAtMost_cons_iff, stepsAtMost_cons_iff]
      rcases lt_trichotomy (stepKey x) (stepKey y) with before | same | after
      · exact .inl (.inl before)
      · cases stepKey_injective same
        exact (ih ys).imp (fun h => .inr ⟨rfl, h⟩) fun h => .inr ⟨rfl, h⟩
      · exact .inr (.inl after)

/-- No two locations tie. -/
theorem stepsAtMost_antisymm {xs ys : List Path.Step} (first : stepsAtMost xs ys = true)
    (second : stepsAtMost ys xs = true) : xs = ys := by
  induction xs generalizing ys with
  | nil =>
    cases ys with
    | nil => rfl
    | cons y ys => contradiction
  | cons x xs ih =>
    cases ys with
    | nil => contradiction
    | cons y ys =>
      rw [stepsAtMost_cons_iff] at first second
      rcases first with before | ⟨rfl, first⟩
      · rcases second with after | ⟨rfl, _⟩
        · exact absurd before after.asymm
        · exact absurd before (lt_irrefl _)
      · rcases second with after | ⟨_, second⟩
        · exact absurd after (lt_irrefl _)
        · rw [ih first second]

namespace SourceFile

/-- Files are ordered by their places, and at one place by what they are shown as. -/
theorem atMost_iff {a b : SourceFile} :
    a.atMost b = true ↔ stepsAtMost a.canonical b.canonical = true ∧
      (a.canonical = b.canonical → a.shown ≤ b.shown) := by
  unfold atMost
  by_cases same : a.canonical = b.canonical
  · simp [same, stepsAtMost_refl]
  · simp [same]

/-- The order of source files is transitive. -/
theorem atMost_trans (a b c : SourceFile) (first : a.atMost b = true) (second : b.atMost c = true) :
    a.atMost c = true := by
  rw [atMost_iff] at first second ⊢
  refine ⟨stepsAtMost_trans first.1 second.1, fun same => ?_⟩
  have middle : a.canonical = b.canonical :=
    stepsAtMost_antisymm first.1 (same ▸ second.1)
  exact String.le_trans (first.2 middle) (second.2 (middle ▸ same))

/-- Of any two source files one may stand before the other. -/
theorem atMost_total (a b : SourceFile) : (a.atMost b || b.atMost a) = true := by
  rw [Bool.or_eq_true, atMost_iff, atMost_iff]
  by_cases same : a.canonical = b.canonical
  · rcases String.le_total a.shown b.shown with before | before
    · exact .inl ⟨same ▸ stepsAtMost_refl _, fun _ => before⟩
    · exact .inr ⟨same ▸ stepsAtMost_refl _, fun _ => before⟩
  · rcases stepsAtMost_total a.canonical b.canonical with before | before
    · exact .inl ⟨before, fun h => absurd h same⟩
    · exact .inr ⟨before, fun h => absurd h.symm same⟩

/-- Files tie when they are at the same place and shown by the same path. -/
theorem ties_atMost_iff {a b : SourceFile} :
    ties atMost a b = true ↔ a.canonical = b.canonical ∧ a.shown = b.shown := by
  rw [ties_iff, atMost_iff, atMost_iff]
  constructor
  · rintro ⟨⟨before, least⟩, after, least'⟩
    have place := stepsAtMost_antisymm before after
    exact ⟨place, String.le_antisymm (least place) (least' place.symm)⟩
  · rintro ⟨place, shown⟩
    rw [place, shown]
    exact ⟨⟨stepsAtMost_refl _, fun _ => String.le_refl _⟩,
      stepsAtMost_refl _, fun _ => String.le_refl _⟩

/-- Files that tie with the same file are shown alike. -/
theorem shown_eq_of_ties {file a b : SourceFile} (first : ties atMost file a = true)
    (second : ties atMost file b = true) : a.shown = b.shown :=
  (ties_atMost_iff.mp first).2.symm.trans (ties_atMost_iff.mp second).2

/-- Sorting files puts their places in order. -/
theorem pairwise_mergeSort (files : List SourceFile) :
    (files.mergeSort atMost).Pairwise fun a b => a.atMost b = true :=
  List.pairwise_mergeSort atMost_trans atMost_total files

end SourceFile

/-! ## One file for each place -/

/-- Dropping the copies of a file keeps the others in their order. -/
theorem dropSameAs_sublist (last : List Path.Step) (files : List SourceFile) :
    (dropSameAs last files).Sublist files := by
  induction files generalizing last with
  | nil => exact .slnil
  | cons first rest ih =>
    unfold dropSameAs
    split
    · exact (ih last).cons first
    · exact (ih _).cons_cons first

/-- The first files of all places keep their order. -/
theorem firstOfEach_sublist (files : List SourceFile) : (firstOfEach files).Sublist files := by
  cases files with
  | nil => exact .slnil
  | cons first rest => exact (dropSameAs_sublist _ rest).cons_cons first

/-- Behind a place, sorted files are left with places that are new and different. -/
theorem pairwise_dropSameAs {last : List Path.Step} {files : List SourceFile}
    (sorted : files.Pairwise fun a b => a.atMost b = true)
    (after : ∀ file ∈ files, stepsAtMost last file.canonical = true) :
    (∀ file ∈ dropSameAs last files, file.canonical ≠ last) ∧
      (dropSameAs last files).Pairwise fun a b => a.canonical ≠ b.canonical := by
  induction files generalizing last with
  | nil => simp [dropSameAs]
  | cons first rest ih =>
    obtain ⟨below, sorted⟩ := List.pairwise_cons.mp sorted
    have afterFirst : ∀ file ∈ rest, stepsAtMost first.canonical file.canonical = true :=
      fun file member => (SourceFile.atMost_iff.mp (below file member)).1
    unfold dropSameAs
    split
    · rename_i same
      exact ih sorted (same ▸ afterFirst)
    · rename_i different
      obtain ⟨new, distinct⟩ := ih sorted afterFirst
      constructor
      · intro file member
        rcases List.mem_cons.mp member with rfl | member
        · exact different
        · intro back
          have toFirst := after first List.mem_cons_self
          have fromFirst := afterFirst file ((dropSameAs_sublist _ _).subset member)
          rw [back] at fromFirst
          exact different (stepsAtMost_antisymm fromFirst toFirst)
      · exact List.pairwise_cons.mpr ⟨fun file member => (new file member).symm, distinct⟩

/-- Of sorted files no two are left at the same place. -/
theorem pairwise_firstOfEach {files : List SourceFile}
    (sorted : files.Pairwise fun a b => a.atMost b = true) :
    (firstOfEach files).Pairwise fun a b => a.canonical ≠ b.canonical := by
  cases files with
  | nil => exact .nil
  | cons first rest =>
    obtain ⟨below, sorted⟩ := List.pairwise_cons.mp sorted
    have after : ∀ file ∈ rest, stepsAtMost first.canonical file.canonical = true :=
      fun file member => (SourceFile.atMost_iff.mp (below file member)).1
    obtain ⟨new, distinct⟩ := pairwise_dropSameAs sorted after
    exact List.pairwise_cons.mpr ⟨fun file member => (new file member).symm, distinct⟩

/-- The first file of all stands for its place, when every other one is kept or stands where the
file before it does. -/
theorem exists_mem_cons_dropSameAs {first file : SourceFile} {rest : List SourceFile}
    (below : ∀ other ∈ rest, first.atMost other = true)
    (onward : file ∈ rest → file.canonical = first.canonical ∨
      ∃ kept ∈ dropSameAs first.canonical rest,
        kept.canonical = file.canonical ∧ kept.shown ≤ file.shown)
    (h : file ∈ first :: rest) :
    ∃ kept ∈ first :: dropSameAs first.canonical rest,
      kept.canonical = file.canonical ∧ kept.shown ≤ file.shown := by
  rcases List.mem_cons.mp h with rfl | h
  · exact ⟨file, List.mem_cons_self, rfl, String.le_refl _⟩
  · rcases onward h with same | ⟨kept, member, same, least⟩
    · exact ⟨first, List.mem_cons_self, same.symm,
        (SourceFile.atMost_iff.mp (below file h)).2 same.symm⟩
    · exact ⟨kept, List.mem_cons_of_mem _ member, same, least⟩

/-- In a sorted list, a file of another place is represented by one that is kept and shown by no
greater path. -/
theorem exists_mem_dropSameAs {last : List Path.Step} {files : List SourceFile} {file : SourceFile}
    (sorted : files.Pairwise fun a b => a.atMost b = true) (h : file ∈ files) :
    file.canonical = last ∨
      ∃ kept ∈ dropSameAs last files,
        kept.canonical = file.canonical ∧ kept.shown ≤ file.shown := by
  induction files generalizing last with
  | nil => exact absurd h List.not_mem_nil
  | cons first rest ih =>
    obtain ⟨below, sorted⟩ := List.pairwise_cons.mp sorted
    unfold dropSameAs
    split
    · rename_i same
      rcases List.mem_cons.mp h with rfl | h
      · exact .inl same
      · exact ih sorted h
    · exact .inr (exists_mem_cons_dropSameAs below (fun h => ih sorted h) h)

/-- At every place one file is left, and it is shown by the least path. -/
theorem exists_mem_firstOfEach {files : List SourceFile} {file : SourceFile}
    (sorted : files.Pairwise fun a b => a.atMost b = true) (h : file ∈ files) :
    ∃ kept ∈ firstOfEach files, kept.canonical = file.canonical ∧ kept.shown ≤ file.shown := by
  cases files with
  | nil => exact absurd h List.not_mem_nil
  | cons first rest =>
    obtain ⟨below, sorted⟩ := List.pairwise_cons.mp sorted
    exact exists_mem_cons_dropSameAs below (exists_mem_dropSameAs sorted) h

end CatalogAudit.Scan
