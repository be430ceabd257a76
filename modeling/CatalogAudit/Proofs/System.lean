import CatalogAudit.Proofs.FileTree.LastStep
import CatalogAudit.System

/-!
# Runs of scripts

In the outside world any call of a script may fail, and bytes may be written in part only. A run of
a script is one course that this can take, call by call. Running a script on a file tree is the
course on which only those calls fail that the tree forbids. Scripts that make folders add nothing
else on any course, and if they come to their end, they have done what they do on that one.
-/

namespace CatalogAudit

open FileTree

/-! ## Steps -/

/-- A call refuses what it is asked, for a reason outside of the file tree. -/
def Call.Refuses : (call : Call) → call.Answer → Prop
  | isFolder _, answer => answer = false
  | extend _ _, answer => ∃ message, answer = .error (.other message)
  | makeFolder _, answer | create _, answer | move _ _, answer | remove _, answer =>
    ∃ message, answer = .error (.other message)

/-- Of the bytes to be written, only the first ones are taken. -/
def Call.TakesPart (tree : FileTree) : (call : Call) → call.Answer → FileTree → Prop
  | extend p bytes, answer, after => ∃ count < bytes.size,
      tree.extend p (bytes.extract 0 count) = .ok after ∧ answer = .ok count
  | _, _, _ => False

/-- A call that has been made. -/
structure Step where
  /-- The tree before the call. -/
  before : FileTree
  /-- The call. -/
  call : Call
  /-- What the call is answered. -/
  answer : call.Answer
  /-- The tree after the call. -/
  after : FileTree

namespace Step

/-- The call has done what the tree allows. -/
def Works (step : Step) : Prop := step.call.on step.before = (step.after, step.answer)

/-- What may come of a call. -/
inductive Happens (step : Step) : Prop
  /-- It does what the tree allows. -/
  | works (works : step.Works)
  /-- It is refused, and the tree stays as it is. -/
  | refused (refuses : step.call.Refuses step.answer) (same : step.after = step.before)
  /-- It does a part. -/
  | part (takes : step.call.TakesPart step.before step.answer step.after)

/-- Bytes are not written or a file is not removed, although the tree allows it. -/
def GivesUp (step : Step) : Prop :=
  ¬ step.Works ∧
    match step.call, step.answer with
    | .extend _ _, .error _ | .extend _ _, .ok 0 | .remove _, .error _ => True
    | _, _ => False

end Step

/-- What comes of a call that is to change the tree. -/
inductive Settles (tree : FileTree) (change : Except FileError FileTree) :
    Except FileError Unit → FileTree → Prop
  /-- The change is made. -/
  | made {after : FileTree} (possible : change = .ok after) : Settles tree change (.ok ()) after
  /-- The tree or the system refuses it. -/
  | refused {e : FileError} (why : change = .error e ∨ ∃ message, e = .other message) :
    Settles tree change (.error e) tree

section Steps

variable {tree after : FileTree} {p : Path} {answer : Except FileError Unit}

/-- A change that succeeds is what follows, and one that fails leaves the tree as it was. -/
theorem settle_cases {α : Type} {value : α} {change : Except FileError FileTree}
    {answer : Except FileError α} (settled : Call.settle tree value change = (after, answer)) :
    (change = .ok after ∧ answer = .ok value) ∨
      ∃ e, change = .error e ∧ after = tree ∧ answer = .error e := by
  cases change with
  | ok changed =>
    cases settled
    exact .inl ⟨rfl, rfl⟩
  | error e =>
    cases settled
    exact .inr ⟨e, rfl, rfl, rfl⟩

/-- A call that did what it does settles its change. -/
theorem settles_of_settle {change : Except FileError FileTree}
    (settled : Call.settle tree () change = (after, answer)) :
    Settles tree change answer after := by
  rcases settle_cases settled with ⟨possible, rfl⟩ | ⟨e, failed, rfl, rfl⟩
  · exact .made possible
  · exact .refused (.inl failed)

/-- A call that the system refused changed nothing. -/
theorem settles_of_refuses {change : Except FileError FileTree}
    (refuses : ∃ message, answer = .error (.other message)) (same : after = tree) :
    Settles tree change answer after := by
  obtain ⟨message, rfl⟩ := refuses
  subst same
  exact .refused (.inr ⟨message, rfl⟩)

/-- What a call that changes the tree as a whole has settled. The other calls ask for something, or
may change a part. -/
def Step.Settled : Step → Prop
  | ⟨tree, .makeFolder p, answer, after⟩ => Settles tree (tree.makeFolder p) answer after
  | ⟨tree, .create p, answer, after⟩ => Settles tree (tree.create p) answer after
  | ⟨tree, .move source p, answer, after⟩ => Settles tree (tree.move source p) answer after
  | ⟨tree, .remove p, answer, after⟩ => Settles tree (tree.remove p) answer after
  | ⟨_, .isFolder _, _, _⟩ | ⟨_, .extend _ _, _, _⟩ => True

/-- Whatever happens, a call makes its change or leaves the tree as it was. -/
theorem Step.Happens.settled {step : Step} (happens : step.Happens) : step.Settled := by
  obtain ⟨tree, call, answer, after⟩ := step
  rcases happens with works | ⟨refuses, same⟩ | takes
  · cases call with
    | makeFolder | create | move | remove => exact settles_of_settle works
    | isFolder | extend => trivial
  · cases call with
    | makeFolder | create | move | remove => exact settles_of_refuses refuses same
    | isFolder | extend => trivial
  · cases call with
    | makeFolder | create | move | remove => exact takes.elim
    | isFolder | extend => trivial

/-- A folder is not seen where none is. -/
theorem isFolder_of_happens {seen : Bool}
    (happens : Step.Happens ⟨tree, .isFolder p, seen, after⟩) :
    after = tree ∧ (seen = true → tree.isFolder p = true) := by
  rcases happens with works | ⟨refuses, same⟩ | takes
  · obtain ⟨same, answered⟩ := Prod.mk.inj works
    exact ⟨same.symm, fun yes => answered.trans yes⟩
  · exact ⟨same, fun yes => Bool.noConfusion (yes.symm.trans refuses)⟩
  · exact takes.elim

end Steps

/-! ## Runs -/

namespace Script

variable {α β : Type} {tree after tree' : FileTree} {steps : List Step} {result : α}

/-- A course that a script may take: its steps, the tree behind them and the result. -/
inductive Runs {α : Type} : FileTree → Script α → List Step → FileTree → α → Prop
  /-- The script is done. -/
  | done (tree : FileTree) (result : α) : Runs tree (.done result) [] tree result
  /-- A call happens, and the script goes on. -/
  | ask {tree after tree' : FileTree} {call : Call} {next : call.Answer → Script α}
    {answer : call.Answer} {steps : List Step} {result : α}
    (happens : Step.Happens ⟨tree, call, answer, after⟩)
    (rest : Runs after (next answer) steps tree' result) :
    Runs tree (.ask call next) (⟨tree, call, answer, after⟩ :: steps) tree' result

/-- A script that is done makes no call. -/
theorem Runs.of_done {value : α} (runs : Runs tree (.done value) steps tree' result) :
    steps = [] ∧ tree' = tree ∧ result = value := by
  cases runs
  exact ⟨rfl, rfl, rfl⟩

/-- A script that begins with a call goes on by its answer. -/
theorem Runs.of_call {c : Call} {rest : c.Answer → Script α}
    (runs : Runs tree (call c >>= rest) steps tree' result) :
    ∃ answer after behind, Step.Happens ⟨tree, c, answer, after⟩ ∧
      steps = ⟨tree, c, answer, after⟩ :: behind ∧
        Runs after (rest answer) behind tree' result := by
  cases runs with
  | ask happens more => exact ⟨_, _, _, happens, rfl, more⟩

/-- A call does what the tree allows. -/
theorem Runs.works {c : Call} {next : c.Answer → Script α}
    (rest : Runs (c.on tree).1 (next (c.on tree).2) steps tree' result) :
    Runs tree (.ask c next) (⟨tree, c, (c.on tree).2, (c.on tree).1⟩ :: steps) tree' result :=
  .ask (.works rfl) rest

/-- A call is refused. -/
theorem Runs.refused {c : Call} {next : c.Answer → Script α} {answer : c.Answer}
    (refuses : c.Refuses answer) (rest : Runs tree (next answer) steps tree' result) :
    Runs tree (.ask c next) (⟨tree, c, answer, tree⟩ :: steps) tree' result :=
  .ask (.refused refuses rfl) rest

/-- Only the first bytes are taken. -/
theorem Runs.part {p : Path} {bytes : ByteArray} {next : Except FileError Nat → Script α}
    (count : Nat) (less : count < bytes.size)
    (extended : tree.extend p (bytes.extract 0 count) = .ok after)
    (rest : Runs after (next (.ok count)) steps tree' result) :
    Runs tree (.ask (.extend p bytes) next) (⟨tree, .extend p bytes, .ok count, after⟩ :: steps)
      tree' result :=
  .ask (.part ⟨count, less, extended, rfl⟩) rest

/-- A course of two scripts one after another is a course of each. -/
theorem Runs.split {script : Script α} {rest : α → Script β} {result : β}
    (runs : Runs tree (script >>= rest) steps tree' result) :
    ∃ first middle value last, steps = first ++ last ∧ Runs tree script first middle value ∧
      Runs middle (rest value) last tree' result := by
  induction script generalizing tree steps with
  | done value => exact ⟨[], tree, value, steps, rfl, .done tree value, runs⟩
  | ask c next ih =>
    cases runs with
    | @ask _ after _ _ _ answer behind _ happens more =>
      obtain ⟨first, middle, value, last, rfl, early, late⟩ := ih answer more
      exact ⟨_ :: first, middle, value, last, rfl, .ask happens early, late⟩

/-- A call is answered by what it does, and the script goes on from there. -/
theorem run_call (tree : FileTree) (c : Call) (rest : c.Answer → Script β) :
    (call c >>= rest).run tree = (rest (c.on tree).2).run (c.on tree).1 := rfl

/-- To ask for a folder changes nothing. -/
theorem run_isFolder (tree : FileTree) (p : Path) (rest : Bool → Script β) :
    (call (.isFolder p) >>= rest).run tree = (rest (tree.isFolder p)).run tree := rfl

/-- A script behind another one runs from where that one ended. -/
theorem run_bind (tree : FileTree) (script : Script α) (rest : α → Script β) :
    (script >>= rest).run tree = (rest (script.run tree).2).run (script.run tree).1 := by
  induction script generalizing tree with
  | done value => rfl
  | ask c next ih => exact ih _ _

/-- Running a script on a tree is a course on which all calls work. -/
theorem exists_runs_run (tree : FileTree) (script : Script α) :
    ∃ steps, Runs tree script steps (script.run tree).1 (script.run tree).2 ∧
      ∀ step ∈ steps, step.Works := by
  induction script generalizing tree with
  | done value => exact ⟨[], .done tree value, List.forall_mem_nil _⟩
  | ask c next ih =>
    obtain ⟨steps, runs, works⟩ := ih (c.on tree).2 (c.on tree).1
    exact ⟨_ :: steps, runs.works, List.forall_mem_cons.mpr ⟨rfl, works⟩⟩

/-! ## Folders -/

/-- Where a folder is, none can be made. -/
theorem makeFolder_of_isFolder {p : Path} (folder : tree.isFolder p = true) :
    tree.makeFolder p = .error .taken := by
  have resolved : ∃ location, tree.resolve p = .ok (location, .folder) := by
    unfold isFolder at folder
    split at folder
    · rename_i found
      exact ⟨_, found⟩
    · contradiction
  obtain ⟨location, resolved⟩ := resolved
  obtain ⟨writable, ⟨left, route⟩, inside⟩ := resolve_eq_ok_iff.mp resolved
  have named : ∃ left location, tree.item? location = some .folder ∧
      Route tree linkLimit (tree.origin p) p.names left location := by
    unfold Path.namesToFolder at route
    split at route
    · obtain ⟨between, middle, first, last⟩ := route.split
      exact ⟨between, middle, last.folder_start inside, first⟩
    · exact ⟨left, location, inside, route⟩
  obtain ⟨left, location, inside, route⟩ := named
  have taken : ∃ location item,
      tree.findNames false p p.names = .ok (.present location item) := by
    rcases (route.finds_entry inside).leave_last with same | ⟨own, target, link⟩
    · exact ⟨_, _, findNames_eq_ok_iff.mpr ⟨writable, same⟩⟩
    · exact ⟨_, _, findNames_eq_ok_iff.mpr ⟨writable, link⟩⟩
  obtain ⟨own, item, taken⟩ := taken
  unfold makeFolder
  rw [taken]

/-- Nothing but folders has been added, at any time. -/
structure AddsOnlyFolders (tree : FileTree) (steps : List Step) (tree' : FileTree) : Prop where
  /-- At the end there are only more folders. -/
  last : AddsFolders tree tree'
  /-- So it is after every call. -/
  steps : ∀ step ∈ steps, AddsFolders tree step.after

/-- No step at all adds no folder. -/
theorem AddsOnlyFolders.refl (tree : FileTree) : AddsOnlyFolders tree [] tree :=
  ⟨.refl tree, List.forall_mem_nil _⟩

/-- A step that adds folders at most may come first. -/
theorem AddsOnlyFolders.cons {step : Step} (first : AddsFolders tree step.after)
    (rest : AddsOnlyFolders step.after steps tree') :
    AddsOnlyFolders tree (step :: steps) tree' :=
  ⟨first.trans rest.last, List.forall_mem_cons.mpr
    ⟨first, fun step member => first.trans (rest.steps step member)⟩⟩

/-- Steps that add folders at most may follow one another. -/
theorem AddsOnlyFolders.append {middle : FileTree} {behind : List Step}
    (first : AddsOnlyFolders tree steps middle) (rest : AddsOnlyFolders middle behind tree') :
    AddsOnlyFolders tree (steps ++ behind) tree' :=
  ⟨first.last.trans rest.last, List.forall_mem_append.mpr
    ⟨first.steps, fun step member => first.last.trans (rest.steps step member)⟩⟩

/-- A folder is asked for once more when it could not be made. -/
theorem runs_isFolder {p : Path} {rest : Bool → Script α}
    (runs : Runs tree (call (.isFolder p) >>= rest) steps tree' result) :
    ∃ seen behind, steps = ⟨tree, .isFolder p, seen, tree⟩ :: behind ∧
      (seen = true → tree.isFolder p = true) ∧ Runs tree (rest seen) behind tree' result := by
  obtain ⟨seen, after, behind, happens, rfl, more⟩ := runs.of_call
  obtain ⟨rfl, isThere⟩ := isFolder_of_happens happens
  exact ⟨seen, behind, rfl, isThere, more⟩

section MakeFolders

variable {p : Path} {pending above below : List Path}

/-- Where a folder can be made, the ones below it are still pending. -/
theorem run_makeFirst_of_ok (made : tree.makeFolder p = .ok after) :
    (makeFirst pending (p :: above)).run tree = (after, .ok pending) := by
  have works : Call.on tree (.makeFolder p) = (after, .ok ()) :=
    congrArg (Call.settle tree ()) made
  rw [makeFirst, run_call, works]
  rfl

/-- Where the folder above is missing, that one is tried first. -/
theorem run_makeFirst_of_missing (missing : tree.makeFolder p = .error .missing) :
    (makeFirst pending (p :: above)).run tree = (makeFirst (p :: pending) above).run tree := by
  have works : Call.on tree (.makeFolder p) = (tree, .error .missing) :=
    congrArg (Call.settle tree ()) missing
  rw [makeFirst, run_call, works]

/-- Where there is a folder already, the ones below it are still pending. -/
theorem run_makeFirst_of_isFolder (folder : tree.isFolder p = true) :
    (makeFirst pending (p :: above)).run tree = (tree, .ok pending) := by
  have works : Call.on tree (.makeFolder p) = (tree, .error .taken) :=
    congrArg (Call.settle tree ()) (makeFolder_of_isFolder folder)
  rw [makeFirst, run_call, works]
  refine (run_isFolder tree p _).trans ?_
  rw [folder]
  rfl

/-- Looking for the first folder that can be made adds only folders. If one is found, it is the one
that is found when all calls work. -/
theorem makeFirst_runs {lineage : List Path} {result : Except FileError (List Path)}
    (runs : Runs tree (makeFirst pending lineage) steps tree' result) :
    AddsOnlyFolders tree steps tree' ∧
      ∀ rest, result = .ok rest → (makeFirst pending lineage).run tree = (tree', .ok rest) := by
  induction lineage generalizing pending tree steps with
  | nil =>
    obtain ⟨rfl, rfl, rfl⟩ := runs.of_done
    exact ⟨.refl _, fun rest same => same ▸ rfl⟩
  | cons p above ih =>
    rw [makeFirst] at runs
    obtain ⟨answer, after, behind, happens, rfl, more⟩ := runs.of_call
    rcases happens.settled with made | why
    · obtain ⟨rfl, rfl, rfl⟩ := more.of_done
      refine ⟨.cons (addsFolders_of_makeFolder made) (.refl _), ?_⟩
      rintro _ ⟨⟩
      exact run_makeFirst_of_ok made
    · split at more
      · contradiction
      · rename_i missing
        cases missing
        obtain ⟨adds, sound⟩ := ih more
        refine ⟨.cons (.refl tree) adds, fun rest same => ?_⟩
        rcases why with missing | ⟨message, other⟩
        · rw [run_makeFirst_of_missing missing, sound rest same]
        · contradiction
      · obtain ⟨seen, behind, rfl, isThere, more⟩ := runs_isFolder more
        split at more
        · rename_i yes
          obtain ⟨rfl, rfl, rfl⟩ := more.of_done
          refine ⟨.cons (.refl _) (.cons (.refl _) (.refl _)), ?_⟩
          rintro _ ⟨⟩
          exact run_makeFirst_of_isFolder (isThere yes)
        · obtain ⟨rfl, rfl, rfl⟩ := more.of_done
          exact ⟨.cons (.refl _) (.cons (.refl _) (.refl _)), nofun⟩

/-- A folder that can be made is made, and then the ones below it. -/
theorem run_makeRest_of_ok (made : tree.makeFolder p = .ok after) :
    (makeRest (p :: below)).run tree = (makeRest below).run after := by
  have works : Call.on tree (.makeFolder p) = (after, .ok ()) :=
    congrArg (Call.settle tree ()) made
  rw [makeRest, run_call, works]

/-- A folder that is there is left alone, and then come the ones below it. -/
theorem run_makeRest_of_isFolder (folder : tree.isFolder p = true) :
    (makeRest (p :: below)).run tree = (makeRest below).run tree := by
  have works : Call.on tree (.makeFolder p) = (tree, .error .taken) :=
    congrArg (Call.settle tree ()) (makeFolder_of_isFolder folder)
  rw [makeRest, run_call, works]
  refine (run_isFolder tree p _).trans ?_
  rw [folder]
  rfl

/-- Making folders in the order given adds only folders. If all are there in the end, they are those
that are there when all calls work. -/
theorem makeRest_runs {result : Option FileError}
    (runs : Runs tree (makeRest below) steps tree' result) :
    AddsOnlyFolders tree steps tree' ∧
      (result = none → (makeRest below).run tree = (tree', none)) := by
  induction below generalizing tree steps with
  | nil =>
    obtain ⟨rfl, rfl, rfl⟩ := runs.of_done
    exact ⟨.refl _, fun _ => rfl⟩
  | cons p below ih =>
    rw [makeRest] at runs
    obtain ⟨answer, after, behind, happens, rfl, more⟩ := runs.of_call
    rcases happens.settled with made | why
    · obtain ⟨adds, sound⟩ := ih more
      exact ⟨.cons (addsFolders_of_makeFolder made) adds, fun done =>
        (run_makeRest_of_ok made).trans (sound done)⟩
    · obtain ⟨seen, behind, rfl, isThere, more⟩ := runs_isFolder more
      split at more
      · rename_i yes
        obtain ⟨adds, sound⟩ := ih more
        exact ⟨.cons (.refl tree) (.cons (.refl tree) adds), fun done =>
          (run_makeRest_of_isFolder (isThere yes)).trans (sound done)⟩
      · obtain ⟨rfl, rfl, rfl⟩ := more.of_done
        exact ⟨.cons (.refl _) (.cons (.refl _) (.refl _)), nofun⟩

/-- Making a folder and those above it adds only folders, however far it comes. If it succeeds, it
has done what it does when all calls work. -/
theorem makeFolders_runs {result : Option FileError}
    (runs : Runs tree (makeFolders p) steps tree' result) :
    AddsOnlyFolders tree steps tree' ∧
      (result = none → (makeFolders p).run tree = (tree', none)) := by
  obtain ⟨first, middle, found, last, rfl, early, late⟩ := runs.split
  obtain ⟨adds, sound⟩ := makeFirst_runs early
  cases found with
  | error e =>
    obtain ⟨rfl, rfl, rfl⟩ := late.of_done
    exact ⟨adds.append (.refl _), nofun⟩
  | ok pending =>
    obtain ⟨adds', sound'⟩ := makeRest_runs late
    refine ⟨adds.append adds', fun done => ?_⟩
    rw [makeFolders, run_bind, sound pending rfl]
    exact sound' done

end MakeFolders

end Script

end CatalogAudit
