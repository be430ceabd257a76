import CatalogAudit.CommandLine
import CatalogAudit.Proofs.Artifact.Replacement
import CatalogAudit.Proofs.Audit.Run

/-!
# Delivering an audit

A run that comes to a verdict writes the artifacts that are asked for one after another: the
snapshot, then the report. The first write that fails ends the run. That write leaves no file
behind, but an artifact written before it stays.
-/

namespace CatalogAudit

/-- Nothing stands at the temporary name of an artifact when that is written. -/
def Artifact.IsClear (tree : FileTree) (p : Path) : Prop := (prepare tree p).IsVacant (temporary p)

/-- What stands at the temporary name of an artifact, when that is written, is no link and no file
with other names. -/
def Artifact.IsAlone (tree : FileTree) (p : Path) : Prop :=
  (prepare tree p).StandsAlone (temporary p)

/-- No link stands at the temporary name of an artifact when that is written. -/
def Artifact.IsUnlinked (tree : FileTree) (p : Path) : Prop :=
  (prepare tree p).HasNoLink (temporary p)

namespace CommandLine

open FileTree

/-! ## Artifacts one after another -/

/-- Where an artifact is to be written. -/
def Delivery.path : Delivery → Path
  | .snapshot path => path
  | .report path => path

/-- An artifact with its contents. -/
abbrev Parcel := Delivery × ByteArray

/-- Writes artifacts one after another, up to the first that cannot be written. -/
def writeAll (tree : FileTree) : List Parcel → FileTree × Option (Delivery × Fault)
  | [] => (tree, none)
  | (delivery, bytes) :: rest =>
    match Artifact.write tree delivery.path bytes with
    | (tree, none) => writeAll tree rest
    | (tree, some fault) => (tree, some (delivery, fault))

section WriteAll

variable {tree tree' : FileTree} {delivery : Delivery} {bytes : ByteArray} {fault : Fault}
  {rest parcels : List Parcel}

/-- An artifact that is written is followed by the others. -/
theorem writeAll_cons (written : Artifact.write tree delivery.path bytes = (tree', none)) :
    writeAll tree ((delivery, bytes) :: rest) = writeAll tree' rest := by
  rw [writeAll, written]

/-- An artifact that cannot be written is the last one. -/
theorem writeAll_stop (failed : Artifact.write tree delivery.path bytes = (tree', some fault)) :
    writeAll tree ((delivery, bytes) :: rest) = (tree', some (delivery, fault)) := by
  rw [writeAll, failed]

/-- Artifacts are written when those in front and those behind are. -/
theorem exists_between_of_writeAll {done : List Parcel}
    (written : writeAll tree (done ++ rest) = (tree', none)) :
    ∃ between, writeAll tree done = (between, none) ∧ writeAll between rest = (tree', none) := by
  induction done generalizing tree with
  | nil => exact ⟨tree, rfl, written⟩
  | cons parcel done ih =>
    obtain ⟨delivery, bytes⟩ := parcel
    rcases first : Artifact.write tree delivery.path bytes with ⟨next, _ | fault⟩
    · rw [List.cons_append, writeAll_cons first] at written
      rw [writeAll_cons first]
      exact ih written
    · rw [List.cons_append, writeAll_stop first] at written
      cases written

/-- A single artifact is written when its file is. -/
theorem writeAll_singleton_iff :
    writeAll tree [(delivery, bytes)] = (tree', none) ↔
      Artifact.write tree delivery.path bytes = (tree', none) := by
  rcases written : Artifact.write tree delivery.path bytes with ⟨after, _ | fault⟩
  · rw [writeAll_cons written, writeAll, Prod.mk.injEq, Prod.mk.injEq]
    exact and_congr_right' (iff_of_true rfl rfl)
  · rw [writeAll_stop written]
    exact ⟨nofun, nofun⟩

/-- The write that fails comes behind others that do not. -/
theorem exists_split_of_writeAll
    (failed : writeAll tree parcels = (tree', some (delivery, fault))) :
    ∃ done bytes rest before, parcels = done ++ (delivery, bytes) :: rest ∧
      writeAll tree done = (before, none) ∧
      Artifact.write before delivery.path bytes = (tree', some fault) := by
  induction parcels generalizing tree with
  | nil => cases failed
  | cons parcel rest ih =>
    obtain ⟨first, bytes⟩ := parcel
    rcases written : Artifact.write tree first.path bytes with ⟨after, _ | e⟩
    · rw [writeAll_cons written] at failed
      obtain ⟨done, own, behind, before, rfl, delivered, write⟩ := ih failed
      exact ⟨(first, bytes) :: done, own, behind, before, rfl,
        (writeAll_cons written).trans delivered, write⟩
    · rw [writeAll_stop written] at failed
      cases failed
      exact ⟨[], bytes, rest, tree, rfl, rfl, written⟩

/-- One artifact at most leaves all files as they were just when it was there already. -/
theorem sameFiles_of_writeAll_iff (few : parcels.length ≤ 1)
    (clears : ∀ parcel ∈ parcels, Artifact.IsClear tree parcel.1.path)
    (done : writeAll tree parcels = (tree', none)) :
    SameFiles tree tree' ↔ ∀ parcel ∈ parcels, Artifact.IsThere tree parcel.1.path parcel.2 := by
  rcases parcels with _ | ⟨⟨delivery, bytes⟩, _ | ⟨second, rest⟩⟩
  · cases done
    exact ⟨fun _ => List.forall_mem_nil _, fun _ => .refl tree⟩
  · rw [List.forall_mem_singleton] at clears ⊢
    rcases written : Artifact.write tree delivery.path bytes with ⟨after, _ | fault⟩
    · rw [writeAll_cons written] at done
      cases done
      exact Artifact.sameFiles_of_write_iff clears written
    · rw [writeAll_stop written] at done
      cases done
  · rw [List.length_cons, List.length_cons] at few
    omega

end WriteAll

/-! ## What is delivered -/

/-- The text of a report in the form that is asked for. -/
def Options.reportText (o : Options) (audit : Audit) : String :=
  match o.format.getD .json with
  | .json => audit.report.renderJson audit.decision
  | .text => audit.report.renderText audit.decision

/-- The snapshot, if it is asked for. -/
def Options.snapshotParcels (o : Options) (time : String) (audit : Audit) : List Parcel :=
  (o.out.map fun path => (Delivery.snapshot path,
    (Snapshot.of time audit.manifest audit.scan.registry).render.toUTF8)).toList

/-- The report, if it is to be a file. -/
def Options.reportParcels (o : Options) (audit : Audit) : List Parcel :=
  (o.report.map fun path => (Delivery.report path, (o.reportText audit).toUTF8)).toList

/-- The artifacts that are asked for, in the order in which they are written. -/
def Options.parcels (o : Options) (time : String) (audit : Audit) : List Parcel :=
  o.snapshotParcels time audit ++ o.reportParcels audit

/-- How a run ends that has come to a verdict. -/
def Options.ending (o : Options) (audit : Audit) : Option (Delivery × Fault) → Ending
  | some (delivery, fault) => failed (.fault (some delivery) fault)
  | none =>
    { output := if o.report.isNone then closeLine (o.reportText audit) else ""
      exitCode := audit.decision.exitCode }

/-- What a run leaves behind that has come to a verdict. -/
def Options.conclude (o : Options) (audit : Audit)
    (written : FileTree × Option (Delivery × Fault)) : Outcome :=
  ⟨o.ending audit written.2, written.1⟩

/-- Delivering the report is writing what there is to write, and saying how it ended. -/
theorem run_deliverReport (tree : FileTree) (o : Options) (audit : Audit) :
    (deliverReport o.report (o.reportText audit) audit.decision).run tree =
      ((writeAll tree (o.reportParcels audit)).1,
        o.ending audit (writeAll tree (o.reportParcels audit)).2) := by
  unfold deliverReport Options.reportParcels Options.ending
  cases o.report with
  | none => rfl
  | some path =>
    rw [Option.map_some, Option.toList_some, writeAll]
    dsimp only [Delivery.path]
    rw [Script.run_bind, ← Artifact.write]
    rcases Artifact.write tree path (o.reportText audit).toUTF8 with ⟨after, _ | fault⟩
    · rfl
    · rfl

/-- Delivering is writing all artifacts, and printing the report when it is no artifact. -/
theorem run_deliver (tree : FileTree) (time : String) (o : Options) (audit : Audit) :
    (deliver time o audit).run tree =
      ((writeAll tree (o.parcels time audit)).1,
        o.ending audit (writeAll tree (o.parcels time audit)).2) := by
  have delivered := fun tree => run_deliverReport tree o audit
  unfold deliver Options.parcels Options.snapshotParcels
  cases o.out with
  | none => exact delivered tree
  | some path =>
    rw [Option.map_some, Option.toList_some, List.singleton_append, writeAll]
    dsimp only [Delivery.path, Snapshot.script]
    rw [Script.run_bind, ← Artifact.write]
    rcases Artifact.write tree path _ with ⟨after, _ | fault⟩
    · exact delivered after
    · rfl

/-- There are two artifacts at most. -/
theorem length_parcels_le (o : Options) (time : String) (audit : Audit) :
    (o.parcels time audit).length ≤ 2 := by
  have option : ∀ x : Option Parcel, x.toList.length ≤ 1 := by
    intro x
    cases x with
    | none => exact Nat.zero_le 1
    | some => exact Nat.le_refl 1
  unfold Options.parcels Options.snapshotParcels Options.reportParcels
  rw [List.length_append]
  exact Nat.add_le_add (option _) (option _)

/-! ## Runs -/

section Run

variable {tree : FileTree} {time : String} {arguments : List String} {o : Options} {audit : Audit}
  {fault : Fault}

/-- An audit that fails fails the run, and nothing is written. -/
theorem run_of_error (accepted : readArguments {} arguments = .audit o)
    (stopped : auditOf tree o = .error fault) :
    run tree time arguments = ⟨failed (.fault none fault), tree⟩ := by
  unfold run script
  rw [accepted]
  dsimp only
  rw [stopped]
  rfl

/-- An audit that succeeds is followed by its artifacts. -/
theorem run_of_ok (accepted : readArguments {} arguments = .audit o)
    (audited : auditOf tree o = .ok audit) :
    run tree time arguments = o.conclude audit (writeAll tree (o.parcels time audit)) := by
  unfold run script
  rw [accepted]
  dsimp only
  rw [audited]
  dsimp only
  rw [run_deliver]
  rfl

/-- A fault comes from the audit, or from a write once the audit is finished. -/
theorem fault_cases {delivery : Option Delivery}
    (failure : (run tree time arguments).failure = some (.fault delivery fault)) :
    ∃ o, readArguments {} arguments = .audit o ∧
      (delivery = none ∧ auditOf tree o = .error fault ∨
        ∃ audit failing after, delivery = some failing ∧ auditOf tree o = .ok audit ∧
          writeAll tree (o.parcels time audit) = (after, some (failing, fault))) := by
  cases accepted : readArguments {} arguments with
  | audit o =>
    refine ⟨o, rfl, ?_⟩
    cases audited : auditOf tree o with
    | error stop =>
      rw [run_of_error accepted audited] at failure
      cases failure
      exact .inl ⟨rfl, rfl⟩
    | ok audit =>
      rw [run_of_ok accepted audited] at failure
      rcases written : writeAll tree (o.parcels time audit) with ⟨after, _ | ⟨failing, stop⟩⟩
      · rw [written] at failure
        cases failure
      · rw [written] at failure
        cases failure
        exact .inr ⟨audit, failing, after, rfl, rfl, written⟩
  | help | version | misuse =>
    unfold run script at failure
    rw [accepted] at failure
    cases failure

/-- A run has finished its audit and written some artifacts, and now the write of another one
fails. -/
def FailsAfter (tree : FileTree) (time : String) (arguments : List String) (done : List Parcel)
    (before : FileTree) (failing : Delivery) (fault : Fault) : Prop :=
  ∃ o audit bytes rest, readArguments {} arguments = .audit o ∧ auditOf tree o = .ok audit ∧
    o.parcels time audit = done ++ (failing, bytes) :: rest ∧
    writeAll tree done = (before, none) ∧
    Artifact.write before failing.path bytes = ((run tree time arguments).tree, some fault)

/-- **What a run leaves behind that ends with a fault.** It prints nothing, and unless the fault
comes from a write, the file tree is as before. The write that fails leaves no file new or
different, except through a link or another name of a file at its temporary name. If nothing stands
at the temporary names, all files are as before just when the artifacts that were written earlier
had been there already. -/
theorem run_of_fault {delivery : Option Delivery}
    (failure : (run tree time arguments).failure = some (.fault delivery fault)) :
    (run tree time arguments).exitCode = 2 ∧ (run tree time arguments).output = "" ∧
      (delivery = none → (run tree time arguments).tree = tree) ∧
      ∀ failing, delivery = some failing → ∃ done before,
        FailsAfter tree time arguments done before failing fault ∧
        (Artifact.IsAlone before failing.path →
          HasNoNewFiles before (run tree time arguments).tree) ∧
        (Artifact.IsClear before failing.path →
          SameFiles before (run tree time arguments).tree ∧
            ((∀ parcel ∈ done, Artifact.IsClear tree parcel.1.path) →
              (SameFiles tree (run tree time arguments).tree ↔
                ∀ parcel ∈ done, Artifact.IsThere tree parcel.1.path parcel.2))) := by
  obtain ⟨o, accepted, ⟨rfl, stopped⟩ | ⟨audit, failing, after, rfl, audited, written⟩⟩ :=
    fault_cases failure
  · rw [run_of_error accepted stopped]
    exact ⟨rfl, rfl, fun _ => rfl, nofun⟩
  · have ran : run tree time arguments = ⟨failed (.fault (some failing) fault), after⟩ := by
      rw [run_of_ok accepted audited, written]
      rfl
    have left : (run tree time arguments).tree = after := congrArg Outcome.tree ran
    obtain ⟨done, bytes, rest, before, parcels, delivered, write⟩ :=
      exists_split_of_writeAll written
    refine ⟨by rw [ran]; rfl, by rw [ran]; rfl, nofun, ?_⟩
    rintro _ ⟨⟩
    have fails : FailsAfter tree time arguments done before failing fault :=
      ⟨o, audit, bytes, rest, accepted, audited, parcels, delivered, left ▸ write⟩
    refine ⟨done, before, fails, ?_, ?_⟩
    · intro alone
      rw [left]
      exact Artifact.hasNoNewFiles_of_write_error alone write
    · intro clear
      rw [left]
      have files := Artifact.sameFiles_of_write_error clear write
      refine ⟨files, fun clears => ?_⟩
      have few : done.length ≤ 1 := by
        have all := length_parcels_le o time audit
        rw [parcels, List.length_append, List.length_cons] at all
        omega
      rw [← sameFiles_of_writeAll_iff few clears delivered]
      exact ⟨fun same => same.trans files.symm, fun same => same.trans files⟩

end Run

/-! ## A snapshot that stays behind -/

/-- A snapshot is asked for, and a report at the place of a folder. -/
def blockedArguments : List String := ["--out", "s.json", "--report", "docs"]

/-- The report cannot be written, and the snapshot is there. -/
theorem run_blockedArguments :
    (run Audit.sampleRepository "now" blockedArguments).failure =
        some (.fault (some (.report (.ofString "docs"))) (.file (.ofString "docs") .isFolder)) ∧
      ((run Audit.sampleRepository "now" blockedArguments).tree.item? [.ofString "s.json"]).any
        Item.isFile = true := by
  decide +kernel

/-- The report cannot take the place of a folder. -/
theorem run_of_fault_blocked :
    (run Audit.sampleRepository "now" blockedArguments).failure =
        some (.fault (some (.report (.ofString "docs"))) (.file (.ofString "docs") .isFolder)) ∧
      (run Audit.sampleRepository "now" blockedArguments).exitCode = 2 ∧
      (run Audit.sampleRepository "now" blockedArguments).output = "" ∧
      ∃ done before,
        FailsAfter Audit.sampleRepository "now" blockedArguments done before
          (.report (.ofString "docs")) (.file (.ofString "docs") .isFolder) ∧
        (Artifact.IsAlone before (.ofString "docs") →
          HasNoNewFiles before (run Audit.sampleRepository "now" blockedArguments).tree) := by
  have failure := run_blockedArguments.1
  obtain ⟨code, output, -, late⟩ := run_of_fault failure
  obtain ⟨done, before, fails, alone, -⟩ := late _ rfl
  exact ⟨failure, code, output, done, before, fails, alone⟩

/-- A run that ends with a fault leaves a snapshot behind that was not there. -/
theorem failed_run_leaves_snapshot :
    (run Audit.sampleRepository "now" blockedArguments).failure =
        some (.fault (some (.report (.ofString "docs"))) (.file (.ofString "docs") .isFolder)) ∧
      ¬ HasNoNewFiles Audit.sampleRepository
        (run Audit.sampleRepository "now" blockedArguments).tree := by
  obtain ⟨failure, snapshot⟩ := run_blockedArguments
  refine ⟨failure, fun noNew => ?_⟩
  obtain ⟨item, there, file⟩ := (Option.any_eq_true _ _).mp snapshot
  have absent : Audit.sampleRepository.item? [.ofString "s.json"] = none := by decide
  cases item with
  | file bytes =>
    have before := noNew _ _ there
    rw [absent] at before
    cases before
  | link | folder => cases file

end CommandLine

end CatalogAudit
