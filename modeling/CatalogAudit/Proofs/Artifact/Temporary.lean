import CatalogAudit.Proofs.Artifact

/-!
# The temporary file

While an artifact is written, its bytes grow in the temporary file, under all the names of that
file, and nothing else changes. Then the file is moved to its place. When it cannot be moved, it is
removed; it stays behind when the system gives up writing its bytes or does not remove it.
-/

namespace CatalogAudit.Artifact

open FileTree Script

variable {ready between after tree' : FileTree} {p aside : Path} {own other : Location}
  {part bytes : ByteArray} {steps : List Step}

/-- In a tree there is a file at a location, and under the other names of that file. Everything else
is as in the tree that was ready for it. -/
structure Beside (ready between : FileTree) (own : Location) (part : ByteArray) : Prop where
  /-- No way went on from the location. -/
  isEnd : ready.IsEnd own
  /-- Relative paths begin at the same place. -/
  home : between.home = ready.home
  /-- What stands where. -/
  items : ∀ location, between.item? location =
    if ready.isTwin own location then some (.file part) else ready.item? location
  /-- The file has the names that it had. -/
  twins : ∀ location, between.isTwin own location = ready.isTwin own location

/-- A file ends the ways to it. -/
theorem isEnd_of_file {tree : FileTree} (file : tree.item? own = some (.file part)) :
    tree.IsEnd own := by
  refine ⟨?_, fun target => ?_⟩ <;> rw [file] <;> exact nofun

/-- Where nothing is, ways end. -/
theorem isEnd_of_none {tree : FileTree} (free : tree.item? own = none) : tree.IsEnd own := by
  refine ⟨?_, fun target => ?_⟩ <;> rw [free] <;> exact nofun

/-- Ways do not end at the root, which is a folder. -/
theorem ne_nil_of_isEnd {tree : FileTree} (isEnd : tree.IsEnd own) : own ≠ [] := by
  rintro rfl
  exact isEnd.1 (item?_nil tree)

/-- From no name of a file does a way go on. -/
theorem isEnd_of_isTwin {tree : FileTree} (isEnd : tree.IsEnd own)
    (twin : tree.isTwin own other = true) : tree.IsEnd other := by
  by_cases same : other = own
  · rwa [same]
  · obtain ⟨bytes, file⟩ := hasFile_iff.mp (hasFile_of_isTwin twin same).2
    exact isEnd_of_file file

namespace Beside

section

variable (beside : Beside ready between own part)

include beside

/-- The file stands at its location. -/
theorem item?_own : between.item? own = some (.file part) := by
  rw [beside.items, if_pos (isTwin_self ready own)]

/-- The ways are the same before and after. -/
theorem keepsWays : KeepsWays ready between := by
  refine keepsWays_of_isEnd beside.home fun location => ?_
  rw [beside.items]
  split
  · rename_i twin
    exact .inr (isEnd_of_isTwin beside.isEnd twin)
  · exact .inl rfl

/-- Ways lead back from the tree in between to the one before. -/
theorem keepsWays_back : KeepsWays between ready := by
  refine keepsWays_of_isEnd beside.home.symm fun location => ?_
  by_cases twin : ready.isTwin own location = true
  · exact .inr (isEnd_of_file ((beside.items location).trans (if_pos twin)))
  · rw [beside.items, if_neg twin]
    exact .inl rfl

/-- The file is what the path names that named its location. -/
theorem find_aside (leads : ready.NamesPlace aside own) :
    between.find false aside = .ok (.present own (.file part)) := by
  obtain ⟨spot, found, rfl⟩ := leads
  exact beside.keepsWays.find found beside.item?_own fun _ same => Item.noConfusion same

/-- The file gets other bytes. -/
theorem fill (more : ByteArray) : Beside ready (between.fill own more) own more where
  isEnd := beside.isEnd
  home := beside.home
  items location := by
    rw [item?_fill beside.item?_own, beside.twins, beside.items]
    split <;> rfl
  twins location := (isTwin_fill beside.item?_own more location).trans (beside.twins location)

/-- Bytes are written behind those that the file has. -/
theorem extend_eq (leads : ready.NamesPlace aside own) (more : ByteArray) :
    between.extend aside more = .ok (between.fill own (part ++ more)) := by
  have found : between.find true aside = .ok (.present own (.file part)) :=
    find_true (beside.find_aside leads) fun _ same => Item.noConfusion (Option.some.inj same)
  unfold extend
  rw [resolve_eq_ok_iff_find.mpr found]

/-- The file can be removed. -/
theorem remove_eq (leads : ready.NamesPlace aside own) :
    between.remove aside = .ok (between.erase own) :=
  remove_of_find (beside.find_aside leads) Item.noConfusion

end

end Beside

/-- Where no link stands, a file is opened at the path itself. -/
theorem exists_beside_of_create (noLink : ready.HasNoLink aside)
    (opened : ready.create aside = .ok between) :
    ∃ own, ready.NamesPlace aside own ∧ Beside ready between own .empty := by
  have itself : ∀ {spot}, ready.find true aside = .ok spot → ready.find false aside = .ok spot := by
    intro spot found
    rcases find_false found with same | ⟨location, target, link⟩
    · exact same
    · exact absurd link (noLink location target)
  rcases create_cases opened with ⟨own, found, rfl⟩ | ⟨own, item, found, noFolder, rfl⟩
  · have free : ready.item? own = none := item?_of_find found
    have isEnd := isEnd_of_none free
    refine ⟨own, ⟨_, itself found, rfl⟩, isEnd, rfl, fun location => ?_, fun location => ?_⟩
    · rw [item?_put (ne_nil_of_isEnd isEnd), isTwin_of_none free]
      simp only [beq_iff_eq]
    · rw [isTwin_put, isTwin_of_none free]
  · have there := item?_of_find found
    cases item with
    | folder => exact absurd rfl noFolder
    | link target => exact absurd (itself found) (noLink own target)
    | file old =>
      refine ⟨own, ⟨_, itself found, rfl⟩, isEnd_of_file there, rfl, item?_fill there _,
        isTwin_fill there _⟩

/-! ## Trees that differ in one file -/

/-- Two trees differ at a location where no way goes on, or nowhere. -/
structure DiffersAt (tree tree' : FileTree) (own : Location) : Prop where
  /-- No way goes on in the first tree. -/
  isEnd : tree.IsEnd own
  /-- No way goes on in the second one. -/
  isEnd' : tree'.IsEnd own
  /-- Relative paths begin at the same place. -/
  home : tree'.home = tree.home
  /-- Everything else is the same. -/
  others : ∀ location, location ≠ own → tree'.item? location = tree.item? location

namespace DiffersAt

/-- Trees that differ at one location do so both ways. -/
theorem symm (differs : DiffersAt ready between own) : DiffersAt between ready own :=
  ⟨differs.isEnd', differs.isEnd, differs.home.symm,
    fun location elsewhere => (differs.others location elsewhere).symm⟩

/-- Trees that differ at one location from the same one differ at it from each other. -/
theorem trans (differs : DiffersAt ready between own) (differs' : DiffersAt between after own) :
    DiffersAt ready after own :=
  ⟨differs.isEnd, differs'.isEnd', differs'.home.trans differs.home,
    fun location elsewhere => (differs'.others location elsewhere).trans
      (differs.others location elsewhere)⟩

/-- A difference where ways end leaves all ways where they lead. -/
theorem keepsWays (differs : DiffersAt ready between own) : KeepsWays ready between := by
  refine keepsWays_of_isEnd differs.home fun location => ?_
  by_cases isOwn : location = own
  · exact .inr (isOwn ▸ differs.isEnd)
  · exact .inl (differs.others location isOwn)

end DiffersAt

/-- A file put where ways end makes a difference there only. -/
theorem differsAt_put (isEnd : ready.IsEnd own) (bytes : ByteArray) :
    DiffersAt ready (ready.put own (.file bytes)) own := by
  have items : ∀ location, (ready.put own (.file bytes)).item? location =
      if location = own then some (.file bytes) else ready.item? location :=
    item?_put (ne_nil_of_isEnd isEnd) (.file bytes)
  exact ⟨isEnd, isEnd_of_file ((items own).trans (if_pos rfl)), rfl,
    fun location elsewhere => (items location).trans (if_neg elsewhere)⟩

section Sole

variable (beside : Beside ready between own part)
  (sole : ∀ other, ready.isTwin own other = true → other = own)

include beside sole

/-- A temporary file without other names is all that differs. -/
theorem Beside.differsAt : DiffersAt ready between own := by
  refine ⟨beside.isEnd, isEnd_of_file beside.item?_own, beside.home, fun location elsewhere => ?_⟩
  rw [beside.items, if_neg fun twin => elsewhere (sole location twin)]

/-- Erasing the temporary file makes a difference there only. -/
theorem Beside.differsAt_erase : DiffersAt ready (between.erase own) own := by
  have differs := beside.differsAt sole
  have items : ∀ location, (between.erase own).item? location =
      if location = own then none else between.item? location :=
    item?_erase (ne_nil_of_isEnd beside.isEnd)
  refine ⟨beside.isEnd, isEnd_of_none ((items own).trans (if_pos rfl)), beside.home,
    fun location elsewhere => ?_⟩
  rw [items, if_neg elsewhere, differs.others location elsewhere]

end Sole

/-! ## Writing the bytes -/

/-- When bytes are to be written, some first ones are, or the system gives up. -/
theorem Beside.of_extend {answer : Except FileError Nat}
    (beside : Beside ready between own part) (leads : ready.NamesPlace aside own)
    (filled : bytes.size ≠ 0)
    (happens : Step.Happens ⟨between, .extend aside bytes, answer, after⟩) :
    (∃ count, count ≠ 0 ∧ count ≤ bytes.size ∧ answer = .ok count ∧
        Beside ready after own (part ++ bytes.extract 0 count)) ∨
      (answer = .ok 0 ∨ ∃ e, answer = .error e) ∧
        Step.GivesUp ⟨between, .extend aside bytes, answer, after⟩ ∧
        ∃ part, Beside ready after own part := by
  have whole : Call.on between (.extend aside bytes) =
      (between.fill own (part ++ bytes), .ok bytes.size) :=
    congrArg (Call.settle between bytes.size) (beside.extend_eq leads bytes)
  rcases happens with works | ⟨⟨message, refused⟩, same⟩ | ⟨count, less, extended, taken⟩
  · obtain ⟨rfl, rfl⟩ := Prod.mk.inj (whole.symm.trans works)
    refine .inl ⟨bytes.size, filled, Nat.le_refl _, rfl, ?_⟩
    rw [ByteArray.extract_zero_size]
    exact beside.fill _
  · obtain rfl : answer = .error (.other message) := refused
    obtain rfl : after = between := same
    refine .inr ⟨.inr ⟨_, rfl⟩, ⟨fun works => ?_, trivial⟩, part, beside⟩
    cases (Prod.mk.inj (whole.symm.trans works)).2
  · obtain rfl : answer = .ok count := taken
    rw [beside.extend_eq leads] at extended
    cases extended
    by_cases none : count = 0
    · subst none
      refine .inr ⟨.inl rfl, ⟨fun works => ?_, trivial⟩, _, beside.fill _⟩
      exact filled (Except.ok.inj (Prod.mk.inj (whole.symm.trans works)).2)
    · exact .inl ⟨count, none, less.le, rfl, beside.fill _⟩

/-- Writing no bytes leaves the temporary file as it is. -/
theorem Beside.append_blank (beside : Beside ready between own part) (blank : bytes.size = 0) :
    Beside ready between own (part ++ bytes) := by
  rwa [ByteArray.size_eq_zero_iff.mp blank, ByteArray.append_empty]

/-- How the writing of the temporary file may go, which is to hold the bytes in the end. -/
structure Fills (ready : FileTree) (own : Location) (bytes : ByteArray) (steps : List Step)
    (tree' : FileTree) (result : Option FileError) : Prop where
  /-- On the way, the temporary file stands beside everything else. -/
  each : ∀ step ∈ steps, ∃ part, Beside ready step.after own part
  /-- If nothing fails it holds all of the bytes. -/
  whole : result = none → Beside ready tree' own bytes
  /-- Something fails only if the system gives up, and then it may hold some of them. -/
  stopped : result ≠ none →
    (∃ step ∈ steps, step.GivesUp) ∧ ∃ part, Beside ready tree' own part

/-- Where all bytes have been written nothing is left to do. -/
theorem Beside.fills (beside : Beside ready tree' own bytes) :
    Fills ready own bytes [] tree' none :=
  ⟨List.forall_mem_nil _, fun _ => beside, fun failed => absurd rfl failed⟩

/-- A step that leaves everything else as it is may come first. -/
theorem Fills.cons {step : Step} {result : Option FileError}
    (next : Beside ready step.after own part) (fills : Fills ready own bytes steps tree' result) :
    Fills ready own bytes (step :: steps) tree' result := by
  refine ⟨List.forall_mem_cons.mpr ⟨⟨_, next⟩, fills.each⟩, fills.whole, fun failed => ?_⟩
  obtain ⟨⟨step, member, givesUp⟩, last⟩ := fills.stopped failed
  exact ⟨⟨step, List.mem_cons_of_mem _ member, givesUp⟩, last⟩

/-- Writing bytes to the temporary file lets that grow. When it does not come to its end, the system
has given up. -/
theorem extendAll_runs {calls : Nat} {result : Option FileError}
    (leads : ready.NamesPlace aside own) (beside : Beside ready between own part)
    (enough : bytes.size ≤ calls)
    (runs : Runs between (extendAll aside calls bytes) steps tree' result) :
    Fills ready own (part ++ bytes) steps tree' result := by
  induction calls generalizing between part bytes steps with
  | zero =>
    obtain ⟨rfl, rfl, rfl⟩ := runs.of_done
    exact (beside.append_blank (Nat.le_zero.mp enough)).fills
  | succ calls ih =>
    rw [extendAll] at runs
    split at runs
    · rename_i blank
      obtain ⟨rfl, rfl, rfl⟩ := runs.of_done
      exact (beside.append_blank (eq_of_beq blank)).fills
    · rename_i filled
      obtain ⟨answer, after, behind, happens, rfl, more⟩ := runs.of_call
      rcases beside.of_extend leads (fun blank => filled (beq_of_eq blank)) happens with
        ⟨count, some, few, rfl, next⟩ | ⟨stops, givesUp, part', last⟩
      · obtain ⟨count, rfl⟩ := Nat.exists_eq_succ_of_ne_zero some
        have enough' : (bytes.extract count.succ bytes.size).size ≤ calls := by
          rw [ByteArray.size_extract]
          omega
        have fills := ih next enough' more
        rw [ByteArray.append_assoc,
          ← ByteArray.extract_eq_extract_append_extract count.succ (Nat.zero_le _) few,
          ByteArray.extract_zero_size] at fills
        exact fills.cons next
      · have ended : behind = [] ∧ tree' = after ∧ result ≠ none := by
          rcases stops with rfl | ⟨e, rfl⟩
          · obtain ⟨rfl, rfl, rfl⟩ := more.of_done
            exact ⟨rfl, rfl, nofun⟩
          · obtain ⟨rfl, rfl, rfl⟩ := more.of_done
            exact ⟨rfl, rfl, nofun⟩
        obtain ⟨rfl, rfl, failed⟩ := ended
        exact ⟨List.forall_mem_singleton.mpr ⟨part', last⟩, fun done => absurd done failed,
          fun _ => ⟨⟨_, List.mem_cons_self, givesUp⟩, part', last⟩⟩

/-- The file is opened and its bytes are written, or nothing has changed, or the system has given
up. -/
theorem writeFile_runs {result : Option FileError} (noLink : ready.HasNoLink aside)
    (runs : Runs ready (writeFile aside bytes) steps tree' result) :
    (tree' = ready ∧ result ≠ none ∧ ∀ step ∈ steps, step.after = ready) ∨
      ∃ own, ready.NamesPlace aside own ∧ Fills ready own bytes steps tree' result := by
  obtain ⟨answer, after, behind, happens, rfl, more⟩ := runs.of_call
  rcases happens.settled with opened | why
  · obtain ⟨own, leads, beside⟩ := exists_beside_of_create noLink opened
    have fills := extendAll_runs leads beside (Nat.le_refl _) more
    rw [ByteArray.empty_append] at fills
    exact .inr ⟨own, leads, fills.cons beside⟩
  · obtain ⟨rfl, rfl, rfl⟩ := more.of_done
    exact .inl ⟨rfl, nofun, List.forall_mem_singleton.mpr rfl⟩

/-! ## Putting the file in its place -/

/-- The temporary file is carried away, and its other names stay. -/
theorem Beside.item?_carry {place : Location} (beside : Beside ready between own bytes)
    (below : place ≠ []) (location : Location) :
    (between.carry own place (.file bytes)).item? location =
      if location = place then some (.file bytes)
      else if location = own then none
      else if ready.isTwin own location then some (.file bytes) else ready.item? location := by
  rw [FileTree.item?_carry (ne_nil_of_isEnd beside.isEnd) below, beside.items]

/-- What becomes of a tree in which a file has been replaced. -/
inductive Placed (ready : FileTree) (p : Path) (own : Location) (bytes : ByteArray) (spot : Spot) :
    FileTree → Prop
  /-- The temporary file has been carried to its place. -/
  | carried {between : FileTree} (beside : Beside ready between own bytes)
    (found : between.find false p = .ok spot) (noFolder : spot.item? ≠ some .folder) :
    Placed ready p own bytes spot (between.carry own spot.location (.file bytes))
  /-- The temporary file was the very file at its place, under another name. -/
  | same {between : FileTree} (beside : Beside ready between own bytes)
    (found : between.find false p = .ok spot)
    (twin : ready.isTwin own spot.location = true) : Placed ready p own bytes spot between

/-- What becomes of a tree in which a file could not be replaced. -/
inductive Abandoned (ready : FileTree) (own : Location) (steps : List Step) : FileTree → Prop
  /-- The temporary file has been removed. -/
  | removed {between : FileTree} {part : ByteArray} (beside : Beside ready between own part) :
    Abandoned ready own steps (between.erase own)
  /-- The system has given up. -/
  | left {between : FileTree} {part : ByteArray} (beside : Beside ready between own part)
    (givesUp : ∃ step ∈ steps, step.GivesUp) : Abandoned ready own steps between

namespace Abandoned

/-- What was abandoned in some calls was abandoned in all. -/
theorem mono {more : List Step} (sub : ∀ step ∈ steps, step ∈ more)
    (abandoned : Abandoned ready own steps tree') : Abandoned ready own more tree' := by
  cases abandoned with
  | removed beside => exact .removed beside
  | left beside givesUp =>
    obtain ⟨step, member, stops⟩ := givesUp
    exact .left beside ⟨step, sub step member, stops⟩

/-- A temporary file without other names is all that differs. -/
theorem differsAt (sole : ∀ other, ready.isTwin own other = true → other = own)
    (abandoned : Abandoned ready own steps tree') : DiffersAt ready tree' own := by
  cases abandoned with
  | removed beside => exact beside.differsAt_erase sole
  | left beside => exact beside.differsAt sole

/-- Unless the system gives up, the temporary file is gone. -/
theorem item?_own (noneGivesUp : ∀ step ∈ steps, ¬ step.GivesUp)
    (abandoned : Abandoned ready own steps tree') : tree'.item? own = none := by
  cases abandoned with
  | removed beside => rw [item?_erase (ne_nil_of_isEnd beside.isEnd), if_pos rfl]
  | left beside givesUp =>
    obtain ⟨step, member, stops⟩ := givesUp
    exact absurd stops (noneGivesUp step member)

end Abandoned

/-- A temporary file that can be moved is placed at the end of the path. -/
theorem Beside.placed_of_move (beside : Beside ready between own bytes)
    (leads : ready.NamesPlace aside own) (moved : between.move aside p = .ok tree') :
    (∃ before name, p.EndsIn before name) ∧ ∃ spot, Placed ready p own bytes spot tree' := by
  obtain ⟨spot, aimed, noSlash, found, noFolder, carried⟩ :=
    move_cases (beside.find_aside leads) moved
  refine ⟨exists_endsIn_of_target aimed noSlash, spot, ?_⟩
  rcases carried with rfl | ⟨rfl, twin⟩
  · exact .carried beside found noFolder
  · exact .same beside found (beside.twins _ ▸ twin)

/-- A temporary file that is to be removed is gone, unless the system gives up. -/
theorem Beside.abandoned_of_remove (beside : Beside ready between own part)
    (leads : ready.NamesPlace aside own) {answer : Except FileError Unit}
    (happens : Step.Happens ⟨between, .remove aside, answer, after⟩) :
    Abandoned ready own [⟨between, .remove aside, answer, after⟩] after := by
  have removes := beside.remove_eq leads
  rcases happens.settled with removed | ⟨-⟩
  · rw [removes] at removed
    cases removed
    exact .removed beside
  · refine .left beside ⟨_, List.mem_singleton_self _, fun works => ?_, trivial⟩
    have worked := (congrArg (Call.settle _ ()) removes).symm.trans works
    cases (Prod.mk.inj worked).2

/-- How the replacement of a file may go. -/
structure Goes (ready : FileTree) (p aside : Path) (bytes : ByteArray) (own : Location)
    (steps : List Step) (tree' : FileTree) (result : Option Fault) : Prop where
  /-- The place of the temporary file. -/
  leads : ready.NamesPlace aside own
  /-- On the way, the temporary file stands beside everything else. -/
  each : ∀ step ∈ steps, (∃ part, Beside ready step.after own part) ∨ step.after = tree'
  /-- The file has been replaced. -/
  placed : result = none → (∃ before name, p.EndsIn before name) ∧
    ∃ spot, Placed ready p own bytes spot tree'
  /-- The file could not be replaced. -/
  abandoned : result ≠ none → Abandoned ready own steps tree'

/-- Replacing a file changes nothing, or it goes by the temporary file. -/
theorem replace_runs {result : Option Fault} (noLink : ready.HasNoLink aside)
    (runs : Runs ready (replace p aside bytes) steps tree' result) :
    (tree' = ready ∧ result ≠ none ∧ ∀ step ∈ steps, step.after = ready) ∨
      ∃ own, Goes ready p aside bytes own steps tree' result := by
  obtain ⟨first, middle, outcome, last, rfl, early, late⟩ := runs.split
  rcases writeFile_runs noLink early with ⟨rfl, failed, each⟩ | ⟨own, leads, fills⟩
  · obtain ⟨e, rfl⟩ := Option.ne_none_iff_exists'.mp failed
    obtain ⟨rfl, rfl, rfl⟩ := late.of_done
    rw [List.append_nil]
    exact .inl ⟨rfl, nofun, each⟩
  · right
    refine ⟨own, ?_⟩
    cases outcome with
    | some e =>
      obtain ⟨rfl, rfl, rfl⟩ := late.of_done
      obtain ⟨givesUp, part, beside⟩ := fills.stopped nofun
      rw [List.append_nil]
      exact ⟨leads, fun step member => .inl (fills.each step member), nofun,
        fun _ => .left beside givesUp⟩
    | none =>
      have beside := fills.whole rfl
      have each' : ∀ step ∈ first, (∃ part, Beside ready step.after own part) ∨
          step.after = tree' := fun step member => .inl (fills.each step member)
      obtain ⟨answer, after, behind, happens, rfl, more⟩ := late.of_call
      rcases happens.settled with moved | why
      · obtain ⟨rfl, rfl, rfl⟩ := more.of_done
        refine ⟨leads, ?_, fun _ => beside.placed_of_move leads moved,
          fun failed => absurd rfl failed⟩
        exact List.forall_mem_append.mpr ⟨each', List.forall_mem_singleton.mpr (.inr rfl)⟩
      · obtain ⟨answer, after, behind, happens', rfl, ended⟩ := more.of_call
        obtain ⟨rfl, rfl, rfl⟩ := ended.of_done
        have abandoned := beside.abandoned_of_remove leads happens'
        refine ⟨leads, ?_, nofun, fun _ => abandoned.mono fun step member => ?_⟩
        · refine List.forall_mem_append.mpr ⟨each', List.forall_mem_cons.mpr ⟨.inl ⟨_, beside⟩, ?_⟩⟩
          exact List.forall_mem_singleton.mpr (.inr rfl)
        · exact List.mem_append_right _ (List.mem_cons_of_mem _ member)

end CatalogAudit.Artifact
