import CatalogAudit.Proofs.Manifest.Runs.Invariant

/-!
# Keys that were read besides

The keys that were read are remembered only to refuse a second one of the same name. A reader that
has seen more keys than another, at the top level or in the open entry, reads every line as the
other one does, as long as none of the keys that it has more comes again; with the end of an entry
its keys are forgotten.
-/

namespace CatalogAudit.Manifest.Line

/-- The keys of the second list are those of the first one and those in `more`. -/
def Adds (more keys keys' : List (List Char)) : Prop :=
  ∀ key, key ∈ keys' ↔ key ∈ more ∨ key ∈ keys

/-- Nothing added leaves the keys as they are. -/
theorem adds_nil (keys : List (List Char)) : Adds [] keys keys := by simp [Adds]

/-- One key on top of the others adds that key. -/
theorem adds_single (key : List Char) (keys : List (List Char)) :
    Adds [key] keys (key :: keys) := by
  simp [Adds]

/-- A key that both lists receive changes nothing about what one adds to the other. -/
theorem Adds.cons {more keys keys' : List (List Char)} (adds : Adds more keys keys')
    (key : List Char) : Adds more (key :: keys) (key :: keys') := by
  intro other
  rw [List.mem_cons, List.mem_cons, adds other]
  tauto

/-- What was read of the entry is the same, but more keys of it were seen. -/
def OpenEntry.Beside (own : List (List Char)) (entry entry' : OpenEntry) : Prop :=
  ∃ keys, entry' = { entry with keys } ∧ Adds own entry.keys keys

namespace Reader

/-- The reader with other keys, and another open entry, in mind. -/
def beside (r : Reader) (topKeys : List (List Char)) (current : Option OpenEntry) : Reader :=
  { r with topKeys, current }

/-- The entry that was open at `r` and its copy with more keys are still open, or what is open now
is the same. -/
def StaysBeside (own : List (List Char)) (r next : Reader) (current : Option OpenEntry) : Prop :=
  next.entries = r.entries ∧ Option.Rel (OpenEntry.Beside own) next.current current ∨
    Option.Rel (OpenEntry.Beside []) next.current current

section Frame

variable {r next : Reader}

/-- A line of an entry changes that entry only. -/
theorem frame_entryField {text : List Char} (step : r.entryField text = .ok next) :
    next.entries = r.entries ∧ next.topKeys = r.topKeys := by
  obtain ⟨entry, key, value, -, -, -, stored⟩ := entryField_cases step
  obtain ⟨raw, block, after, -⟩ := storeField_cases stored
  rw [after]
  exact ⟨rfl, rfl⟩

/-- A line at an entry's key column finishes no entry and leaves the top-level keys. -/
theorem frame_keyLine {column : Nat} {content : List Char}
    (step : r.keyLine column content = .ok next) :
    next.entries = r.entries ∧ next.topKeys = r.topKeys := by
  obtain ⟨entry, -, -, -, read⟩ := keyLine_cases step
  have frame := frame_entryField read
  exact frame

/-- A line deeper than the list's dashes finishes no entry and leaves the top-level keys. -/
theorem frame_deepLine {column : Nat} {content : List Char}
    (step : r.deepLine column content = .ok next) :
    next.entries = r.entries ∧ next.topKeys = r.topKeys := by
  obtain ⟨_, _, body, -, -, -, -, read⟩ | ⟨block, -, read⟩ := deepLine_cases step
  · obtain ⟨entry, item, -, -, after⟩ := addMode_cases read
    rw [after]
    exact ⟨rfl, rfl⟩
  · have frame := frame_keyLine read
    exact frame

/-- A dash that begins an entry leaves the top-level keys alone. -/
theorem topKeys_of_startEntry {column : Nat} {content body : List Char}
    (step : r.startEntry column content body = .ok next) : next.topKeys = r.topKeys := by
  have closed : r.closeEntry.topKeys = r.topKeys := by rw [closeEntry_eq]
  obtain ⟨-, after⟩ | ⟨-, read⟩ := startEntry_cases step
  · rw [after]
    exact closed
  · rw [(frame_entryField read).2]
    exact closed

/-- A line of the entry list leaves the top-level keys alone. -/
theorem topKeys_of_listLine {column : Nat} {content : List Char}
    (step : r.listLine column content = .ok next) : next.topKeys = r.topKeys := by
  obtain ⟨body, -, -, read⟩ | ⟨dash, -, -, read⟩ := listLine_cases step
  · have same := topKeys_of_startEntry read
    exact same
  · exact (frame_deepLine read).2

/-- A line at the column of the list or below leaves the top-level keys alone. -/
theorem topKeys_of_entriesLine {column : Nat} {content : List Char}
    (step : r.entriesLine column content = .ok next) : next.topKeys = r.topKeys := by
  obtain ⟨-, -, -, rfl⟩ | ⟨block, -, -, read⟩ := entriesLine_cases step
  · rfl
  · have same := topKeys_of_listLine read
    exact same

/-- No key of the top level is forgotten. -/
theorem topKeys_subset_of_line {text : List Char} (step : r.line text = .ok next) :
    r.topKeys ⊆ next.topKeys := by
  obtain ⟨-, rfl⟩ | ⟨-, -, -, read⟩ := line_cases step
  · exact List.Subset.refl _
  · obtain ⟨-, -, top⟩ | ⟨-, ⟨-, after⟩ | ⟨-, list⟩⟩ := contentLine_cases read
    · obtain ⟨key, value, -, -, place, after, -⟩ := topLevel_cases top
      rw [after]
      exact List.subset_cons_self _ _
    · rw [after]
      exact List.Subset.refl _
    · rw [topKeys_of_entriesLine list]
      exact List.Subset.refl _

end Frame

section Step

variable {r next : Reader} (topKeys : List (List Char)) {current : Option OpenEntry}
  {own : List (List Char)}

/-- The value of a field is stored the same whatever else the entry has seen. -/
theorem storeField_beside (current : Option OpenEntry) {entry : OpenEntry}
    (keys : List (List Char)) {key value : List Char}
    (step : r.storeField entry key value = .ok next) :
    ∃ raw, next.current = some { raw, keys := key :: entry.keys, keyColumn := entry.keyColumn } ∧
      (r.beside topKeys current).storeField { entry with keys } key value
        = .ok (next.beside topKeys
            (some { raw, keys := key :: keys, keyColumn := entry.keyColumn })) := by
  obtain ⟨fault, refused⟩ | ⟨raw, block?, -, -, stored⟩ := storeField_uniform entry key value
  · cases (refused r entry.keys).symm.trans step
  · rw [← Except.ok.inj ((stored r entry.keys).symm.trans step)]
    exact ⟨raw, rfl, stored (r.beside topKeys current) keys⟩

/-- A field whose key the entry has not seen is a field stored. -/
theorem entryField_eq {text key value : List Char} {entry : OpenEntry}
    (current : r.current = some entry) (found : splitKey text = .ok (some (key, value)))
    (absent : key ∉ entry.keys) : r.entryField text = r.storeField entry key value := by
  have noBrace : Text.startsWith (· == '\x7b') text = false := by
    cases text with
    | nil => rfl
    | cons c rest =>
      rw [Text.startsWith_cons, beq_eq_false_iff_ne]
      rintro rfl
      cases found
  rw [entryField, noBrace, if_neg Bool.false_ne_true, found]
  simp only [current]
  rw [if_neg (by simpa using absent)]

/-- A line at the key column that is no list item closes the modes list and is read as a field. -/
theorem keyLine_eq {column : Nat} {content : List Char} {entry : OpenEntry}
    (current : r.current = some entry) (item : itemBody? content = none)
    (stands : entry.keyColumn.getD column = column) :
    r.keyLine column content
      = { r with current := some { entry with keyColumn := some column } }.entryField content := by
  rw [keyLine, current, item]
  simp [stands]

/-- A field read with fewer keys seen is read with the ignored ones among them too, as long as it is
none of these. -/
theorem entryField_beside {text : List Char}
    (beside : Option.Rel (OpenEntry.Beside own) r.current current)
    (step : r.entryField text = .ok next)
    (fresh : ∀ entry ∈ next.current, ∀ key ∈ own, key ∉ entry.keys) :
    ∃ current', (r.beside topKeys current).entryField text = .ok (next.beside topKeys current') ∧
      Option.Rel (OpenEntry.Beside own) next.current current' := by
  obtain ⟨entry, key, value, open_, absent, found, stored⟩ := entryField_cases step
  rw [open_] at beside
  cases beside with
  | some beside =>
    rename_i entry'
    obtain ⟨keys, same, adds⟩ := beside
    obtain ⟨raw, after, stored'⟩ :=
      storeField_beside topKeys (some entry') keys stored
    rw [after] at fresh ⊢
    have absent' : key ∉ entry'.keys := by
      rw [same, adds]
      rintro (extra | before)
      · exact fresh _ rfl key extra (List.mem_cons_self)
      · exact absent before
    rw [← same] at stored'
    rw [entryField_eq rfl found absent', stored']
    exact ⟨_, rfl, .some ⟨_, rfl, adds.cons key⟩⟩

/-- An item of a modes list is read the same beside ignored keys. -/
theorem addMode_beside {body : List Char}
    (beside : Option.Rel (OpenEntry.Beside own) r.current current)
    (step : r.addMode body = .ok next) :
    ∃ current', (r.beside topKeys current).addMode body = .ok (next.beside topKeys current') ∧
      Option.Rel (OpenEntry.Beside own) next.current current' := by
  obtain ⟨entry, item, open_, read, after⟩ := addMode_cases step
  rw [open_] at beside
  cases beside with
  | some beside =>
    rename_i entry'
    obtain ⟨keys, rfl, adds⟩ := beside
    rw [addMode, read, after]
    exact ⟨_, rfl, .some ⟨_, rfl, adds⟩⟩

/-- A line at the key column is read the same beside ignored keys. -/
theorem keyLine_beside {column : Nat} {content : List Char}
    (beside : Option.Rel (OpenEntry.Beside own) r.current current)
    (step : r.keyLine column content = .ok next)
    (fresh : ∀ entry ∈ next.current, ∀ key ∈ own, key ∉ entry.keys) :
    ∃ current', (r.beside topKeys current).keyLine column content
        = .ok (next.beside topKeys current') ∧
      Option.Rel (OpenEntry.Beside own) next.current current' := by
  obtain ⟨entry, open_, item, stands, read⟩ := keyLine_cases step
  rw [open_] at beside
  cases beside with
  | some beside =>
    rename_i entry'
    obtain ⟨keys, rfl, adds⟩ := beside
    have placed : Option.Rel (OpenEntry.Beside own)
        (some { entry with keyColumn := some column })
        (some { entry with keys := keys, keyColumn := some column }) := .some ⟨keys, rfl, adds⟩
    obtain ⟨current', read', after⟩ := entryField_beside topKeys placed read fresh
    have eq := keyLine_eq (r := r.beside topKeys (some { entry with keys })) rfl item stands
    rw [eq]
    exact ⟨current', read', after⟩

/-- A line deeper than the list's dashes is read the same beside ignored keys. -/
theorem deepLine_beside {column : Nat} {content : List Char}
    (beside : Option.Rel (OpenEntry.Beside own) r.current current)
    (step : r.deepLine column content = .ok next)
    (fresh : ∀ entry ∈ next.current, ∀ key ∈ own, key ∉ entry.keys) :
    ∃ current', (r.beside topKeys current).deepLine column content
        = .ok (next.beside topKeys current') ∧
      Option.Rel (OpenEntry.Beside own) next.current current' := by
  have block : (r.beside topKeys current).block = r.block := rfl
  cases open_ : r.block with
  | none =>
    simp only [deepLine, block, open_] at step ⊢
    exact keyLine_beside topKeys beside step fresh
  | skip deeperThan =>
    simp only [deepLine, block, open_] at step ⊢
    exact keyLine_beside topKeys beside step fresh
  | modes keyColumn itemColumn =>
    cases item : itemBody? content with
    | none =>
      simp only [deepLine, block, open_, item] at step ⊢
      exact keyLine_beside (r := { r with block := .none }) topKeys beside step fresh
    | some body =>
      simp only [deepLine, block, open_, item] at step ⊢
      split at step
      · rename_i fits
        rw [if_pos fits]
        exact addMode_beside (r := { r with block := .modes keyColumn (some column) }) topKeys
          beside step
      · cases step

/-- The end of an entry makes the readers alike there. -/
theorem closeEntry_beside (beside : Option.Rel (OpenEntry.Beside own) r.current current) :
    (r.beside topKeys current).closeEntry = r.closeEntry.beside topKeys none := by
  cases r with
  | mk place topKeys' sawContent entryColumn current' block entries =>
    cases beside with
    | none => rfl
    | some beside =>
      obtain ⟨keys, rfl, adds⟩ := beside
      rfl

/-- A dash that begins an entry is read the same beside ignored keys, and the new entry has none. -/
theorem startEntry_beside {column : Nat} {content body : List Char}
    (beside : Option.Rel (OpenEntry.Beside own) r.current current)
    (step : r.startEntry column content body = .ok next) :
    ∃ current', (r.beside topKeys current).startEntry column content body
        = .ok (next.beside topKeys current') ∧
      Option.Rel (OpenEntry.Beside []) next.current current' := by
  unfold startEntry at step ⊢
  dsimp only at step ⊢
  rw [closeEntry_beside topKeys beside]
  split at step
  · rename_i alone
    rw [if_pos alone, ← Except.ok.inj step]
    exact ⟨_, rfl, .some ⟨[], rfl, adds_nil []⟩⟩
  · rename_i filled
    rw [if_neg filled]
    have begun : ∀ keyColumn, Option.Rel (OpenEntry.Beside [])
        (some { keyColumn := some keyColumn }) (some { keyColumn := some keyColumn }) :=
      fun _ => .some ⟨[], rfl, adds_nil []⟩
    exact entryField_beside topKeys (begun _) step (by simp)

/-- A line of the entry list is read the same beside ignored keys, as long as it stays in the entry
or begins one. -/
theorem listLine_beside {column : Nat} {content : List Char}
    (beside : Option.Rel (OpenEntry.Beside own) r.current current)
    (step : r.listLine column content = .ok next)
    (fresh : next.entries = r.entries → ∀ entry ∈ next.current, ∀ key ∈ own, key ∉ entry.keys) :
    ∃ current', (r.beside topKeys current).listLine column content
        = .ok (next.beside topKeys current') ∧ StaysBeside own r next current' := by
  obtain ⟨body, item, here, begins⟩ | ⟨dash, known, deeper, deep⟩ := listLine_cases step
  · have dash := listLine_of_dash (r := r.beside topKeys current) item here
    obtain ⟨current', read, after⟩ :=
      startEntry_beside (r := { r with entryColumn := some column }) topKeys beside begins
    exact ⟨current', dash.trans read, .inr after⟩
  · have behind := listLine_of_deeper (r := r.beside topKeys current) content known deeper
    have kept := (frame_deepLine deep).1
    obtain ⟨current', read, after⟩ := deepLine_beside topKeys beside deep (fresh kept)
    exact ⟨current', behind.trans read, .inl ⟨kept, after⟩⟩

/-- A line of the list's section is read the same beside ignored keys. -/
theorem entriesLine_beside {column : Nat} {content : List Char}
    (beside : Option.Rel (OpenEntry.Beside own) r.current current)
    (step : r.entriesLine column content = .ok next)
    (fresh : next.entries = r.entries → ∀ entry ∈ next.current, ∀ key ∈ own, key ∉ entry.keys) :
    ∃ current', (r.beside topKeys current).entriesLine column content
        = .ok (next.beside topKeys current') ∧ StaysBeside own r next current' := by
  have block : (r.beside topKeys current).block = r.block := rfl
  cases open_ : r.block with
  | none =>
    simp only [entriesLine, block, open_] at step ⊢
    exact listLine_beside topKeys beside step fresh
  | modes keyColumn itemColumn =>
    simp only [entriesLine, block, open_] at step ⊢
    exact listLine_beside topKeys beside step fresh
  | skip deeperThan =>
    simp only [entriesLine, block, open_] at step ⊢
    split at step
    · rename_i deeper
      rw [if_pos deeper, ← Except.ok.inj step]
      exact ⟨current, rfl, .inl ⟨rfl, beside⟩⟩
    · rename_i closes
      rw [if_neg closes]
      exact listLine_beside (r := { r with block := .none }) topKeys beside step fresh

/-- The key that opens the entry list is read the same beside ignored keys. -/
theorem openEntries_beside (current : Option OpenEntry) {value : List Char}
    (step : r.openEntries value = .ok next) :
    (r.beside topKeys current).openEntries value = .ok (next.beside topKeys current) := by
  unfold openEntries at step ⊢
  dsimp only at step ⊢
  split at step
  · rename_i spent
    rw [if_pos spent, ← Except.ok.inj step]
    rfl
  · rename_i filled
    rw [if_neg filled]
    split at step
    · rename_i bracket
      rw [if_pos bracket]
      split at step
      · cases step
      · rw [← Except.ok.inj step]
        rfl
      · cases step
    · rename_i noBracket
      rw [if_neg noBracket]
      split at step
      · cases step
      · rw [← Except.ok.inj step]
        rfl
      · cases step

variable {topKeys}

/-- A top-level line is read the same beside ignored top-level keys it does not repeat. -/
theorem topLevel_beside {content : List Char} {top : List (List Char)}
    (adds : Adds top r.topKeys topKeys)
    (beside : Option.Rel (OpenEntry.Beside own) r.current current)
    (step : r.topLevel content = .ok next) (fresh : ∀ key ∈ top, key ∉ next.topKeys) :
    ∃ topKeys', (r.beside topKeys current).topLevel content = .ok (next.beside topKeys' none) ∧
      Adds top next.topKeys topKeys' ∧ next.current = none := by
  obtain ⟨key, value, found, absent, place, after, -⟩ := topLevel_cases step
  have closed : next.current = none := by rw [after, closeEntry_eq]
  have here : next.topKeys = key :: r.topKeys := by rw [after]
  have absent' : key ∉ topKeys := by
    rw [adds]
    rintro (extra | before)
    · exact fresh key extra (by rw [here]; exact List.mem_cons_self)
    · exact absent before
  have known : r.topKeys.contains key = false := by simpa using absent
  have known' : (r.beside topKeys current).topKeys.contains key = false := by
    simpa [Reader.beside] using absent'
  rw [here]
  refine ⟨key :: topKeys, ?_, adds.cons key, closed⟩
  rw [topLevel, found] at step ⊢
  simp only [known, known', closeEntry_beside topKeys beside, Bool.false_eq_true, if_false]
    at step ⊢
  split at step
  · rename_i entries
    rw [if_pos entries]
    have opened := openEntries_beside (key :: topKeys) none step
    exact opened
  · rename_i other
    rw [if_neg other, ← Except.ok.inj step]
    rfl

/-- Every line that is not noise is read the same beside ignored keys, at the top and in an entry.
-/
theorem contentLine_beside {column : Nat} {content : List Char} {top : List (List Char)}
    (adds : Adds top r.topKeys topKeys)
    (beside : Option.Rel (OpenEntry.Beside own) r.current current)
    (step : r.contentLine column content = .ok next) (freshTop : ∀ key ∈ top, key ∉ next.topKeys)
    (freshOwn : next.entries = r.entries → ∀ entry ∈ next.current, ∀ key ∈ own, key ∉ entry.keys) :
    ∃ topKeys' current', (r.beside topKeys current).contentLine column content
        = .ok (next.beside topKeys' current') ∧ Adds top next.topKeys topKeys' ∧
      StaysBeside own r next current' := by
  have place : (r.beside topKeys current).place = r.place := rfl
  obtain ⟨margin, item, read⟩ | ⟨inside, here⟩ := contentLine_cases step
  · obtain ⟨topKeys', read', adds', closed⟩ :=
      topLevel_beside (r := { r with sawContent := true }) adds beside read freshTop
    refine ⟨topKeys', none, ?_, adds', .inr ?_⟩
    · rw [contentLine, if_pos (by simp [margin, item])]
      exact read'
    · rw [closed]
      exact .none
  · have inside : ¬(column = 0 ∧ (itemBody? content).isNone = true) := by
      simpa using inside
    rw [contentLine, if_neg inside, place]
    obtain ⟨other, after⟩ | ⟨list, read⟩ := here
    · rw [after, other]
      exact ⟨topKeys, current, rfl, adds, .inl ⟨rfl, beside⟩⟩
    · obtain ⟨current', read', stays⟩ :=
        entriesLine_beside (r := { r with sawContent := true }) topKeys beside read freshOwn
      rw [list] at read' ⊢
      refine ⟨topKeys, current', read', ?_, stays⟩
      rw [topKeys_of_entriesLine read]
      exact adds

/-- Every line is read the same beside ignored keys: the step from which the run follows. -/
theorem line_beside {text : List Char} {top : List (List Char)}
    (adds : Adds top r.topKeys topKeys)
    (beside : Option.Rel (OpenEntry.Beside own) r.current current)
    (step : r.line text = .ok next) (freshTop : ∀ key ∈ top, key ∉ next.topKeys)
    (freshOwn : next.entries = r.entries → ∀ entry ∈ next.current, ∀ key ∈ own, key ∉ entry.keys) :
    ∃ topKeys' current', (r.beside topKeys current).line text
        = .ok (next.beside topKeys' current') ∧ Adds top next.topKeys topKeys' ∧
      StaysBeside own r next current' := by
  obtain ⟨quiet, rfl⟩ | ⟨loud, spaced, noMark, read⟩ := line_cases step
  · have stays : IsQuiet (next.beside topKeys current) text := quiet
    exact ⟨topKeys, current, line_of_isQuiet stays, adds, .inl ⟨rfl, beside⟩⟩
  · rw [line_of_loud _ loud spaced noMark]
    exact contentLine_beside adds beside read freshTop freshOwn

end Step

/-- A run over a text begins with a step over its first line. -/
theorem exists_line_of_reads {r last : Reader} {text : List Char} {rest : List (List Char)}
    (reads : Reads r (text :: rest) last) :
    ∃ next, r.line text = .ok next ∧ Reads next rest last := by
  obtain ⟨next, step, onward⟩ := exists_line_of_cons (reads 0)
  exact ⟨next, step, reads_of_lines onward⟩

/-- A run forgets no top-level key. -/
theorem topKeys_subset_of_reads {r last : Reader} {lines : List (List Char)}
    (reads : Reads r lines last) : r.topKeys ⊆ last.topKeys := by
  induction lines generalizing r with
  | nil =>
    have same : r = last := Except.ok.inj (reads 0)
    rw [same]
    exact List.Subset.refl _
  | cons text rest ih =>
    obtain ⟨next, step, onward⟩ := exists_line_of_reads reads
    exact List.Subset.trans (topKeys_subset_of_line step) (ih onward)

/-- More keys make no difference to the entries, once there are no more lines. -/
theorem finish_beside {r : Reader} {top own topKeys : List (List Char)}
    {current : Option OpenEntry} (adds : Adds top r.topKeys topKeys)
    (other : entriesKey.toList ∉ top)
    (beside : Option.Rel (OpenEntry.Beside own) r.current current) :
    (r.beside topKeys current).finish = r.finish := by
  have known : (r.beside topKeys current).topKeys.contains entriesKey.toList
      = r.topKeys.contains entriesKey.toList := by
    have seen : (r.beside topKeys current).topKeys = topKeys := rfl
    rw [Bool.eq_iff_iff, List.contains_iff_mem, List.contains_iff_mem, seen, adds]
    exact or_iff_right other
  rw [finish, finish, known, closeEntry_beside topKeys beside]
  rfl

/-- None of the keys is one of the open entry, as long as that is read on. -/
def AreNew (own : List (List Char)) (r : Reader) (lines : List (List Char)) : Prop :=
  ∀ later rest s, lines = later ++ rest → Reads r later s → s.entries = r.entries →
    ∀ entry ∈ s.current, ∀ key ∈ own, key ∉ entry.keys

/-- No keys at all are new to every entry. -/
theorem areNew_nil (r : Reader) (lines : List (List Char)) : AreNew [] r lines := by
  simp [AreNew]

/-- Keys new to the rest of an entry are new after a line that stays in it. -/
theorem AreNew.onward {own : List (List Char)} {r next : Reader} {text : List Char}
    {rest : List (List Char)} (new : AreNew own r (text :: rest)) (step : r.line text = .ok next)
    (kept : next.entries = r.entries) : AreNew own next rest := by
  intro later rest' s split run kept'
  exact new (text :: later) rest' s (by rw [split, List.cons_append]) (reads_cons step run)
    (kept'.trans kept)

/-- What a reader reads, one reads that has seen more keys, none of which comes again. -/
theorem exists_reads_beside {r last : Reader} {lines : List (List Char)}
    {top own topKeys : List (List Char)} {current : Option OpenEntry}
    (adds : Adds top r.topKeys topKeys)
    (beside : Option.Rel (OpenEntry.Beside own) r.current current)
    (reads : Reads r lines last) (other : entriesKey.toList ∉ top)
    (freshTop : ∀ key ∈ top, key ∉ last.topKeys) (new : AreNew own r lines) :
    ∃ last', Reads (r.beside topKeys current) lines last' ∧ last'.finish = last.finish := by
  -- Keys beside those of the top level stay to the end, those of an entry are given up with it.
  induction lines generalizing r topKeys current own with
  | nil =>
    have same : r = last := Except.ok.inj (reads 0)
    rw [← same]
    exact ⟨_, reads_nil _, finish_beside adds other beside⟩
  | cons text rest ih =>
    obtain ⟨next, step, onward⟩ := exists_line_of_reads reads
    have freshNext : ∀ key ∈ top, key ∉ next.topKeys :=
      fun key extra seen => freshTop key extra (topKeys_subset_of_reads onward seen)
    have newNext := new [text] rest next rfl (reads_cons step (reads_nil next))
    obtain ⟨topKeys', current', step', adds', ⟨kept, stays⟩ | closed⟩ :=
      line_beside adds beside step freshNext newNext
    · obtain ⟨last', reads', same⟩ := ih adds' stays onward (new.onward step kept)
      exact ⟨last', reads_cons step' reads', same⟩
    · obtain ⟨last', reads', same⟩ := ih adds' closed onward (areNew_nil next rest)
      exact ⟨last', reads_cons step' reads', same⟩

end Reader

end CatalogAudit.Manifest.Line
