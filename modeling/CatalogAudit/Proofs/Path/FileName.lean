import CatalogAudit.Proofs.Path.Display

/-!
# The file name of a path

The file name is the last piece of a path that means something, unless that leads up. A path that
ends in a name that is looked up has that file name; another file name makes it end in that name.
In the text of a path it is what stands last, apart from slashes and dots that stand alone.
-/

namespace CatalogAudit.Path

variable {p : Path} {name : Name} {before : List Name}

/-- The file name is the last solid piece, unless that goes up. -/
theorem fileName?_eq (p : Path) :
    p.fileName? = (solidPieces p.text).getLast?.filter (· ≠ [dot, dot]) := by
  obtain ⟨idle, cut, quiet⟩ := exists_idle_end (pieces p.body)
  rw [← backwards] at cut
  rw [solidPieces_text, solidPieces, cut, List.filter_append, filter_idle quiet, List.append_nil,
    fileName?]
  cases back : p.backwards with
  | nil => rfl
  | cons last before =>
    have solid : isIdle last = false := by
      have head := List.head?_dropWhile_not isIdle (pieces p.body).reverse
      rw [← backwards, back] at head
      simpa using head
    rw [List.reverse_cons, List.filter_append, List.filter_singleton, solid]
    by_cases up : last = [dot, dot] <;> simp [up, Option.filter]

/-- A file name is the last solid piece, and does not go up. -/
theorem fileName?_eq_some_iff :
    p.fileName? = some name ↔
      (solidPieces p.text).getLast? = some name ∧ name ≠ [dot, dot] := by
  rw [fileName?_eq, Option.filter_eq_some_iff, decide_eq_true_iff]

/-- A file name is a name. -/
theorem isName_of_fileName? (named : p.fileName? = some name) : IsName name := by
  obtain ⟨last, notUp⟩ := fileName?_eq_some_iff.mp named
  refine isName_of_mem_steps (p := p) ?_
  rw [steps_eq, List.mem_append, List.mem_map]
  exact .inr ⟨name, List.mem_of_getLast? last, if_neg notUp⟩

/-! ## The last name -/

/-- A path ends in a name that is looked up, behind other names. -/
structure EndsIn (p : Path) (before : List Name) (name : Name) : Prop where
  /-- The names of the path. -/
  namesToFolder : p.namesToFolder = before ++ [name]
  /-- The last one does not stay where it is. -/
  noDot : name ≠ [dot]
  /-- The last one does not lead up. -/
  noUp : name ≠ [dot, dot]

/-- A path with a name joined ends in that name. -/
theorem endsIn_join (isName : IsName name) : EndsIn (p.join ⟨name⟩) p.names name :=
  ⟨namesToFolder_join isName, isName.ne_dot, isName.notUp⟩

/-- A slash at the end would count as a dot. -/
theorem names_of_namesToFolder (names : p.namesToFolder = before ++ [name]) (noDot : name ≠ [dot]) :
    p.endsInSlash = false ∧ p.names = before ++ [name] := by
  unfold namesToFolder at names
  split at names
  · exact absurd (List.cons.inj (List.append_inj_right' names rfl)).1.symm noDot
  · rename_i noSlash
    exact ⟨Bool.eq_false_iff.mpr noSlash, names⟩

/-- The last name is the last piece that means something, unless it is a dot. -/
theorem getLast?_solidPieces (names : p.names = before ++ [name]) (noDot : name ≠ [dot]) :
    (solidPieces p.text).getLast? = some name := by
  have solid : isIdle name = false := by
    have filled : name ≠ [] := by
      have member : name ∈ p.names := by
        rw [names]
        exact List.mem_append_right _ (List.mem_singleton_self name)
      simpa using (List.mem_filter.mp member).2
    simp [isIdle, filled, noDot]
  have pieces : solidPieces p.text = p.names.filter fun piece => !isIdle piece := by
    rw [Path.names, List.filter_filter, solidPieces]
    refine List.filter_congr fun piece _ => ?_
    cases piece <;> simp [isIdle]
  rw [pieces, names, List.filter_append, List.filter_singleton, solid]
  simp

namespace EndsIn

/-- A path that ends in a name ends in no separator. -/
theorem noSlash (ends : EndsIn p before name) : p.endsInSlash = false :=
  (names_of_namesToFolder ends.namesToFolder ends.noDot).1

/-- A path that ends in a name has that name last. -/
theorem names (ends : EndsIn p before name) : p.names = before ++ [name] :=
  (names_of_namesToFolder ends.namesToFolder ends.noDot).2

/-- The name in which a path ends is its file name. -/
theorem fileName? (ends : EndsIn p before name) : p.fileName? = some name :=
  fileName?_eq_some_iff.mpr ⟨getLast?_solidPieces ends.names ends.noDot, ends.noUp⟩

end EndsIn

/-- A path whose last name leads up has no file name. -/
theorem fileName?_of_up (names : p.namesToFolder = before ++ [[dot, dot]]) :
    p.fileName? = none := by
  have noDot : [dot, dot] ≠ [dot] := by decide
  rw [fileName?_eq, getLast?_solidPieces (names_of_namesToFolder names noDot).2 noDot]
  rfl

/-- A character that is no slash is in one of the pieces. -/
theorem exists_piece_of_mem {c : UInt8} {current text : List UInt8}
    (member : c ∈ current ∨ c ∈ text) (noSlash : c ≠ slash) :
    ∃ piece ∈ splitFrom current text, c ∈ piece := by
  induction text generalizing current with
  | nil =>
    refine ⟨current.reverse, List.mem_singleton_self _, List.mem_reverse.mpr ?_⟩
    exact member.resolve_right List.not_mem_nil
  | cons d rest ih =>
    unfold splitFrom
    split
    · rename_i slash
      rcases member with first | behind
      · exact ⟨current.reverse, List.mem_cons_self, List.mem_reverse.mpr first⟩
      · have behind : c ∈ rest := (List.mem_cons.mp behind).resolve_left (slash ▸ noSlash)
        obtain ⟨piece, cut, inside⟩ := ih (.inr behind)
        exact ⟨piece, List.mem_cons_of_mem _ cut, inside⟩
    · refine ih ?_
      rcases member with first | behind
      · exact .inl (List.mem_cons_of_mem _ first)
      · rcases List.mem_cons.mp behind with rfl | behind
        · exact .inl List.mem_cons_self
        · exact .inr behind

/-- A path that holds something names something, or it ends in a slash. -/
theorem names_ne_nil (filled : p.text ≠ []) (noSlash : p.endsInSlash = false) : p.names ≠ [] := by
  have last : p.text.getLast filled ≠ slash := by
    intro slash
    rw [endsInSlash, List.getLast?_eq_some_getLast filled, slash] at noSlash
    cases noSlash
  obtain ⟨piece, cut, inside⟩ : ∃ piece ∈ pieces p.text, p.text.getLast filled ∈ piece :=
    exists_piece_of_mem (.inr (List.getLast_mem filled)) last
  refine List.ne_nil_of_mem (List.mem_filter.mpr ⟨cut, ?_⟩)
  simpa using List.ne_nil_of_mem inside

/-! ## The last name in a text -/

/-- The text of a path has a name last. Only slashes and dots that stand alone come behind it. -/
inductive LastName (name : List Char) : List Char → Prop
  /-- The name stands alone. -/
  | alone : LastName name name
  /-- The name stands behind a slash. -/
  | behind (front : List Char) : LastName name (front ++ '/' :: name)
  /-- One more slash means nothing. -/
  | slash {text : List Char} : LastName name text → LastName name (text ++ ['/'])
  /-- Neither does a dot that stands alone. -/
  | dot {text : List Char} : LastName name text → LastName name (text ++ ['/', '.'])

/-- A text names an entry of a folder, as neither the dot does nor what leads up. -/
structure IsNameText (name : List Char) : Prop where
  /-- It holds something. -/
  filled : name ≠ []
  /-- A slash would separate names. -/
  slashless : '/' ∉ name
  /-- It does not stay where it is. -/
  noDot : name ≠ ['.']
  /-- It does not lead up. -/
  noUp : name ≠ ['.', '.']

/-- Encoding a text brings in no separator. -/
theorem slash_mem_encode_iff {text : List Char} : slash ∈ Text.encode text ↔ '/' ∈ text :=
  Text.mem_encode_iff (by decide)

/-- A separator parts the solid pieces of an encoded text. -/
theorem solidPieces_encode_append (front back : List Char) :
    solidPieces (Text.encode (front ++ '/' :: back)) =
      solidPieces (Text.encode front) ++ solidPieces (Text.encode back) := by
  have cut : Text.encode (front ++ '/' :: back) =
      Text.encode front ++ slash :: Text.encode back := Text.encode_append front _
  unfold solidPieces
  rw [cut, pieces_append_slash, List.filter_append]

/-- A text without slashes is one piece, which may mean nothing. -/
theorem solidPieces_encode_of_not_mem {text : List Char} (slashless : '/' ∉ text) :
    solidPieces (Text.encode text) =
      if text = [] ∨ text = ['.'] then [] else [Text.encode text] := by
  have idle : isIdle (Text.encode text) = true ↔ text = [] ∨ text = ['.'] := by
    have dot : [Path.dot] = Text.encode ['.'] := by decide
    unfold isIdle
    rw [Bool.or_eq_true, beq_iff_eq, beq_iff_eq, dot, Text.encode_injective.eq_iff]
    exact or_congr_left (Text.encode_injective.eq_iff (b := []))
  unfold solidPieces
  rw [pieces_of_not_mem (slash_mem_encode_iff.not.mpr slashless), List.filter_singleton]
  by_cases quiet : text = [] ∨ text = ['.']
  · rw [if_pos quiet, idle.mpr quiet]
    rfl
  · rw [if_neg quiet, Bool.eq_false_iff.mpr (idle.not.mpr quiet)]
    rfl

/-- The last name of a text is its last solid piece once encoded. -/
theorem LastName.getLast?_solidPieces {name text : List Char} (isName : IsNameText name)
    (last : LastName name text) :
    (solidPieces (Text.encode text)).getLast? = some (Text.encode name) := by
  have own : solidPieces (Text.encode name) = [Text.encode name] := by
    rw [solidPieces_encode_of_not_mem isName.slashless,
      if_neg (not_or.mpr ⟨isName.filled, isName.noDot⟩)]
  induction last with
  | alone =>
    rw [own]
    rfl
  | behind front => rw [solidPieces_encode_append, own, List.getLast?_concat]
  | slash _ ih =>
    have quiet : solidPieces (Text.encode []) = [] := by decide
    rw [solidPieces_encode_append, quiet, List.append_nil, ih]
  | dot _ ih =>
    have quiet : solidPieces (Text.encode ['.']) = [] := by decide
    rw [solidPieces_encode_append, quiet, List.append_nil, ih]

/-- The last piece of a text that means something is what stands last in it. Behind the last slash
there is either that piece or nothing that counts, and then the text before the slash has it. -/
theorem exists_lastName {text : List Char} {piece : Name}
    (found : (solidPieces (Text.encode text)).getLast? = some piece) :
    ∃ name, '/' ∉ name ∧ name ≠ [] ∧ name ≠ ['.'] ∧ Text.encode name = piece ∧
      LastName name text := by
  by_cases slash : '/' ∈ text
  · obtain ⟨back, rest, reversed, slashless⟩ :=
      List.eq_append_cons_of_mem (List.mem_reverse.mpr slash)
    have whole : text = rest.reverse ++ '/' :: back.reverse := by
      rw [← List.reverse_reverse text, reversed]
      simp
    rw [← List.mem_reverse] at slashless
    rw [whole, solidPieces_encode_append, solidPieces_encode_of_not_mem slashless] at found
    rw [whole]
    by_cases quiet : back.reverse = [] ∨ back.reverse = ['.']
    · rw [if_pos quiet, List.append_nil] at found
      obtain ⟨name, noSlash, filled, noDot, same, last⟩ := exists_lastName found
      refine ⟨name, noSlash, filled, noDot, same, ?_⟩
      rcases quiet with none | dot
      · rw [none]
        exact .slash last
      · rw [dot]
        exact .dot last
    · rw [if_neg quiet, List.getLast?_concat, Option.some_inj] at found
      rw [not_or] at quiet
      exact ⟨_, slashless, quiet.1, quiet.2, found, .behind _⟩
  · rw [solidPieces_encode_of_not_mem slash] at found
    split at found
    · cases found
    · rename_i solid
      rw [not_or] at solid
      exact ⟨text, slash, solid.1, solid.2, Option.some_inj.mp found, .alone⟩
termination_by text.length
decreasing_by
  rw [whole]
  simp

/-- The file name of a path is the name that its text has last. -/
theorem fileName?_ofString_eq_some_iff {text : String} {bytes : Name} :
    (ofString text).fileName? = some bytes ↔
      ∃ name, IsNameText name ∧ LastName name text.toList ∧ Text.encode name = bytes := by
  have up : Text.encode ['.', '.'] = [dot, dot] := by decide
  rw [fileName?_eq_some_iff]
  constructor
  · rintro ⟨found, notUp⟩
    obtain ⟨name, slashless, filled, noDot, rfl, last⟩ := exists_lastName found
    refine ⟨name, ⟨filled, slashless, noDot, ?_⟩, last, rfl⟩
    rintro rfl
    exact notUp up
  · rintro ⟨name, isName, last, rfl⟩
    refine ⟨last.getLast?_solidPieces isName, fun same => isName.noUp ?_⟩
    exact Text.encode_injective (same.trans up.symm)

/-! ## Another file name -/

/-- Another name is put behind the parent. -/
theorem exists_parent_of_fileName? (named : p.fileName? = some name) :
    ∃ parent, p.parent? = some parent ∧ ∀ own, p.withFileName own = parent.join ⟨own⟩ := by
  unfold withFileName
  rw [named]
  unfold fileName? at named
  unfold parent?
  cases back : p.backwards with
  | nil =>
    rw [back] at named
    cases named
  | cons => exact ⟨_, rfl, fun _ => rfl⟩

end CatalogAudit.Path
