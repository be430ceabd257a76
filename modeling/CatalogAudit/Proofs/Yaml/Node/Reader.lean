import CatalogAudit.Yaml.Node.Reader

/-!
# Building nodes from tokens

What the reader of nodes builds from the tokens of a node without name and tag, whatever follows
them: from those of a scalar, of a block list, of a list at the column of its key and of a block
mapping. As many steps as there are tokens, and one more, suffice for each.
-/

namespace CatalogAudit.Yaml.Node.Reader

variable {tokens rest : List Token} {n : Node} {r : Reader}

/-- The token begins a node that has no name and no tag. -/
def isFirst : Token → Bool
  | .scalar _ _ => true
  | .flowSequenceStart => true
  | .blockSequenceStart => true
  | .blockMappingStart => true
  | _ => false

/-- The tokens are those of the node, and begin like a node. -/
structure Builds (tokens : List Token) (n : Node) : Prop where
  /-- What they begin with. -/
  begins : ∃ first later, tokens = first :: later ∧ isFirst first = true
  /-- The node is built from them, whatever follows. -/
  reads : ∀ ⦃fuel : Nat⦄ ⦃indentless : Bool⦄ ⦃r : Reader⦄ ⦃rest : List Token⦄,
    tokens.length < fuel → r.tokens = tokens ++ rest →
    node? fuel true indentless r = some (n, r.goTo rest)

/-- The tokens are those of the value of a key in a block mapping. -/
def BuildsPart (tokens : List Token) (n : Node) : Prop :=
  ∀ ⦃fuel : Nat⦄ ⦃r : Reader⦄ ⦃rest : List Token⦄, tokens.length + 2 < fuel →
    r.tokens = tokens ++ rest → comes [.key, .value, .blockEnd] rest = true →
    blockPart? fuel r = some (n, r.goTo rest)

/-- What begins with another token does not come to these ends. -/
theorem comes_eq_false {ends : List Token} (others : ends.all (fun t => !isFirst t) = true)
    {first : Token} (begins : isFirst first = true) (later : List Token) :
    comes ends (first :: later) = false := by
  rw [comes, ← Bool.not_eq_true, List.contains_iff_mem]
  intro mem
  have other := List.all_eq_true.mp others first mem
  rw [begins] at other
  cases other

/-- What builds a node does not begin with one of these ends. -/
theorem Builds.comes_eq_false (builds : Builds tokens n) {ends : List Token}
    (others : ends.all (fun t => !isFirst t) = true) (rest : List Token) :
    comes ends (tokens ++ rest) = false := by
  obtain ⟨first, later, rfl, begins⟩ := builds.begins
  exact Reader.comes_eq_false others begins _

/-- A scalar is built from its token, wherever it stands. -/
theorem node?_scalar {text : List Char} {plain : Bool} (h : r.tokens = .scalar text plain :: rest)
    (fuel : Nat) (block indentless : Bool) :
    node? (fuel + 1) block indentless r = some (.scalar none none text plain, r.goTo rest) := by
  rw [node?, h]
  rfl

/-- Where a block list begins its items are read. -/
theorem node?_sequence (h : r.tokens = .blockSequenceStart :: rest) (fuel : Nat)
    (indentless : Bool) :
    node? (fuel + 1) true indentless r
      = (blockItems? fuel [] (r.goTo rest)).map fun (items, r) =>
          (.sequence none none items, r) := by
  rw [node?, h]
  simp [properties, declare]

/-- Where a block mapping begins its entries are read. -/
theorem node?_mapping (h : r.tokens = .blockMappingStart :: rest) (fuel : Nat)
    (indentless : Bool) :
    node? (fuel + 1) true indentless r
      = (blockEntries? fuel [] (r.goTo rest)).map fun (entries, r) =>
          (.mapping none none entries, r) := by
  rw [node?, h]
  simp [properties, declare]

/-- Where a dash may stand at the column of a key, the items are read as long as dashes follow. -/
theorem node?_indentless (h : r.tokens = .blockEntry :: rest) (fuel : Nat) (block : Bool) :
    node? (fuel + 1) block true r
      = (indentlessItems? fuel [] r).map fun (items, r) => (.sequence none none items, r) := by
  have same : r.goTo (.blockEntry :: rest) = r := by
    rw [← h]
    rfl
  rw [node?, h]
  simp [properties, declare, same]

/-- The token of a scalar builds a scalar. -/
theorem builds_scalar (text : List Char) (plain : Bool) :
    Builds [.scalar text plain] (.scalar none none text plain) where
  begins := ⟨_, _, rfl, rfl⟩
  reads := by
    intro fuel indentless r rest enough h
    obtain ⟨fuel, rfl⟩ : ∃ m, fuel = m + 1 := ⟨fuel - 1, by omega⟩
    exact node?_scalar h fuel true indentless

/-- What has tokens may be the value of a key. -/
theorem Builds.part (builds : Builds tokens n) : BuildsPart tokens n := by
  intro fuel r rest enough h behind
  obtain ⟨fuel, rfl⟩ : ∃ m, fuel = m + 1 := ⟨fuel - 1, by omega⟩
  rw [blockPart?, h, builds.comes_eq_false (by decide)]
  exact builds.reads (by omega) h

/-- A value that is left out is an empty node. -/
theorem buildsPart_nil : BuildsPart [] .empty := by
  intro fuel r rest enough h behind
  obtain ⟨fuel, rfl⟩ : ∃ m, fuel = m + 1 := ⟨fuel - 1, by omega⟩
  rw [List.nil_append] at h
  rw [blockPart?, h, if_pos behind, ← h]
  rfl

/-- A scalar between brackets is read. -/
theorem flowItems?_scalar {text : List Char} {plain first : Bool}
    (next : nextFlowItem? first .flowSequenceEnd r.tokens = some (.scalar text plain :: rest))
    (fuel : Nat) (before : List Node) :
    flowItems? (fuel + 2) first before r
      = flowItems? (fuel + 1) false (.scalar none none text plain :: before) (r.goTo rest) := by
  have read := node?_scalar (r := r.goTo (.scalar text plain :: rest)) rfl fuel false false
  rw [flowItems?, next]
  simp only [read]
  rfl

/-- Where an opening bracket stands the items between the brackets are read. -/
theorem node?_brackets (h : r.tokens = .flowSequenceStart :: rest) (fuel : Nat)
    (block indentless : Bool) :
    node? (fuel + 1) block indentless r
      = (flowItems? fuel true [] (r.goTo rest)).map fun (items, r) =>
          (.sequence none none items, r) := by
  rw [node?, h]
  simp [properties, declare]

section Items

variable {α : Type} {items : List α} {parts : α → List Token} {node : α → Node}

/-- The tokens of an item with its dash. -/
def dashed (parts : α → List Token) (item : α) : List Token := .blockEntry :: parts item

/-- The items of a block list are read up to the end of the list. -/
theorem blockItems?_items (each : ∀ item ∈ items, Builds (parts item) (node item)) {fuel : Nat}
    (enough : (items.flatMap (dashed parts)).length < fuel)
    (h : r.tokens = items.flatMap (dashed parts) ++ .blockEnd :: rest) (before : List Node) :
    blockItems? fuel before r = some (before.reverse ++ items.map node, r.goTo rest) := by
  induction items generalizing fuel before r with
  | nil =>
    obtain ⟨fuel, rfl⟩ : ∃ m, fuel = m + 1 := ⟨fuel - 1, by omega⟩
    rw [blockItems?, h]
    simp
  | cons item items ih =>
    obtain ⟨fuel, rfl⟩ : ∃ m, fuel = m + 1 := ⟨fuel - 1, by omega⟩
    rw [List.forall_mem_cons] at each
    simp only [List.flatMap_cons, dashed, List.cons_append, List.append_assoc, List.length_cons,
      List.length_append] at enough h
    rw [blockItems?, h]
    simp only
    rw [each.1.comes_eq_false (by decide), if_neg Bool.false_ne_true, each.1.reads (by omega) rfl]
    simp only
    rw [ih each.2 (by omega) rfl]
    simp [goTo]

/-- The items of a list at the column of its key are read as long as dashes follow. -/
theorem indentlessItems?_items (each : ∀ item ∈ items, Builds (parts item) (node item))
    {fuel : Nat} (enough : (items.flatMap (dashed parts)).length < fuel)
    (h : r.tokens = items.flatMap (dashed parts) ++ rest)
    (behind : comes [.key, .value, .blockEnd] rest = true) (before : List Node) :
    indentlessItems? fuel before r = some (before.reverse ++ items.map node, r.goTo rest) := by
  induction items generalizing fuel before r with
  | nil =>
    obtain ⟨fuel, rfl⟩ : ∃ m, fuel = m + 1 := ⟨fuel - 1, by omega⟩
    have noDash : ∀ later, rest ≠ .blockEntry :: later := by
      rintro later rfl
      exact absurd behind (by simp [comes])
    rw [List.flatMap_nil, List.nil_append] at h
    rw [indentlessItems?, h, List.map_nil, List.append_nil]
    split
    · exact absurd rfl (noDash _)
    · rw [← h]
      rfl
  | cons item items ih =>
    obtain ⟨fuel, rfl⟩ : ∃ m, fuel = m + 1 := ⟨fuel - 1, by omega⟩
    rw [List.forall_mem_cons] at each
    simp only [List.flatMap_cons, dashed, List.cons_append, List.append_assoc, List.length_cons,
      List.length_append] at enough h
    rw [indentlessItems?, h]
    simp only
    rw [each.1.comes_eq_false (by decide), if_neg Bool.false_ne_true, each.1.reads (by omega) rfl]
    simp only
    rw [ih each.2 (by omega) rfl]
    simp [goTo]

/-- The tokens of an entry are those of a key and of its value. -/
structure BuildsEntry (tokens : List Token) (n : Node × Node) : Prop where
  /-- How they are split. -/
  parts : ∃ key value, tokens = .key :: (key ++ .value :: value) ∧ Builds key n.1 ∧
    BuildsPart value n.2

/-- The entries of a block mapping are read up to its end. -/
theorem blockEntries?_entries {node : α → Node × Node}
    (each : ∀ item ∈ items, BuildsEntry (parts item) (node item)) {fuel : Nat}
    (enough : (items.flatMap parts).length + 1 < fuel)
    (h : r.tokens = items.flatMap parts ++ .blockEnd :: rest) (before : List (Node × Node)) :
    blockEntries? fuel before r = some (before.reverse ++ items.map node, r.goTo rest) := by
  induction items generalizing fuel before r with
  | nil =>
    obtain ⟨fuel, rfl⟩ : ∃ m, fuel = m + 1 := ⟨fuel - 1, by omega⟩
    rw [blockEntries?, h]
    simp
  | cons item items ih =>
    obtain ⟨fuel, rfl⟩ : ∃ m, fuel = m + 1 := ⟨fuel - 1, by omega⟩
    rw [List.forall_mem_cons] at each
    obtain ⟨key, value, split, isKey, isValue⟩ := each.1.parts
    simp only [List.flatMap_cons, split, List.cons_append, List.append_assoc, List.length_cons,
      List.length_append] at enough h
    have behind :
        comes [.key, .value, .blockEnd] (items.flatMap parts ++ .blockEnd :: rest) = true := by
      cases items with
      | nil => rfl
      | cons item items =>
        obtain ⟨key, value, split, -⟩ := (each.2 item List.mem_cons_self).parts
        rw [List.flatMap_cons, split]
        rfl
    have long : 0 < key.length := by
      obtain ⟨first, later, rfl, -⟩ := isKey.begins
      exact Nat.succ_pos _
    rw [blockEntries?, h]
    simp only
    rw [isKey.part (by omega) rfl rfl]
    simp only [goTo]
    rw [isValue (by omega) rfl behind]
    simp only
    rw [ih each.2 (by omega) rfl]
    simp [goTo]

/-- A block list is built from its dashes. -/
theorem builds_sequence (each : ∀ item ∈ items, Builds (parts item) (node item)) :
    Builds (.blockSequenceStart :: items.flatMap (dashed parts) ++ [.blockEnd])
      (.sequence none none (items.map node)) where
  begins := ⟨_, _, rfl, rfl⟩
  reads := by
    intro fuel indentless r rest enough h
    obtain ⟨fuel, rfl⟩ : ∃ m, fuel = m + 1 := ⟨fuel - 1, by omega⟩
    simp only [List.cons_append, List.append_assoc, List.length_cons, List.length_append,
      List.nil_append] at enough h
    have fits : (items.flatMap (dashed parts)).length < fuel := by omega
    rw [node?_sequence h, blockItems?_items each fits rfl []]
    rfl

/-- A block mapping is built from its entries. -/
theorem builds_mapping {node : α → Node × Node}
    (each : ∀ item ∈ items, BuildsEntry (parts item) (node item)) :
    Builds (.blockMappingStart :: items.flatMap parts ++ [.blockEnd])
      (.mapping none none (items.map node)) where
  begins := ⟨_, _, rfl, rfl⟩
  reads := by
    intro fuel indentless r rest enough h
    obtain ⟨fuel, rfl⟩ : ∃ m, fuel = m + 1 := ⟨fuel - 1, by omega⟩
    simp only [List.cons_append, List.append_assoc, List.length_cons, List.length_append,
      List.nil_append] at enough h
    have fits : (items.flatMap parts).length + 1 < fuel := by omega
    rw [node?_mapping h, blockEntries?_entries each fits rfl []]
    rfl

/-- A list at the column of its key is built from its dashes. -/
theorem buildsPart_indentless (filled : items ≠ [])
    (each : ∀ item ∈ items, Builds (parts item) (node item)) :
    BuildsPart (items.flatMap (dashed parts)) (.sequence none none (items.map node)) := by
  intro fuel r rest enough h behind
  obtain ⟨fuel, rfl⟩ : ∃ m, fuel = m + 2 := ⟨fuel - 2, by omega⟩
  have fits : (items.flatMap (dashed parts)).length < fuel := by omega
  have read := indentlessItems?_items each fits h behind []
  obtain ⟨later, first⟩ : ∃ later, items.flatMap (dashed parts) ++ rest = .blockEntry :: later := by
    obtain ⟨item, others, rfl⟩ := List.exists_cons_of_ne_nil filled
    exact ⟨_, rfl⟩
  rw [first] at h
  have noneComes : comes [.key, .value, .blockEnd] r.tokens = false := by
    rw [h]
    simp [comes]
  rw [blockPart?, noneComes, if_neg Bool.false_ne_true, node?_indentless h, read]
  rfl

end Items

/-- Without a mark a document begins with its root. -/
theorem document?_root {first : Token} (begins : isFirst first = true) (fuel : Nat)
    (later : List Token) :
    document? fuel { tokens := first :: later }
      = node? fuel true false { tokens := first :: later, handles := commonHandles } := by
  cases first <;> first | (simp [document?, directives?]; done) | cases begins

/-- Behind the mark of a document its root begins. -/
theorem document?_marked {first : Token} (begins : isFirst first = true) (fuel : Nat)
    (later : List Token) :
    document? fuel { tokens := .documentStart :: first :: later }
      = node? fuel true false { tokens := first :: later, handles := commonHandles } := by
  cases first <;> first | (simp [document?, directives?, isBare, goTo]; done) | cases begins

/-- The root of a document is built from its tokens, behind a mark or not. -/
theorem ofTokens?_of_builds (builds : Builds tokens n) :
    ofTokens? (tokens ++ [.streamEnd]) = some n ∧
      ofTokens? (.documentStart :: tokens ++ [.streamEnd]) = some n := by
  obtain ⟨first, later, split, begins⟩ := builds.begins
  have finished : isOver [.streamEnd] = true := rfl
  have read : ∀ fuel, tokens.length < fuel →
      node? fuel true false { tokens := tokens ++ [.streamEnd], handles := commonHandles }
        = some (n, { tokens := [.streamEnd], handles := commonHandles }) := fun fuel enough =>
    builds.reads enough rfl
  have noEnd : first ≠ .streamEnd := by
    rintro rfl
    cases begins
  subst split
  constructor
  · rw [ofTokens?]
    · rw [List.cons_append, document?_root begins, ← List.cons_append, read _ (by simp; omega)]
      rfl
    · simp [noEnd]
  · rw [ofTokens?]
    · rw [List.cons_append, List.cons_append, document?_marked begins, ← List.cons_append,
        read _ (by simp; omega)]
      rfl
    · simp

end CatalogAudit.Yaml.Node.Reader
