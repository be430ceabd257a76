import CatalogAudit.Yaml.Node

/-!
# Nodes from tokens

Builds the one document of a text from its tokens. What an entry leaves out is an empty node. Only
the innermost collection decides which tokens may come next, so each kind of collection has a loop
of its own; every loop returns the nodes that it read and the state after them.
-/

namespace CatalogAudit.Yaml.Node

/-- What is known while nodes are read. -/
structure Reader where
  /-- The tokens ahead. -/
  tokens : List Token
  /-- The tag handles with what they stand for; the first that fits counts. -/
  handles : List (List Char × List Char) := []
  /-- The names used so far with their numbers, the latest use first. -/
  names : List (List Char × Nat) := []
  /-- How many different names were used so far. -/
  distinct : Nat := 0

namespace Reader

/-- Goes on to later tokens. -/
def goTo (r : Reader) (tokens : List Token) : Reader := { r with tokens }

/-- Gives a name to the node that begins. -/
def declare (r : Reader) : Option (List Char) → Option Nat × Reader
  | none => (none, r)
  | some name =>
    let isNew := (r.names.lookup name).isNone
    ( some r.distinct,
      { r with
        names := (name, r.distinct) :: r.names
        distinct := if isNew then r.distinct + 1 else r.distinct } )

/-- Writes a tag out in full. -/
def tag? (r : Reader) : List Char × List Char → Option (List Char)
  | ([], suffix) => some suffix
  | (handle, suffix) => (r.handles.lookup handle).map (· ++ suffix)

/-- What is written before a node. -/
structure Properties where
  /-- Its name. -/
  name : Option (List Char) := none
  /-- The handle and the suffix of its tag. -/
  tag : Option (List Char × List Char) := none

/-- Splits the tokens after the name and the tag of a node, which come in either order. -/
def properties : List Token → Properties × List Token
  | .anchor name :: .tag handle suffix :: rest => ({ name, tag := some (handle, suffix) }, rest)
  | .anchor name :: rest => ({ name }, rest)
  | .tag handle suffix :: .anchor name :: rest => ({ name, tag := some (handle, suffix) }, rest)
  | .tag handle suffix :: rest => ({ tag := some (handle, suffix) }, rest)
  | rest => ({}, rest)

/-- The tokens from the next item of a flow collection on, which a comma separates from the item
before it, or from the end of the collection on. -/
def nextFlowItem? (first : Bool) (close : Token) (tokens : List Token) : Option (List Token) :=
  if first || tokens.head? = some close then some tokens
  else
    match tokens with
    | .flowEntry :: rest => some rest
    | _ => none

/-- Whether one of the tokens `ends` comes next. -/
def comes (ends : List Token) (tokens : List Token) : Bool :=
  match tokens with
  | [] => false
  | token :: _ => ends.contains token

mutual

/-- Reads a node. Block collections are refused unless `block` holds; `indentless` says that the
items of a list may begin without indentation. -/
def node? : (fuel : Nat) → (block indentless : Bool) → Reader → Option (Node × Reader)
  | 0, _, _, _ => none
  | fuel + 1, block, indentless, r =>
    match r.tokens with
    | .alias name :: rest =>
      (r.names.lookup name).map fun number => (.alias number, r.goTo rest)
    | tokens =>
      let (written, rest) := properties tokens
      let resolved : Option (Option (List Char)) :=
        match written.tag with
        | none => some none
        | some tag => (r.tag? tag).map some
      match resolved with
      | none => none
      | some tag =>
        let (name, r) := r.declare written.name
        match rest with
        | .scalar text plain :: rest =>
          let tag := if tag = some ['!'] then none else tag
          some (.scalar name tag text plain, r.goTo rest)
        | .flowSequenceStart :: rest =>
          (flowItems? fuel true [] (r.goTo rest)).map fun (items, r) =>
            (.sequence name tag items, r)
        | .flowMappingStart :: rest =>
          (flowEntries? fuel true [] (r.goTo rest)).map fun (entries, r) =>
            (.mapping name tag entries, r)
        | next :: after =>
          if indentless && next = .blockEntry then
            (indentlessItems? fuel [] (r.goTo rest)).map fun (items, r) =>
              (.sequence name tag items, r)
          else if block && next = .blockSequenceStart then
            (blockItems? fuel [] (r.goTo after)).map fun (items, r) =>
              (.sequence name tag items, r)
          else if block && next = .blockMappingStart then
            (blockEntries? fuel [] (r.goTo after)).map fun (entries, r) =>
              (.mapping name tag entries, r)
          else if written.name.isSome || tag.isSome then
            some (.scalar name tag [] true, r.goTo rest)
          else none
        | [] => none

/-- Reads the items of a block list after `items`, which are backwards. -/
def blockItems? : (fuel : Nat) → (items : List Node) → Reader → Option (List Node × Reader)
  | 0, _, _ => none
  | fuel + 1, items, r =>
    match r.tokens with
    | .blockEntry :: rest =>
      if comes [.blockEntry, .blockEnd] rest then blockItems? fuel (.empty :: items) (r.goTo rest)
      else
        match node? fuel true false (r.goTo rest) with
        | none => none
        | some (item, r) => blockItems? fuel (item :: items) r
    | .blockEnd :: rest => some (items.reverse, r.goTo rest)
    | _ => none

/-- Reads the items of a list that stand at the column of their key. Such a list has no end of its
own. -/
def indentlessItems? : (fuel : Nat) → (items : List Node) → Reader → Option (List Node × Reader)
  | 0, _, _ => none
  | fuel + 1, items, r =>
    match r.tokens with
    | .blockEntry :: rest =>
      if comes [.blockEntry, .key, .value, .blockEnd] rest then
        indentlessItems? fuel (.empty :: items) (r.goTo rest)
      else
        match node? fuel true false (r.goTo rest) with
        | none => none
        | some (item, r) => indentlessItems? fuel (item :: items) r
    | _ => some (items.reverse, r)

/-- Reads the key or the value of an entry of a block mapping, which may be left out. -/
def blockPart? : (fuel : Nat) → Reader → Option (Node × Reader)
  | 0, _ => none
  | fuel + 1, r =>
    if comes [.key, .value, .blockEnd] r.tokens then some (.empty, r) else node? fuel true true r

/-- Reads the entries of a block mapping after `entries`, which are backwards. -/
def blockEntries? :
    (fuel : Nat) → (entries : List (Node × Node)) → Reader → Option (List (Node × Node) × Reader)
  | 0, _, _ => none
  | fuel + 1, entries, r =>
    match r.tokens with
    | .key :: rest =>
      match blockPart? fuel (r.goTo rest) with
      | none => none
      | some (key, r) =>
        match r.tokens with
        | .value :: rest =>
          match blockPart? fuel (r.goTo rest) with
          | none => none
          | some (value, r) => blockEntries? fuel ((key, value) :: entries) r
        | _ => blockEntries? fuel ((key, .empty) :: entries) r
    | .blockEnd :: rest => some (entries.reverse, r.goTo rest)
    | _ => none

/-- Reads a key or a value in a flow collection, which is left out when one of `ends` comes. -/
def flowPart? : (fuel : Nat) → (ends : List Token) → Reader → Option (Node × Reader)
  | 0, _, _ => none
  | fuel + 1, ends, r => if comes ends r.tokens then some (.empty, r) else node? fuel false false r

/-- Reads the value of an entry in a flow collection, if a colon announces one. -/
def flowValue? : (fuel : Nat) → (ends : List Token) → Reader → Option (Node × Reader)
  | 0, _, _ => none
  | fuel + 1, ends, r =>
    match r.tokens with
    | .value :: rest => flowPart? fuel ends (r.goTo rest)
    | _ => some (.empty, r)

/-- Reads the items of a flow list after `items`, which are backwards. An item may be a single entry
of a mapping. Where its key is left out, the token in the place of the key is passed over. -/
def flowItems? :
    (fuel : Nat) → (first : Bool) → (items : List Node) → Reader → Option (List Node × Reader)
  | 0, _, _, _ => none
  | fuel + 1, first, items, r =>
    match nextFlowItem? first .flowSequenceEnd r.tokens with
    | none => none
    | some (.flowSequenceEnd :: rest) => some (items.reverse, r.goTo rest)
    | some (.key :: rest) =>
      let key :=
        if comes [.value, .flowEntry, .flowSequenceEnd] rest then some (.empty, r.goTo rest.tail)
        else node? fuel false false (r.goTo rest)
      match key with
      | none => none
      | some (key, r) =>
        match flowValue? fuel [.flowEntry, .flowSequenceEnd] r with
        | none => none
        | some (value, r) => flowItems? fuel false (.mapping none none [(key, value)] :: items) r
    | some tokens =>
      match node? fuel false false (r.goTo tokens) with
      | none => none
      | some (item, r) => flowItems? fuel false (item :: items) r

/-- Reads the entries of a flow mapping after `entries`, which are backwards. An entry without a
key mark has no value. -/
def flowEntries? :
    (fuel : Nat) → (first : Bool) → (entries : List (Node × Node)) → Reader →
      Option (List (Node × Node) × Reader)
  | 0, _, _, _ => none
  | fuel + 1, first, entries, r =>
    match nextFlowItem? first .flowMappingEnd r.tokens with
    | none => none
    | some (.flowMappingEnd :: rest) => some (entries.reverse, r.goTo rest)
    | some (.key :: rest) =>
      match flowPart? fuel [.value, .flowEntry, .flowMappingEnd] (r.goTo rest) with
      | none => none
      | some (key, r) =>
        match flowValue? fuel [.flowEntry, .flowMappingEnd] r with
        | none => none
        | some (value, r) => flowEntries? fuel false ((key, value) :: entries) r
    | some tokens =>
      match node? fuel false false (r.goTo tokens) with
      | none => none
      | some (key, r) => flowEntries? fuel false ((key, .empty) :: entries) r

end

/-- Reads the directives before a document. A version or a handle is declared once at most. -/
def directives? (versioned : Bool) (handles : List (List Char × List Char)) :
    List Token → Option (List (List Char × List Char) × List Token)
  | .version :: rest => if versioned then none else directives? true handles rest
  | .tagHandle handle lead :: rest =>
    if (handles.lookup handle).isSome then none
    else directives? versioned ((handle, lead) :: handles) rest
  | rest => some (handles, rest)

/-- The handles that every document knows. -/
def commonHandles : List (List Char × List Char) :=
  [(['!'], ['!']), (['!', '!'], "tag:yaml.org,2002:".toList)]

/-- Whether nothing follows a document but marks of its end. -/
def isOver : List Token → Bool
  | .documentEnd :: rest => isOver rest
  | [.streamEnd] => true
  | _ => false

/-- Whether a document whose beginning is marked has no node. -/
def isBare : List Token → Bool
  | .version :: _ => true
  | .tagHandle _ _ :: _ => true
  | .documentStart :: _ => true
  | .documentEnd :: _ => true
  | .streamEnd :: _ => true
  | _ => false

/-- Reads the only document: its directives and its mark, or neither, and its root. -/
def document? (fuel : Nat) (r : Reader) : Option (Node × Reader) :=
  match directives? false [] r.tokens with
  | none => none
  | some (handles, tokens) =>
    let r := { r with handles := handles ++ commonHandles }
    match tokens with
    | .documentStart :: rest =>
      if isBare rest then some (.empty, r.goTo rest) else node? fuel true false (r.goTo rest)
    | _ => if tokens.length = r.tokens.length then node? fuel true false r else none

end Reader

/-- The root of the only document that tokens hold: `none` when they hold none, or more than one, or
are in disorder. Without any document there is an empty node. -/
def ofTokens? (tokens : List Token) : Option Node :=
  match tokens with
  | [.streamEnd] => some .empty
  | _ =>
    match Reader.document? (4 * tokens.length + 8) { tokens } with
    | none => none
    | some (root, r) => if Reader.isOver r.tokens then some root else none

end CatalogAudit.Yaml.Node
