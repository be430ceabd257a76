import CatalogAudit.Proofs.FileTree.Location

/-!
# Trees that grow

An entry is added to a tree, with whatever is below it. As long as no link of the tree leads there,
everything that is looked up along names that do not pass the new entry is found as before, or fails
as before. A walk therefore goes the same ways, if the name of the entry begins with a dot. It comes
upon the same files and faults, except that it may stumble over the entry itself, when that is a
link: a link is followed before its name is looked at.
-/

namespace CatalogAudit.FileTree

/-- One tree has everything that another one has, and something new at one place. -/
structure Grows (tree tree' : FileTree) (place : Location) : Prop where
  /-- Relative paths begin at the same place. -/
  home : tree'.home = tree.home
  /-- Nothing stood there, or below. -/
  fresh : ∀ location, place <+: location → tree.item? location = none
  /-- Elsewhere nothing has changed. -/
  others : ∀ location, ¬ place <+: location → tree'.item? location = tree.item? location

/-- Going along names comes to a folder where an entry at the place is looked up. -/
def Passes (tree : FileTree) (links : Nat) (start : Location) (names : List Name)
    (place : Location) : Prop :=
  ∃ before name after left folder, names = before ++ name :: after ∧ place = folder ++ [name] ∧
    Route tree links start before left folder

/-- No link of the tree leads to an entry at the place, or to something below it. -/
def Unlinked (tree : FileTree) (place : Location) : Prop :=
  ∀ folder name target, tree.item? (folder ++ [name]) = some (.link target) →
    ¬ Passes tree (linkLimit - 1) (linkStart folder target) target.namesToFolder place

/-! ## Passing a place -/

section Passing

variable {tree tree' : FileTree} {links links' : Nat} {current next start : Location}
  {name : Name} {names rest : List Name} {place : Location}

/-- The first name passes the place it has in the folder. -/
theorem Passes.here : Passes tree links current (name :: rest) (current ++ [name]) :=
  ⟨[], name, rest, links, current, rfl, rfl, .stay⟩

/-- What is passed further on is passed from a step before. -/
theorem Passes.step (step : ∀ {left goal names}, Route tree links' next names left goal →
      Route tree links current (name :: names) left goal)
    (passes : Passes tree links' next rest place) :
    Passes tree links current (name :: rest) place := by
  obtain ⟨before, last, after, left, folder, rfl, same, route⟩ := passes
  exact ⟨name :: before, last, after, left, folder, rfl, same, step route⟩

/-- With more links left the same places are passed. -/
theorem Passes.more_links (passes : Passes tree links start names place) (enough : links ≤ links') :
    Passes tree links' start names place := by
  obtain ⟨before, last, after, left, folder, same, isPlace, route⟩ := passes
  have more := route.more_links (links' - links)
  rw [Nat.add_sub_cancel' enough] at more
  exact ⟨before, last, after, _, folder, same, isPlace, more⟩

/-- What is passed behind the target of a link is passed by the link, unless the target itself
passes it. -/
theorem Passes.link {target : Path} (folder : tree.item? current = some .folder)
    (looked : IsLooked name) (found : tree.item? (current ++ [name]) = some (.link target))
    (unled : ¬ Passes tree links (linkStart current target) target.namesToFolder place)
    (passes : Passes tree links (linkStart current target) (target.namesToFolder ++ rest) place) :
    Passes tree (links + 1) current (name :: rest) place := by
  obtain ⟨before, last, after, left, parent, same, isPlace, route⟩ := passes
  rcases List.append_eq_append_iff.mp same with ⟨more, rfl, behind⟩ | ⟨more, ahead, behind⟩
  · exact ⟨name :: more, last, after, left, parent, by rw [behind]; rfl, isPlace,
      .link folder looked found route⟩
  · cases more with
    | nil =>
      rw [List.append_nil] at ahead
      rw [← ahead] at route
      have whole : Route tree (links + 1) current [name] left parent :=
        .link folder looked found (by rwa [List.append_nil])
      exact ⟨[name], last, after, left, parent, congrArg _ behind.symm, isPlace, whole⟩
    | cons first more =>
      obtain ⟨rfl, -⟩ := List.cons.inj behind
      exact absurd ⟨before, last, more, left, parent, ahead, isPlace, route⟩ unled

/-- What is passed in a part of a tree is passed in the tree. -/
theorem Passes.of_part {part : FileTree} (isPart : IsPart part tree)
    (passes : Passes part links start names place) : Passes tree links start names place := by
  obtain ⟨before, last, after, left, folder, same, isPlace, route⟩ := passes
  exact ⟨before, last, after, left, folder, same, isPlace, isPart.route route⟩

/-- No link leads to the place in a part of the tree either. -/
theorem Unlinked.of_part {part : FileTree} (isPart : IsPart part tree)
    (unlinked : Unlinked tree place) : Unlinked part place := fun folder name target found passes =>
  unlinked folder name target (isPart.keeps _ _ found) (passes.of_part isPart)

end Passing

/-- A tree without links has none that leads to the place. -/
theorem unlinked_of_linkless {tree : FileTree} {place : Location}
    (linkless : ∀ entry ∈ tree.items, ∀ target, entry.2 ≠ .link target) : Unlinked tree place :=
  fun _ _ target found _ => linkless _ (mem_items_of_item? (by simp) found) target rfl

/-! ## Looking up in a tree that has grown -/

/-- A tree grows by items at a place and below it. -/
theorem grows_of_items {tree : FileTree} {place : Location} {more : List (Location × Item)}
    (filled : place ≠ []) (fresh : ∀ entry ∈ tree.items, ¬ place <+: entry.1)
    (within : ∀ entry ∈ more, place <+: entry.1) :
    Grows tree { tree with items := tree.items ++ more } place where
  home := rfl
  fresh := by
    intro location under
    have below : location ≠ [] := fun top => filled (List.prefix_nil.mp (top ▸ under))
    rw [item?_of_ne_nil below, List.lookup_eq_none_iff]
    intro entry member
    rw [bne_iff_ne]
    rintro rfl
    exact fresh entry member under
  others := by
    intro location outside
    by_cases top : location = []
    · rw [top]
      rfl
    · have absent : more.lookup location = none := by
        rw [List.lookup_eq_none_iff]
        intro entry member
        rw [bne_iff_ne]
        rintro rfl
        exact outside (within entry member)
      rw [item?_of_ne_nil top, item?_of_ne_nil top, List.lookup_append, absent, Option.or_none]

namespace Grows

variable {tree tree' : FileTree} {place : Location} {links : Nat} {current location : Location}
  {name : Name} {names rest : List Name} {p : Path}

/-- A tree is a part of what it grows to. -/
theorem isPart (grows : Grows tree tree' place) : IsPart tree tree' where
  home := grows.home.symm
  keeps := by
    intro location item found
    rw [grows.others location, found]
    intro within
    rw [grows.fresh location within] at found
    contradiction

/-- Nothing of the old tree is at the place or below it. -/
theorem outside_of_item? (grows : Grows tree tree' place) {item : Item}
    (found : tree.item? location = some item) : ¬ place <+: location := by
  intro within
  rw [grows.fresh location within] at found
  contradiction

/-- The root is not inside the place that is added. -/
theorem outside_nil (grows : Grows tree tree' place) : ¬ place <+: [] :=
  grows.outside_of_item? tree.item?_nil

/-- A link outside the place that is added begins to lead outside it. -/
theorem outside_linkStart (grows : Grows tree tree' place) (outside : ¬ place <+: current)
    (target : Path) : ¬ place <+: linkStart current target := by
  unfold linkStart
  split
  · exact grows.outside_nil
  · exact outside

/-- A name leads out of the rest of the tree only by passing the place. -/
theorem outside_concat (outside : ¬ place <+: current)
    (unpassed : ¬ Passes tree links current (name :: rest) place) :
    ¬ place <+: current ++ [name] := by
  intro within
  rcases List.prefix_concat_iff.mp within with rfl | within
  · exact unpassed .here
  · exact outside within

/-- Following names that do not pass the place goes as before. -/
theorem follow_eq (grows : Grows tree tree' place) (unlinked : Unlinked tree place)
    (few : links ≤ linkLimit) (outside : ¬ place <+: current)
    (unpassed : ¬ Passes tree links current names place) :
    tree'.follow true links current names = tree.follow true links current names := by
  induction links, current, names using follow_induction with
  | nil links current => rw [follow_nil, follow_nil, grows.others current outside]
  | cons links current name rest ih onLink =>
    have here := grows.others current outside
    have next := grows.others _ (outside_concat outside unpassed)
    cases tree.lookup current name with
    | nowhere absent => rw [follow_nowhere absent, follow_nowhere (here.trans absent)]
    | notFolder item found noFolder =>
      rw [follow_notFolder found noFolder, follow_notFolder (here.trans found) noFolder]
    | dot folder same =>
      subst same
      rw [follow_dot folder, follow_dot (here.trans folder)]
      exact ih _ few outside fun passes => unpassed (passes.step (.dot folder))
    | up folder same =>
      subst same
      rw [follow_up folder, follow_up (here.trans folder)]
      exact ih _ few (fun within => outside (within.trans (List.dropLast_prefix _)))
        fun passes => unpassed (passes.step (.up folder))
    | long folder noDot noUp long =>
      rw [follow_long folder noDot noUp long, follow_long (here.trans folder) noDot noUp long]
    | absent folder looked absent =>
      rw [follow_absent folder looked absent,
        follow_absent (here.trans folder) looked (next.trans absent)]
    | link folder looked target found =>
      cases links with
      | zero =>
        rw [follow_link_zero folder looked found,
          follow_link_zero (here.trans folder) looked (next.trans found)]
      | succ before =>
        rw [follow_link_succ folder looked found,
          follow_link_succ (here.trans folder) looked (next.trans found)]
        have fewer : before ≤ linkLimit := Nat.le_of_succ_le few
        refine onLink before _ _ rfl fewer (grows.outside_linkStart outside target) fun passes => ?_
        refine unpassed (passes.link folder looked found fun led => ?_)
        exact unlinked current name target found (led.more_links (Nat.le_sub_one_of_lt few))
    | down folder looked item found noLink =>
      rw [follow_down folder looked found noLink,
        follow_down (here.trans folder) looked (next.trans found) noLink]
      exact ih _ few (outside_concat outside unpassed)
        fun passes => unpassed (passes.step (.down folder looked found noLink))

/-- A path that does not pass the place is looked up as before. -/
theorem resolve_eq (grows : Grows tree tree' place) (unlinked : Unlinked tree place)
    (outside : ¬ place <+: tree.origin p)
    (unpassed : ¬ Passes tree linkLimit (tree.origin p) p.namesToFolder place) :
    tree'.resolve p = tree.resolve p := by
  have followed := grows.follow_eq unlinked (le_refl linkLimit) outside unpassed
  unfold origin at followed
  unfold resolve find findNames
  rw [grows.home, followed]

/-- The part that can be addressed grows too, if the new entry can be addressed, or else not at
all. -/
theorem addressable (grows : Grows tree tree' place) :
    Grows tree.addressable tree'.addressable place where
  home := grows.home
  fresh := by
    intro location within
    rw [item?_addressable, grows.fresh location within, ite_self]
  others := by
    intro location outside
    rw [item?_addressable, item?_addressable, grows.others location outside]

end Grows

/-! ## Walking through a tree that has grown -/

/-- An entry whose name begins with a dot is added to a tree, with whatever is below it. No link of
the tree leads there. -/
structure AddsHidden (tree tree' : FileTree) (place : Location) : Prop where
  /-- The old tree is well-formed. -/
  wf : tree.WellFormed
  /-- So is the new one. -/
  wf' : tree'.WellFormed
  /-- Nothing else has changed. -/
  grows : Grows tree tree' place
  /-- The entry is there. -/
  added : ∃ item, tree'.item? place = some item
  /-- Its name begins with a dot. -/
  hidden : ∃ folder name, place = folder ++ [name] ∧ isHidden name = true
  /-- No link leads there. -/
  unlinked : Unlinked tree place

/-- A walk that has come along folders stumbles over the entry at the place: that is a link in the
nearest of them, and it cannot be looked up or leads back to one of the folders. -/
def Stumbles (tree : FileTree) (place : Location) (chain : List Ancestor) : Prop :=
  ∃ here above name target, chain = here :: above ∧ place = here.location ++ [name] ∧
    Lists tree here name (.link target) ∧
      ((∃ error, tree.resolve (here.path.join ⟨name⟩) = .error error) ∨
        ∃ ancestor ∈ chain, tree.resolve (here.path.join ⟨name⟩) = .ok (ancestor.location, .folder))

/-- What a walk comes upon has the path where the walk begins, or that of an entry of a folder on a
way. -/
theorem Way.path_of_meets {tree : FileTree} {start : Ancestor} {chain : List Ancestor}
    {visit : Visit} (way : Way tree start chain) (met : Meets tree chain visit) :
    visit.path = start.path ∨ ∃ here above name item, Way tree start (here :: above) ∧
      Lists tree here name item ∧ visit.path = here.path.join ⟨name⟩ := by
  cases met with
  | shut closed =>
    cases way with
    | start => exact .inl rfl
    | enter way entered =>
      cases entered with
      | folder lists | link lists => exact .inr ⟨_, _, _, _, way, lists, rfl⟩
  | file lists | linked lists | broken lists | loop lists =>
    exact .inr ⟨_, _, _, _, way, lists, rfl⟩

namespace AddsHidden

variable {tree tree' : FileTree} {place : Location} {links left : Nat}
  {current goal location : Location} {names : List Name} {name : Name} {p root : Path} {item : Item}
  {start here : Ancestor} {above chain : List Ancestor} {visit : Visit}

/-- A route comes to its end without passing the place. -/
theorem not_passes (adds : AddsHidden tree tree' place)
    (route : Route tree links current names left goal) :
    ¬ Passes tree links current names place := by
  rintro ⟨before, last, after, between, folder, rfl, rfl, first⟩
  obtain ⟨between', middle, first', second⟩ := route.split
  obtain ⟨rfl, rfl⟩ := first.unique first'
  obtain ⟨item, added⟩ := adds.added
  have isName := adds.wf'.isName added last (by simp)
  have absent := adds.grows.fresh _ (List.prefix_refl _)
  cases second with
  | dot => exact isName.ne_dot rfl
  | up => exact isName.notUp rfl
  | down _ _ found | link _ _ found =>
    rw [absent] at found
    contradiction

/-- A path to an entry of a folder does not pass the place, if the path of the folder leads to the
folder. -/
theorem not_passes_join (adds : AddsHidden tree tree' place) (opens : Opens tree p left location)
    (isName : Path.IsName name) (found : tree.item? (location ++ [name]) = some item) :
    ¬ Passes tree linkLimit (tree.origin (p.join ⟨name⟩)) (p.join ⟨name⟩).namesToFolder place := by
  rw [origin_join isName opens.filled, Path.namesToFolder_join isName]
  rintro ⟨before, last, after, between, folder, same, isPlace, route⟩
  rcases List.eq_nil_or_concat after with rfl | ⟨more, final, rfl⟩
  · obtain ⟨rfl, lasts⟩ := List.append_inj' same rfl
    obtain rfl := List.singleton_inj.mp lasts
    obtain ⟨-, rfl⟩ := opens.route.unique route
    exact adds.grows.outside_of_item? found ⟨[], by rw [isPlace, List.append_nil]⟩
  · rw [List.concat_eq_append, ← List.cons_append, ← List.append_assoc] at same
    obtain ⟨names, -⟩ := List.append_inj' same rfl
    exact adds.not_passes opens.route ⟨before, last, more, between, folder, names, isPlace, route⟩

/-- A path that opened before begins outside the place that is added. -/
theorem outside_origin (adds : AddsHidden tree tree' place) (opens : Opens tree p left location) :
    ¬ place <+: tree.origin p := by
  by_cases none : p.names = []
  · have route := opens.route
    rw [none] at route
    generalize start : tree.origin p = origin at route
    cases route
    exact adds.grows.outside_of_item? opens.folder
  · exact adds.grows.outside_of_item? (opens.route.folder_of_ne_nil none)

/-- An entry of the old tree is looked up as before. -/
theorem resolve_join_eq (adds : AddsHidden tree tree' place) (opens : Opens tree p left location)
    (found : tree.item? (location ++ [name]) = some item) :
    tree'.resolve (p.join ⟨name⟩) = tree.resolve (p.join ⟨name⟩) := by
  have isName := adds.wf.isName found name (by simp)
  refine adds.grows.resolve_eq adds.unlinked ?_ (adds.not_passes_join opens isName found)
  rw [origin_join isName opens.filled]
  exact adds.outside_origin opens

/-- An entry of the old tree has its real location as before. -/
theorem realLocation?_join_eq (adds : AddsHidden tree tree' place)
    (opens : Opens tree p left location) (found : tree.item? (location ++ [name]) = some item) :
    tree'.realLocation? (p.join ⟨name⟩) = tree.realLocation? (p.join ⟨name⟩) := by
  have isName := adds.wf.isName found name (by simp)
  have isPart := addressable_isPart tree
  have outside : ¬ place <+: tree.addressable.origin (p.join ⟨name⟩) := by
    rw [isPart.origin_eq, origin_join isName opens.filled]
    exact adds.outside_origin opens
  have unpassed : ¬ Passes tree.addressable linkLimit (tree.addressable.origin (p.join ⟨name⟩))
      (p.join ⟨name⟩).namesToFolder place := by
    rw [isPart.origin_eq]
    exact fun passes => adds.not_passes_join opens isName found (passes.of_part isPart)
  have followed := adds.grows.addressable.follow_eq (adds.unlinked.of_part isPart)
    (le_refl linkLimit) outside unpassed
  rw [isPart.origin_eq, origin] at followed
  unfold realLocation?
  rw [adds.grows.home, followed]

/-- The place that is added has a hidden name. -/
theorem isHidden_of_eq (adds : AddsHidden tree tree' place) (same : place = location ++ [name]) :
    isHidden name = true := by
  obtain ⟨folder, own, isPlace, hidden⟩ := adds.hidden
  obtain ⟨-, names⟩ := List.append_inj' (isPlace.symm.trans same) rfl
  rwa [← List.singleton_inj.mp names]

section Ways

variable (adds : AddsHidden tree tree' place)
  (begins : tree.resolve start.path = .ok (start.location, .folder))

include adds begins

/-- What a way led to before opened before. -/
theorem opens_of_way (way : Way tree start (here :: above)) :
    ∃ left, Opens tree here.path left here.location := by
  obtain ⟨_, _, same, opens⟩ := way.exists_opens adds.wf (resolve_eq_folder_iff.mp begins).2
  obtain ⟨rfl, rfl⟩ := List.cons.inj same
  exact opens

/-- The folders on a way are looked up as before. -/
theorem resolve_eq_of_way (way : Way tree start (here :: above)) :
    tree'.resolve here.path = tree.resolve here.path := by
  cases way with
  | start => rw [begins, adds.grows.isPart.resolve begins]
  | enter way entered =>
    cases entered with
    | folder lists | link lists =>
      obtain ⟨left, opens⟩ := adds.opens_of_way begins way
      exact adds.resolve_join_eq opens (adds.wf.mem_children_iff.mp lists.child)

/-- The new tree lists what the old one lists. -/
theorem lists_of_lists (way : Way tree start (here :: above)) (lists : Lists tree here name item) :
    Lists tree' here name item where
  opened := by
    rw [adds.resolve_eq_of_way begins way]
    exact lists.opened
  child := by
    have found := adds.wf.mem_children_iff.mp lists.child
    exact adds.wf'.mem_children_iff.mpr (adds.grows.isPart.keeps _ _ found)

/-- The old tree lists what the new one lists, but for the new entry. -/
theorem lists_or_eq (way : Way tree start (here :: above)) (lists : Lists tree' here name item) :
    Lists tree here name item ∨ place = here.location ++ [name] := by
  obtain ⟨left, opens⟩ := adds.opens_of_way begins way
  have found := adds.wf'.mem_children_iff.mp lists.child
  by_cases same : place = here.location ++ [name]
  · exact .inr same
  · left
    constructor
    · rw [← adds.resolve_eq_of_way begins way]
      exact lists.opened
    · refine adds.wf.mem_children_iff.mpr ?_
      rw [← adds.grows.others _ ?_, found]
      intro within
      rcases List.prefix_concat_iff.mp within with there | within
      · exact same there
      · exact adds.grows.outside_of_item? opens.folder within

/-- A child with a name that is not hidden was there before. -/
theorem lists_of_seen (way : Way tree start (here :: above)) (lists : Lists tree' here name item)
    (seen : isHidden name = false) : Lists tree here name item := by
  rcases adds.lists_or_eq begins way lists with lists | same
  · exact lists
  · rw [adds.isHidden_of_eq same] at seen
    contradiction

/-- A child that was there resolves as before. -/
theorem resolve_eq_of_lists (way : Way tree start (here :: above))
    (lists : Lists tree here name item) :
    tree'.resolve (here.path.join ⟨name⟩) = tree.resolve (here.path.join ⟨name⟩) := by
  obtain ⟨left, opens⟩ := adds.opens_of_way begins way
  exact adds.resolve_join_eq opens (adds.wf.mem_children_iff.mp lists.child)

/-- A walk goes the same ways as before. -/
theorem way_iff : Way tree' start chain ↔ Way tree start chain := by
  constructor
  · intro way
    induction way with
    | start => exact .start
    | enter _ entered ih =>
      cases entered with
      | folder lists seen =>
        exact ih.enter (.folder (adds.lists_of_seen begins ih lists seen) seen)
      | link lists leads new seen =>
        have lists := adds.lists_of_seen begins ih lists seen
        rw [adds.resolve_eq_of_lists begins ih lists] at leads
        exact ih.enter (.link lists leads new seen)
  · intro way
    induction way with
    | start => exact .start
    | enter way entered ih =>
      cases entered with
      | folder lists seen => exact ih.enter (.folder (adds.lists_of_lists begins way lists) seen)
      | link lists leads new seen =>
        have leads := (adds.resolve_eq_of_lists begins way lists).trans leads
        exact ih.enter (.link (adds.lists_of_lists begins way lists) leads new seen)

/-- What was met before is met again. -/
theorem meets_of_meets (way : Way tree start chain) (met : Meets tree chain visit) :
    Meets tree' chain visit := by
  cases met with
  | shut closed => exact .shut ((adds.resolve_eq_of_way begins way).trans closed)
  | file lists seen => exact .file (adds.lists_of_lists begins way lists) seen
  | linked lists leads noFolder seen =>
    exact .linked (adds.lists_of_lists begins way lists)
      ((adds.resolve_eq_of_lists begins way lists).trans leads) noFolder seen
  | broken lists leads =>
    exact .broken (adds.lists_of_lists begins way lists)
      ((adds.resolve_eq_of_lists begins way lists).trans leads)
  | loop lists leads passed =>
    exact .loop (adds.lists_of_lists begins way lists)
      ((adds.resolve_eq_of_lists begins way lists).trans leads) passed

/-- What is met now was met before, unless the walk stumbles. -/
theorem meets_or_stumbles (way : Way tree start chain) (met : Meets tree' chain visit) :
    Meets tree chain visit ∨ Stumbles tree' place chain ∧ ∃ fault, visit = .fault fault := by
  cases met with
  | shut closed => exact .inl (.shut ((adds.resolve_eq_of_way begins way).symm.trans closed))
  | file lists seen => exact .inl (.file (adds.lists_of_seen begins way lists seen) seen)
  | linked lists leads noFolder seen =>
    have lists := adds.lists_of_seen begins way lists seen
    rw [adds.resolve_eq_of_lists begins way lists] at leads
    exact .inl (.linked lists leads noFolder seen)
  | broken lists leads =>
    rcases adds.lists_or_eq begins way lists with old | same
    · rw [adds.resolve_eq_of_lists begins way old] at leads
      exact .inl (.broken old leads)
    · exact .inr ⟨⟨_, _, _, _, rfl, same, lists, .inl ⟨_, leads⟩⟩, _, rfl⟩
  | loop lists leads passed =>
    rcases adds.lists_or_eq begins way lists with old | same
    · rw [adds.resolve_eq_of_lists begins way old] at leads
      exact .inl (.loop old leads passed)
    · have member := List.mem_of_find?_eq_some passed
      have there := List.find?_some passed
      rw [beq_iff_eq] at there
      rw [← there] at leads
      exact .inr ⟨⟨_, _, _, _, rfl, same, lists, .inr ⟨_, member, leads⟩⟩, _, rfl⟩

/-- Nothing that a walk through the old tree comes upon has the path of the new entry. -/
theorem path_ne_of_meets (isPlace : place = here.location ++ [name]) (isName : Path.IsName name)
    (way : Way tree start (here :: above)) (other : Way tree start chain)
    (met : Meets tree chain visit) : visit.path ≠ here.path.join ⟨name⟩ := by
  intro same
  obtain ⟨names, seen, path⟩ := way.exists_below adds.wf
  have isNames := Path.isNames_concat (IsSeen.isNames seen) isName
  rw [path, ← Path.below_concat] at same
  rcases other.path_of_meets met with there | ⟨before, higher, own, item, earlier, listed, there⟩
  · have none := Path.below_inj isNames (nofun : ∀ name ∈ [], Path.IsName name)
      (same.symm.trans there)
    simp at none
  · -- It is an entry of the same name in a folder of the same path, and so at the same location.
    obtain ⟨names', seen', path'⟩ := earlier.exists_below adds.wf
    have isNames' := Path.isNames_concat (IsSeen.isNames seen')
      (adds.wf.isName_of_child listed.child)
    rw [path', ← Path.below_concat] at there
    have alike := Path.below_inj isNames isNames' (same.symm.trans there)
    obtain ⟨rfl, owns⟩ := List.append_inj' alike rfl
    obtain rfl := List.singleton_inj.mp owns
    obtain ⟨left, opens⟩ := adds.opens_of_way begins way
    obtain ⟨left', opens'⟩ := adds.opens_of_way begins earlier
    rw [path', ← path] at opens'
    obtain ⟨-, location⟩ := opens.unique opens'
    have found := adds.wf.mem_children_iff.mp listed.child
    rw [← location, ← isPlace] at found
    exact adds.grows.outside_of_item? found (List.prefix_refl _)

/-- What a walk stumbles over, it did not come upon before. -/
theorem exists_new_fault (way : Way tree start chain) (stumbles : Stumbles tree' place chain) :
    ∃ fault, Meets tree' chain (.fault fault) ∧
      ∀ chain, Way tree start chain → ¬ Meets tree chain (.fault fault) := by
  obtain ⟨here, above, name, target, rfl, isPlace, lists, why⟩ := stumbles
  have isName := adds.wf'.isName_of_child lists.child
  rcases why with ⟨error, lost⟩ | ⟨ancestor, member, back⟩
  · exact ⟨_, .broken lists lost, fun chain other met =>
      adds.path_ne_of_meets begins isPlace isName way other met rfl⟩
  · cases passed : (here :: above).find? fun other => other.location == ancestor.location with
    | none =>
      rw [List.find?_eq_none] at passed
      exact absurd (beq_self_eq_true _) (passed ancestor member)
    | some first =>
      exact ⟨_, .loop lists back passed, fun chain other met =>
        adds.path_ne_of_meets begins isPlace isName way other met rfl⟩

end Ways

/-- The file of a walk through the old tree is read as before and has its real location as
before. -/
theorem file_eq_of_mem_walk (adds : AddsHidden tree tree' place)
    (begins : tree.resolve root = .ok (location, .folder)) (member : .file p ∈ tree.walk root) :
    tree'.resolve p = tree.resolve p ∧ tree'.realLocation? p = tree.realLocation? p := by
  obtain ⟨chain, way, met⟩ := (mem_walk_iff begins).mp member
  cases met with
  | file lists | linked lists =>
    obtain ⟨left, opens⟩ := adds.opens_of_way begins way
    have found := adds.wf.mem_children_iff.mp lists.child
    exact ⟨adds.resolve_join_eq opens found, adds.realLocation?_join_eq opens found⟩

section Walks

variable (adds : AddsHidden tree tree' place) (begins : tree.resolve root = .ok (location, .folder))

include adds begins

/-- A walk comes upon what it came upon before. -/
theorem mem_walk_of_mem (member : visit ∈ tree.walk root) : visit ∈ tree'.walk root := by
  obtain ⟨chain, way, met⟩ := (mem_walk_iff begins).mp member
  have start : tree.resolve (⟨location, root⟩ : Ancestor).path = .ok (location, .folder) := begins
  exact (mem_walk_iff (adds.grows.isPart.resolve begins)).mpr
    ⟨chain, (adds.way_iff start).mpr way, adds.meets_of_meets start way met⟩

/-- What a walk comes upon now and did not come upon before is a fault where it stumbles. -/
theorem exists_stumbles_of_new (new : visit ∈ tree'.walk root) (unknown : visit ∉ tree.walk root) :
    (∃ chain, Way tree { location, path := root } chain ∧ Stumbles tree' place chain) ∧
      ∃ fault, visit = .fault fault := by
  obtain ⟨chain, way, met⟩ := (mem_walk_iff (adds.grows.isPart.resolve begins)).mp new
  have start : tree.resolve (⟨location, root⟩ : Ancestor).path = .ok (location, .folder) := begins
  have way := (adds.way_iff start).mp way
  rcases adds.meets_or_stumbles start way met with met | ⟨stumbles, fault⟩
  · exact absurd ((mem_walk_iff begins).mpr ⟨chain, way, met⟩) unknown
  · exact ⟨⟨chain, way, stumbles⟩, fault⟩

/-- Where a walk stumbles, it comes upon something new. -/
theorem exists_new_of_stumbles (way : Way tree { location, path := root } chain)
    (stumbles : Stumbles tree' place chain) :
    ∃ visit, visit ∈ tree'.walk root ∧ visit ∉ tree.walk root := by
  have start : tree.resolve (⟨location, root⟩ : Ancestor).path = .ok (location, .folder) := begins
  obtain ⟨fault, met, new⟩ := adds.exists_new_fault start way stumbles
  refine ⟨.fault fault, ?_, fun member => ?_⟩
  · exact (mem_walk_iff (adds.grows.isPart.resolve begins)).mpr
      ⟨chain, (adds.way_iff start).mpr way, met⟩
  · obtain ⟨chain, way, met⟩ := (mem_walk_iff begins).mp member
    exact new chain way met

/-- A walk comes upon what it came upon before, and upon faults where it stumbles. -/
theorem exists_strays :
    ∃ strays, (tree'.walk root).Perm (tree.walk root ++ strays) ∧
      (∀ visit ∈ strays, ∃ fault, visit = .fault fault) ∧
      (strays = [] ↔ ∀ chain, Way tree { location, path := root } chain →
        ¬ Stumbles tree' place chain) := by
  have distinct := (nodup_walk adds.wf root).of_map
  have distinct' := (nodup_walk adds.wf' root).of_map
  have isStray : ∀ visit, visit ∈ (tree'.walk root).filter (fun visit => visit ∉ tree.walk root) ↔
      visit ∈ tree'.walk root ∧ visit ∉ tree.walk root := by
    intro visit
    rw [List.mem_filter, decide_eq_true_eq]
  refine ⟨(tree'.walk root).filter fun visit => visit ∉ tree.walk root, ?_, ?_, ?_⟩
  · refine (List.perm_ext_iff_of_nodup distinct' ?_).mpr fun visit => ?_
    · refine List.Nodup.append distinct (distinct'.filter _) ?_
      exact fun visit member stray => ((isStray visit).mp stray).2 member
    · rw [List.mem_append, isStray]
      by_cases member : visit ∈ tree.walk root
      · exact iff_of_true (adds.mem_walk_of_mem begins member) (.inl member)
      · simp [member]
  · intro visit stray
    obtain ⟨new, unknown⟩ := (isStray visit).mp stray
    exact (adds.exists_stumbles_of_new begins new unknown).2
  · constructor
    · intro none chain way stumbles
      obtain ⟨visit, new⟩ := adds.exists_new_of_stumbles begins way stumbles
      have stray := (isStray visit).mpr new
      rw [none] at stray
      exact List.not_mem_nil stray
    · intro steady
      refine List.eq_nil_iff_forall_not_mem.mpr fun visit stray => ?_
      obtain ⟨new, unknown⟩ := (isStray visit).mp stray
      obtain ⟨chain, way, stumbles⟩ := (adds.exists_stumbles_of_new begins new unknown).1
      exact steady chain way stumbles

end Walks

end AddsHidden

end CatalogAudit.FileTree
