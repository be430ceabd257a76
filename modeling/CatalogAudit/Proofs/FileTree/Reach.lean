import CatalogAudit.Proofs.FileTree.Walk

/-!
# What can be reached below a root

A walk goes along names that do not begin with a dot, and it enters a folder only once on its way.
Nothing is lost by that: a path along such names that leads to a file may pass a folder twice, but
then a shorter one leads to the file too, through fewer links, and the walk comes upon that one.
The paths that a walk comes upon are all different.
-/

namespace CatalogAudit.FileTree

/-- A name that a folder can list and that a walk does not pass over. -/
structure IsSeen (name : Name) : Prop where
  /-- A folder can list it. -/
  isName : Path.IsName name
  /-- It does not begin with a dot. -/
  seen : isHidden name = false

/-- Names that a walk sees are names. -/
theorem IsSeen.isNames {names : List Name} (seen : ∀ name ∈ names, IsSeen name) :
    ∀ name ∈ names, Path.IsName name := fun name member => (seen name member).isName

/-! ## Paths to folders -/

section Folders

variable {tree : FileTree} {p : Path} {links left : Nat} {start goal location : Location}
  {name : Name}

/-- A route to the folder form of a path is a route along its names. -/
theorem Route.along_names (route : Route tree links start p.namesToFolder left goal) :
    Route tree links start p.names left goal := by
  unfold Path.namesToFolder at route
  split at route
  · obtain ⟨between, middle, first, second⟩ := route.split
    cases second with
    | dot _ more =>
      cases more
      exact first
    | down _ looked => exact absurd rfl looked.1
    | link _ looked => exact absurd rfl looked.1
  · exact route

/-- A route along the names of a path that ends at a folder goes on to its folder form. -/
theorem Route.to_folder (route : Route tree links start p.names left goal)
    (folder : tree.item? goal = some .folder) :
    Route tree links start p.namesToFolder left goal := by
  unfold Path.namesToFolder
  split
  · exact route.append (.dot folder .stay)
  · exact route

/-- The names of the path lead to a folder, and so many links may still be followed. -/
structure Opens (tree : FileTree) (p : Path) (left : Nat) (location : Location) : Prop where
  /-- The path holds something. -/
  filled : p.text ≠ []
  /-- The route along the names. -/
  route : Route tree linkLimit (tree.origin p) p.names left location
  /-- What is at its end. -/
  folder : tree.item? location = some .folder

/-- A path is looked up as a folder when it is short enough and its names lead to that folder. -/
theorem resolve_eq_folder_iff :
    tree.resolve p = .ok (location, .folder) ↔
      p.text.length ≤ pathLimit ∧ ∃ left, Opens tree p left location := by
  rw [resolve_eq_ok_iff]
  constructor
  · rintro ⟨⟨filled, short⟩, ⟨left, route⟩, folder⟩
    exact ⟨short, left, filled, route.along_names, folder⟩
  · rintro ⟨short, left, opens⟩
    exact ⟨⟨opens.filled, short⟩, ⟨left, opens.route.to_folder opens.folder⟩, opens.folder⟩

/-- A path opens one folder, with one number of links left. -/
theorem Opens.unique {left' : Nat} {location' : Location} (opens : Opens tree p left location)
    (opens' : Opens tree p left' location') : left = left' ∧ location = location' :=
  opens.route.unique opens'.route

/-- A name joined leaves the origin of a path that is not empty. -/
theorem origin_join (isName : Path.IsName name) (filled : p.text ≠ []) :
    tree.origin (p.join ⟨name⟩) = tree.origin p := by
  unfold origin
  rw [Path.isAbsolute_join isName filled]

/-- A path to a folder is put together from a path to its parent and a name that leads on. -/
theorem Opens.join {left' : Nat} (opens : Opens tree p left location) (isName : Path.IsName name)
    (route : Route tree left location [name] left' goal) (folder : tree.item? goal = some .folder) :
    Opens tree (p.join ⟨name⟩) left' goal := by
  refine ⟨Path.text_join_ne_nil isName, ?_, folder⟩
  rw [origin_join isName opens.filled, Path.names_join isName]
  exact opens.route.append route

/-- A joined name is looked up in the folder to which the path leads. -/
theorem Opens.resolve_join_iff (opens : Opens tree p left location) (isName : Path.IsName name)
    {item : Item} :
    tree.resolve (p.join ⟨name⟩) = .ok (goal, item) ↔
      (p.join ⟨name⟩).text.length ≤ pathLimit ∧
        (∃ left', Route tree left location [name] left' goal) ∧ tree.item? goal = some item := by
  rw [resolve_eq_ok_iff, IsWritable, origin_join isName opens.filled,
    Path.namesToFolder_join isName]
  constructor
  · rintro ⟨⟨-, short⟩, ⟨left', route⟩, there⟩
    obtain ⟨between, middle, first, second⟩ := route.split
    obtain ⟨rfl, rfl⟩ := opens.route.unique first
    exact ⟨short, ⟨left', second⟩, there⟩
  · rintro ⟨short, ⟨left', second⟩, there⟩
    exact ⟨⟨Path.text_join_ne_nil isName, short⟩, ⟨left', opens.route.append second⟩, there⟩

end Folders

/-! ## Parts of a tree -/

/-- A tree with some of the items of another one. -/
structure IsPart (part tree : FileTree) : Prop where
  /-- Relative paths begin at the same place. -/
  home : part.home = tree.home
  /-- What is there is there in the whole tree too. -/
  keeps : ∀ location item, part.item? location = some item → tree.item? location = some item

/-- A path begins at the same location in a part of a tree. -/
theorem IsPart.origin_eq {part tree : FileTree} (isPart : IsPart part tree) (p : Path) :
    part.origin p = tree.origin p := by
  unfold origin
  rw [isPart.home]

/-- A route in a part of a tree is a route in the tree. -/
theorem IsPart.route {part tree : FileTree} (isPart : IsPart part tree) {links left : Nat}
    {current goal : Location} {names : List Name}
    (route : Route part links current names left goal) :
    Route tree links current names left goal := route.mono isPart.keeps

/-- What is found in a part is found in the whole tree. -/
theorem IsPart.resolve {part tree : FileTree} (isPart : IsPart part tree) {p : Path}
    {location : Location} {item : Item} (resolved : part.resolve p = .ok (location, item)) :
    tree.resolve p = .ok (location, item) := by
  obtain ⟨writable, ⟨left, route⟩, found⟩ := resolve_eq_ok_iff.mp resolved
  rw [isPart.origin_eq] at route
  exact resolve_eq_ok_iff.mpr ⟨writable, ⟨left, isPart.route route⟩, isPart.keeps _ _ found⟩

/-- Of the entries those with a short path of their own can be addressed. -/
theorem item?_addressable {tree : FileTree} (location : Location) :
    tree.addressable.item? location =
      if (pathOf location).text.length ≤ pathLimit then tree.item? location else none := by
  by_cases top : location = []
  · rw [top, if_pos (by decide)]
    rfl
  · rw [item?_of_ne_nil top, item?_of_ne_nil top, addressable,
      lookup_filter fun location => decide ((pathOf location).text.length ≤ pathLimit)]
    simp only [decide_eq_true_eq]

/-- What has an address in a tree is a part of it. -/
theorem addressable_isPart (tree : FileTree) : IsPart tree.addressable tree where
  home := rfl
  keeps := by
    intro location item found
    rw [item?_addressable] at found
    split at found
    · exact found
    · contradiction

/-- The real location of a path is where its names lead through addressable entries. -/
theorem realLocation?_eq_some_iff {tree : FileTree} {p : Path} {location : Location} :
    tree.realLocation? p = some location ↔
      p.text ≠ [] ∧
        (∃ left, Route tree.addressable linkLimit (tree.origin p) p.namesToFolder left location) ∧
        ∃ item, tree.addressable.item? location = some item := by
  unfold realLocation?
  by_cases none : p.text = []
  · simp [none]
  · rw [if_neg (by simpa using none)]
    constructor
    · intro found
      split at found
      · rename_i location' item followed
        rw [Option.some_inj] at found
        subst found
        obtain ⟨route, there⟩ := follow_eq_ok_iff.mp followed
        exact ⟨none, route, item, there⟩
      · contradiction
    · rintro ⟨-, route, item, there⟩
      have followed := follow_eq_ok_iff.mpr ⟨route, there⟩
      rw [origin] at followed
      rw [followed]

/-! ## Where ways lead -/

section Ways

variable {tree : FileTree} {start : Ancestor} {chain : List Ancestor}

/-- Every folder on a way is the end of a shorter way, and names that are seen lead on from it. -/
theorem Way.exists_shorter (wf : tree.WellFormed) (way : Way tree start chain) :
    ∃ here above, chain = here :: above ∧ ∀ ancestor ∈ chain, ∃ higher more,
      Way tree start (ancestor :: higher) ∧ (∀ name ∈ more, IsSeen name) ∧
        here.path = ancestor.path.below more := by
  induction way with
  | start =>
    refine ⟨start, [], rfl, fun ancestor member => ?_⟩
    rw [List.mem_singleton] at member
    subst member
    exact ⟨[], [], .start, nofun, rfl⟩
  | @enter chain next way entered ih =>
    obtain ⟨here, above, rfl, shorter⟩ := ih
    have further : ∀ {name : Name} {location : Location}, IsSeen name →
        Way tree start ({ location, path := here.path.join ⟨name⟩ } :: here :: above) →
        ∀ ancestor ∈ { location, path := here.path.join ⟨name⟩ } :: here :: above,
          ∃ higher more, Way tree start (ancestor :: higher) ∧ (∀ name ∈ more, IsSeen name) ∧
            here.path.join ⟨name⟩ = ancestor.path.below more := by
      intro name location isSeen longer ancestor member
      rcases List.mem_cons.mp member with rfl | member
      · exact ⟨_, [], longer, nofun, rfl⟩
      · obtain ⟨higher, more, way, seen, path⟩ := shorter ancestor member
        refine ⟨higher, more ++ [name], way, ?_, by rw [path, Path.below_concat]⟩
        rw [List.forall_mem_append, List.forall_mem_singleton]
        exact ⟨seen, isSeen⟩
    have longer := Way.enter way entered
    cases entered with
    | folder lists seen =>
      exact ⟨_, _, rfl, further ⟨wf.isName_of_child lists.child, seen⟩ longer⟩
    | link lists leads new seen =>
      exact ⟨_, _, rfl, further ⟨wf.isName_of_child lists.child, seen⟩ longer⟩

/-- The name of a child is looked up. -/
theorem isLooked_of_child (wf : tree.WellFormed) {folder : Location} {name : Name} {item : Item}
    (child : (name, item) ∈ tree.children folder) : IsLooked name :=
  ⟨(wf.isName_of_child child).ne_dot, (wf.isName_of_child child).notUp, wf.short_of_child child⟩

/-- The path of the nearest folder on a way leads to it. -/
theorem Way.exists_opens (wf : tree.WellFormed)
    (begins : ∃ left, Opens tree start.path left start.location) (way : Way tree start chain) :
    ∃ here above, chain = here :: above ∧ ∃ left, Opens tree here.path left here.location := by
  induction way with
  | start => exact ⟨start, [], rfl, begins⟩
  | @enter chain next way entered ih =>
    obtain ⟨here, above, rfl, left, opens⟩ := ih
    cases entered with
    | folder lists seen =>
      have there := wf.mem_children_iff.mp lists.child
      have route : Route tree left here.location [_] left _ :=
        .down opens.folder (isLooked_of_child wf lists.child) there (fun _ => Item.noConfusion)
          .stay
      exact ⟨_, _, rfl, left, opens.join (wf.isName_of_child lists.child) route there⟩
    | link lists leads new seen =>
      exact ⟨_, _, rfl, (resolve_eq_folder_iff.mp leads).2⟩

end Ways

/-! ## Nothing is lost -/

section Complete

variable {tree part : FileTree} {root : Path} {location goal : Location} {left : Nat}
  {names : List Name}

/-- A name joined keeps the order of lengths. -/
theorem length_lead_mono {p q : Path} {name : Name} (isName : Path.IsName name)
    (le : p.lead.length ≤ q.lead.length) :
    (p.join ⟨name⟩).lead.length ≤ (q.join ⟨name⟩).lead.length := by
  rw [Path.lead_join isName, Path.lead_join isName]
  simp only [List.length_append]
  omega

/-- The folder above is named by no more characters than what stands in it. -/
theorem length_lead_le_text {p : Path} {name : Name} (isName : Path.IsName name) :
    p.lead.length ≤ (p.join ⟨name⟩).text.length := by
  rw [Path.text_join isName, List.length_append]
  omega

/-- The folders above are named by no more characters than the ones below them. -/
theorem length_lead_below (isNames : ∀ name ∈ names, Path.IsName name) (p : Path) :
    p.lead.length ≤ (p.below names).lead.length := by
  induction names using List.reverseRecOn with
  | nil => exact le_refl _
  | append_singleton names name ih =>
    rw [List.forall_mem_append, List.forall_mem_singleton] at isNames
    rw [Path.below_concat]
    calc p.lead.length ≤ (p.below names).lead.length := ih isNames.1
      _ ≤ ((p.below names).join ⟨name⟩).text.length := length_lead_le_text isNames.2
      _ ≤ ((p.below names).join ⟨name⟩).lead.length := Path.length_text_le_lead _

/-- What a way to a folder has in common with a path to it that may pass folders twice: the same
part of the tree suffices for it, it follows no more links, and it is no longer. -/
structure Shortens (tree part : FileTree) (root : Path) (location : Location) (names : List Name)
    (left : Nat) (goal : Location) (here : Ancestor) (above : List Ancestor) : Prop where
  /-- A walk can come along the way. -/
  way : Way tree { location, path := root } (here :: above)
  /-- The way leads to the folder. -/
  location_eq : here.location = goal
  /-- The part of the tree suffices, and no fewer links are left. -/
  route : ∃ left', left ≤ left' ∧ Opens part here.path left' goal
  /-- The path is no longer. -/
  short : here.path.lead.length ≤ (root.below names).lead.length

/-- The last name of a path is the name of an entry of a folder. -/
theorem Opens.exists_before {p : Path} {name : Name} (isName : Path.IsName name)
    (filled : p.text ≠ []) (opens : Opens tree (p.join ⟨name⟩) left goal) :
    ∃ between middle, Opens tree p between middle ∧ Route tree between middle [name] left goal := by
  have route := opens.route
  rw [origin_join isName filled, Path.names_join isName] at route
  obtain ⟨between, middle, first, last⟩ := route.split
  refine ⟨between, middle, ⟨filled, first, ?_⟩, last⟩
  cases last with
  | dot folder | up folder | down folder | link folder => exact folder

/-- A name leads to the entry of that name, or to where a link of that name leads. -/
theorem Route.entry_cases {links : Nat} {current : Location} {name : Name}
    (isName : Path.IsName name) (route : Route tree links current [name] left goal) :
    (goal = current ++ [name] ∧ ∀ target, tree.item? goal ≠ some (.link target)) ∨
      ∃ target, tree.item? (current ++ [name]) = some (.link target) := by
  cases route with
  | dot => exact absurd rfl isName.ne_dot
  | up => exact absurd rfl isName.notUp
  | down _ _ found noLink more =>
    cases more
    exact .inl ⟨rfl, fun target link => noLink target (Option.some_inj.mp (found.symm.trans link))⟩
  | link _ _ found _ => exact .inr ⟨_, found⟩

/-- What opens in a part of a tree opens in the tree. -/
theorem Opens.of_part {p : Path} (isPart : IsPart part tree) (opens : Opens part p left goal) :
    Opens tree p left goal where
  filled := opens.filled
  route := isPart.origin_eq p ▸ isPart.route opens.route
  folder := isPart.keeps _ _ opens.folder

/-- A folder on the way to another one is opened with no fewer links left. -/
theorem Opens.exists_above {p : Path} {left' : Nat} {location' : Location}
    (isPart : IsPart part tree) (isNames : ∀ name ∈ names, Path.IsName name)
    (above : Opens tree p left' location')
    (folder : part.item? location' = some .folder) (opens : Opens part (p.below names) left goal) :
    ∃ left', left ≤ left' ∧ Opens part p left' location' := by
  have route := opens.route
  have origin : part.origin (p.below names) = part.origin p := by
    unfold FileTree.origin
    rw [Path.isAbsolute_below isNames above.filled]
  rw [origin, Path.names_below isNames] at route
  obtain ⟨between, middle, first, last⟩ := route.split
  have whole : Route tree linkLimit (tree.origin p) p.names between middle :=
    isPart.origin_eq p ▸ isPart.route first
  obtain ⟨-, rfl⟩ := above.route.unique whole
  exact ⟨between, last.left_le, above.filled, first, folder⟩

/-- A name that leads on from a folder leads on from the end of a shorter way to it as well. -/
theorem Shortens.onward {between : Nat} {middle : Location} {name : Name} {here : Ancestor}
    {above : List Ancestor}
    (shorter : Shortens tree part root location names between middle here above)
    (isPart : IsPart part tree) (isName : Path.IsName name)
    (last : Route part between middle [name] left goal)
    (short : ((root.below names).join ⟨name⟩).text.length ≤ pathLimit) :
    tree.resolve here.path = .ok (here.location, .folder) ∧
      (here.path.join ⟨name⟩).text.length ≤ pathLimit ∧
      ∃ before after, left ≤ after ∧ Opens part here.path before here.location ∧
        Route part before here.location [name] after goal := by
  obtain ⟨-, rfl, ⟨before, most, opens⟩, lead⟩ := shorter
  have hereLead := length_lead_le_text (p := here.path) isName
  have hereText := Path.length_text_le_lead here.path
  have nextShort : (here.path.join ⟨name⟩).text.length ≤ pathLimit := by
    rw [Path.text_join isName, List.length_append] at short ⊢
    omega
  have onward := last.more_links (before - between)
  rw [Nat.add_sub_cancel' most] at onward
  exact ⟨resolve_eq_folder_iff.mpr ⟨by omega, before, opens.of_part isPart⟩, nextShort, before, _,
    Nat.le_add_right _ _, opens, onward⟩

/-- A folder through which a shorter way has come has a way that is shorter still. -/
theorem Shortens.of_passed (wf : tree.WellFormed) (isPart : IsPart part tree)
    (begins : tree.resolve root = .ok (location, .folder)) {between : Nat} {middle : Location}
    {here ancestor : Ancestor} {above : List Ancestor}
    (shorter : Shortens tree part root location names between middle here above)
    (member : ancestor ∈ here :: above) (folder : part.item? ancestor.location = some .folder) :
    ∃ higher, Shortens tree part root location names between ancestor.location ancestor higher := by
  obtain ⟨way, rfl, ⟨before, most, opens⟩, lead⟩ := shorter
  obtain ⟨_, _, chain, through⟩ := way.exists_shorter wf
  obtain ⟨rfl, rfl⟩ := List.cons.inj chain
  obtain ⟨higher, more, shortWay, seen, path⟩ := through ancestor member
  obtain ⟨_, _, chain, left, above⟩ :=
    shortWay.exists_opens wf (resolve_eq_folder_iff.mp begins).2
  obtain ⟨rfl, rfl⟩ := List.cons.inj chain
  rw [path] at opens lead
  obtain ⟨left', more', above⟩ :=
    Opens.exists_above isPart (IsSeen.isNames seen) above folder opens
  have leads := length_lead_below (IsSeen.isNames seen) ancestor.path
  exact ⟨higher, shortWay, rfl, ⟨left', by omega, above⟩, by omega⟩

/-- Below a folder, every folder that names lead to is entered by a walk. -/
theorem exists_shortens (wf : tree.WellFormed) (isPart : IsPart part tree)
    (begins : tree.resolve root = .ok (location, .folder)) (seen : ∀ name ∈ names, IsSeen name)
    (opens : Opens part (root.below names) left goal)
    (short : (root.below names).text.length ≤ pathLimit) :
    ∃ here above, Shortens tree part root location names left goal here above := by
  obtain ⟨-, rootLeft, rootOpens⟩ := resolve_eq_folder_iff.mp begins
  induction names using List.reverseRecOn generalizing left goal with
  | nil =>
    obtain ⟨-, same⟩ := rootOpens.unique (opens.of_part isPart)
    exact ⟨_, _, .start, same, ⟨left, le_refl _, opens⟩, le_refl _⟩
  | append_singleton names name ih =>
    rw [List.forall_mem_append, List.forall_mem_singleton] at seen
    obtain ⟨seen, isSeen⟩ := seen
    have isName := isSeen.isName
    rw [Path.below_concat] at opens short
    have filled := Path.text_below_ne_nil (IsSeen.isNames seen) rootOpens.filled
    obtain ⟨between, middle, before, last⟩ := opens.exists_before isName filled
    have lead := length_lead_le_text (p := root.below names) isName
    have text := Path.length_text_le_lead (root.below names)
    obtain ⟨here, above, shorter⟩ := ih seen before (by omega)
    -- The walk has come to the folder of the last name; that name leads on from there as well.
    obtain ⟨opened, nextShort, hereLeft, after, most, hereOpens, route⟩ :=
      shorter.onward isPart isName last short
    have next : Opens part (here.path.join ⟨name⟩) after goal :=
      hereOpens.join isName route opens.folder
    have nextLead := length_lead_mono isName shorter.short
    rw [← Path.below_concat] at nextLead
    rcases route.entry_cases isName with ⟨rfl, -⟩ | ⟨target, found⟩
    · have lists : Lists tree here name .folder :=
        ⟨⟨_, opened⟩, wf.mem_children_iff.mpr (isPart.keeps _ _ opens.folder)⟩
      exact ⟨_, _, shorter.way.enter (.folder lists isSeen.seen), rfl, ⟨after, most, next⟩,
        nextLead⟩
    · have lists : Lists tree here name (.link target) :=
        ⟨⟨_, opened⟩, wf.mem_children_iff.mpr (isPart.keeps _ _ found)⟩
      have resolved := resolve_eq_folder_iff.mpr ⟨nextShort, _, next.of_part isPart⟩
      by_cases passed : ∃ ancestor ∈ here :: above, ancestor.location = goal
      · -- The walk does not follow the link, but it has come through the folder before.
        obtain ⟨ancestor, member, rfl⟩ := passed
        obtain ⟨higher, way, same, ⟨left', more, ancestorOpens⟩, ancestorLead⟩ :=
          shorter.of_passed wf isPart begins member opens.folder
        have least := last.left_le
        have final := Path.length_text_le_lead ((root.below names).join ⟨name⟩)
        refine ⟨ancestor, higher, way, same, ⟨left', by omega, ancestorOpens⟩, ?_⟩
        rw [Path.below_concat]
        omega
      · have new : ∀ ancestor ∈ here :: above, ancestor.location ≠ goal :=
          fun ancestor member same => passed ⟨ancestor, member, same⟩
        exact ⟨_, _, shorter.way.enter (.link lists resolved new isSeen.seen), rfl,
          ⟨after, most, next⟩, nextLead⟩

/-- A way goes from the path of its start down names that a walk sees. -/
theorem Way.exists_below (wf : tree.WellFormed) {start here : Ancestor} {above : List Ancestor}
    (way : Way tree start (here :: above)) :
    ∃ names, (∀ name ∈ names, IsSeen name) ∧ here.path = start.path.below names := by
  have member : start ∈ here :: above := by
    generalize here :: above = chain at way
    induction way with
    | start => exact List.mem_cons_self
    | enter _ entered ih => cases entered <;> exact List.mem_cons_of_mem _ ih
  obtain ⟨_, _, chain, shorter⟩ := way.exists_shorter wf
  obtain ⟨rfl, rfl⟩ := List.cons.inj chain
  obtain ⟨-, more, -, seen, path⟩ := shorter start member
  exact ⟨more, seen, path⟩

/-- Every file that names which are seen lead to is come upon by a walk, along names of which the
last is the same, and in the same part of the tree. -/
theorem exists_file_mem_walk (wf : tree.WellFormed) (isPart : IsPart part tree)
    (begins : tree.resolve root = .ok (location, .folder)) {name : Name} {bytes : ByteArray}
    (seen : ∀ name ∈ names, IsSeen name) (isSeen : IsSeen name)
    (resolved : tree.resolve (root.below (names ++ [name])) = .ok (goal, .file bytes))
    (route : ∃ left, Route part linkLimit (part.origin (root.below (names ++ [name])))
      (root.below (names ++ [name])).namesToFolder left goal) :
    ∃ names', (∀ name ∈ names', IsSeen name) ∧
      .file (root.below (names' ++ [name])) ∈ tree.walk root ∧
      tree.resolve (root.below (names' ++ [name])) = .ok (goal, .file bytes) ∧
      ∃ left, Route part linkLimit (part.origin (root.below (names' ++ [name])))
        (root.below (names' ++ [name])).namesToFolder left goal := by
  have rootFilled : root.text ≠ [] := (resolve_eq_ok_iff.mp begins).1.1
  have filled := Path.text_below_ne_nil (IsSeen.isNames seen) rootFilled
  have isName := isSeen.isName
  obtain ⟨⟨-, short⟩, -, file⟩ := resolve_eq_ok_iff.mp resolved
  obtain ⟨left, route⟩ := route
  rw [Path.below_concat] at short route
  rw [Path.namesToFolder_join isName, origin_join isName filled] at route
  obtain ⟨between, middle, first, last⟩ := route.split
  have folder : part.item? middle = some .folder := by
    cases last with
    | dot folder | up folder | down folder | link folder => exact folder
  have lead := length_lead_le_text (p := root.below names) isName
  have text := Path.length_text_le_lead (root.below names)
  obtain ⟨here, above, shorter⟩ :=
    exists_shortens wf isPart begins seen ⟨filled, first, folder⟩ (by omega)
  obtain ⟨opened, nextShort, before, after, -, opens, onward⟩ :=
    shorter.onward isPart isName last short
  obtain ⟨names', seen', path⟩ := shorter.way.exists_below wf
  dsimp only at path
  have leads : tree.resolve (here.path.join ⟨name⟩) = .ok (goal, .file bytes) :=
    ((opens.of_part isPart).resolve_join_iff isName).mpr ⟨nextShort, ⟨_, isPart.route onward⟩, file⟩
  have met : Meets tree (here :: above) (.file (here.path.join ⟨name⟩)) := by
    rcases onward.entry_cases isName with ⟨rfl, -⟩ | ⟨target, found⟩
    · exact .file ⟨⟨_, opened⟩, wf.mem_children_iff.mpr file⟩ isSeen.seen
    · have lists : Lists tree here name (.link target) :=
        ⟨⟨_, opened⟩, wf.mem_children_iff.mpr (isPart.keeps _ _ found)⟩
      exact .linked lists leads Item.noConfusion isSeen.seen
  refine ⟨names', seen', ?_⟩
  rw [Path.below_concat, ← path]
  refine ⟨(mem_walk_iff begins).mpr ⟨_, shorter.way, met⟩, leads, after, ?_⟩
  rw [Path.namesToFolder_join isName, origin_join isName opens.filled]
  exact opens.route.append onward

end Complete

/-! ## What paths are visited -/

section Paths

variable {tree : FileTree}

/-- A file that a walk comes upon has a path of names that are seen. -/
theorem exists_names_of_file_mem_walk (wf : tree.WellFormed) {root path : Path}
    {location : Location} (begins : tree.resolve root = .ok (location, .folder))
    (member : .file path ∈ tree.walk root) :
    ∃ names name, (∀ name ∈ names, IsSeen name) ∧ IsSeen name ∧
      path = root.below (names ++ [name]) := by
  obtain ⟨chain, way, met⟩ := (mem_walk_iff begins).mp member
  cases met with
  | file lists seen | linked lists _ _ seen =>
    obtain ⟨names, seenNames, here⟩ := way.exists_below wf
    refine ⟨names, _, seenNames, ⟨wf.isName_of_child lists.child, seen⟩, ?_⟩
    rw [Path.below_concat, ← here]

/-- Different paths below a path, along names that satisfy `Fits`. -/
structure FansOut (Fits : Name → Prop) (visits : List Visit) (p : Path) : Prop where
  /-- All paths lead along such names. -/
  below : ∀ visit ∈ visits, ∃ names, (∀ name ∈ names, Path.IsName name ∧ Fits name) ∧
    visit.path = p.below names
  /-- No two of them are the same. -/
  distinct : (visits.map Visit.path).Nodup

/-- All names of a tree satisfy `Fits`. -/
def NamesFit (Fits : Name → Prop) (tree : FileTree) : Prop :=
  ∀ entry ∈ tree.items, ∀ name ∈ entry.1, Fits name

instance {Fits : Name → Prop} [DecidablePred Fits] : Decidable (NamesFit Fits tree) :=
  inferInstanceAs (Decidable (∀ entry ∈ tree.items, ∀ name ∈ entry.1, Fits name))

variable {Fits : Name → Prop}

/-- Without visits there is nothing to tell apart. -/
theorem FansOut.nil (p : Path) : FansOut Fits [] p := ⟨nofun, .nil⟩

/-- A single visit has nothing to be told apart from. -/
theorem FansOut.single (visit : Visit) : FansOut Fits [visit] visit.path := by
  refine ⟨fun other member => ?_, List.nodup_singleton _⟩
  rw [List.mem_singleton] at member
  subst member
  exact ⟨[], nofun, rfl⟩

variable {here : Ancestor} {above : List Ancestor} {name : Name} {item : Item}
  {enter : List Ancestor → List Visit}

/-- The visits of an entry of a folder stay below its name. -/
theorem fansOut_visitEntry
    (fans : ∀ (ancestor : Ancestor) (chain : List Ancestor),
      FansOut Fits (enter (ancestor :: chain)) ancestor.path) :
    FansOut Fits (visitEntry tree enter (here :: above) here name item)
      (here.path.join ⟨name⟩) := by
  unfold visitEntry
  cases item with
  | file bytes =>
    dsimp only
    split
    · exact .nil _
    · exact .single (.file _)
  | folder =>
    dsimp only
    split
    · exact .nil _
    · exact fans _ _
  | link target =>
    dsimp only
    split
    · exact .single (.fault (.file _ _))
    · split
      · split
        · exact .single (.fault (.loop _ _))
        · split
          · exact .nil _
          · exact fans _ _
      · split
        · exact .nil _
        · exact .single (.file _)

/-- A walk comes upon everything once, along names from its beginning. -/
theorem fansOut_walkFrom (wf : tree.WellFormed) (fit : NamesFit Fits tree) (fuel : Nat)
    (here : Ancestor) (above : List Ancestor) :
    FansOut Fits (tree.walkFrom fuel (here :: above)) here.path := by
  induction fuel generalizing here above with
  | zero => exact .nil _
  | succ fuel ih =>
    cases opened : tree.resolve here.path with
    | error e =>
      rw [walkFrom_shut opened]
      exact .single (.fault (.file here.path e))
    | ok found =>
      rw [walkFrom_open opened]
      have entry : ∀ child : Name × Item, FansOut Fits
          (visitEntry tree (tree.walkFrom fuel) (here :: above) here child.1 child.2)
          (here.path.join ⟨child.1⟩) :=
        fun child => fansOut_visitEntry fun ancestor chain => ih ancestor chain
      constructor
      · intro visit member
        obtain ⟨child, listed, member⟩ := List.mem_flatMap.mp member
        obtain ⟨names, isNames, path⟩ := (entry child).below visit member
        refine ⟨child.1 :: names, ?_, path⟩
        have own := fit _ (mem_children_iff.mp listed) child.1 (by simp)
        exact List.forall_mem_cons.mpr ⟨⟨wf.isName_of_child listed, own⟩, isNames⟩
      · rw [List.map_flatMap, List.nodup_flatMap]
        refine ⟨fun child _ => (entry child).distinct, ?_⟩
        have names := List.pairwise_map.mp (wf.nodup_names here.location)
        refine names.imp_of_mem fun {child other} listed listed' different => ?_
        refine List.disjoint_left.mpr fun {common} member member' => ?_
        obtain ⟨visit, visited, rfl⟩ := List.mem_map.mp member
        obtain ⟨visit', visited', same⟩ := List.mem_map.mp member'
        obtain ⟨more, isNames, path⟩ := (entry child).below visit visited
        obtain ⟨more', isNames', path'⟩ := (entry other).below visit' visited'
        have together : here.path.below (other.1 :: more') = here.path.below (child.1 :: more) :=
          path'.symm.trans (same.trans path)
        have alike := Path.below_inj
          (List.forall_mem_cons.mpr
            ⟨wf.isName_of_child listed', fun name member => (isNames' name member).1⟩)
          (List.forall_mem_cons.mpr
            ⟨wf.isName_of_child listed, fun name member => (isNames name member).1⟩) together
        exact different (List.cons.inj alike).1.symm

/-- A walk visits different paths below its root, along names of the tree. -/
theorem fansOut_walk (wf : tree.WellFormed) (fit : NamesFit Fits tree) (root : Path) :
    FansOut Fits (tree.walk root) root := by
  unfold walk
  split
  · exact .single (.fault (.file root _))
  · exact fansOut_walkFrom wf fit _ _ _
  · exact .single (.file root)

/-- A walk comes upon every path once. -/
theorem nodup_walk (wf : tree.WellFormed) (root : Path) :
    ((tree.walk root).map Visit.path).Nodup := by
  have fit : NamesFit (fun _ => True) tree := fun _ _ _ _ => trivial
  exact (fansOut_walk wf fit root).distinct

end Paths

end CatalogAudit.FileTree
