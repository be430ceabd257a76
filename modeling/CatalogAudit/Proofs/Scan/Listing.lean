import CatalogAudit.Proofs.Registry.Building
import CatalogAudit.Scan.Run

/-!
# The registry of a scan

A scan keeps a registry beside the entries of the single files. Both say the same: the registry
holds a path under a token exactly when an entry with that path lists the token.
-/

namespace CatalogAudit.Scan

/-- The registrations in entries. -/
def registrations (entries : List Entry) : List (String × String) :=
  entries.flatMap fun entry => entry.tokens.map fun token => (token, entry.path)

namespace Outcome

/-- An entry with that path lists the token. -/
def Lists (outcome : Outcome) (token path : String) : Prop :=
  ∃ entry ∈ outcome.entries, entry.path = path ∧ token ∈ entry.tokens

/-- The registry holds the registrations of the entries and nothing else. -/
def IsFolded (outcome : Outcome) : Prop :=
  outcome.registry = Registry.ofList (registrations outcome.entries)

end Outcome

/-- The registrations are the tokens of every entry under its path. -/
theorem mem_registrations_iff {entries : List Entry} {token path : String} :
    (token, path) ∈ registrations entries ↔
      ∃ entry ∈ entries, entry.path = path ∧ token ∈ entry.tokens := by
  unfold registrations
  simp only [List.mem_flatMap, List.mem_map, Prod.mk.injEq]
  constructor
  · rintro ⟨entry, member, _, listed, rfl, rfl⟩
    exact ⟨entry, member, rfl, listed⟩
  · rintro ⟨entry, member, rfl, listed⟩
    exact ⟨entry, member, token, listed, rfl, rfl⟩

namespace Outcome

variable {outcome : Outcome}

/-- The paths of a token in the registry are those of the entries that list it. -/
theorem IsFolded.mem_pathsOf_iff (folded : outcome.IsFolded) {token path : String} :
    path ∈ (outcome.registry.pathsOf token).names ↔ outcome.Lists token path := by
  rw [folded, Registry.mem_pathsOf_ofList]
  exact mem_registrations_iff

/-- The registry contains the tokens that are listed under some path. -/
theorem IsFolded.contains_iff (folded : outcome.IsFolded) {token : String} :
    outcome.registry.contains token = true ↔ ∃ path, outcome.Lists token path := by
  rw [Registry.contains_iff]
  exact exists_congr fun path => folded.mem_pathsOf_iff

end Outcome

/-- It makes no difference whether registrations are recorded one by one or a registry of each file
is merged. -/
theorem registryOf_eq (entries : List Entry) :
    registryOf entries = Registry.ofList (registrations entries) := by
  have merged := Registry.foldl_merge_ofList
    (entries.map fun entry => entry.tokens.map fun token => (token, entry.path))
  rw [List.map_map, List.foldl_map] at merged
  rw [registrations, List.flatMap_def, ← merged]
  rfl

/-- Every scan yields a registry of its entries. -/
theorem isFolded_of_run {tree : FileTree} {settings : Settings} {roots : List Path}
    {outcome : Outcome} (h : run tree settings roots = .ok outcome) : outcome.IsFolded := by
  unfold run at h
  cases walked : roots.mapM (visitsOf tree) with
  | error fault =>
    rw [walked] at h
    contradiction
  | ok visits =>
    rw [walked] at h
    simp only [Except.map, Except.ok.injEq] at h
    rw [← h]
    exact registryOf_eq _

end CatalogAudit.Scan
