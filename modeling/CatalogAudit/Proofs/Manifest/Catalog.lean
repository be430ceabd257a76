import CatalogAudit.Manifest.Basic
import CatalogAudit.Proofs.Registry.Members
import Mathlib.Data.List.Nodup

/-!
# Tokens of a valid catalog

Validation lets every token occur once, so the index of a catalog answers exactly for the tokens of
its entries.
-/

namespace CatalogAudit.Manifest

/-- Validation after valid entries with distinct tokens keeps the tokens distinct. -/
theorem nodup_of_validateFrom {valid : List Entry} {position : Nat} {raw : List RawEntry}
    {entries : List Entry} (distinct : (valid.map (·.token)).Nodup)
    (h : validateFrom valid position raw = .ok entries) : (entries.map (·.token)).Nodup := by
  induction raw generalizing valid position with
  | nil =>
    simp only [validateFrom, Except.ok.injEq] at h
    rw [← h, List.map_reverse]
    exact List.nodup_reverse.mpr distinct
  | cons first rest ih =>
    unfold validateFrom at h
    split at h
    · contradiction
    · split at h
      · contradiction
      · rename_i entry _ fresh
        have unseen : entry.token ∉ valid.map (·.token) := by
          intro member
          obtain ⟨earlier, member, same⟩ := List.mem_map.mp member
          exact fresh (List.any_eq_true.mpr ⟨earlier, member, by simpa using same⟩)
        have extended : ((entry :: valid).map (·.token)).Nodup :=
          List.nodup_cons.mpr ⟨unseen, distinct⟩
        exact ih extended h

/-- The tokens of valid entries are distinct. -/
theorem nodup_of_validate {raw : List RawEntry} {entries : List Entry}
    (h : validate raw = .ok entries) : (ofEntries entries).tokens.Nodup := by
  have start : (([] : List Entry).map (·.token)).Nodup := List.nodup_nil
  exact nodup_of_validateFrom start h

/-- The index has the tokens of the entries. -/
theorem mem_names_index_iff {entries : List Entry} {token : String} :
    token ∈ (ofEntries entries).index.names ↔ token ∈ (ofEntries entries).tokens := by
  have keys : (entries.zipIdx.map fun row => (row.1.token, row.2)).map (·.1) =
      (ofEntries entries).tokens := by
    rw [List.map_map]
    change entries.zipIdx.map ((·.token) ∘ Prod.fst) = _
    rw [← List.map_map, List.zipIdx_map_fst]
    rfl
  rw [← keys]
  exact NameTable.mem_names_ofRows

/-- A catalog contains exactly the tokens of its entries. -/
theorem contains_iff {entries : List Entry} {token : String} :
    (ofEntries entries).contains token = true ↔ token ∈ (ofEntries entries).tokens := by
  rw [← mem_names_index_iff]
  exact NameTable.mem_names_iff.symm

end CatalogAudit.Manifest
