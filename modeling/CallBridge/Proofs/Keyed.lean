import CallBridge.Keyed
import Mathlib.Data.List.Induction

/-!
# What lists in key order hold

Entering a pair keeps the order, and brings in nothing but that pair. So a list that pairs were
entered into is in order (`sorted_ofList`) and holds only these pairs (`mem_of_mem_ofList`).
-/

namespace CallBridge.Keyed

variable {α : Type} {key : String} {value : α} {entries : List (String × α)} {p : String × α}

theorem mem_of_lookup (h : entries.lookup key = some value) : (key, value) ∈ entries := by
  obtain ⟨before, after, rfl, -⟩ := List.lookup_eq_some_iff.1 h
  exact List.mem_append_right before List.mem_cons_self

theorem mem_insert (h : p ∈ insert key value entries) : p = (key, value) ∨ p ∈ entries := by
  induction entries with
  | nil => exact .inl (List.mem_singleton.1 h)
  | cons q rest ih =>
      obtain ⟨k, v⟩ := q
      rw [insert] at h
      split at h
      · exact List.mem_cons.1 h
      · split at h
        · rcases List.mem_cons.1 h with rfl | hmem
          · exact .inl rfl
          · exact .inr (List.mem_cons_of_mem _ hmem)
        · rcases List.mem_cons.1 h with rfl | hmem
          · exact .inr List.mem_cons_self
          · exact (ih hmem).imp_right (List.mem_cons_of_mem _)

theorem sorted_cons_iff : Sorted (p :: entries) ↔ (∀ q ∈ entries, p.1 < q.1) ∧ Sorted entries := by
  unfold Sorted keys
  rw [List.map_cons, List.pairwise_cons, List.forall_mem_map]

theorem sorted_insert (h : Sorted entries) : Sorted (insert key value entries) := by
  induction entries with
  | nil => exact List.pairwise_singleton _ _
  | cons q rest ih =>
      obtain ⟨k, v⟩ := q
      obtain ⟨habove, hrest⟩ := sorted_cons_iff.1 h
      rw [insert]
      split
      · next hlt =>
          refine sorted_cons_iff.2 ⟨fun p hp => ?_, h⟩
          rcases List.mem_cons.1 hp with rfl | hmem
          · exact hlt
          · exact String.lt_trans hlt (habove p hmem)
      · next hlt =>
          split
          · next heq =>
              subst heq
              exact sorted_cons_iff.2 ⟨habove, hrest⟩
          · next hne =>
              have hbelow : k < key := by
                by_contra hnot
                exact hne (String.le_antisymm (String.not_lt.1 hnot) (String.not_lt.1 hlt))
              refine sorted_cons_iff.2 ⟨fun p hp => ?_, ih hrest⟩
              rcases mem_insert hp with rfl | hmem
              · exact hbelow
              · exact habove p hmem

theorem ofList_append_singleton (pairs : List (String × α)) (p : String × α) :
    ofList (pairs ++ [p]) = insert p.1 p.2 (ofList pairs) := by
  unfold ofList
  rw [List.foldl_append]
  rfl

theorem sorted_ofList (pairs : List (String × α)) : Sorted (ofList pairs) := by
  induction pairs using List.reverseRecOn with
  | nil => exact List.Pairwise.nil
  | append_singleton pairs p ih =>
      rw [ofList_append_singleton]
      exact sorted_insert ih

theorem mem_of_mem_ofList {pairs : List (String × α)} (h : p ∈ ofList pairs) : p ∈ pairs := by
  induction pairs using List.reverseRecOn with
  | nil => cases h
  | append_singleton pairs q ih =>
      rw [ofList_append_singleton] at h
      rcases mem_insert h with rfl | hmem
      · exact List.mem_append_right _ List.mem_cons_self
      · exact List.mem_append_left _ (ih hmem)

end CallBridge.Keyed
