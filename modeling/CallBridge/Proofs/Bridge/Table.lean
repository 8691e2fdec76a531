import CallBridge.Bridge.Basic

/-!
# The two tables of calls

What an entry of the pending table, or an outcome put aside, is after each operation on the tables.
-/

namespace CallBridge

variable {n : Nat}

theorem lookup_cons_if {α β : Type} [DecidableEq α] (k a : α) (v : β) (rest : List (α × β)) :
    List.lookup k ((a, v) :: rest) = if k = a then some v else rest.lookup k := by
  by_cases hk : k = a
  · simp [hk]
  · have hne : (k == a) = false := beq_eq_false_iff_ne.2 hk
    simp [List.lookup_cons, hne, hk]

/-- Entries stay under the keys that are kept. -/
theorem lookup_filter_key {α β : Type} [DecidableEq α] (keep : α → Bool) (k : α)
    (entries : List (α × β)) :
    (entries.filter fun p => keep p.1).lookup k = if keep k then entries.lookup k else none := by
  induction entries with
  | nil => simp
  | cons p rest ih =>
      obtain ⟨a, v⟩ := p
      by_cases ha : keep a = true
      · rw [List.filter_cons_of_pos (by simpa using ha), lookup_cons_if, lookup_cons_if, ih]
        by_cases hk : k = a
        · simp [hk, ha]
        · simp [hk]
      · rw [List.filter_cons_of_neg (by simpa using ha), ih, lookup_cons_if]
        by_cases hk : k = a
        · simp [hk, ha]
        · simp [hk]

/-- Entries under other keys stay when those under one key are taken out. -/
theorem lookup_filter_ne {α β : Type} [DecidableEq α] (id k : α) (entries : List (α × β)) :
    (entries.filter fun p => p.1 ≠ id).lookup k = if k = id then none else entries.lookup k := by
  refine (lookup_filter_key (fun a => decide (a ≠ id)) k entries).trans ?_
  by_cases hk : k = id <;> simp [hk]

theorem mem_map_fst_iff {α β : Type} [DecidableEq α] (k : α) (entries : List (α × β)) :
    k ∈ entries.map Prod.fst ↔ entries.lookup k ≠ none := by
  induction entries with
  | nil => simp
  | cons p rest ih =>
      obtain ⟨a, v⟩ := p
      rw [List.map_cons, List.mem_cons, ih, lookup_cons_if]
      by_cases hk : k = a <;> simp [hk]

namespace Bridge

variable (x : Bridge n) (id k : CallId)

theorem pending?_unlist :
    (x.unlist id).pending? k = if k = id then none else x.pending? k :=
  lookup_filter_ne id k x.pending

variable {id} in
/-- Striking a token that is not in the table changes nothing. -/
theorem unlist_of_none (hid : x.pending? id = none) : x.unlist id = x := by
  have hfilter : (x.pending.filter fun p => p.1 ≠ id) = x.pending := by
    refine List.filter_eq_self.2 fun p hp => ?_
    have hne : id ≠ p.1 := by simpa using List.lookup_eq_none_iff.1 hid p hp
    simpa using hne.symm
  rw [unlist, hfilter]

theorem pending?_enlist (c : Completion n) :
    (x.enlist id c).pending? k = if k = id then some c else x.pending? k := by
  have hrest : (x.unlist id).pending.lookup k = _ := lookup_filter_ne id k x.pending
  simp only [pending?, enlist, List.lookup_append, hrest, lookup_cons_if, List.lookup_nil]
  by_cases hk : k = id <;> simp [hk]

theorem arrived?_takeAside :
    (x.takeAside id).arrived? k = if k = id then none else x.arrived? k :=
  lookup_filter_ne id k x.arrived

theorem arrived?_putAside (o : Outcome) :
    (x.putAside id o).arrived? k = (x.arrived? k).or (if k = id then some o else none) := by
  simp [arrived?, putAside, List.lookup_append, lookup_cons_if]

/-- Binding a callback to the entry of `id`. -/
theorem lookup_map_callback (c : Callback n) (entries : List (CallId × Completion n)) :
    (entries.map fun p => if p.1 = id then (id, .callback c) else p).lookup k
      = if k = id then (entries.lookup id).map fun _ => .callback c else entries.lookup k := by
  induction entries with
  | nil => simp
  | cons p rest ih =>
      obtain ⟨a, v⟩ := p
      simp only [List.map_cons]
      by_cases ha : a = id
      · rw [if_pos ha, lookup_cons_if, ih, lookup_cons_if, lookup_cons_if, ha]
        by_cases hk : k = id <;> simp [hk]
      · have hne : id ≠ a := fun heq => ha heq.symm
        rw [if_neg ha, lookup_cons_if, ih, lookup_cons_if, lookup_cons_if, if_neg hne]
        by_cases hk : k = id <;> simp [hk, hne]

/-! ## The tokens of pending calls -/

/-- The tokens in the pending table, oldest first. -/
def pendingIds : List CallId := x.pending.map Prod.fst

theorem mem_pendingIds : id ∈ x.pendingIds ↔ x.pending? id ≠ none :=
  mem_map_fst_iff id x.pending

theorem pendingIds_unlist : (x.unlist id).pendingIds = x.pendingIds.filter fun k => k ≠ id := by
  rw [pendingIds, pendingIds, List.filter_map]
  rfl

theorem pendingIds_enlist (c : Completion n) :
    (x.enlist id c).pendingIds = (x.pendingIds.filter fun k => k ≠ id) ++ [id] := by
  rw [← pendingIds_unlist, pendingIds, pendingIds, enlist, List.map_append]
  rfl

theorem map_fst_callback (c : Callback n) (entries : List (CallId × Completion n)) :
    (entries.map fun p => if p.1 = id then (id, .callback c) else p).map Prod.fst
      = entries.map Prod.fst := by
  rw [List.map_map]
  refine List.map_congr_left fun p _ => ?_
  by_cases hp : p.1 = id <;> simp [hp]

end Bridge

end CallBridge
