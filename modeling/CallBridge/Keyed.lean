/-!
# Lists in key order

A finite map from texts is kept as a list of pairs whose keys strictly increase in code-point
order. Objects of the data format and the table of exposed functions both use it: `insert` keeps
the order and lets a later entry replace an earlier one under the same key.
-/

namespace CallBridge.Keyed

variable {α : Type}

/-- Puts `value` under `key`, replacing what stood there. -/
def insert (key : String) (value : α) : List (String × α) → List (String × α)
  | [] => [(key, value)]
  | (k, v) :: rest =>
      if key < k then (key, value) :: (k, v) :: rest
      else if key = k then (key, value) :: rest
      else (k, v) :: insert key value rest

def keys (entries : List (String × α)) : List String := entries.map Prod.fst

def contains (key : String) (entries : List (String × α)) : Bool := (entries.lookup key).isSome

/-- Enters pairs from left to right, so the last one under a key stays. -/
def ofList (pairs : List (String × α)) : List (String × α) :=
  pairs.foldl (fun entries p => insert p.1 p.2 entries) []

/-- Keys strictly increase. -/
def Sorted (entries : List (String × α)) : Prop := (keys entries).Pairwise (· < ·)

theorem lookup_insert_self (key : String) (value : α) (entries : List (String × α)) :
    (insert key value entries).lookup key = some value := by
  induction entries with
  | nil => simp [insert]
  | cons p rest ih =>
      obtain ⟨k, v⟩ := p
      by_cases hlt : key < k
      · simp [insert, hlt]
      · by_cases heq : key = k
        · simp [insert, heq]
        · have hne : (key == k) = false := beq_eq_false_iff_ne.2 heq
          simp [insert, List.lookup_cons, hlt, heq, hne, ih]

theorem lookup_insert_ne {key other : String} (h : key ≠ other) (value : α)
    (entries : List (String × α)) :
    (insert key value entries).lookup other = entries.lookup other := by
  have hne : (other == key) = false := beq_eq_false_iff_ne.2 h.symm
  induction entries with
  | nil => simp [insert, List.lookup_cons, hne]
  | cons p rest ih =>
      obtain ⟨k, v⟩ := p
      by_cases hlt : key < k
      · simp [insert, List.lookup_cons, hlt, hne]
      · by_cases heq : key = k
        · subst heq
          simp [insert, List.lookup_cons, hne]
        · simp [insert, List.lookup_cons, hlt, heq, ih]

/-- A key above all others goes to the end. -/
theorem insert_of_above {key : String} {entries : List (String × α)}
    (h : ∀ p ∈ entries, p.1 < key) (value : α) :
    insert key value entries = entries ++ [(key, value)] := by
  induction entries with
  | nil => rfl
  | cons p rest ih =>
      obtain ⟨k, v⟩ := p
      have hk : k < key := h (k, v) List.mem_cons_self
      have hlt : ¬ key < k := String.lt_asymm hk
      have hne : key ≠ k := fun heq => String.lt_irrefl k (heq ▸ hk)
      simp [insert, hlt, hne, ih fun p hp => h p (List.mem_cons_of_mem _ hp)]

/-- Entering pairs that are already in order changes nothing. -/
theorem ofList_of_sorted {entries : List (String × α)} (h : Sorted entries) :
    ofList entries = entries := by
  have go : ∀ (rest done : List (String × α)), Sorted (done ++ rest) →
      rest.foldl (fun entries p => insert p.1 p.2 entries) done = done ++ rest := by
    intro rest
    induction rest with
    | nil => simp
    | cons p rest ih =>
        intro done hsorted
        have habove : ∀ q ∈ done, q.1 < p.1 := by
          simp only [Sorted, keys, List.map_append, List.map_cons, List.pairwise_append] at hsorted
          intro q hq
          exact hsorted.2.2 q.1 (List.mem_map_of_mem hq) p.1 List.mem_cons_self
        rw [List.foldl_cons, insert_of_above habove, ih (done ++ [p])]
        · simp
        · simpa using hsorted
  exact go entries [] h

end CallBridge.Keyed
