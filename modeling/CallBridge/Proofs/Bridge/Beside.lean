import CallBridge.Proofs.Bridge.Code
import CallBridge.Proofs.Bridge.Table
import CallBridge.Proofs.Keyed

/-!
# One bridge beside another

`Bridge.Beside` relates two bridges that differ in their outbound sides and in what they hold of
some calls. Every change of a bridge's tables that is not about those calls keeps the relation, and
what the tables say of other calls is the same on both.
-/

namespace CallBridge

variable {n : Nat}

/-! ## The relation -/

/-- Two bridges `x` and `y` agree but for their outbound sides and for calls that are left aside.
Those are still what they were when the bridges were `x₀` and `y₀`, and `y` does not have them
pending. All code that `x` holds is of some kind. -/
structure Bridge.Beside (aside : CallId → Bool) (kind : Proc n → Prop) (x₀ y₀ x y : Bridge n) :
    Prop where
  config : y.config = x.config
  tokens : y.tokens = x.tokens
  registry : y.registry = x.registry
  pending : y.pending = x.pending.filter fun p => !aside p.1
  arrived : (y.arrived.filter fun p => !aside p.1) = x.arrived.filter fun p => !aside p.1
  pending_left : ∀ id, aside id = true → x.pending? id = x₀.pending? id
  arrived_left : ∀ id, aside id = true → x.arrived? id = x₀.arrived? id
  arrived_right : ∀ id, aside id = true → y.arrived? id = y₀.arrived? id
  functions : ∀ p ∈ x.registry, p.2.Throughout kind
  callbacks : ∀ p ∈ x.pending, ∀ c, p.2 = .callback c → c.Throughout kind

namespace Bridge.Beside

variable {aside : CallId → Bool} {kind : Proc n → Prop} {x₀ y₀ x y : Bridge n} {id : CallId}

theorem exposed?_eq (h : Beside aside kind x₀ y₀ x y) (name : String) :
    y.exposed? name = x.exposed? name := by
  rw [exposed?, exposed?, h.registry]

theorem pending?_eq (h : Beside aside kind x₀ y₀ x y) (hid : aside id = false) :
    y.pending? id = x.pending? id := by
  have hlookup := lookup_filter_key (fun k => !aside k) id x.pending
  rw [pending?, h.pending, hlookup, hid]
  rfl

theorem arrived?_eq (h : Beside aside kind x₀ y₀ x y) (hid : aside id = false) :
    y.arrived? id = x.arrived? id := by
  have hleft := lookup_filter_key (fun k => !aside k) id x.arrived
  have hright := lookup_filter_key (fun k => !aside k) id y.arrived
  rw [h.arrived, hleft, hid] at hright
  exact hright.symm

theorem function_kind (h : Beside aside kind x₀ y₀ x y) {name : String} {f : Exposed n}
    (hf : x.exposed? name = some f) : f.Throughout kind :=
  h.functions _ (Keyed.mem_of_lookup hf)

theorem callback_kind (h : Beside aside kind x₀ y₀ x y) {c : Callback n}
    (hc : x.pending? id = some (.callback c)) : c.Throughout kind := by
  obtain ⟨before, after, hpending, -⟩ := List.lookup_eq_some_iff.1 hc
  exact h.callbacks (id, .callback c) (hpending ▸ by simp) c rfl

theorem expose (h : Beside aside kind x₀ y₀ x y) (name : String) {f : Exposed n}
    (hf : f.Throughout kind) : Beside aside kind x₀ y₀ (x.expose name f) (y.expose name f) :=
  { h with
    registry := congrArg (Keyed.insert name f) h.registry
    functions := by
      intro p hp
      rcases Keyed.mem_insert hp with rfl | hmem
      · exact hf
      · exact h.functions p hmem }

theorem advance (h : Beside aside kind x₀ y₀ x y) :
    Beside aside kind x₀ y₀ { x with tokens := x.tokens.advance }
      { y with tokens := y.tokens.advance } :=
  { h with tokens := congrArg TokenSource.advance h.tokens }

theorem unlist (h : Beside aside kind x₀ y₀ x y) (hid : aside id = false) :
    Beside aside kind x₀ y₀ (x.unlist id) (y.unlist id) :=
  { h with
    pending := by
      rw [Bridge.unlist, Bridge.unlist, h.pending, List.filter_filter, List.filter_filter]
      refine List.filter_congr fun p _ => ?_
      rw [Bool.and_comm]
    pending_left := by
      intro k hk
      have hne : k ≠ id := by
        rintro rfl
        simp [hk] at hid
      rw [pending?_unlist, if_neg hne]
      exact h.pending_left k hk
    callbacks := fun p hp => h.callbacks p (List.mem_filter.1 hp).1 }

theorem enlist (h : Beside aside kind x₀ y₀ x y) (hid : aside id = false) :
    Beside aside kind x₀ y₀ (x.enlist id .waiting) (y.enlist id .waiting) :=
  { h with
    pending := by
      rw [Bridge.enlist, Bridge.enlist, (h.unlist hid).pending]
      simp [hid]
    pending_left := by
      intro k hk
      have hne : k ≠ id := by
        rintro rfl
        simp [hk] at hid
      rw [pending?_enlist, if_neg hne]
      exact h.pending_left k hk
    callbacks := by
      intro p hp c hc
      rcases List.mem_append.1 hp with hmem | hmem
      · exact h.callbacks p (List.mem_filter.1 hmem).1 c hc
      · rw [List.mem_singleton.1 hmem] at hc
        cases hc }

theorem bindEntry (h : Beside aside kind x₀ y₀ x y) (hid : aside id = false) {c : Callback n}
    (hc : c.Throughout kind) :
    Beside aside kind x₀ y₀
      { x with pending := x.pending.map fun p => if p.1 = id then (id, .callback c) else p }
      { y with pending := y.pending.map fun p => if p.1 = id then (id, .callback c) else p } :=
  { h with
    pending := by
      show y.pending.map _ = _
      rw [h.pending, List.filter_map]
      congr 1
      refine List.filter_congr fun p _ => ?_
      by_cases hp : p.1 = id <;> simp [hp]
    pending_left := by
      intro k hk
      have hne : k ≠ id := by
        rintro rfl
        simp [hk] at hid
      rw [pending?, lookup_map_callback, if_neg hne]
      exact h.pending_left k hk
    callbacks := by
      intro p hp c' hc'
      obtain ⟨q, hq, rfl⟩ := List.mem_map.1 hp
      split at hc'
      · obtain rfl := Completion.callback.inj hc'
        exact hc
      · exact h.callbacks q hq c' hc' }

theorem putAside (h : Beside aside kind x₀ y₀ x y) (hid : aside id = false) (o : Outcome) :
    Beside aside kind x₀ y₀ (x.putAside id o) (y.putAside id o) := by
  have hlookup : ∀ (z : Bridge n) (k : CallId), aside k = true →
      (z.putAside id o).arrived? k = z.arrived? k := by
    intro z k hk
    have hne : k ≠ id := by
      rintro rfl
      simp [hk] at hid
    rw [arrived?_putAside, if_neg hne, Option.or_none]
  exact
    { h with
      arrived := by
        rw [Bridge.putAside, Bridge.putAside, List.filter_append, List.filter_append, h.arrived]
      arrived_left := fun k hk => (hlookup x k hk).trans (h.arrived_left k hk)
      arrived_right := fun k hk => (hlookup y k hk).trans (h.arrived_right k hk) }

theorem takeAside (h : Beside aside kind x₀ y₀ x y) (hid : aside id = false) :
    Beside aside kind x₀ y₀ (x.takeAside id) (y.takeAside id) := by
  have hlookup : ∀ (z : Bridge n) (k : CallId), aside k = true →
      (z.takeAside id).arrived? k = z.arrived? k := by
    intro z k hk
    have hne : k ≠ id := by
      rintro rfl
      simp [hk] at hid
    rw [arrived?_takeAside, if_neg hne]
  have hfilter : ∀ z : Bridge n, ((z.takeAside id).arrived.filter fun p => !aside p.1)
      = (z.arrived.filter fun p => !aside p.1).filter fun p => p.1 ≠ id := by
    intro z
    rw [Bridge.takeAside, List.filter_filter, List.filter_filter]
    refine List.filter_congr fun p _ => ?_
    rw [Bool.and_comm]
  exact
    { h with
      arrived := by rw [hfilter, hfilter, h.arrived]
      arrived_left := fun k hk => (hlookup x k hk).trans (h.arrived_left k hk)
      arrived_right := fun k hk => (hlookup y k hk).trans (h.arrived_right k hk) }

theorem outbound (h : Beside aside kind x₀ y₀ x y) (o o' : Outbound) :
    Beside aside kind x₀ y₀ { x with outbound := o } { y with outbound := o' } :=
  { h with }

theorem filter_of_none (hnone : ∀ id, aside id = false) {β : Type}
    (entries : List (CallId × β)) : (entries.filter fun p => !aside p.1) = entries :=
  List.filter_eq_self.2 fun p _ => by simp [hnone p.1]

/-- Where nothing is left aside, only the outbound sides can differ. -/
theorem eq_of_none (h : Beside aside kind x₀ y₀ x y) (hnone : ∀ id, aside id = false) :
    y = { x with outbound := y.outbound } := by
  have hpending : y.pending = x.pending := by rw [h.pending, filter_of_none hnone]
  have harrived : y.arrived = x.arrived := by
    simpa only [filter_of_none hnone] using h.arrived
  rw [← h.config, ← h.tokens, ← h.registry, ← hpending, ← harrived]

theorem of_eq (hnone : ∀ id, aside id = false) (hout : y = { x with outbound := y.outbound })
    (hfunctions : ∀ p ∈ x.registry, p.2.Throughout kind)
    (hcallbacks : ∀ p ∈ x.pending, ∀ c, p.2 = .callback c → c.Throughout kind) :
    Beside aside kind x₀ y₀ x y := by
  have haside : ∀ id, ¬ aside id = true := by simp [hnone]
  rw [hout]
  exact
    { config := rfl
      tokens := rfl
      registry := rfl
      pending := (filter_of_none hnone _).symm
      arrived := rfl
      pending_left := fun id hid => (haside id hid).elim
      arrived_left := fun id hid => (haside id hid).elim
      arrived_right := fun id hid => (haside id hid).elim
      functions := hfunctions
      callbacks := hcallbacks }

end Bridge.Beside

end CallBridge
