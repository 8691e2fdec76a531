import CallBridge.Proofs.Bridge.Course
import CallBridge.Proofs.Bridge.Post
import CallBridge.Proofs.Bridge.Wired

/-!
# Settling a call

A return whose callback keeps to itself settles one call and adds to the trace, and that is all it
does (`exists_settles`). So a host on which the call is settled goes abreast with one on which it is
not, and settling the call there afterwards brings the two together (`agree_of_abreast`).
-/

namespace CallBridge

variable {n : Nat}

/-! ## Code that keeps to itself -/

/-- Code that asks nothing of any bridge; it may only leave notes. -/
def Proc.Aloof : Proc n → Prop
  | .done _ => True
  | .note _ _ next => next.Aloof
  | _ => False

theorem Proc.Aloof.run_eq {p : Proc n} (hp : p.Aloof) :
    ∃ es ending, (∀ e ∈ es, Event.IsRemark e) ∧ ∀ (nested : Host.Handling n) (h : Host n),
      Host.run nested p h = ({ h with trace := h.trace ++ es }, ending) := by
  induction p with
  | done e => exact ⟨[], e, by simp, fun nested h => by simp [Host.run]⟩
  | note label what next ih =>
      obtain ⟨es, ending, hes, hrun⟩ := ih hp
      refine ⟨.noted label what :: es, ending, ?_, fun nested h => ?_⟩
      · intro e he
        rcases List.mem_cons.1 he with rfl | hmem
        · trivial
        · exact hes e hmem
      · rw [Host.run, hrun]
        simp [Host.emit]
  | call | callAndForget | expose | openWith | handle | names | status => exact hp.elim

/-! ## What a return does -/

/-- The bridge after a return, if host code leaves it alone. -/
def Bridge.settle (x : Bridge n) (r : Return) : Bridge n :=
  match x.pending? r.id with
  | none => x
  | some .waiting => (x.unlist r.id).putAside r.id r.outcome
  | some (.callback _) => x.unlist r.id

namespace Host

/-- The host after a return that adds `es` to the trace. -/
def settled (h : Host n) (b : Fin n) (r : Return) (es : List (Event n)) : Host n :=
  { h.update b fun x => x.settle r with trace := h.trace ++ es }

/-- Events of a return for `id`: about that call, or remarks. -/
def OfReturn (b : Fin n) (id : CallId) (es : List (Event n)) : Prop :=
  ∀ e ∈ es, e.IsRemark ∨ e.Concerns b id

/-- Where the entry of its call is `entry`, handling `r` settles the call and adds `es`. -/
structure Settles (b : Fin n) (r : Return) (entry : Option (Completion n)) (es : List (Event n)) :
    Prop where
  ofReturn : OfReturn b r.id es
  eq : ∀ {nested : Handling n} {h : Host n}, (h.bridge b).pending? r.id = entry →
    handleReturn nested h b r = h.settled b r es

/-- The callback that waits for the return, if any, keeps to itself. -/
def Discreet (h : Host n) (b : Fin n) (r : Return) : Prop :=
  ∀ c, (h.bridge b).pending? r.id = some (.callback c) → (c.body r.outcome).Aloof

variable {h k : Host n} {b : Fin n} {r : Return}

/-- A callback that keeps to itself gets the outcome and leaves remarks. -/
theorem runCallback_aloof {c : Callback n} {o : Outcome} (hc : (c.body o).Aloof) (b : Fin n)
    (id : CallId) :
    ∃ es, (∀ e ∈ es, Event.IsRemark e) ∧ ∀ (nested : Handling n) (h : Host n),
      runCallback nested c b id o h
        = { h with trace := h.trace ++ .delivered b id (some c) o :: es } := by
  obtain ⟨es, ending, hes, hrun⟩ := hc.run_eq
  cases ending with
  | returned value =>
      refine ⟨es, hes, fun nested h => ?_⟩
      simp [runCallback, hrun, emit]
  | failed e =>
      refine ⟨es, hes, fun nested h => ?_⟩
      simp [runCallback, hrun, emit]
  | panicked cause =>
      refine ⟨es ++ [.logged (.say .error panicTarget ("caught panic: " ++ cause.describe) []),
        .logged (.say .error binderTarget "completion callback panicked" [idField id])], ?_,
        fun nested h => ?_⟩
      · intro e he
        rcases List.mem_append.1 he with hmem | hmem
        · exact hes e hmem
        · rcases List.mem_pair.1 hmem with rfl | rfl <;> trivial
      · simp [runCallback, hrun, emit, log]

theorem exists_settles (hr : h.Discreet b r) :
    ∃ es, Settles b r ((h.bridge b).pending? r.id) es := by
  have hreturned : (Event.returned b r).Concerns b r.id := ⟨rfl, rfl⟩
  -- What is recorded depends on the entry alone, so it can be named before the host is.
  cases hentry : (h.bridge b).pending? r.id with
  | none =>
      refine ⟨[.returned b r, .logged (.say .debug bridgeTarget
        "ignoring return with unknown token" [idField r.id])], ?_, ?_⟩
      · intro e he
        rcases List.mem_pair.1 he with rfl | rfl
        · exact .inr hreturned
        · exact .inl trivial
      · intro nested k hk
        have hsettle : k.update b (fun x => x.settle r) = k := by
          rw [update_congr (g := id) (by rw [Bridge.settle, hk]; rfl)]
          simp [update, setBridge, bridge]
        simp only [handleReturn, resolve, bridge_emit, hk, settled, hsettle]
        simp [log, emit]
  | some completion =>
      cases completion with
      | waiting =>
          refine ⟨[.returned b r, .logged (.say .debug bridgeTarget "resolved remote call"
            [idField r.id])], ?_, ?_⟩
          · intro e he
            rcases List.mem_pair.1 he with rfl | rfl
            · exact .inr hreturned
            · exact .inl trivial
          · intro nested k hk
            have hsettle : k.update b (fun x => x.settle r)
                = k.update b fun x => (x.unlist r.id).putAside r.id r.outcome :=
              update_congr (by rw [Bridge.settle, hk])
            simp only [handleReturn, resolve, bridge_emit, hk, settled, hsettle]
            simp [log, emit, update, setBridge, bridge]
      | callback c =>
          obtain ⟨es, hes, hrun⟩ := runCallback_aloof (hr c hentry) b r.id
          refine ⟨.returned b r :: .delivered b r.id (some c) r.outcome :: es ++
            [.logged (.say .debug bridgeTarget "resolved remote call" [idField r.id])], ?_, ?_⟩
          · intro e he
            rcases List.mem_append.1 he with hmem | hmem
            · rcases List.mem_cons.1 hmem with rfl | hmem
              · exact .inr hreturned
              · rcases List.mem_cons.1 hmem with rfl | hmem
                · exact .inr ⟨rfl, rfl⟩
                · exact .inl (hes e hmem)
            · rw [List.mem_singleton.1 hmem]
              exact .inl trivial
          · intro nested k hk
            have hsettle : k.update b (fun x => x.settle r) = k.update b fun x => x.unlist r.id :=
              update_congr (by rw [Bridge.settle, hk])
            simp only [handleReturn, resolve, bridge_emit, hk, settled, hsettle, hrun]
            simp [log, emit, update, setBridge, bridge]

/-! ## Hosts that agree -/

/-- The hosts are the same but for the order in which things about different calls came: outcomes
put aside, and events. -/
structure Agree (h k : Host n) : Prop where
  bridge : ∀ d, k.bridge d = { h.bridge d with arrived := (k.bridge d).arrived }
  arrived : ∀ d id, (k.bridge d).arrived? id = (h.bridge d).arrived? id
  lines : k.lines = h.lines
  posts : ∀ d, posts d k.trace = posts d h.trace
  deliveries : ∀ d id, deliveriesOf d id k.trace = deliveriesOf d id h.trace
  perm : k.trace.Perm h.trace

theorem Agree.refl (h : Host n) : Agree h h where
  bridge _ := rfl
  arrived _ _ := rfl
  lines := rfl
  posts _ := rfl
  deliveries _ _ := rfl
  perm := .refl _

theorem Agree.trans {l : Host n} (hhk : Agree h k) (hkl : Agree k l) : Agree h l where
  bridge d := by rw [hkl.bridge d, hhk.bridge d]
  arrived d id := (hkl.arrived d id).trans (hhk.arrived d id)
  lines := hkl.lines.trans hhk.lines
  posts d := (hkl.posts d).trans (hhk.posts d)
  deliveries d id := (hkl.deliveries d id).trans (hhk.deliveries d id)
  perm := hkl.perm.trans hhk.perm

end Host

/-! ## Bridges on which a call is settled -/

/-- What a return puts aside, by the entry of its call. -/
def Return.parked (r : Return) : Option (Completion n) → Option Outcome
  | some .waiting => some r.outcome
  | _ => none

namespace Bridge

variable (x : Bridge n) (r : Return)

/-- The entry is gone afterwards, and nothing else has changed but what is put aside. -/
theorem settle_eq : x.settle r = { x.unlist r.id with arrived := (x.settle r).arrived } := by
  rw [settle]
  cases hentry : x.pending? r.id with
  | none => simp only [unlist_of_none x hentry]
  | some completion => cases completion <;> rfl

theorem arrived?_settle (id : CallId) :
    (x.settle r).arrived? id
      = (x.arrived? id).or (if id = r.id then r.parked (x.pending? r.id) else none) := by
  rw [settle]
  cases hentry : x.pending? r.id with
  | none => simp [Return.parked]
  | some completion =>
      cases completion with
      | waiting => exact (x.unlist r.id).arrived?_putAside r.id id r.outcome
      | callback c =>
          have hsame : (x.unlist r.id).arrived? id = x.arrived? id := rfl
          simp [Return.parked, hsame]

theorem pending?_settle (id : CallId) :
    (x.settle r).pending? id = if id = r.id then none else x.pending? id := by
  rw [settle_eq]
  exact x.pending?_unlist r.id id

end Bridge

namespace Host

variable {h k : Host n} {b : Fin n} {r : Return} {es : List (Event n)}

theorem bridge_settled (h : Host n) (b : Fin n) (r : Return) (es : List (Event n)) (d : Fin n) :
    (h.settled b r es).bridge d = if d = b then (h.bridge b).settle r else h.bridge d :=
  h.bridge_update b d fun x => x.settle r

theorem deliveriesOf_append (d : Fin n) (id : CallId) (before after : List (Event n)) :
    deliveriesOf d id (before ++ after) = deliveriesOf d id before ++ deliveriesOf d id after :=
  List.filterMap_append

/-- Hosts that agree still agree when the same return has come. -/
theorem Agree.settled (hhk : Agree h k) (b : Fin n) (r : Return) (es : List (Event n)) :
    Agree (h.settled b r es) (k.settled b r es) where
  bridge d := by
    rw [bridge_settled, bridge_settled]
    split
    · rw [Bridge.settle_eq, Bridge.settle_eq (h.bridge b), hhk.bridge b]
      rfl
    · exact hhk.bridge d
  arrived d id := by
    rw [bridge_settled, bridge_settled]
    split
    · have hpending : (k.bridge b).pending? r.id = (h.bridge b).pending? r.id := by
        rw [hhk.bridge b]
        rfl
      rw [Bridge.arrived?_settle, Bridge.arrived?_settle, hhk.arrived, hpending]
    · exact hhk.arrived d id
  lines := hhk.lines
  posts d := by
    simp only [Host.settled, posts_append, hhk.posts d]
  deliveries d id := by
    simp only [Host.settled, deliveriesOf_append, hhk.deliveries d id]
  perm := hhk.perm.append_right es

end Host

/-! ## A call left aside -/

/-- Just the call `id` of `b`. -/
def only (b : Fin n) (id : CallId) : Fin n → CallId → Bool := fun c k => decide (c = b ∧ k = id)

theorem only_eq_false {b c : Fin n} {id k : CallId} :
    only b id c k = false ↔ ¬ (c = b ∧ k = id) := by
  simp [only]

theorem Event.Spares.not_concerns {b : Fin n} {id : CallId} {e : Event n}
    (he : e.Spares (only b id)) : ¬ e.Concerns b id := by
  cases e with
  | produced | offered => exact he.elim
  | invoked | noted | logged => exact not_false
  | called | issued | bound | dropped | expired | returned | delivered => exact only_eq_false.1 he

/-- What code asks for next is not about the call, and does not depend on how many calls of `b` are
pending. -/
def Proc.Ignores (b : Fin n) (id : CallId) (h : Host n) (p : Proc n) : Prop :=
  p.Leaves (only b id) h ∧
    ∀ next, p = .status b next → ∀ x y : Status, y.state = x.state → y.buffered = x.buffered →
      next y = next x

namespace Host

/-- `h`, and the same host with a call settled. -/
def besideSettled (h : Host n) (b : Fin n) (r : Return) (es : List (Event n)) : Pairing n where
  aside := only b r.id
  left := h
  right := h.settled b r es
  kind _ := True
  ok k p := p.Ignores b r.id k
  wires := Wired True fun left right => ∃ new, left = h.trace ++ new ∧
    right = h.trace ++ es ++ new ∧ ∀ e ∈ new, ¬ e.Concerns b r.id

variable {h h' k' : Host n} {b : Fin n} {r : Return} {es : List (Event n)}

theorem lawful_besideSettled (h : Host n) (b : Fin n) (r : Return) (es : List (Event n)) :
    (h.besideSettled b r es).Lawful := by
  refine Pairing.lawful_of_wired rfl ?_ ?_ fun hok => hok.1
  · rintro left right e ⟨new, rfl, rfl, hnew⟩ he
    refine ⟨new ++ [e], by simp, by simp, fun e' he' => ?_⟩
    rcases List.mem_append.1 he' with hmem | hmem
    · exact hnew e' hmem
    · rw [List.mem_singleton.1 hmem]
      exact he.elim (fun hidle => hidle.not_concerns b r.id) fun hspares => hspares.not_concerns
  · intro h₁ h₂ c next hh _ hok
    have hout := hh.wires.outbound c
    by_cases hc : c = b
    · subst hc
      refine hok.2 next rfl _ _ ?_ ?_
      · rw [Bridge.status, Bridge.status, Bridge.state, Bridge.state, hout]
      · rw [Bridge.status, Bridge.status, hout]
    · -- All of the other bridges is the same.
      have hbridge := (hh.beside c).eq_of_none fun id =>
        only_eq_false.2 fun heq => hc heq.1
      rw [hout] at hbridge
      rw [hbridge]

theorem beside_settle (b : Fin n) (x : Bridge n) (r : Return) :
    Bridge.Beside (only b r.id b) (fun _ => True) x (x.settle r) x (x.settle r) := by
  have hany : ∀ p : Proc n, p.Throughout fun _ => True :=
    Proc.throughout_of_forall fun _ => trivial
  have hfields := x.settle_eq r
  exact
    { config := by rw [hfields]; rfl
      tokens := by rw [hfields]; rfl
      registry := by rw [hfields]; rfl
      pending := by
        rw [hfields]
        refine List.filter_congr fun p _ => ?_
        simp [only]
      arrived := by
        rw [Bridge.settle]
        cases x.pending? r.id with
        | none => rfl
        | some completion =>
            cases completion with
            | waiting => simp [Bridge.putAside, Bridge.unlist, only]
            | callback c => rfl
      pending_left := fun _ _ => rfl
      arrived_left := fun _ _ => rfl
      arrived_right := fun _ _ => rfl
      functions := fun _ _ _ => hany _
      callbacks := fun _ _ _ _ _ => hany _ }

theorem abreast_settled (h : Host n) (b : Fin n) (r : Return) (es : List (Event n)) :
    (h.besideSettled b r es).Abreast h (h.settled b r es) := by
  have hany : ∀ p : Proc n, p.Throughout fun _ => True :=
    Proc.throughout_of_forall fun _ => trivial
  refine ⟨fun d => ?_, ⟨fun d => ?_, fun _ => rfl, fun _ => rfl, [], by simp, by simp [settled],
    by simp⟩⟩
  · by_cases hd : d = b
    · subst hd
      have hsettled : (h.settled d r es).bridge d = (h.bridge d).settle r := by
        rw [bridge_settled, if_pos rfl]
      simp only [besideSettled, hsettled]
      exact beside_settle d (h.bridge d) r
    · have hsame : (h.settled b r es).bridge d = h.bridge d := by rw [bridge_settled, if_neg hd]
      rw [hsame]
      exact .of_eq (fun id => only_eq_false.2 fun heq => hd heq.1) rfl (fun _ _ _ => hany _)
        fun _ _ _ _ _ => hany _
  · rw [bridge_settled]
    split
    · next hd => rw [Bridge.settle_eq, hd]; rfl
    · rfl

/-! ## Settling the call afterwards -/

section Swap

variable {new : List (Event n)}

theorem OfReturn.posts_eq {id : CallId} (hes : OfReturn b id es) (d : Fin n) :
    posts d es = [] := by
  refine List.filter_eq_nil_iff.2 fun e he => ?_
  rcases hes e he with hremark | hconcerns
  · cases e <;> simp_all [Event.IsRemark, Event.isPost]
  · cases e <;> simp_all [Event.Concerns, Event.isPost]

theorem deliveriesOf_eq_nil {d : Fin n} {id : CallId} (hes : ∀ e ∈ es, ¬ e.Concerns d id) :
    deliveriesOf d id es = [] :=
  List.filterMap_eq_nil_iff.2 fun e he => (Event.seen_of_not_concerns (hes e he)).2.2.1

theorem OfReturn.not_concerns {id id' : CallId} {d : Fin n} (hes : OfReturn b id es)
    (hne : ¬ (d = b ∧ id' = id)) : ∀ e ∈ es, ¬ e.Concerns d id' := by
  intro e he hconcerns
  rcases hes e he with hremark | hown
  · cases e <;> simp_all [Event.IsRemark, Event.Concerns]
  · refine hne ?_
    cases e <;> simp_all [Event.Concerns]

/-- The events of a return and those that are not about its call may change places. -/
theorem deliveriesOf_swap {id : CallId} (hes : OfReturn b id es)
    (hnew : ∀ e ∈ new, ¬ e.Concerns b id) (before : List (Event n)) (d : Fin n) (id' : CallId) :
    deliveriesOf d id' (before ++ new ++ es) = deliveriesOf d id' (before ++ es ++ new) := by
  by_cases hown : d = b ∧ id' = id
  · obtain ⟨rfl, rfl⟩ := hown
    simp only [deliveriesOf_append, deliveriesOf_eq_nil hnew, List.append_nil]
  · simp only [deliveriesOf_append, deliveriesOf_eq_nil (hes.not_concerns hown), List.append_nil]

end Swap

/-- A bridge on which the call was settled first is as one on which it is settled last. -/
theorem settle_of_beside {kind : Proc n → Prop} {x₀ x y : Bridge n}
    (hx : Bridge.Beside (only b r.id b) kind x₀ (x₀.settle r) x y)
    (hout : y.outbound = x.outbound) :
    x.settle r = { y with arrived := (x.settle r).arrived } ∧
      ∀ id, (x.settle r).arrived? id = y.arrived? id := by
  have haside : only b r.id b r.id = true := by simp [only]
  have hpending : y.pending = (x.unlist r.id).pending := by
    rw [hx.pending]
    refine List.filter_congr fun p _ => ?_
    simp [only]
  constructor
  · have hfields := x.settle_eq r
    generalize (x.settle r).arrived = entries at hfields ⊢
    rw [hfields, hx.config, hx.tokens, hx.registry, hpending, hout]
    rfl
  · intro id
    by_cases hid : id = r.id
    · subst hid
      rw [hx.arrived_right _ haside, Bridge.arrived?_settle, Bridge.arrived?_settle,
        hx.arrived_left _ haside, hx.pending_left _ haside]
    · have hapart : only b r.id b id = false := only_eq_false.2 fun heq => hid heq.2
      have hother := hx.arrived?_eq hapart
      rw [Bridge.arrived?_settle, if_neg hid, Option.or_none, hother]

/-- If the call is settled on the left host too, the two hosts agree. -/
theorem agree_of_abreast [Limits] (hsettles : Settles b r ((h.bridge b).pending? r.id) es)
    (hh : (h.besideSettled b r es).Abreast h' k') :
    Agree k' (handleReturn nestedHandling h' b r) := by
  have hx := hh.beside b
  have hright_bridge : (h.besideSettled b r es).right.bridge b = (h.bridge b).settle r := by
    rw [besideSettled, bridge_settled, if_pos rfl]
  rw [hright_bridge] at hx
  -- On the left host nothing has touched the call, so the return finds what it found in `h`.
  have hentry : (h'.bridge b).pending? r.id = (h.bridge b).pending? r.id :=
    hx.pending_left _ (by simp [besideSettled, only])
  obtain ⟨hsettled, harrived⟩ := settle_of_beside hx (hh.wires.outbound b)
  have hother : ∀ d, d ≠ b → h'.bridge d = k'.bridge d := by
    intro d hd
    have hbridge := (hh.beside d).eq_of_none fun id => only_eq_false.2 fun heq => hd heq.1
    rw [hh.wires.outbound d] at hbridge
    exact hbridge.symm
  obtain ⟨new, hleft, hright, hnew⟩ := hh.wires.trace
  rw [hsettles.eq hentry]
  exact
    { bridge := by
        intro d
        rw [bridge_settled]
        split
        · next hd => exact hd ▸ hsettled
        · next hd => rw [hother d hd]
      arrived := by
        intro d id
        rw [bridge_settled]
        split
        · next hd => exact hd ▸ harrived id
        · next hd => rw [hother d hd]
      lines := (hh.wires.lines trivial).symm
      posts := by
        intro d
        simp only [settled, hleft, hright, posts_append, hsettles.ofReturn.posts_eq,
          List.append_nil]
      deliveries := by
        intro d id
        rw [hright]
        simp only [settled, hleft]
        exact deliveriesOf_swap hsettles.ofReturn hnew _ d id
      perm := by
        simp only [settled, hleft, hright, List.append_assoc]
        exact (List.perm_append_comm).append_left _ }

end Host

end CallBridge
