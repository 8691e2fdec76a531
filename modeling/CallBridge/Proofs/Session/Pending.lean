import CallBridge.Proofs.Session.Orderly

/-!
# The pending table

The tokens in the pending table are those of the calls that are open: issued, and since then
neither returned nor given up.
-/

namespace CallBridge

variable {n : Nat}

/-! ## Open calls -/

/-- Ends the wait for the call `id` on `b`: a return with its token is handled, its binder or future
is dropped, or its future expires. -/
def Event.closes (b : Fin n) (id : CallId) (e : Event n) : Bool :=
  (e.returnOf b id).isSome || e.givesUp b id

/-- The calls on `b` that have been issued and not closed since, oldest first. -/
def openCalls (b : Fin n) : List (Event n) → List CallId
  | [] => []
  | e :: rest =>
      match e.issuedOf b with
      | some id =>
          if rest.any (Event.closes b id) then openCalls b rest else id :: openCalls b rest
      | none => openCalls b rest

theorem mem_openCalls_cons {b : Fin n} {id : CallId} {e : Event n} {rest : List (Event n)} :
    id ∈ openCalls b (e :: rest) ↔
      (e.issuedOf b = some id ∧ ∀ e' ∈ rest, e'.closes b id = false) ∨ id ∈ openCalls b rest := by
  rw [openCalls]
  cases hissued : e.issuedOf b with
  | none => simp
  | some k =>
      by_cases hclosed : rest.any (Event.closes b k) = true
      · simp only [if_pos hclosed, Option.some.injEq]
        refine ⟨.inr, ?_⟩
        rintro (⟨rfl, hopen⟩ | hmem)
        · obtain ⟨e', he', hcloses⟩ := List.any_eq_true.1 hclosed
          exact absurd hcloses (by simp [hopen e' he'])
        · exact hmem
      · simp only [if_neg hclosed, List.mem_cons, Option.some.injEq]
        have hopen : ∀ e' ∈ rest, e'.closes b k = false := by simpa using hclosed
        constructor
        · rintro (rfl | hmem)
          · exact .inl ⟨rfl, hopen⟩
          · exact .inr hmem
        · rintro (⟨rfl, -⟩ | hmem)
          · exact .inl rfl
          · exact .inr hmem

theorem mem_openCalls {b : Fin n} {id : CallId} {es : List (Event n)} :
    id ∈ openCalls b es ↔ ∃ pre name args post, es = pre ++ .issued b id name args :: post ∧
      ∀ e ∈ post, e.closes b id = false := by
  induction es with
  | nil => simp [openCalls]
  | cons e rest ih =>
      rw [mem_openCalls_cons, ih]
      constructor
      · rintro (⟨hissued, hopen⟩ | ⟨pre, name, args, post, rfl, hopen⟩)
        · obtain ⟨name, args, rfl⟩ := Event.issuedOf_eq_some.1 hissued
          exact ⟨[], name, args, rest, rfl, hopen⟩
        · exact ⟨e :: pre, name, args, post, rfl, hopen⟩
      · rintro ⟨pre, name, args, post, heq, hopen⟩
        cases pre with
        | nil =>
            obtain ⟨rfl, rfl⟩ := List.cons.inj heq
            exact .inl ⟨Event.issuedOf_eq_some.2 ⟨name, args, rfl⟩, hopen⟩
        | cons e' pre =>
            obtain ⟨-, rfl⟩ := List.cons.inj heq
            exact .inr ⟨pre, name, args, post, rfl, hopen⟩

/-! ## Open calls and phases -/

section Followed

variable {h : Host n} {m : Custody n} {b : Fin n} {id : CallId}

/-- A phase with an entry is one that nothing has closed. -/
theorem Phase.Sums.entry_ne_none_iff {p : Phase n} {es : List (Event n)} (hp : p.Sums b id es) :
    p.entry ≠ none ↔ ∀ e ∈ es, e.closes b id = false := by
  have hcloses : (∀ e ∈ es, e.closes b id = false) ↔
      returnsOf b id es = [] ∧ es.countP (Event.givesUp b id) = 0 := by
    rw [returnsOf, List.filterMap_eq_nil_iff, List.countP_eq_zero, ← forall₂_and]
    simp [Event.closes]
  rw [hcloses, hp.giveUps]
  have hissued := hp.issued
  have houtcome := hp.outcome
  cases p <;> simp_all [Phase.entry, Phase.giveUps, Phase.Issued, Phase.outcome]
  all_goals
    rintro hnil
    simp [hnil] at houtcome

/-- The tokens in the table are those of the open calls. -/
theorem Followed.mem_pendingIds_iff (ha : Followed (h, m)) :
    id ∈ (h.bridge b).pendingIds ↔ id ∈ openCalls b h.trace := by
  obtain ⟨p, hcourse, hfits⟩ := ha b id
  rw [Bridge.mem_pendingIds, hfits.pending, mem_openCalls]
  constructor
  · intro hentry
    have hissued : p.Issued := by cases p <;> simp_all [Phase.entry, Phase.Issued]
    obtain ⟨pre, name, args, post, heq, hpost⟩ := hcourse.exists_issued hissued
    exact ⟨pre, name, args, post, heq, hpost.sums.entry_ne_none_iff.1 hentry⟩
  · rintro ⟨pre, name, args, post, heq, hopen⟩
    rw [heq] at hcourse
    exact hcourse.since_issued.sums.entry_ne_none_iff.2 hopen

/-- A call is issued once. -/
theorem Course.not_issued_again {p : Phase n} {es : List (Event n)} {name : String}
    {args : List Json} (h : Course b id .waiting es p) : .issued b id name args ∉ es := by
  intro hmem
  obtain ⟨pre, post, rfl⟩ := List.append_of_mem hmem
  obtain ⟨q, r, hfirst, hnext, -⟩ := h.split_cons
  cases hnext with
  | other he => exact he ⟨rfl, rfl⟩
  | issued => exact hfirst.sums.issued

theorem Followed.nodup_openCalls (ha : Followed (h, m)) : (openCalls b h.trace).Nodup := by
  -- By induction over the ends of the trace, the course being that of the whole trace throughout.
  have hsuffix : ∀ es, es <:+ h.trace → (openCalls b es).Nodup := by
    intro es
    induction es with
    | nil => exact fun _ => List.nodup_nil
    | cons e rest ih =>
        intro hes
        obtain ⟨pre, htrace⟩ := hes
        have hrest := ih ⟨pre ++ [e], by rw [← htrace]; simp⟩
        rw [openCalls]
        split
        · next id hissued =>
            split
            · exact hrest
            · refine List.nodup_cons.2 ⟨fun hmem => ?_, hrest⟩
              obtain ⟨name, args, rfl⟩ := Event.issuedOf_eq_some.1 hissued
              obtain ⟨p, hcourse, -⟩ := ha b id
              obtain ⟨pre', name', args', post, rfl, -⟩ := mem_openCalls.1 hmem
              rw [← htrace] at hcourse
              exact hcourse.since_issued.not_issued_again
                (List.mem_append_right pre' List.mem_cons_self)
        · exact hrest
  exact hsuffix _ List.suffix_rfl

/-- As many entries as open calls. -/
theorem Followed.length_pending (ha : Followed (h, m)) (hids : h.IdsDistinct) :
    (h.bridge b).pending.length = (openCalls b h.trace).length := by
  have hperm : (h.bridge b).pendingIds.Perm (openCalls b h.trace) :=
    (List.perm_ext_iff_of_nodup (hids b) ha.nodup_openCalls).2 fun id => ha.mem_pendingIds_iff
  have hlength := hperm.length_eq
  rwa [Bridge.pendingIds, List.length_map] at hlength

end Followed

/-! ## What leaves the table alone -/

namespace Host

variable {h : Host n} {m : Custody n}

/-- Striking a token that is not in the table changes nothing. -/
theorem pending_unlist_of_none {d : Fin n} {id : CallId} (hid : (h.bridge d).pending? id = none)
    (b : Fin n) : ((h.update d fun x => x.unlist id).bridge b).pending = (h.bridge b).pending := by
  rw [bridge_update]
  split
  · next hb => rw [Bridge.unlist_of_none _ hid, hb]
  · rfl

theorem pending_release_of_none {d : Fin n} {id : CallId} (hid : (h.bridge d).pending? id = none)
    (b : Fin n) : ((h.release d id).1.bridge b).pending = (h.bridge b).pending := by
  have htake : ((h.release d id).1.bridge b).pending
      = ((h.update d fun x => x.unlist id).bridge b).pending :=
    field_update _ d b (fun x => x.takeAside id) Bridge.pending fun _ => rfl
  rw [htake, pending_unlist_of_none hid]

/-- A call that is refused leaves no entry. -/
theorem pending_call_error {h' : Host n} {d : Fin n} {function : String} {args : List Json}
    {e : BridgeError} (ha : Followed (h, m)) (hnum : h.Numbered)
    (hcalls : calls d h.trace < 2 ^ 64) (hcall : h.call d function args = (h', .error e))
    (b : Fin n) : (h'.bridge b).pending = (h.bridge b).pending := by
  obtain ⟨sent, hcalm, rfl⟩ := call_error hcall
  obtain ⟨-, hfits⟩ := ha.peek_unborn (d := d) hnum hcalls
  have hold : ((h.bridge d).pending.filter fun p => p.1 ≠ (h.bridge d).tokens.peek)
      = (h.bridge d).pending := by
    have hstruck := pending_unlist_of_none hfits.pending d
    rwa [bridge_update_self] at hstruck
  rw [cancel, bridge_update]
  split
  · next hb =>
      subst hb
      rw [Bridge.unlist, hcalm.pending, entered, bridge_emit, bridge_update_self]
      simp only [Bridge.enlist, Bridge.unlist, List.filter_append, hold]
      simp
  · next hb =>
      rw [hcalm.pending, entered, bridge_emit, bridge_update_of_ne _ _ hb]

/-- A return with a number token finds no entry. -/
theorem pending_number_return (ha : Followed (h, m)) (hnum : h.Numbered) (nested : Handling n)
    {d : Fin n} {r : Return} {text : String} (hr : r.id = .number text) (b : Fin n) :
    ((handleReturn nested h d r).bridge b).pending = (h.bridge b).pending := by
  have hnone : (h.bridge d).pending? r.id = none := by
    obtain ⟨p, hcourse, hfits⟩ := ha d r.id
    have hunborn : p = .unborn := by
      -- Tokens that a bridge issues are texts.
      refine hcourse.unborn_of_notMem fun hmem => ?_
      rw [(hnum d).2, hr] at hmem
      obtain ⟨k, -, heq⟩ := List.mem_map.1 hmem
      cases heq
    rw [hfits.pending, hunborn]
    rfl
  simp only [handleReturn, resolve, bridge_emit, hnone]
  rfl

end Host

namespace Session

variable {s : Session n}

/-- Dropping the handle of a call that has returned strikes nothing. -/
theorem pending_drop_returned [Limits] {name : String} {x : Handle n} (hs : s.NamesDistinct)
    (ha : Followed (s.host, s.held)) (hx : s.handle? name = some x)
    {pre post : List (Event n)} {function : String} {args : List Json}
    (htrace : s.host.trace = pre ++ .issued x.call.1 x.call.2 function args :: post)
    (hreturned : returnsOf x.call.1 x.call.2 post ≠ []) (b : Fin n) :
    ((s.step (.drop name)).1.host.bridge b).pending = (s.host.bridge b).pending := by
  have hnone : (s.host.bridge x.call.1).pending? x.call.2 = none := by
    rw [held_of_handle? hs hx] at ha
    rcases ha.held_entries htrace with ⟨hfirst, -⟩ | ⟨r, -, hpending, -⟩
    · exact absurd (List.head?_eq_none_iff.1 hfirst) hreturned
    · exact hpending
  rw [step, withHandle, hx]
  cases x with
  | binder d id => exact Host.pending_release_of_none (h := s.host.emit _) hnone b
  | future d id started =>
      have hgiveUp : ∀ r : Host n × Bool,
          ((giveUp id r).bridge b).pending = (r.1.bridge b).pending := by
        rintro ⟨h, present⟩
        cases present <;> rfl
      exact (hgiveUp _).trans (Host.pending_release_of_none (h := s.host.emit _) hnone b)

/-- After every run with fewer than `2 ^ 64` calls on each bridge, the tokens in a pending table are
those of the calls that were issued and since then neither returned, nor dropped unbound or
unfinished, nor expired, and there are as many entries as such calls. A refused call, an `open`, the
drop of a call that has returned, and a return with a number token all leave the tables alone. -/
theorem pending_exact [Limits] (hs : s.Fresh) (steps : List (Step n))
    (hcalls : ∀ b, calls b (s.after steps).host.trace < 2 ^ 64) :
    let t := s.after steps
    (∀ b id, id ∈ (t.host.bridge b).pendingIds ↔
      ∃ pre name args post, t.host.trace = pre ++ .issued b id name args :: post ∧
        ∀ e ∈ post, e.closes b id = false) ∧
    (∀ b, (t.host.bridge b).status.pending = (openCalls b t.host.trace).length) ∧
    (∀ d function args h' e, t.host.call d function args = (h', .error e) →
      ∀ b, (h'.bridge b).pending = (t.host.bridge b).pending) ∧
    (∀ d channel b, ((t.host.openWith d channel).1.bridge b).pending
      = (t.host.bridge b).pending) ∧
    (∀ name x pre function args post, t.handle? name = some x →
      t.host.trace = pre ++ .issued x.call.1 x.call.2 function args :: post →
      returnsOf x.call.1 x.call.2 post ≠ [] →
      ∀ b, ((t.step (.drop name)).1.host.bridge b).pending = (t.host.bridge b).pending) ∧
    ∀ d r text, r.id = .number text →
      (∀ frame, Message.decode frame = .ok (.ret r) →
        ∀ b, ((t.host.handle d frame).1.bridge b).pending = (t.host.bridge b).pending) ∧
      ∀ v, Message.classify v = .ok (.ret r) →
        ∀ b, ((t.host.handleValue d v).1.bridge b).pending = (t.host.bridge b).pending := by
  have hfollowed := hs.followed_after steps hcalls
  have hnumbered := hs.numbered_after steps
  have hnames := (moves_after steps s hs.namesDistinct).1
  refine ⟨fun b id => ?_, fun b => ?_, ?_, ?_, ?_, ?_⟩
  · rw [hfollowed.mem_pendingIds_iff, mem_openCalls]
  · exact hfollowed.length_pending (hs.idsDistinct_after steps)
  · intro d function args h' e hcall b
    exact Host.pending_call_error hfollowed hnumbered (hcalls d) hcall b
  · intro d channel b
    exact (Host.calm_openWith _ d channel).pending b
  · intro name x pre function args post hx htrace hreturned b
    exact pending_drop_returned hnames hfollowed hx htrace hreturned b
  · intro d r text hr
    refine ⟨fun frame hframe b => ?_, fun v hv b => ?_⟩
    · rw [Host.handle, hframe]
      exact Host.pending_number_return hfollowed hnumbered _ hr b
    · rw [Host.handleValue, hv]
      exact Host.pending_number_return hfollowed hnumbered _ hr b

/-- Two calls, of which the first has returned. -/
theorem pending_exact_first_returned :
    let s : Session 1 := start #v[{}] none
    let steps : List (Step 1) := [.call 0 "f" [] "x", .call 0 "g" [.null] "y",
      .handleValue 0 (.object [("return", .string "1700000000000.0")])]
    s.Fresh ∧ (∀ b, calls b (s.after steps).host.trace < 2 ^ 64) ∧
      openCalls 0 (s.after steps).host.trace = [.text "1700000000000.1"] ∧
      ((s.after steps).host.bridge 0).status.pending
        = (openCalls 0 (s.after steps).host.trace).length := by
  intro s steps
  have hcalls : ∀ b, calls b (s.after steps).host.trace < 2 ^ 64 := by decide +kernel
  have hfresh : s.Fresh := fresh_start _ _ _
  exact ⟨hfresh, hcalls, by decide +kernel, (pending_exact hfresh steps hcalls).2.1 0⟩

end Session

end CallBridge
