import CallBridge.Proofs.Bridge.Serve
import CallBridge.Proofs.Session.Marks
import CallBridge.Proofs.Session.Orderly

/-!
# Delivery

The outcome of a call reaches its callback or its future once, and is that of the first return with
the call's token, whether the callback was bound before that return or after it. Where it reaches
the callback, the callback runs with it. Main statement: `Session.delivery_exact`.
-/

namespace CallBridge

variable {n : Nat} {b : Fin n} {id : CallId} {p : Phase n} {post : List (Event n)}

/-! ## Deliveries of a call -/

/-- A bound callback is in the table until the first return, and then has got its outcome. -/
theorem Phase.Sums.bound_cases (hp : p.Sums b id post) (hrest : p.AtRest) {c : Callback n}
    (hbound : .bound b id c ∈ post) :
    ((returnsOf b id post).head? = none ∧ deliveriesOf b id post = [] ∧
        p.entry = some (.callback c)) ∨
      ∃ r, (returnsOf b id post).head? = some r ∧
        deliveriesOf b id post = [(some c, r.outcome)] := by
  have hmem : c ∈ p.binding.toList := by
    rw [← hp.bindings]
    exact List.mem_filterMap.2 ⟨_, hbound, by simp [Event.bindingOf]⟩
  have hbinding : p.binding = some c := by simpa using hmem
  rw [hp.deliveries]
  have houtcome := hp.outcome
  cases p with
  | bound c' =>
      obtain rfl : c' = c := by simpa [Phase.binding] using hbinding
      exact .inl ⟨Option.map_eq_none_iff.1 (houtcome rfl), rfl, rfl⟩
  | done receiver o =>
      obtain rfl : receiver = some c := hbinding
      obtain ⟨r, hfirst, rfl⟩ := Option.map_eq_some_iff.1 (houtcome rfl)
      exact .inr ⟨r, hfirst, rfl⟩
  | due c' o => exact hrest.elim
  | unborn | waiting | abandoned => cases hbinding
  | called name args => cases hbinding
  | parked o => cases hbinding

/-- A call ends at most once. -/
theorem Phase.Sums.ends_le_one (hp : p.Sums b id post) :
    (deliveriesOf b id post).length + post.countP (Event.givesUp b id) ≤ 1 := by
  rw [hp.deliveries, hp.giveUps]
  cases p <;> simp [Phase.delivery, Phase.giveUps]

/-! ## Binding and polling -/

theorem Host.pending?_bindPending {h : Host n} {c : Callback n}
    (hpending : (h.bridge b).pending? id ≠ none) :
    ((h.bindPending b id c).bridge b).pending? id = some (.callback c) := by
  obtain ⟨completion, hcompletion⟩ := Option.ne_none_iff_exists'.1 hpending
  have hentry : (h.bridge b).pending.lookup id = some completion := hcompletion
  simp [bindPending, Bridge.pending?, Bridge.lookup_map_callback, hentry]

/-- Binding to a call with an entry stores the callback. -/
theorem Host.pending?_bind [Limits] {h : Host n} (c : Callback n)
    (hpending : (h.bridge b).pending? id = some .waiting) :
    ((h.bind b id c).bridge b).pending? id = some (.callback c) := by
  have hsome : ((h.bridge b).pending? id).isSome = true := by rw [hpending]; rfl
  rw [bind, if_pos hsome]
  exact pending?_bindPending (by simp [hpending])

/-- A callback runs after its outcome is on record, and then at most its breaking off is logged. -/
theorem Host.sameButLog_runCallback (nested : Handling n) (c : Callback n) (b : Fin n) (id : CallId)
    (o : Outcome) (h : Host n) :
    let ran := (run nested (c.body o) (h.emit (.delivered b id (some c) o))).1
    SameButLog ran (runCallback nested c b id o h) ∧
      ran.trace <+: (runCallback nested c b id o h).trace := by
  intro ran
  rcases hrun : run nested (c.body o) (h.emit (.delivered b id (some c) o)) with ⟨k, e⟩
  obtain rfl : ran = k := congrArg Prod.fst hrun
  rw [runCallback, hrun]
  cases e with
  | returned value => exact ⟨.refl _, List.prefix_rfl⟩
  | failed err => exact ⟨.refl _, List.prefix_rfl⟩
  | panicked cause =>
      refine ⟨(sameButLog_log _ _ _ _).trans (sameButLog_log _ _ _ _ _), ?_⟩
      exact (List.prefix_append _ _).trans (List.prefix_append _ _)

/-- Binding to a call whose outcome is there delivers it at once. -/
theorem Host.bind_arrived [Limits] {h : Host n} {o : Outcome} (c : Callback n)
    (hpending : (h.bridge b).pending? id = none) (harrived : (h.bridge b).arrived? id = some o) :
    h.trace ++ [.bound b id c, .delivered b id (some c) o] <+: (h.bind b id c).trace ∧
      ∃ k, k.trace = h.trace ++ [.bound b id c, .delivered b id (some c) o] ∧
        SameButLog (run nestedHandling (c.body o) k).1 (h.bind b id c) := by
  have hnone : ¬ ((h.bridge b).pending? id).isSome = true := by rw [hpending]; simp
  rw [bind, if_neg hnone, harrived]
  have htrace : (((h.emit (.bound b id c)).update b fun x => x.takeAside id).emit
      (.delivered b id (some c) o)).trace
        = h.trace ++ [.bound b id c, .delivered b id (some c) o] := by
    rw [trace_emit, trace_update, trace_emit, List.append_assoc]
    rfl
  have hturns := turns_runCallback (takesTurns_handleNested Limits.nesting) c b id o
    ((h.emit (.bound b id c)).update b fun x => x.takeAside id) 0
  refine ⟨htrace ▸ hturns.trace_extends, _, htrace, ?_⟩
  exact (sameButLog_runCallback nestedHandling c b id o _).1

namespace Session

variable {s : Session n} {name : String} {x : Handle n}

/-- A poll of a call that is held is one of its future. -/
theorem exists_poll [Limits] (hx : s.handle? name = some x) (hcall : x.call = (b, id)) :
    ∃ started, s.step (.poll name) = poll.go s name b id started := by
  rw [step, withHandle, hx]
  cases x with
  | binder b' id' =>
      obtain ⟨rfl, rfl⟩ := Prod.mk.inj hcall
      exact ⟨_, rfl⟩
  | future b' id' started =>
      obtain ⟨rfl, rfl⟩ := Prod.mk.inj hcall
      exact ⟨_, rfl⟩

theorem poll_arrived [Limits] {o : Outcome} (hx : s.handle? name = some x)
    (hcall : x.call = (b, id)) (harrived : (s.host.bridge b).arrived? id = some o) :
    (s.step (.poll name)).2 = .outcome o := by
  obtain ⟨started, hpoll⟩ := exists_poll hx hcall
  rw [hpoll, poll.go, pollFuture, Host.takeOutcome, harrived]

theorem poll_waiting [Limits] (hx : s.handle? name = some x) (hcall : x.call = (b, id))
    (harrived : (s.host.bridge b).arrived? id = none) :
    (s.step (.poll name)).2 = .text "pending" ∨
      (s.step (.poll name)).2 = .outcome (.error .timeout) := by
  obtain ⟨started, hpoll⟩ := exists_poll hx hcall
  rw [hpoll, poll.go, pollFuture, Host.takeOutcome, harrived]
  dsimp only
  cases limit s.host b with
  | none => exact .inl rfl
  | some ms =>
      by_cases htime : started + ms ≤ s.clock
      · simp [htime]
      · simp [htime]

/-- A poll that ends a future is recorded: as a delivery, or as expiry. -/
theorem poll_recorded [Limits] {o : Outcome} (hx : s.handle? name = some x)
    (hcall : x.call = (b, id)) (hpoll : (s.step (.poll name)).2 = .outcome o) :
    ∃ es, (s.step (.poll name)).1.host.trace = s.host.trace ++ es ∧
      (.delivered b id none o ∈ es ∨ (.expired b id ∈ es ∧ o = .error .timeout)) := by
  obtain ⟨started, hgo⟩ := exists_poll hx hcall
  rw [hgo, poll.go, pollFuture, Host.takeOutcome] at hpoll ⊢
  cases harrived : (s.host.bridge b).arrived? id with
  | some o' =>
      simp only [harrived, Answer.outcome.injEq] at hpoll ⊢
      subst hpoll
      exact ⟨[.delivered b id none o'], rfl, .inl (List.mem_singleton_self _)⟩
  | none =>
      simp only [harrived] at hpoll ⊢
      cases hlimit : limit s.host b with
      | none => simp [hlimit] at hpoll
      | some ms =>
          by_cases htime : started + ms ≤ s.clock
          · simp only [hlimit, if_pos htime, Answer.outcome.injEq] at hpoll ⊢
            obtain ⟨e, hlog⟩ : ∃ e, (s.host.log .warn Host.binderTarget
                ("remote call timed out after " ++ Duration.describeMillis ms)
                [Host.idField id]).trace = s.host.trace ++ [e] := ⟨_, rfl⟩
            obtain ⟨es, hes⟩ := (turns_giveUp id ((s.host.log .warn Host.binderTarget
              ("remote call timed out after " ++ Duration.describeMillis ms)
              [Host.idField id]).expire b id) 0).trace_extends
            refine ⟨e :: .expired b id :: es, hes.symm.trans ?_, .inr ⟨by simp, hpoll.symm⟩⟩
            simp [Host.expire, Host.release, Host.cancel, hlog]
          · simp [hlimit, htime] at hpoll

/-- In a run, the callback gets the outcome when the host is `h`. Its code runs right then, from the
host that has this on record, and what it does is on record at the end. -/
def RunsAt [Limits] (s : Session n) (steps : List (Step n)) (b : Fin n) (id : CallId)
    (c : Callback n) (o : Outcome) (h : Host n) : Prop :=
  ∃ front back level, s.marks steps = front ++ ⟨h, .deliver level b id c o⟩ :: back ∧
    Way s.host front h ∧
    (Host.run (Host.inner level) (c.body o) (h.emit (.delivered b id (some c) o))).1.trace
      <+: (s.after steps).host.trace

/-- Wherever a delivery to a callback is on record, the callback runs. -/
theorem exists_runsAt [Limits] (s : Session n) (steps : List (Step n)) {c : Callback n}
    {o : Outcome} {before after : List (Event n)} (hbefore : s.host.trace <+: before)
    (htrace : (s.after steps).host.trace = before ++ .delivered b id (some c) o :: after) :
    ∃ h, h.trace = before ∧ s.RunsAt steps b id c o h := by
  obtain ⟨hway, hrecorded⟩ := leads_after steps s
  obtain ⟨front, back, level, h, hms, hh⟩ := hway.exists_deliver hbefore htrace
  have hran := (Host.sameButLog_runCallback (Host.inner level) c b id o h).2
  rw [hms] at hway hrecorded
  exact ⟨h, hh, front, back, level, hms, hway.before, hran.trans
    (hrecorded _ (List.mem_append_right front List.mem_cons_self))⟩

/-- For every call that was issued in a run with fewer than `2 ^ 64` calls on each bridge:

* a callback bound to it is in the table before the first return with its token, and has got the
  outcome of that return, and nothing else, afterwards;
* whatever is delivered is the outcome of the first such return, which came before the call was
  given up, and goes to the callback that was bound, or to the poll of a future. A callback runs
  with it when it is delivered;
* deliveries and the call being given up together happen at most once;
* while the call is held, binding stores the callback or, after the first return, runs it at once,
  and polling gives the outcome of that return; before it, a poll is pending or times out. A poll
  that gives an outcome is on record. -/
theorem delivery_exact [Limits] {s : Session n} (hs : s.Fresh) (steps : List (Step n))
    (hcalls : ∀ b, calls b (s.after steps).host.trace < 2 ^ 64) {pre post : List (Event n)}
    {function : String} {args : List Json}
    (hissued : (s.after steps).host.trace = pre ++ .issued b id function args :: post) :
    let t := s.after steps
    (∀ c, .bound b id c ∈ post →
      ((returnsOf b id post).head? = none ∧ deliveriesOf b id post = [] ∧
        (t.host.bridge b).pending? id = some (.callback c)) ∨
      ∃ r, (returnsOf b id post).head? = some r ∧
        deliveriesOf b id post = [(some c, r.outcome)]) ∧
    (∀ before receiver o after, post = before ++ .delivered b id receiver o :: after →
      (returnsOf b id before).head?.map Return.outcome = some o ∧
        bindingsOf b id before = receiver.toList ∧
        before.countP (Event.givesUp b id) = 0 ∧
        ∀ c, receiver = some c →
          ∃ h, h.trace = pre ++ .issued b id function args :: before ∧
            s.RunsAt steps b id c o h) ∧
    (deliveriesOf b id post).length + post.countP (Event.givesUp b id) ≤ 1 ∧
    ∀ name x, t.handle? name = some x → x.call = (b, id) →
      (((returnsOf b id post).head? = none ∧
          (∀ c, ((t.host.bind b id c).bridge b).pending? id = some (.callback c)) ∧
          ((t.step (.poll name)).2 = .text "pending" ∨
            (t.step (.poll name)).2 = .outcome (.error .timeout))) ∨
        ∃ r, (returnsOf b id post).head? = some r ∧
          (∀ c, t.host.trace ++ [.bound b id c, .delivered b id (some c) r.outcome]
              <+: (t.host.bind b id c).trace ∧
            ∃ k, k.trace = t.host.trace ++ [.bound b id c, .delivered b id (some c) r.outcome] ∧
              Host.SameButLog (Host.run Host.nestedHandling (c.body r.outcome) k).1
                (t.host.bind b id c)) ∧
          (t.step (.poll name)).2 = .outcome r.outcome) ∧
      ∀ o, (t.step (.poll name)).2 = .outcome o →
        ∃ es, (t.step (.poll name)).1.host.trace = t.host.trace ++ es ∧
          (.delivered b id none o ∈ es ∨ (.expired b id ∈ es ∧ o = .error .timeout)) := by
  have hfollowed := hs.followed_after steps hcalls
  obtain ⟨p, hcourse, hfits⟩ := hfollowed b id
  rw [hissued] at hcourse
  have hsince := hcourse.since_issued
  refine ⟨?_, ?_, hsince.sums.ends_le_one, ?_⟩
  · intro c hbound
    rw [hfits.pending]
    exact hsince.sums.bound_cases hfits.rest hbound
  · rintro before receiver o after rfl
    obtain ⟨hreturn, hbindings, hgiveUps⟩ := hsince.delivered
    refine ⟨hreturn, hbindings, hgiveUps, ?_⟩
    rintro c rfl
    have hbefore : s.host.trace <+: pre ++ .issued b id function args :: before := by
      rw [hs.host.trace]
      exact List.nil_prefix
    have htrace : (s.after steps).host.trace
        = (pre ++ .issued b id function args :: before) ++ .delivered b id (some c) o :: after := by
      rw [hissued, List.append_assoc, List.cons_append]
    exact exists_runsAt s steps hbefore htrace
  · intro name x hx hcall
    refine ⟨?_, fun o hpoll => poll_recorded hx hcall hpoll⟩
    have hnames := (moves_after steps s hs.namesDistinct).1
    rw [held_of_handle? hnames hx, hcall] at hfollowed
    rcases hfollowed.held_entries hissued with
      ⟨hfirst, hpending, harrived⟩ | ⟨r, hfirst, hpending, harrived⟩
    · exact .inl ⟨hfirst, fun c => Host.pending?_bind c hpending, poll_waiting hx hcall harrived⟩
    · exact .inr ⟨r, hfirst, fun c => Host.bind_arrived c hpending harrived,
        poll_arrived hx hcall harrived⟩

/-- A callback that is bound after the return. -/
theorem delivery_exact_bound_late :
    let s : Session 1 := start #v[{}] none
    let steps : List (Step 1) := [.call 0 "f" [] "x",
      .handleValue 0 (.object [("return", .string "1700000000000.0"), ("value", .bool true)]),
      .attach "x" ⟨fun _ => .done (.returned none), []⟩]
    let t := s.after steps
    let id : CallId := .text "1700000000000.0"
    ∃ pre function args post c r, t.host.trace = pre ++ .issued 0 id function args :: post ∧
      .bound 0 id c ∈ post ∧ (returnsOf 0 id post).head? = some r ∧
      deliveriesOf 0 id post = [(some c, r.outcome)] := by
  intro s steps t id
  have hcalls : ∀ b, calls b t.host.trace < 2 ^ 64 := by decide +kernel
  have hfourth : t.host.trace[3]?.bind (Event.issuedOf 0) = some id := by decide +kernel
  have hbindings : (bindingsOf 0 id (t.host.trace.drop 4)).length = 1 := by decide +kernel
  have hreturns : (returnsOf 0 id (t.host.trace.drop 4)).length = 1 := by decide +kernel
  obtain ⟨e, he, hissuedOf⟩ := Option.bind_eq_some_iff.1 hfourth
  obtain ⟨function, args, rfl⟩ := Event.issuedOf_eq_some.1 hissuedOf
  have hissued : t.host.trace
      = t.host.trace.take 3 ++ .issued 0 id function args :: t.host.trace.drop 4 := by
    obtain ⟨hlt, hget⟩ := List.getElem?_eq_some_iff.1 he
    rw [← hget, ← List.drop_eq_getElem_cons hlt, List.take_append_drop]
  obtain ⟨c, hc⟩ := List.length_eq_one_iff.1 hbindings
  have hbound : .bound 0 id c ∈ t.host.trace.drop 4 := by
    have hmem : c ∈ bindingsOf 0 id (t.host.trace.drop 4) := by simp [hc]
    obtain ⟨e, he, hbinding⟩ := List.mem_filterMap.1 hmem
    rwa [Event.bindingOf_eq_some.1 hbinding] at he
  obtain ⟨r, hr⟩ := List.length_eq_one_iff.1 hreturns
  rcases (delivery_exact (fresh_start _ _ _) steps hcalls hissued).1 c hbound with
    ⟨hnone, -⟩ | ⟨r, hfirst, hdeliveries⟩
  · simp [hr] at hnone
  · exact ⟨_, function, args, _, c, r, hissued, hbound, hfirst, hdeliveries⟩

end Session

end CallBridge
