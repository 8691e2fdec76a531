import CallBridge.Proofs.Session.Passing

/-!
# The time limit of a future

The time limit of a future counts from its first poll. A poll asks for the outcome first, and for
the time only if there is none. Along every run each handle knows the time of the first poll of its
call (`Fresh.timed`). Main statement: `Session.timeout_exact`.
-/

namespace CallBridge

variable {n : Nat}

namespace Session

open Host

variable {s t u : Session n} {name : String} {x : Handle n}

/-! ## Polls -/

theorem takeAside_of_none {y : Bridge n} {id : CallId} (hnone : y.arrived? id = none) :
    y.takeAside id = y := by
  have hfilter : (y.arrived.filter fun p => p.1 ≠ id) = y.arrived := by
    apply List.filter_eq_self.2
    intro p hp
    have hne : id ≠ p.1 := by simpa using List.lookup_eq_none_iff.1 hnone p hp
    simpa using hne.symm
  rw [Bridge.takeAside, hfilter]

/-- The host when a poll has taken the outcome of a call. -/
def handedOver (h : Host n) (b : Fin n) (id : CallId) (o : Outcome) : Host n :=
  (h.update b fun y => y.takeAside id).emit (.delivered b id none o)

/-- The host when a future has waited for longer than `ms`. -/
def timedOut (h : Host n) (b : Fin n) (id : CallId) (ms : Nat) : Host n :=
  giveUp id ((h.log .warn binderTarget
    ("remote call timed out after " ++ Duration.describeMillis ms) [idField id]).expire b id)

theorem bridge_giveUp (id : CallId) (r : Host n × Bool) (d : Fin n) :
    (giveUp id r).bridge d = r.1.bridge d := by
  obtain ⟨h, present⟩ := r
  cases present <;> rfl

/-- Only the entry of the call goes. -/
theorem bridge_timedOut {h : Host n} {b : Fin n} {id : CallId}
    (harrived : (h.bridge b).arrived? id = none) (ms : Nat) (d : Fin n) :
    (timedOut h b id ms).bridge d = if d = b then (h.bridge b).unlist id else h.bridge d := by
  have haside : ((h.bridge b).unlist id).takeAside id = (h.bridge b).unlist id :=
    takeAside_of_none harrived
  rw [timedOut, bridge_giveUp]
  show ((h.update b fun y => y.unlist id).update b fun y => y.takeAside id).bridge d = _
  rw [update_update, bridge_update, haside]

/-- Of all calls just this one expires. -/
theorem trace_timedOut (h : Host n) (b : Fin n) (id : CallId) (ms : Nat) :
    ∃ es, (timedOut h b id ms).trace = h.trace ++ es ∧ .expired b id ∈ es ∧
      ∀ d k, .expired d k ∈ es → d = b ∧ k = id := by
  obtain ⟨es, htrace, hes⟩ := noExpiry_giveUp id ((h.log .warn binderTarget
    ("remote call timed out after " ++ Duration.describeMillis ms) [idField id]).expire b id)
  refine ⟨.logged (.say .warn binderTarget
    ("remote call timed out after " ++ Duration.describeMillis ms) [idField id]) ::
      .expired b id :: es, htrace.trans ?_, by simp, ?_⟩
  · simp [expire, release, cancel, log]
  · intro d k hmem
    rcases List.mem_cons.1 hmem with hlog | hmem
    · cases hlog
    · rcases List.mem_cons.1 hmem with hexpired | hmem
      · cases hexpired
        exact ⟨rfl, rfl⟩
      · exact absurd hmem (hes d k)

section Poll

variable {b : Fin n} {id : CallId}

/-- A poll counts from the first poll, which it may be itself. -/
theorem step_poll [Limits] (hx : s.handle? name = some x) (hcall : x.call = (b, id)) :
    s.step (.poll name) = poll.go s name b id (x.started.getD s.clock) := by
  rw [step, withHandle, hx]
  cases x with
  | binder b' id' =>
      obtain ⟨rfl, rfl⟩ := Prod.mk.inj hcall
      rfl
  | future b' id' started =>
      obtain ⟨rfl, rfl⟩ := Prod.mk.inj hcall
      rfl

theorem poll_of_arrived [Limits] (hx : s.handle? name = some x) (hcall : x.call = (b, id))
    {o : Outcome} (harrived : (s.host.bridge b).arrived? id = some o) :
    s.step (.poll name) = (removeHandle { s with host := handedOver s.host b id o } name,
      .outcome o) := by
  rw [step_poll hx hcall, poll.go, pollFuture, takeOutcome, harrived]
  rfl

theorem poll_of_late [Limits] (hx : s.handle? name = some x) (hcall : x.call = (b, id))
    (harrived : (s.host.bridge b).arrived? id = none) {ms : Nat}
    (hlimit : limit s.host b = some ms) (htime : x.started.getD s.clock + ms ≤ s.clock) :
    s.step (.poll name) = (removeHandle { s with host := timedOut s.host b id ms } name,
      .outcome (.error .timeout)) := by
  rw [step_poll hx hcall, poll.go, pollFuture, takeOutcome, harrived]
  simp only [hlimit, if_pos htime]
  rfl

theorem poll_of_early [Limits] (hx : s.handle? name = some x) (hcall : x.call = (b, id))
    (harrived : (s.host.bridge b).arrived? id = none)
    (htime : ∀ ms, limit s.host b = some ms → s.clock < x.started.getD s.clock + ms) :
    s.step (.poll name)
      = (s.setHandle name (.future b id (some (x.started.getD s.clock))), .text "pending") := by
  rw [step_poll hx hcall, poll.go, pollFuture, takeOutcome, harrived]
  cases hlimit : limit s.host b with
  | none => simp only [hlimit]
  | some ms =>
      have hearly : ¬ x.started.getD s.clock + ms ≤ s.clock := Nat.not_le.2 (htime ms hlimit)
      simp only [hlimit, if_neg hearly]

/-- What a poll does to the handles, and when it lets a call expire. -/
theorem poll_cases [Limits] (hx : s.handle? name = some x) (hcall : x.call = (b, id)) :
    (∀ key y, (s.step (.poll name)).1.handle? key = some y →
      (key ≠ name ∧ s.handle? key = some y) ∨
        (key = name ∧ y = .future b id (some (x.started.getD s.clock)))) ∧
    ∃ es, (s.step (.poll name)).1.host.trace = s.host.trace ++ es ∧
      ∀ d k, .expired d k ∈ es → d = b ∧ k = id ∧
        ∃ ms, limit s.host b = some ms ∧ x.started.getD s.clock + ms ≤ s.clock := by
  have hremoved : ∀ h key y, (removeHandle { s with host := h } name).handle? key = some y →
      (key ≠ name ∧ s.handle? key = some y) ∨
        (key = name ∧ y = .future b id (some (x.started.getD s.clock))) := by
    intro h key y hy
    rw [handle?_removeHandle] at hy
    split at hy
    · cases hy
    · next hkey => exact .inl ⟨hkey, hy⟩
  cases harrived : (s.host.bridge b).arrived? id with
  | some o =>
      rw [poll_of_arrived hx hcall harrived]
      refine ⟨hremoved _, [.delivered b id none o], rfl, ?_⟩
      intro d k hmem
      cases List.mem_singleton.1 hmem
  | none =>
      by_cases htime : ∃ ms, limit s.host b = some ms ∧ x.started.getD s.clock + ms ≤ s.clock
      · obtain ⟨ms, hlimit, hlate⟩ := htime
        obtain ⟨es, htrace, -, hes⟩ := trace_timedOut s.host b id ms
        rw [poll_of_late hx hcall harrived hlimit hlate]
        refine ⟨hremoved _, es, htrace, ?_⟩
        intro d k hmem
        exact ⟨(hes d k hmem).1, (hes d k hmem).2, ms, hlimit, hlate⟩
      · have hearly : ∀ ms, limit s.host b = some ms →
            s.clock < x.started.getD s.clock + ms := by
          intro ms hlimit
          exact Nat.lt_of_not_le fun hlate => htime ⟨ms, hlimit, hlate⟩
        rw [poll_of_early hx hcall harrived hearly]
        refine ⟨?_, [], (List.append_nil _).symm, fun d k hmem => by cases hmem⟩
        intro key y hy
        rw [handle?_setHandle] at hy
        split at hy
        · next hkey => exact .inr ⟨hkey, (Option.some.inj hy).symm⟩
        · next hkey => exact .inl ⟨hkey, hy⟩

end Poll

/-! ## Polls in a run -/

/-- When the step polls the call `c`, if it does. -/
def pollsOf (c : Fin n × CallId) (s : Session n) : Step n → List Nat
  | .poll name => if (s.handle? name).map Handle.call = some c then [s.clock] else []
  | _ => []

/-- The times at which the call `c` is polled in a run, in order. -/
def pollTimes [Limits] (c : Fin n × CallId) (s : Session n) : List (Step n) → List Nat
  | [] => []
  | x :: rest => s.pollsOf c x ++ (s.advance x).1.pollTimes c rest

theorem pollTimes_snoc [Limits] (c : Fin n × CallId) (steps : List (Step n)) (x : Step n) :
    ∀ s : Session n,
      s.pollTimes c (steps ++ [x]) = s.pollTimes c steps ++ (s.after steps).pollsOf c x := by
  induction steps with
  | nil =>
      intro s
      exact List.append_nil _
  | cons first rest ih =>
      intro s
      rw [List.cons_append, pollTimes, ih, pollTimes, List.append_assoc]
      rfl

theorem pollsOf_of_ne (c : Fin n × CallId) (s : Session n) {x : Step n}
    (hx : ∀ name, x ≠ .poll name) : s.pollsOf c x = [] := by
  cases x with
  | poll name => exact absurd rfl (hx name)
  | _ => rfl

theorem after_snoc [Limits] (s : Session n) (steps : List (Step n)) (x : Step n) :
    s.after (steps ++ [x]) = ((s.after steps).advance x).1 :=
  List.foldl_append

/-- After a run each handle knows when its call was first polled. What was polled is a call that was
made, and what has expired was polled after its time. -/
structure Timed [Limits] (s : Session n) (steps : List (Step n)) : Prop where
  started : ∀ name x, (s.after steps).handle? name = some x →
    x.started = (s.pollTimes x.call steps).head?
  made : ∀ c, s.pollTimes c steps ≠ [] → c.2 ∈ calledIds c.1 (s.after steps).host.trace
  expired : ∀ b id, .expired b id ∈ (s.after steps).host.trace →
    ∃ ms first late, limit s.host b = some ms ∧ (s.pollTimes (b, id) steps).head? = some first ∧
      late ∈ s.pollTimes (b, id) steps ∧ first + ms ≤ late

/-- A step that polls no call. -/
theorem Timed.pass [Limits] {steps : List (Step n)} {x : Step n} (htimed : Timed s steps)
    (hpasses : Passes (s.after steps) ((s.after steps).step x).1)
    (hunpolled : ∀ c, (s.after steps).pollsOf c x = [])
    (hnodup : ∀ b, (calledIds b (s.after (steps ++ [x])).host.trace).Nodup) :
    Timed s (steps ++ [x]) := by
  obtain ⟨es, htrace, hes, hhandles⟩ := hpasses
  have htimes : ∀ c, s.pollTimes c (steps ++ [x]) = s.pollTimes c steps := by
    intro c
    rw [pollTimes_snoc, hunpolled c, List.append_nil]
  have htrace' : (s.after (steps ++ [x])).host.trace = (s.after steps).host.trace ++ es := by
    rw [after_snoc]
    exact htrace
  refine ⟨?_, ?_, ?_⟩
  · intro name y hy
    rw [after_snoc] at hy
    rw [htimes]
    rcases hhandles name y hy with ⟨z, hz, hcall, hstarted⟩ | ⟨hnone, hcalled⟩
    · rw [← hstarted, ← hcall]
      exact htimed.started name z hz
    · -- A token that is taken now was not taken before, so its call was not polled.
      have hnew : y.call.2 ∉ calledIds y.call.1 (s.after steps).host.trace := by
        intro hold
        have hboth := hnodup y.call.1
        rw [htrace', calledIds_append] at hboth
        exact (List.nodup_append.1 hboth).2.2 _ hold _ hcalled rfl
      have hempty : s.pollTimes y.call steps = [] := by
        by_contra hpolled
        exact hnew (htimed.made _ hpolled)
      rw [hnone, hempty]
      rfl
  · intro c hc
    rw [htimes] at hc
    rw [htrace', calledIds_append]
    exact List.mem_append_left _ (htimed.made c hc)
  · intro b id hmem
    rw [htrace', List.mem_append] at hmem
    rw [htimes]
    exact htimed.expired b id (hmem.resolve_right (hes b id))

/-- Two names never stand for one call. -/
theorem call_ne_of_handle? {key : String} {y : Handle n} (hnames : s.NamesDistinct)
    (hfollowed : Followed (s.host, s.held)) (hx : s.handle? name = some x)
    (hy : s.handle? key = some y) (hkey : key ≠ name) : y.call ≠ x.call := by
  intro hcall
  rw [held_of_handle? hnames hx] at hfollowed
  obtain ⟨p, -, hfits⟩ := hfollowed x.call.1 x.call.2
  have hrest : (s.removeHandle name).handle? key = some y := by
    rw [handle?_removeHandle, if_neg hkey, hy]
  have hcount : (s.removeHandle name).held.count x.call = 0 := hfits.held.1
  rw [held_of_handle? (namesDistinct_removeHandle hnames name) hrest, hcall,
    Multiset.count_cons_self] at hcount
  cases hcount

theorem mem_calledIds_of_handle? (hnames : s.NamesDistinct)
    (hfollowed : Followed (s.host, s.held)) (hx : s.handle? name = some x) :
    x.call.2 ∈ calledIds x.call.1 s.host.trace := by
  rw [held_of_handle? hnames hx] at hfollowed
  obtain ⟨p, hcourse, hfits⟩ := hfollowed x.call.1 x.call.2
  by_contra hnew
  obtain rfl := hcourse.unborn_of_notMem hnew
  rcases hfits.held.2 with hwaiting | ⟨o, hparked⟩
  · cases hwaiting
  · cases hparked

/-- A poll of the call that `name` stands for. -/
theorem Timed.poll [Limits] {steps : List (Step n)} (htimed : Timed s steps)
    (hnames : (s.after steps).NamesDistinct)
    (hfollowed : Followed ((s.after steps).host, (s.after steps).held))
    (hlimit : ∀ b, limit (s.after steps).host b = limit s.host b)
    (hx : (s.after steps).handle? name = some x) : Timed s (steps ++ [.poll name]) := by
  obtain ⟨hhandles, es, htrace, hes⟩ := poll_cases hx (Prod.eta x.call).symm
  have hself : s.pollTimes x.call (steps ++ [.poll name])
      = s.pollTimes x.call steps ++ [(s.after steps).clock] := by
    rw [pollTimes_snoc, pollsOf, hx, Option.map_some, if_pos rfl]
  have hother : ∀ c, c ≠ x.call →
      s.pollTimes c (steps ++ [.poll name]) = s.pollTimes c steps := by
    intro c hc
    rw [pollTimes_snoc, pollsOf, hx, Option.map_some,
      if_neg fun heq => hc (Option.some.inj heq).symm, List.append_nil]
  -- The first poll is the one that the handle remembers, or this one.
  have hfirst : (s.pollTimes x.call (steps ++ [.poll name])).head?
      = some (x.started.getD (s.after steps).clock) := by
    rw [hself, htimed.started name x hx, List.head?_append]
    cases (s.pollTimes x.call steps).head? <;> rfl
  have htrace' : (s.after (steps ++ [.poll name])).host.trace
      = (s.after steps).host.trace ++ es := by
    rw [after_snoc]
    exact htrace
  refine ⟨?_, ?_, ?_⟩
  · intro key y hy
    rw [after_snoc] at hy
    rcases hhandles key y hy with ⟨hkey, hold⟩ | ⟨-, rfl⟩
    · rw [hother _ (call_ne_of_handle? hnames hfollowed hx hold hkey)]
      exact htimed.started key y hold
    · exact hfirst.symm
  · intro c hc
    rw [htrace', calledIds_append]
    apply List.mem_append_left
    by_cases hcall : c = x.call
    · rw [hcall]
      exact mem_calledIds_of_handle? hnames hfollowed hx
    · rw [hother c hcall] at hc
      exact htimed.made c hc
  · intro d k hmem
    rw [htrace', List.mem_append] at hmem
    rcases hmem with hold | hnew
    · obtain ⟨ms, first, late, hms, hhead, hlate, hle⟩ := htimed.expired d k hold
      refine ⟨ms, first, late, hms, ?_, ?_, hle⟩
      · rw [pollTimes_snoc, List.head?_append, hhead]
        rfl
      · rw [pollTimes_snoc]
        exact List.mem_append_left _ hlate
    · obtain ⟨rfl, rfl, ms, hms, hle⟩ := hes d k hnew
      refine ⟨ms, _, _, (hlimit _).symm.trans hms, hfirst, ?_, hle⟩
      rw [Prod.eta, hself]
      exact List.mem_append_right _ (List.mem_singleton_self _)

theorem limit_after [Limits] (hnames : s.NamesDistinct) (steps : List (Step n)) (b : Fin n) :
    limit (s.after steps).host b = limit s.host b := by
  have hconfig := ((moves_after steps s hnames).2).config_eq b
  rw [limit, limit, hconfig]

theorem calls_after_le [Limits] (hnames : s.NamesDistinct) (steps : List (Step n)) (b : Fin n) :
    calls b s.host.trace ≤ calls b (s.after steps).host.trace := by
  have hturns := (moves_after steps s hnames).2
  exact hturns.keep (P := fun a => calls b s.host.trace ≤ calls b a.1.trace)
    (fun _ _ hturn hle => hle.trans (hturn.calls_le b)) le_rfl

theorem Fresh.timed [Limits] (hs : s.Fresh) (steps : List (Step n))
    (hcalls : ∀ b, calls b (s.after steps).host.trace < 2 ^ 64) : Timed s steps := by
  induction steps using List.reverseRecOn with
  | nil =>
      refine ⟨?_, ?_, ?_⟩
      · intro name x hx
        rw [handle?, after, List.foldl_nil, hs.handles] at hx
        cases hx
      · exact fun c hc => absurd rfl hc
      · intro b id hmem
        rw [after, List.foldl_nil, hs.host.trace] at hmem
        cases hmem
  | append_singleton steps x ih =>
      have hnames := (moves_after steps s hs.namesDistinct).1
      have hbefore : ∀ b, calls b (s.after steps).host.trace < 2 ^ 64 := by
        intro b
        refine lt_of_le_of_lt ?_ (hcalls b)
        rw [after_snoc]
        exact calls_after_le hnames [x] b
      have htimed := ih hbefore
      have hnodup : ∀ b, (calledIds b (s.after (steps ++ [x])).host.trace).Nodup :=
        fun b => (hs.numbered_after _).nodup_calledIds (hcalls b).le
      by_cases hx : ∃ name, x = .poll name
      · obtain ⟨name, rfl⟩ := hx
        cases hhandle : (s.after steps).handle? name with
        | some y =>
            exact htimed.poll hnames (hs.followed_after steps hbefore)
              (limit_after hs.namesDistinct steps) hhandle
        | none =>
            have hstep : (s.after steps).step (.poll name)
                = (s.after steps, .text "no handle") := by
              rw [step, withHandle, hhandle]
            refine htimed.pass ?_ ?_ hnodup
            · rw [hstep]
              exact .refl _
            · intro c
              rw [pollsOf, hhandle]
              rfl
      · have hne : ∀ name, x ≠ .poll name := fun name heq => hx ⟨name, heq⟩
        exact htimed.pass (passes_step _ x hne) (fun c => pollsOf_of_ne c _ hne) hnodup

end Session

/-! ## Returns that come too late -/

/-- A return comes that nothing waits for. -/
def Host.ignoring (h : Host n) (b : Fin n) (r : Return) : Host n :=
  (h.emit (.returned b r)).log .debug bridgeTarget "ignoring return with unknown token"
    [idField r.id]

theorem Host.handleMessage_ignoring {h : Host n} {b : Fin n} {r : Return}
    (hnone : (h.bridge b).pending? r.id = none) (nested : Handling n) :
    handleMessage nested h b (.ret r) = (h.ignoring b r, .ok ()) := by
  simp only [handleMessage, handleReturn, resolve, bridge_emit, hnone]
  rfl

/-- A call that has expired is not in the table again. -/
theorem Orderly.pending?_of_expired {a : Host n × Custody n} (ha : Orderly a)
    (hcalls : ∀ d, calls d a.1.trace < 2 ^ 64) {b : Fin n} {id : CallId}
    (hexpired : .expired b id ∈ a.1.trace) : (a.1.bridge b).pending? id = none := by
  obtain ⟨p, hcourse, hfits⟩ := ha.2 (fun d => (hcalls d).le) b id
  rw [hfits.pending, hcourse.abandoned_of_expired hexpired]
  rfl

namespace Session

open Host

variable {s : Session n}

/-- After a poll that times out, a return with the token of the call is ignored. -/
theorem ignored_of_late [Limits] {name : String} {b : Fin n} {id : CallId} {ms : Nat}
    (hnames : s.NamesDistinct) (horderly : Orderly (s.host, s.held))
    (hlate : (s.step (.poll name)).1 = removeHandle { s with host := timedOut s.host b id ms } name)
    {a : Host n × Custody n}
    (hturns : Turns ((s.step (.poll name)).1.host, (s.step (.poll name)).1.held) a)
    (hcalls : ∀ d, calls d a.1.trace < 2 ^ 64) {r : Return} (hr : r.id = id)
    (nested : Handling n) : handleMessage nested a.1 b (.ret r) = (a.1.ignoring b r, .ok ()) := by
  have hpolled := (moves_step s (.poll name) hnames).2
  have ha : Orderly a := Turns.keep Turn.orderly (hpolled.trans hturns) horderly
  have hexpired : .expired b id ∈ a.1.trace := by
    obtain ⟨es, htrace, hmem, -⟩ := trace_timedOut s.host b id ms
    apply hturns.trace_extends.subset
    rw [hlate]
    show _ ∈ (timedOut s.host b id ms).trace
    rw [htrace]
    exact List.mem_append_right _ hmem
  apply handleMessage_ignoring
  rw [hr]
  exact ha.pending?_of_expired hcalls hexpired

/-- **The time limit of a future.** For a call that was issued in a run with fewer than `2 ^ 64`
calls on each bridge, where `limit` is the limit of its bridge's configuration and `t0` the time of
its first poll, or of this one:

* a poll gives the outcome of the first return with the call's token, if there has been one; if not,
  it times out where there is a limit and `t0` plus the limit has come, and is pending otherwise;
* when it times out, the entry of the call goes from the table and nothing else changes in any
  bridge, and wherever the run goes on from there, a return with its token is ignored;
* a call that has expired has a limit and was polled when its time was over; so a future that is not
  polled and a call without a limit never expire;
* a call that a callback is bound to has not expired. The callback waits, or has got the outcome of
  the first return. -/
theorem timeout_exact [Limits] (hs : s.Fresh) (steps : List (Step n))
    (hcalls : ∀ d, calls d (s.after steps).host.trace < 2 ^ 64) {b : Fin n} {id : CallId}
    {pre post : List (Event n)} {function : String} {args : List Json}
    (hissued : (s.after steps).host.trace = pre ++ .issued b id function args :: post) :
    let t := s.after steps
    let times := s.pollTimes (b, id) steps
    let first := (returnsOf b id post).head?
    (∀ name x, t.handle? name = some x → x.call = (b, id) →
      let t0 := times.head?.getD t.clock
      let polled := t.step (.poll name)
      (∀ r, first = some r → polled.2 = .outcome r.outcome) ∧
      (first = none → (∀ ms, limit s.host b = some ms → t.clock < t0 + ms) →
        polled.2 = .text "pending" ∧ polled.1.host = t.host) ∧
      (first = none → ∀ ms, limit s.host b = some ms → t0 + ms ≤ t.clock →
        polled.2 = .outcome (.error .timeout) ∧
        (t.host.bridge b).pending? id = some .waiting ∧
        (∀ d, polled.1.host.bridge d
          = if d = b then (t.host.bridge b).unlist id else t.host.bridge d) ∧
        ∀ a, Turns (polled.1.host, polled.1.held) a → (∀ d, calls d a.1.trace < 2 ^ 64) →
          ∀ r, r.id = id →
            (∀ nested, handleMessage nested a.1 b (.ret r) = (a.1.ignoring b r, .ok ())) ∧
            ∀ frame, Message.decode frame = .ok (.ret r) →
              a.1.handle b frame = (a.1.ignoring b r, .ok ()))) ∧
    (.expired b id ∈ t.host.trace → ∃ ms t0 t1, limit s.host b = some ms ∧
      times.head? = some t0 ∧ t1 ∈ times ∧ t0 + ms ≤ t1) ∧
    ∀ c, .bound b id c ∈ post → .expired b id ∉ t.host.trace ∧
      ((first = none ∧ (t.host.bridge b).pending? id = some (.callback c)) ∨
        ∃ r, first = some r ∧ deliveriesOf b id post = [(some c, r.outcome)]) := by
  intro t times first
  have hnames := (moves_after steps s hs.namesDistinct).1
  have hfollowed := hs.followed_after steps hcalls
  have htimed := hs.timed steps hcalls
  refine ⟨?_, htimed.expired b id, ?_⟩
  · intro name x hx hcall t0 polled
    have hstarted : x.started.getD t.clock = t0 := by
      rw [htimed.started name x hx, hcall]
    have hlimit : limit t.host b = limit s.host b := limit_after hs.namesDistinct steps b
    have hheld := hfollowed
    rw [held_of_handle? hnames hx, hcall] at hheld
    have horderly : Orderly (t.host, t.held) :=
      invariant_after Turn.orderly hs.namesDistinct hs.orderly steps
    rcases hheld.held_entries hissued with ⟨hnone, hpending, harrived⟩ | ⟨r', hsome, -, harrived⟩
    · refine ⟨?_, ?_, ?_⟩
      · intro r hr
        cases hnone.symm.trans hr
      · intro _ htime
        have hpoll := poll_of_early hx hcall harrived fun ms hms => by
          rw [hstarted]
          exact htime ms (hlimit.symm.trans hms)
        exact ⟨congrArg Prod.snd hpoll, congrArg (fun p => p.1.host) hpoll⟩
      · intro _ ms hms htime
        have hpoll := poll_of_late hx hcall harrived (hlimit.trans hms) (hstarted.symm ▸ htime)
        refine ⟨congrArg Prod.snd hpoll, hpending, ?_, ?_⟩
        · intro d
          refine (congrArg (fun p => p.1.host.bridge d) hpoll).trans ?_
          exact bridge_timedOut harrived ms d
        · intro a hturns hlater r hr
          have hignored := ignored_of_late hnames horderly (congrArg Prod.fst hpoll) hturns
            hlater hr
          refine ⟨hignored, ?_⟩
          intro frame hframe
          rw [handle, hframe]
          exact hignored nestedHandling
    · refine ⟨?_, ?_, ?_⟩
      · intro r hr
        obtain rfl := Option.some.inj (hsome.symm.trans hr)
        exact congrArg Prod.snd (poll_of_arrived hx hcall harrived)
      · intro hnone
        cases hnone.symm.trans hsome
      · intro hnone
        cases hnone.symm.trans hsome
  · intro c hbound
    obtain ⟨p, hcourse, hfits⟩ := hfollowed b id
    have hsince : Course b id .waiting post p := by
      rw [hissued] at hcourse
      exact hcourse.since_issued
    have hcases := hsince.sums.bound_cases hfits.rest hbound
    constructor
    · intro hexpired
      obtain rfl := hcourse.abandoned_of_expired hexpired
      rcases hcases with ⟨-, -, hentry⟩ | ⟨r, -, hdelivered⟩
      · cases hentry
      · rw [hsince.sums.deliveries] at hdelivered
        cases hdelivered
    · rw [hfits.pending]
      rcases hcases with ⟨hnone, -, hentry⟩ | hdelivered
      · exact .inl ⟨hnone, hentry⟩
      · exact .inr hdelivered

/-- First polled at 4 with a limit of 5, and polled again at 9. -/
theorem timeout_exact_second_poll :
    let s : Session 1 := start #v[{ timeoutMs := some 5 }] none
    let steps : List (Step 1) := [.advance 2, .call 0 "f" [] "x", .advance 2, .poll "x", .advance 5]
    let t := s.after steps
    let id : CallId := .text "1700000000000.0"
    s.Fresh ∧ limit s.host 0 = some 5 ∧ s.pollTimes (0, id) steps = [4] ∧ t.clock = 9 ∧
      (∃ pre function args post, t.host.trace = pre ++ .issued 0 id function args :: post) ∧
      (t.step (.poll "x")).2 = .outcome (.error .timeout) ∧
      (t.step (.poll "x")).1.host.bridge 0 = (t.host.bridge 0).unlist id := by
  intro s steps t id
  have hfresh : s.Fresh := fresh_start _ _ _
  have hcalls : ∀ b, calls b t.host.trace < 2 ^ 64 := by decide +kernel
  have hlimit : limit s.host 0 = some 5 := by decide +kernel
  have htimes : s.pollTimes (0, id) steps = [4] := by decide +kernel
  have hclock : t.clock = 9 := by decide +kernel
  have hhandle : (t.handle? "x").map Handle.call = some (0, id) := by decide +kernel
  have hreturns : (returnsOf 0 id (t.host.trace.drop 4)).length = 0 := by decide +kernel
  have hfourth : t.host.trace[3]?.bind (Event.issuedOf 0) = some id := by decide +kernel
  obtain ⟨e, he, hissuedOf⟩ := Option.bind_eq_some_iff.1 hfourth
  obtain ⟨function, args, rfl⟩ := Event.issuedOf_eq_some.1 hissuedOf
  have hissued : t.host.trace
      = t.host.trace.take 3 ++ .issued 0 id function args :: t.host.trace.drop 4 := by
    obtain ⟨hlt, hget⟩ := List.getElem?_eq_some_iff.1 he
    rw [← hget, ← List.drop_eq_getElem_cons hlt, List.take_append_drop]
  obtain ⟨x, hx, hcall⟩ := Option.map_eq_some_iff.1 hhandle
  have hnone : (returnsOf 0 id (t.host.trace.drop 4)).head? = none := by
    rw [List.length_eq_zero_iff.1 hreturns]
    rfl
  obtain ⟨htimeout, -, hbridge, -⟩ :=
    ((timeout_exact hfresh steps hcalls hissued).1 "x" x hx hcall).2.2 hnone 5 hlimit
      (by rw [htimes, hclock]; decide)
  refine ⟨hfresh, hlimit, htimes, hclock, ⟨_, function, args, _, hissued⟩, htimeout, ?_⟩
  rw [hbridge 0, if_pos rfl]

end Session

end CallBridge
