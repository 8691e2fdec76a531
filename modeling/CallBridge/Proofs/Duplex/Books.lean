import CallBridge.Proofs.Duplex.Exchange

/-!
# Two peers keep their books

Whatever either peer does, messages underway and records stay in agreement (`Duplex`): calls made at
any time, also by callbacks, opening, and handling the next frame of the other peer. Callbacks may
do anything but handle frames, expose functions and open a peer with another line.
-/

namespace CallBridge

/-! ## Callbacks -/

/-- Calls with arguments that can be sent, and opens a peer only with its own line. -/
inductive Proc.Tame : Proc 2 → Prop
  | done (e : Ending) : Tame (.done e)
  | note {label what next} (hnext : Tame next) : Tame (.note label what next)
  | call {b name args callback holds next} (hargs : ∀ v ∈ args, Json.Within 125 v)
      (hcallback : ∀ o, Tame (callback o)) (hnext : ∀ r, Tame (next r)) :
      Tame (.call b name args callback holds next)
  | callAndForget {b name args next} (hargs : ∀ v ∈ args, Json.Within 125 v)
      (hnext : ∀ r, Tame (next r)) : Tame (.callAndForget b name args next)
  | openWith {b : Fin 2} {next} (hnext : ∀ r, Tame (next r)) :
      Tame (.openWith b (Session.openLine b) next)
  | names {b next} (hnext : ∀ l, Tame (next l)) : Tame (.names b next)
  | status {b next} (hnext : ∀ s, Tame (next s)) : Tame (.status b next)

def Callback.Tame (c : Callback 2) : Prop := ∀ o, (c.body o).Tame

def Completion.Tame : Completion 2 → Prop
  | .waiting => True
  | .callback c => c.Tame

namespace Host

/-- All callbacks that wait are tame. -/
def CallbacksTame (h : Host 2) : Prop := ∀ b, ∀ p ∈ (h.bridge b).pending, p.2.Tame

variable {h h' : Host 2}

theorem CallbacksTame.calm (hc : h.CallbacksTame) (hcalm : Calm h h') : h'.CallbacksTame := by
  intro b
  rw [hcalm.pending]
  exact hc b

theorem CallbacksTame.update (hc : h.CallbacksTame) (d : Fin 2) {f : Bridge 2 → Bridge 2}
    (hf : ∀ x : Bridge 2, (∀ p ∈ x.pending, p.2.Tame) → ∀ p ∈ (f x).pending, p.2.Tame) :
    (h.update d f).CallbacksTame := by
  intro b
  rw [bridge_update]
  split
  · exact hf _ (hc d)
  · exact hc b

theorem CallbacksTame.unlist (hc : h.CallbacksTame) (d : Fin 2) (id : CallId) :
    (h.update d fun x => x.unlist id).CallbacksTame :=
  hc.update d fun _ hx p hp => hx p (List.mem_filter.1 hp).1

theorem CallbacksTame.entered (hc : h.CallbacksTame) (d : Fin 2) (name : String)
    (args : List Json) : (h.entered d name args).CallbacksTame := by
  have hentry : (h.update d fun x => { x with tokens := x.tokens.advance }.enlist
      (h.bridge d).tokens.peek .waiting).CallbacksTame := by
    refine hc.update d fun x hx p hp => ?_
    rcases List.mem_append.1 hp with hold | hnew
    · exact hx p (List.mem_filter.1 hold).1
    · rw [List.mem_singleton.1 hnew]
      trivial
  exact hentry

theorem CallbacksTame.call (hc : h.CallbacksTame) {d : Fin 2} {name : String} {args : List Json}
    {id : CallId} (hcall : h.call d name args = (h', .ok id)) : h'.CallbacksTame := by
  obtain ⟨-, sent, hcalm, rfl⟩ := call_ok hcall
  have hsent : sent.CallbacksTame := (hc.entered d name args).calm hcalm
  exact hsent

theorem CallbacksTame.bindPending (hc : h.CallbacksTame) (d : Fin 2) (id : CallId)
    {c : Callback 2} (htame : c.Tame) : (h.bindPending d id c).CallbacksTame := by
  have hupdate : (h.update d fun x => { x with
      pending := x.pending.map fun p => if p.1 = id then (id, .callback c) else p
      }).CallbacksTame := by
    refine hc.update d fun x hx p hp => ?_
    obtain ⟨q, hq, rfl⟩ := List.mem_map.1 hp
    split
    · exact htame
    · exact hx q hq
  exact hupdate

theorem CallbacksTame.release (hc : h.CallbacksTame) (d : Fin 2) (id : CallId) :
    (h.release d id).1.CallbacksTame :=
  (hc.unlist d id).update d fun _ hx => hx

end Host

/-! ## The books -/

/-- The messages `ms b` are underway from each peer `b`. -/
structure Carries (P : Peers) (h : Host 2) (ms : Fin 2 → List Message) : Prop where
  joined : h.Joined
  config : ∀ b, (h.bridge b).config = P.config b
  registry : ∀ b, (h.bridge b).registry = P.registry b
  frames : ∀ b, h.underway b = (ms b).map (Message.encode (P.config b).layout)
  sendable : ∀ b, ∀ m ∈ ms b, m.Sendable

/-- The exchange in both directions. -/
def Exchanges (P : Peers) (trace : List (Event 2)) (ms : Fin 2 → List Message) : Prop :=
  ∀ b, Exchange P b (callsMade b trace) (invocations (other b) trace) (returnsTo b trace)
    ((ms b).filterMap Message.call?) ((ms (other b)).filterMap Message.ret?)

/-- Two peers whose books agree. -/
structure Duplex (P : Peers) (h : Host 2) : Prop where
  books : ∃ ms, Carries P h ms ∧ Exchanges P h.trace ms
  callbacks : h.CallbacksTame

variable {P : Peers} {h h' : Host 2} {ms : Fin 2 → List Message} {b : Fin 2}

/-- Messages set out. -/
theorem Carries.adds {new : List Message} {news : List (Event 2)} (hc : Carries P h ms)
    (hadds : Host.Adds h h' b (new.map (Message.encode (P.config b).layout)) news)
    (hnew : ∀ m ∈ new, m.Sendable) :
    Carries P h' (Function.update ms b (ms b ++ new)) where
  joined := hadds.joined
  config c := (hadds.config c).trans (hc.config c)
  registry c := (hadds.registry c).trans (hc.registry c)
  frames c := by
    rw [hadds.underway, hc.frames]
    by_cases hb : c = b
    · subst hb
      rw [if_pos rfl, Function.update_self, List.map_append]
    · rw [if_neg hb, Function.update_of_ne hb, List.append_nil]
  sendable c m hm := by
    by_cases hb : c = b
    · subst hb
      rw [Function.update_self] at hm
      exact (List.mem_append.1 hm).elim (hc.sendable c m) (hnew m)
    · rw [Function.update_of_ne hb] at hm
      exact hc.sendable c m hm

theorem Carries.of_adds_nil {news : List (Event 2)} (hc : Carries P h ms)
    (hadds : Host.Adds h h' b [] news) : Carries P h' ms := by
  have hnone : Carries P h' (Function.update ms b (ms b ++ [])) := hc.adds hadds (by simp)
  rwa [List.append_nil, Function.update_eq_self] at hnone

theorem Duplex.joined (hd : Duplex P h) : h.Joined := by
  obtain ⟨ms, hc, -⟩ := hd.books
  exact hc.joined

theorem Duplex.still (hd : Duplex P h) (hstill : Host.Still h h') (hc : h'.CallbacksTame) :
    Duplex P h' := by
  obtain ⟨ms, hcarries, hexchanges⟩ := hd.books
  refine ⟨⟨ms, hcarries.of_adds_nil (hstill 0), ?_⟩, hc⟩
  intro b
  rw [(hstill b).callsMade, (hstill b).invocations, (hstill b).returnsTo]
  simpa [callsMade, invocations, returnsTo] using hexchanges b

/-! ## Calls and callbacks -/

/-- A call is never refused, and sets out. -/
theorem Duplex.call (hd : Duplex P h) (b : Fin 2) (name : String) {args : List Json}
    (hargs : ∀ v ∈ args, v.Within 125) :
    ∃ h' id, h.call b name args = (h', .ok id) ∧ Duplex P h' := by
  obtain ⟨ms, hcarries, hexchanges⟩ := hd.books
  obtain ⟨h', hcall, hadds⟩ := hcarries.joined.adds_call b name args
  refine ⟨h', _, hcall, ⟨?_, hd.callbacks.call hcall⟩⟩
  have hsendable : (Message.call ⟨(h.bridge b).tokens.peek, name, args⟩).Sendable :=
    Message.sendable_call hargs
  refine ⟨Function.update ms b (ms b ++ [.call ⟨(h.bridge b).tokens.peek, name, args⟩]), ?_, ?_⟩
  · rw [hcarries.config b] at hadds
    exact hcarries.adds hadds (by simpa using hsendable)
  · intro d
    have hd := hexchanges d
    rw [hadds.callsMade, hadds.invocations, hadds.returnsTo]
    rcases eq_or_eq_other b d with rfl | rfl
    · rw [Function.update_self, Function.update_of_ne (other_ne d), List.filterMap_append]
      simpa using hd.call (c := ⟨(h.bridge d).tokens.peek, name, args⟩) hargs
    · rw [other_other] at hd ⊢
      rw [Function.update_self, Function.update_of_ne (other_ne b), List.filterMap_append]
      simpa using hd

theorem Duplex.bindPending (hd : Duplex P h) (b : Fin 2) (id : CallId) {c : Callback 2}
    (hc : c.Tame) : Duplex P (h.bindPending b id c) := by
  have hupdate := hd.joined.still_update b (f := fun x => { x with
    pending := x.pending.map fun p => if p.1 = id then (id, .callback c) else p })
    (fun _ => rfl) (fun _ => rfl) fun _ => rfl
  refine hd.still (hupdate.trans ((hupdate b).joined.still_emit rfl)) ?_
  exact hd.callbacks.bindPending b id hc

/-- Letting go of a call, with an event that is no news. -/
theorem Duplex.release (hd : Duplex P h) (b : Fin 2) (id : CallId) {e : Event 2}
    (he : e.isNews = false) : Duplex P ((h.emit e).release b id).1 := by
  have hemit := hd.joined.still_emit he
  have hunlist := (hemit b).joined.still_update b (f := fun x => x.unlist id)
    (fun _ => rfl) (fun _ => rfl) fun _ => rfl
  have htake := (hunlist b).joined.still_update b (f := fun x => x.takeAside id)
    (fun _ => rfl) (fun _ => rfl) fun _ => rfl
  refine hd.still ((hemit.trans hunlist).trans htake) ?_
  exact Host.CallbacksTame.release (h := h.emit e) hd.callbacks b id

theorem Duplex.emit (hd : Duplex P h) {e : Event 2} (he : e.isNews = false) :
    Duplex P (h.emit e) :=
  hd.still (hd.joined.still_emit he) hd.callbacks

theorem Duplex.openWith (hd : Duplex P h) (b : Fin 2) :
    Duplex P (h.openWith b (Session.openLine b)).1 :=
  hd.still (hd.joined.still_openWith b) (hd.callbacks.calm (h.calm_openWith b _))

/-- Tame code keeps the books. -/
theorem Duplex.run (nested : Host.Handling 2) {p : Proc 2} (hp : p.Tame) :
    ∀ h, Duplex P h → Duplex P (Host.run nested p h).1 := by
  induction hp with
  | done e => exact fun h hd => hd
  | note hnext ih => exact fun h hd => ih _ (hd.emit rfl)
  | @call b name args callback holds next hargs hcallback hnext _ ih =>
      intro h hd
      -- Lines that keep receiving refuse no frame, so the branch of a refused call is not taken.
      obtain ⟨h', id, hcall, hd'⟩ := hd.call b name hargs
      rw [Host.run, hcall]
      exact ih _ _ (hd'.bindPending b id hcallback)
  | @callAndForget b name args next hargs hnext ih =>
      intro h hd
      obtain ⟨h', id, hcall, hd'⟩ := hd.call b name hargs
      rw [Host.run, hcall]
      exact ih _ _ (hd'.release b id rfl)
  | @openWith b next hnext ih => exact fun h hd => ih _ _ (hd.openWith b)
  | names hnext ih => exact fun h hd => ih _ h hd
  | status hnext ih => exact fun h hd => ih _ h hd

theorem Duplex.runCallback (nested : Host.Handling 2) {c : Callback 2} (hc : c.Tame)
    (hd : Duplex P h) (b : Fin 2) (id : CallId) (o : Outcome) :
    Duplex P (Host.runCallback nested c b id o h) := by
  have hrun := Duplex.run nested (hc o) (h.emit (.delivered b id (some c) o)) (hd.emit rfl)
  rw [Host.runCallback]
  split <;> rename_i heq <;> rw [heq] at hrun
  · exact (hrun.emit rfl).emit rfl
  · exact hrun

/-! ## Handling frames -/

namespace Host

variable {h : Host 2} {d : Fin 2} {p : Proc 2} {e : Ending}

/-- Code that only computes ends as it must, and does nothing else that counts. -/
theorem run_ending (nested : Handling 2) (hp : p.ending? = some e) :
    ∀ h, h.Joined → ∃ h', run nested p h = (h', e) ∧ Still h h' ∧ Calm h h' := by
  induction p with
  | done e' =>
      intro h hj
      obtain rfl := Option.some.inj hp
      exact ⟨h, rfl, hj.still_refl, .refl h⟩
  | note label what next ih =>
      intro h hj
      have hnote : Still h (h.emit (.noted label what)) := hj.still_emit rfl
      obtain ⟨h', hrun, hstill, hcalm⟩ := ih hp _ (hnote 0).joined
      have hquiet : Calm h (h.emit (.noted label what)) := h.calm_emit trivial
      exact ⟨h', hrun, hnote.trans hstill, hquiet.trans hcalm⟩
  | call | callAndForget | expose | openWith | handle | names | status => cases hp

theorem runGuarded_ending (nested : Handling 2) (hp : p.ending? = some e) (hj : h.Joined) :
    ∃ h', runGuarded nested p h = (h', e.reply) ∧ Still h h' ∧ Calm h h' := by
  obtain ⟨h', hrun, hstill, hcalm⟩ := run_ending nested hp h hj
  rw [runGuarded, hrun]
  cases e with
  | returned value => exact ⟨h', rfl, hstill, hcalm⟩
  | failed e => exact ⟨h', rfl, hstill, hcalm⟩
  | panicked cause =>
      exact ⟨_, rfl, hstill.trans ((hstill 0).joined.still_log _ _ _ _),
        hcalm.trans (calm_log _ _ _ _ _)⟩

theorem Joined.adds_answer (hj : h.Joined) (d : Fin 2) (r : Return) :
    ∃ h', h.answer d r = (h', .ok ()) ∧
      Adds h h' d [(Message.ret r).encode (h.bridge d).config.layout] [] ∧ Calm h h' := by
  obtain ⟨h', htransmit, hadds⟩ :=
    hj.adds_transmit d ((Message.ret r).encode (h.bridge d).config.layout)
  refine ⟨h', htransmit, hadds, ?_⟩
  have hcalm := h.calm_transmit d ((Message.ret r).encode (h.bridge d).config.layout)
  rwa [htransmit] at hcalm

/-- A call of a function that only computes is answered at once. -/
theorem Joined.adds_handleCall (nested : Handling 2) (hj : h.Joined) {c : Call} {f : Exposed 2}
    (hf : (h.bridge d).exposed? c.name = some f) (he : (f.body c.args).ending? = some e)
    (hpolicy : (h.bridge d).config.dispatchErrors = .returnError) :
    ∃ h', handleCall nested h d c = (h', .ok ()) ∧
      Adds h h' d [(Message.ret (.ofReply c.id e.reply)).encode (h.bridge d).config.layout]
        [.invoked d c] ∧ Calm h h' := by
  have hinvoked := hj.adds_emit (.invoked d c) d
  obtain ⟨h₁, hrun, hstill, hcalm⟩ := runGuarded_ending nested he hinvoked.joined
  have hran : Adds h h₁ d [] [.invoked d c] := hinvoked.still hstill
  have hquiet : Calm h (h.emit (.invoked d c)) := h.calm_emit trivial
  have hcalm₁ : Calm h h₁ := hquiet.trans hcalm
  rw [handleCall, hf]
  simp only [hrun]
  cases hreply : e.reply with
  | ok value =>
      obtain ⟨h', hanswer, hadds, hcalm'⟩ := hran.joined.adds_answer d (.ofReply c.id (.ok value))
      rw [hran.config] at hadds
      exact ⟨h', hanswer, hran.trans hadds, hcalm₁.trans hcalm'⟩
  | error err =>
      obtain ⟨h₂, hh₂⟩ : ∃ h₂, h₂ = h₁.log .warn bridgeTarget
          ("exposed function failed: " ++ err.display) [idField c.id, nameField c.name] := ⟨_, rfl⟩
      have hlogged : Adds h h₂ d [] [.invoked d c] := by
        rw [hh₂]
        exact hran.still (hran.joined.still_log _ _ _ _)
      have hcalm₂ : Calm h h₂ := by
        rw [hh₂]
        exact hcalm₁.trans (calm_log _ _ _ _ _)
      obtain ⟨h', hanswer, hadds, hcalm'⟩ :=
        hlogged.joined.adds_answer d (.ofReply c.id (.error err))
      rw [hlogged.config] at hadds
      refine ⟨h', ?_, hlogged.trans hadds, hcalm₂.trans hcalm'⟩
      simp only [← hh₂, hlogged.config, hpolicy]
      exact hanswer

end Host

/-- The next frame of `b` is that of the next message underway. -/
theorem Carries.pop {frame : String} (hc : Carries P h ms)
    (hpop : h.popLine b = (h', some frame)) :
    ∃ m rest, ms b = m :: rest ∧ m.Sendable ∧ Message.decode frame = .ok m.norm ∧
      Carries P h' (Function.update ms b rest) ∧ h'.trace = h.trace ∧ h'.bridges = h.bridges := by
  rcases hc.joined.popLine b with hnone | ⟨frame', rest, h₁, hsome, hold, hnew, hother, hj, hb, ht⟩
  · rw [hnone] at hpop
    simp at hpop
  · obtain ⟨rfl, hframe⟩ := Prod.mk.inj (hsome.symm.trans hpop)
    obtain rfl := Option.some.inj hframe
    rw [hc.frames] at hold
    obtain ⟨m, ms', hms, rfl, rfl⟩ := List.map_eq_cons_iff.1 hold
    have hm : m.Sendable := hc.sendable b m (by rw [hms]; exact List.mem_cons_self)
    refine ⟨m, ms', hms, hm, Message.decode_encode_of_le _ hm.plain hm.depth, ?_, ht, hb⟩
    refine ⟨hj, ?_, ?_, ?_, ?_⟩
    · intro c
      rw [Host.bridge, hb]
      exact hc.config c
    · intro c
      rw [Host.bridge, hb]
      exact hc.registry c
    · intro c
      rcases eq_or_eq_other b c with rfl | rfl
      · rw [hnew, Function.update_self]
      · rw [hother, Function.update_of_ne (other_ne b)]
        exact hc.frames _
    · intro c m' hm'
      rcases eq_or_eq_other b c with rfl | rfl
      · rw [Function.update_self] at hm'
        exact hc.sendable c m' (by rw [hms]; exact List.mem_cons_of_mem m hm')
      · rw [Function.update_of_ne (other_ne b)] at hm'
        exact hc.sendable _ m' hm'

/-- A return reaches `d`. -/
theorem Duplex.handleReturn (nested : Host.Handling 2) {d : Fin 2} {r : Return}
    (hd : Duplex P (h.emit (.returned d r))) : Duplex P (Host.handleReturn nested h d r) := by
  have hcallbacks : ∀ c, (h.bridge d).pending? r.id = some (.callback c) → c.Tame := by
    intro c hc
    obtain ⟨before, after, hentries, -⟩ := List.lookup_eq_some_iff.1 hc
    have hmem : (r.id, .callback c) ∈ (h.bridge d).pending := by
      rw [hentries]
      exact List.mem_append_right _ List.mem_cons_self
    exact hd.callbacks d _ hmem
  simp only [Host.handleReturn, Host.resolve, Host.bridge_emit]
  cases hpending : (h.bridge d).pending? r.id with
  | none => exact hd.emit rfl
  | some completion =>
      cases completion with
      | waiting =>
          have hstill := hd.joined.still_update d
            (f := fun x => (x.unlist r.id).putAside r.id r.outcome)
            (fun _ => rfl) (fun _ => rfl) fun _ => rfl
          have hparked := hd.still hstill
            (hd.callbacks.update d fun _ hx p hp => hx p (List.mem_filter.1 hp).1)
          exact hparked.emit rfl
      | callback c =>
          have hstill := hd.joined.still_update d (f := fun x => x.unlist r.id)
            (fun _ => rfl) (fun _ => rfl) fun _ => rfl
          have hstruck := hd.still hstill (hd.callbacks.unlist d r.id)
          exact (hstruck.runCallback nested (hcallbacks c hpending) d r.id r.outcome).emit rfl

section Taken

variable {d : Fin 2} {c : Call} {r r' : Return} {rest : List Message} {frames : List String}

/-- `d` takes a return. -/
theorem Exchanges.receive (hx : Exchanges P h.trace ms) (hms : ms (other d) = .ret r :: rest)
    (hr : r'.gist = r.gist) (hadds : Host.Adds h h' d frames [.returned d r']) :
    Exchanges P h'.trace (Function.update ms (other d) rest) := by
  intro b
  have hb := hx b
  rw [hadds.callsMade, hadds.invocations, hadds.returnsTo]
  rcases eq_or_eq_other d b with rfl | rfl
  · rw [hms] at hb
    rw [Function.update_self, Function.update_of_ne (other_ne b).symm]
    simpa using hb.receive hr
  · rw [other_other, hms] at hb
    rw [other_other, Function.update_self, Function.update_of_ne (other_ne d).symm]
    simpa using hb

/-- `d` takes a call of a function that it does not expose. -/
theorem Exchanges.skip (hx : Exchanges P h.trace ms) (hms : ms (other d) = .call c :: rest)
    (hc : P.exposes d c = false) : Exchanges P h.trace (Function.update ms (other d) rest) := by
  intro b
  have hb := hx b
  rcases eq_or_eq_other d b with rfl | rfl
  · rw [hms] at hb
    rw [Function.update_self, Function.update_of_ne (other_ne b).symm]
    exact hb
  · rw [other_other, hms] at hb
    rw [other_other, Function.update_self, Function.update_of_ne (other_ne d).symm]
    exact hb.skip (by rwa [other_other])

/-- `d` takes a call of a function that it exposes, and answers. -/
theorem Exchanges.serve (hx : Exchanges P h.trace ms) (hms : ms (other d) = .call c :: rest)
    (hc : P.exposes d c = true) (hadds : Host.Adds h h' d frames [.invoked d c]) :
    Exchanges P h'.trace
      (Function.update (Function.update ms (other d) rest) d (ms d ++ [.ret (P.answer d c)])) := by
  intro b
  have hb := hx b
  rw [hadds.callsMade, hadds.invocations, hadds.returnsTo]
  rcases eq_or_eq_other d b with rfl | rfl
  · rw [hms] at hb
    rw [Function.update_self, Function.update_of_ne (other_ne b), Function.update_self,
      List.filterMap_append]
    simpa using hb
  · rw [other_other, hms] at hb
    have hserved := hb.serve (by rwa [other_other])
    rw [other_other] at hserved ⊢
    rw [Function.update_self, Function.update_of_ne (other_ne d), Function.update_self,
      List.filterMap_append]
    simpa using hserved

/-- `d` handles a return that it has taken from the line. -/
theorem Duplex.takes_return (nested : Host.Handling 2) (hx : Exchanges P h.trace ms)
    (hcallbacks : h.CallbacksTame) (hms : ms (other d) = .ret r :: rest)
    (hcarries : Carries P h (Function.update ms (other d) rest)) (hr : r'.gist = r.gist) :
    Duplex P (Host.handleReturn nested h d r') := by
  have hadds := hcarries.joined.adds_emit (.returned d r') d
  refine Duplex.handleReturn nested ⟨⟨_, hcarries.of_adds_nil hadds, ?_⟩, hcallbacks⟩
  exact hx.receive hms hr hadds

/-- `d` handles a call that it has taken from the line. -/
theorem Duplex.takes_call (hP : P.Honest) (nested : Host.Handling 2) (hx : Exchanges P h.trace ms)
    (hcallbacks : h.CallbacksTame) (hms : ms (other d) = .call c :: rest)
    (hcarries : Carries P h (Function.update ms (other d) rest))
    (hc : (Message.call c).Sendable) : Duplex P (Host.handleCall nested h d c).1 := by
  have hexposed : (h.bridge d).exposed? c.name = P.find? d c.name := by
    rw [Bridge.exposed?, hcarries.registry]
    rfl
  cases hf : P.find? d c.name with
  | none =>
      have hskip := hx.skip hms (by rw [Peers.exposes, hf]; rfl)
      have hlogged : Duplex P h := ⟨⟨_, hcarries, hskip⟩, hcallbacks⟩
      simp only [Host.handleCall, hexposed, hf]
      exact hlogged.emit rfl
  | some f =>
      obtain ⟨e, he, hresult⟩ := hP.computes d c.name f hf c.args hc.args_within
      have hpolicy : (h.bridge d).config.dispatchErrors = .returnError := by
        rw [hcarries.config]
        exact hP.policy d
      obtain ⟨h', hhandle, hadds, hcalm⟩ := hcarries.joined.adds_handleCall nested
        (hexposed.trans hf) he hpolicy
      have hserve := hx.serve hms (by rw [Peers.exposes, hf]; rfl) hadds
      rw [hcarries.config, ← P.answer_eq hf he] at hadds
      have hsendable : (Message.ret (P.answer d c)).Sendable := by
        obtain ⟨s, hs⟩ : ∃ s, c.id = .text s := hc.token
        rw [P.answer_eq hf he, hs]
        exact Message.sendable_ret hresult
      have hsent : Host.Adds h h' d ([Message.ret (P.answer d c)].map
          (Message.encode (P.config d).layout)) [.invoked d c] := hadds
      have hcarries' := hcarries.adds hsent (by simpa using hsendable)
      rw [Function.update_of_ne (other_ne d).symm] at hcarries'
      rw [hhandle]
      exact ⟨⟨_, hcarries', hserve⟩, hcallbacks.calm hcalm⟩

end Taken

/-- A peer handles the next frame of the other. -/
theorem Duplex.handle [Limits] (hP : P.Honest) (hd : Duplex P h) {d : Fin 2} {frame : String}
    (hpop : h.popLine (other d) = (h', some frame)) : Duplex P (h'.handle d frame).1 := by
  obtain ⟨ms, hcarries, hexchanges⟩ := hd.books
  obtain ⟨m, rest, hms, hm, hdecode, hcarries', htrace, hbridges⟩ := hcarries.pop hpop
  have hcallbacks : h'.CallbacksTame := by
    intro b
    rw [Host.bridge, hbridges]
    exact hd.callbacks b
  rw [← htrace] at hexchanges
  rw [Host.handle, hdecode]
  -- Of a return only the gist arrives: a value of null is written and read back as none.
  cases m with
  | ret r =>
      obtain ⟨r', hnorm, hgist⟩ := Message.norm_ret hm
      rw [hnorm]
      exact Duplex.takes_return _ hexchanges hcallbacks hms hcarries' hgist
  | call c =>
      rw [Message.norm_call hm]
      exact Duplex.takes_call hP _ hexchanges hcallbacks hms hcarries' hm

end CallBridge
