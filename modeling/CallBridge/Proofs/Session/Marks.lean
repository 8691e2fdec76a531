import CallBridge.Proofs.Bridge.Chronicle
import CallBridge.Proofs.Session.Turns

/-!
# Marks of a run

The marks of a run are those of its steps, one after the other (`Session.marks`). Main statement:
`Session.leads_after`, whatever the steps are, they lead from the host at the start to the host at
the end.
-/

namespace CallBridge

variable {n : Nat}

namespace Session

open Host

/-! ## Marks of steps -/

def pumpMarks [Limits] (h : Host n) (b : Fin n) (i : Nat) : Nat → List (Mark n)
  | 0 => []
  | room + 1 =>
      match h.popLine i with
      | (_, none) => []
      | (h, some frame) => h.handleMarks b frame ++ pumpMarks (h.handle b frame).1 b i room

def serveLineMarks [Limits] (h : Host n) (b : Fin n) (i : Nat) : Nat → List (Mark n)
  | 0 => []
  | room + 1 =>
      match h.popLine i with
      | (_, none) => []
      | (h, some frame) =>
          h.handleMarks b frame ++
            match (h.handle b frame).1.afterFrame (h.handle b frame).2 with
            | (_, some _) => []
            | (h, none) => serveLineMarks h b i room

def attachMarks [Limits] (s : Session n) (name : String) (c : Callback n) : List (Mark n) :=
  match s.handle? name with
  | some (.binder b id) =>
      if c.holds.all fun target => (s.endpoint target).present then s.host.bindMarks b id c else []
  | _ => []

/-- Marks of what is done with a bridge, if the session still has it. -/
def marksWith (s : Session n) (b : Fin n) (ms : List (Mark n)) : List (Mark n) :=
  if (s.endpoint b).present then ms else []

def stepMarks [Limits] (s : Session n) : Step n → List (Mark n)
  | .expose b name f => s.marksWith b [⟨s.host, .expose ⟨b, name, f⟩⟩]
  | .names b => s.marksWith b [⟨s.host, .list b⟩]
  | .handle b frame => s.marksWith b (s.host.handleMarks b frame)
  | .handleValue b v => s.marksWith b (s.host.handleValueMarks b v)
  | .serve b frames => s.marksWith b (s.host.serveMarks b frames)
  | .pollServer b =>
      match (s.endpoint b).serving with
      | none => []
      | some i => serveLineMarks s.host b i Limits.frames
  | .pump b max =>
      s.marksWith b
        (match (s.endpoint b).inbound with
          | none => []
          | some i => pumpMarks s.host b i (max.getD Limits.frames))
  | .bind name sequel => s.attachMarks name (sequel.callback name)
  | .attach name c => s.attachMarks name c
  | _ => []

/-- What the steps bring about, in order. -/
def marks [Limits] (s : Session n) : List (Step n) → List (Mark n)
  | [] => []
  | x :: rest => s.stepMarks x ++ marks (s.advance x).1 rest

/-! ## Steps without a mark -/

theorem unmarked_giveUp (id : CallId) (r : Host n × Bool) : Unmarked r.1 (giveUp id r) := by
  obtain ⟨h, present⟩ := r
  cases present with
  | false => exact .refl h
  | true => exact unmarked_log _ _ _ _ _

theorem unmarked_discard (h : Host n) (x : Handle n) : Unmarked h (discard h x) := by
  cases x with
  | binder b id => exact h.unmarked_drop b id
  | future b id started => exact (h.unmarked_drop b id).trans (unmarked_giveUp id _)

theorem unmarked_call (s : Session n) (b : Fin n) (function : String) (args : List Json)
    (name : String) : Unmarked s.host (s.call b function args name).1.host := by
  have hcall := s.host.unmarked_call b function args
  rw [call]
  split <;> rename_i heq <;> rw [heq] at hcall
  · rw [keep]
    split
    · exact hcall.trans (unmarked_discard _ _)
    · exact hcall
  · exact hcall

theorem unmarked_callEach (b : Fin n) (args : List Json) (name : String)
    (functions : List String) :
    ∀ (s : Session n) (i : Nat), Unmarked s.host (s.callEach b args name i functions).1.host := by
  induction functions with
  | nil => exact fun s i => .refl s.host
  | cons function rest ih =>
      exact fun s i => (s.unmarked_call b function args (name ++ toString i)).trans (ih _ _)

theorem unmarked_pollFuture (h : Host n) (b : Fin n) (id : CallId) (started now : Nat) :
    Unmarked h (pollFuture h b id started now).1 := by
  rw [pollFuture, takeOutcome]
  cases (h.bridge b).arrived? id with
  | some o =>
      have htaken := h.unmarked_update b (fun x => x.takeAside id) fun _ => rfl
      exact htaken.trans (unmarked_emit _ rfl)
  | none =>
      dsimp only
      split
      · split
        · exact ((unmarked_log _ _ _ _ _).trans (unmarked_expire _ b id)).trans
            (unmarked_giveUp id _)
        · exact .refl h
      · exact .refl h

theorem unmarked_poll (s : Session n) (name : String) (x : Handle n) :
    Unmarked s.host (s.poll name x).1.host := by
  have hgo : ∀ b id started, Unmarked s.host (poll.go s name b id started).1.host := by
    intro b id started
    have hpoll := unmarked_pollFuture s.host b id started s.clock
    rw [poll.go]
    split <;> rename_i heq <;> rw [heq] at hpoll
    · exact hpoll
    · exact hpoll
  cases x with
  | binder b id => exact hgo b id _
  | future b id started => exact hgo b id _

theorem unmarked_closeEnd (s : Session n) (i : Option Nat) :
    Unmarked s.host (s.closeEnd i).host := by
  cases i with
  | none => exact .refl s.host
  | some i => exact unmarked_lines _ _

theorem unmarked_addLine (s : Session n) : Unmarked s.host s.addLine.1.host :=
  unmarked_lines _ _

theorem unmarked_setReceiver (s : Session n) (b : Fin n) (i : Nat) :
    Unmarked s.host (s.setReceiver b i).host :=
  s.unmarked_closeEnd _

theorem unmarked_setInbound (s : Session n) (b : Fin n) (i : Nat) :
    Unmarked s.host (s.setInbound b i).host :=
  s.unmarked_closeEnd _

theorem unmarked_updateEndpoint (s : Session n) (b : Fin n) (f : Endpoint → Endpoint) :
    Unmarked s.host (s.updateEndpoint b f).host :=
  .refl s.host

theorem unmarked_openBridge (s : Session n) (b : Fin n) (channel : Channel) :
    Unmarked s.host (s.openBridge b channel).1.host :=
  s.host.unmarked_openWith b channel

theorem unmarked_openWith (s : Session n) (b : Fin n) (kind : ChannelKind) :
    Unmarked s.host (s.openWith b kind).1.host := by
  cases kind with
  | tape verdict => exact s.unmarked_openBridge b _
  | outlet =>
      exact (s.unmarked_addLine.trans (unmarked_setReceiver _ b _)).trans
        (unmarked_openBridge _ b _)
  | peer =>
      have hlines := s.unmarked_addLine.trans s.addLine.1.unmarked_addLine
      have hends := (unmarked_setReceiver s.addLine.1.addLine.1 b s.addLine.2).trans
        (unmarked_setInbound _ b s.addLine.1.addLine.2)
      dsimp only [openWith]
      exact ((hlines.trans hends).trans (unmarked_updateEndpoint _ b _)).trans
        (unmarked_openBridge _ b _)

theorem unmarked_link (s : Session n) (b c : Fin n) : Unmarked s.host (s.link b c).1.host := by
  have hlines := s.unmarked_addLine.trans s.addLine.1.unmarked_addLine
  have hends := (unmarked_setInbound s.addLine.1.addLine.1 b s.addLine.1.addLine.2).trans
    (unmarked_setInbound _ c s.addLine.2)
  dsimp only [link]
  exact ((hlines.trans hends).trans (unmarked_openBridge _ b _)).trans (unmarked_openBridge _ c _)

theorem unmarked_inject (s : Session n) (b : Fin n) (frame : String) :
    Unmarked s.host (s.inject b frame).1.host := by
  rw [inject]
  split
  · exact .refl s.host
  · simp only [pushLine]
    split
    · exact unmarked_lines _ _
    · exact .refl s.host

theorem unmarked_receive (s : Session n) (b : Fin n) :
    Unmarked s.host (s.receive b).1.host := by
  rw [receive]
  split
  · exact .refl s.host
  · exact unmarked_lines _ _

theorem unmarked_startServer (s : Session n) (b : Fin n) :
    Unmarked s.host (s.startServer b).1.host := by
  rw [startServer]
  split
  · exact .refl s.host
  · exact unmarked_closeEnd s _

/-! ## Lines of frames -/

theorem unmarked_popLine (h : Host n) (i : Nat) : Unmarked h (h.popLine i).1 := by
  rw [popLine]
  split
  · exact .refl h
  · exact unmarked_lines _ _

theorem leads_pumpLine [Limits] (b : Fin n) (i : Nat) (room : Nat) :
    ∀ h : Host n, Leads h (pumpMarks h b i room) (pumpLine h b i room).1 := by
  induction room with
  | zero => exact .refl
  | succ room ih =>
      intro h
      have hpop := unmarked_popLine h i
      rcases hline : h.popLine i with ⟨k, none | frame⟩ <;> rw [hline] at hpop
      · simp only [pumpMarks, pumpLine, hline]
        exact hpop.leads
      · simp only [pumpMarks, pumpLine, hline]
        exact .unmarked hpop ((k.leads_handle b frame).trans (ih _))

theorem leads_serveLine [Limits] (b : Fin n) (i : Nat) (room : Nat) :
    ∀ h : Host n, Leads h (serveLineMarks h b i room) (serveLine h b i room).1 := by
  induction room with
  | zero => exact .refl
  | succ room ih =>
      intro h
      have hpop := unmarked_popLine h i
      rcases hline : h.popLine i with ⟨k, none | frame⟩ <;> rw [hline] at hpop
      · simp only [serveLineMarks, serveLine, hline]
        exact hpop.leads
      · have hframe := (k.leads_handle b frame).thenUnmarked
          (unmarked_afterFrame (k.handle b frame).1 (k.handle b frame).2)
        simp only [serveLineMarks, serveLine, hline]
        rcases hafter : (k.handle b frame).1.afterFrame (k.handle b frame).2 with ⟨l, none | e⟩ <;>
          rw [hafter] at hframe
        · exact .unmarked hpop (hframe.trans (ih l))
        · exact .unmarked hpop (hframe.trans (.refl l))

theorem leads_pollServer [Limits] (s : Session n) (b : Fin n) :
    Leads s.host (s.stepMarks (.pollServer b)) (s.pollServer b).1.host := by
  simp only [stepMarks, pollServer]
  cases (s.endpoint b).serving with
  | none => exact .refl s.host
  | some i =>
      have hserve := leads_serveLine b i Limits.frames s.host
      dsimp only
      rcases hline : serveLine s.host b i Limits.frames with ⟨k, none | e⟩ <;> rw [hline] at hserve
      · dsimp only
        split
        · exact hserve
        · exact hserve.thenUnmarked ((unmarked_log _ _ _ _ _).trans
            (unmarked_closeEnd { s with host := k.serveEnded } _))
      · exact hserve.thenUnmarked (unmarked_closeEnd { s with host := k } _)

theorem leads_attach [Limits] (s : Session n) (name : String) (c : Callback n) :
    Leads s.host (s.attachMarks name c) (s.attach name c).1.host := by
  rw [attachMarks, attach, withHandle]
  cases s.handle? name with
  | none => exact .refl s.host
  | some x =>
      cases x with
      | future b id started => exact .refl s.host
      | binder b id =>
          dsimp only
          split
          · exact s.host.leads_bind b id c
          · exact .refl s.host

/-! ## Steps and runs -/

theorem leads_withBridge [Limits] {s : Session n} {b : Fin n} {f : Unit → Session n × Answer}
    {ms : List (Mark n)} (hf : Leads s.host ms (f ()).1.host) :
    Leads s.host (s.marksWith b ms) (s.withBridge b f).1.host := by
  rw [marksWith, withBridge]
  split
  · exact hf
  · exact .refl s.host

theorem unmarked_withBridge {s : Session n} {b : Fin n} {f : Unit → Session n × Answer}
    (hf : Unmarked s.host (f ()).1.host) : Unmarked s.host (s.withBridge b f).1.host := by
  rw [withBridge]
  split
  · exact hf
  · exact .refl s.host

theorem unmarked_withHandle {s : Session n} {name : String} {f : Handle n → Session n × Answer}
    (hf : ∀ x, Unmarked s.host (f x).1.host) : Unmarked s.host (s.withHandle name f).1.host := by
  rw [withHandle]
  split
  · exact hf _
  · exact .refl s.host

theorem leads_step [Limits] (s : Session n) (x : Step n) :
    Leads s.host (s.stepMarks x) (s.step x).1.host := by
  cases x with
  | expose b name f =>
      exact leads_withBridge (.exposed ⟨b, name, f⟩ (.refl _))
  | names b => exact leads_withBridge (.listed b (.refl _))
  | isExposed b name | config b | describe b | remote b function | remotes b =>
      exact Unmarked.leads (unmarked_withBridge (.refl s.host))
  | call b function args name =>
      exact Unmarked.leads (unmarked_withBridge (s.unmarked_call b function args name))
  | callRemote b function args name =>
      refine Unmarked.leads (unmarked_withBridge ?_)
      split
      · exact s.unmarked_call b function args name
      · exact .refl s.host
  | callRemotes b args name =>
      exact Unmarked.leads (unmarked_withBridge (unmarked_callEach b args name _ s 0))
  | openWith b kind => exact Unmarked.leads (unmarked_withBridge (s.unmarked_openWith b kind))
  | link b c =>
      exact Unmarked.leads (unmarked_withBridge (unmarked_withBridge (s.unmarked_link b c)))
  | handle b frame => exact leads_withBridge (s.host.leads_handle b frame)
  | handleValue b v => exact leads_withBridge (s.host.leads_handleValue b v)
  | serve b frames => exact leads_withBridge (leads_serve b frames s.host)
  | startServer b => exact Unmarked.leads (unmarked_withBridge (s.unmarked_startServer b))
  | pollServer b => exact s.leads_pollServer b
  | pump b max =>
      refine leads_withBridge ?_
      rw [pump]
      cases (s.endpoint b).inbound with
      | none => exact .refl s.host
      | some i => exact leads_pumpLine b i _ s.host
  | inject b frame => exact (s.unmarked_inject b frame).leads
  | receive b => exact (s.unmarked_receive b).leads
  | closeSender b | dropBridge b | advance ms | setLevel l => exact .refl s.host
  | closeReceiver b => exact (s.unmarked_closeEnd _).leads
  | hangUp b =>
      exact ((s.unmarked_closeEnd _).trans (unmarked_closeEnd (s.closeEnd _) _)).leads
  | future name =>
      refine Unmarked.leads (unmarked_withHandle fun x => ?_)
      cases x <;> exact .refl s.host
  | poll name => exact Unmarked.leads (unmarked_withHandle fun x => s.unmarked_poll name x)
  | drop name => exact Unmarked.leads (unmarked_withHandle fun x => unmarked_discard s.host x)
  | describeHandle name =>
      refine Unmarked.leads (unmarked_withHandle fun x => ?_)
      cases x <;> exact .refl s.host
  | bind name sequel => exact s.leads_attach name _
  | attach name c => exact s.leads_attach name c

theorem leads_after [Limits] (steps : List (Step n)) :
    ∀ s : Session n, Leads s.host (s.marks steps) (s.after steps).host := by
  induction steps with
  | nil => exact fun s => .refl s.host
  | cons x rest ih => exact fun s => (s.leads_step x).trans (ih (s.advance x).1)

end Session

end CallBridge
