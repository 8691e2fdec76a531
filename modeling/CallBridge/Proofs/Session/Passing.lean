import CallBridge.Proofs.Bridge.Expiry
import CallBridge.Proofs.Bridge.Registry
import CallBridge.Proofs.Session.Delivery

/-!
# Steps that are no polls

A handle remembers when it was first polled. No step but a poll makes a call expire or changes what
a handle remembers; a new handle stands for a call that the step made. Main statement:
`Session.passes_step`.
-/

namespace CallBridge

variable {n : Nat}

/-- When a handle was first polled. -/
def Handle.started : Handle n → Option Nat
  | .binder _ _ => none
  | .future _ _ started => started

namespace Session

open Host

variable {s t u : Session n} {name : String} {x : Handle n}

theorem handle?_removeHandle (s : Session n) (name key : String) :
    (s.removeHandle name).handle? key = if key = name then none else s.handle? key :=
  lookup_filter_ne name key s.handles

theorem handle?_setHandle (s : Session n) (name key : String) (x : Handle n) :
    (s.setHandle name x).handle? key = if key = name then some x else s.handle? key := by
  have hrest := s.handle?_removeHandle name key
  unfold handle? at hrest
  unfold handle? setHandle
  rw [List.lookup_append, hrest, lookup_cons_if]
  by_cases hkey : key = name <;> simp [hkey]

/-! ## Steps that leave the handles alone -/

/-- From `s` to `t` the handles stay, and no call expires. -/
structure Steady (s t : Session n) : Prop where
  handles : t.handles = s.handles
  host : NoExpiry s.host t.host

theorem Steady.refl (s : Session n) : Steady s s := ⟨rfl, .refl _⟩

theorem Steady.trans (hst : Steady s t) (htu : Steady t u) : Steady s u :=
  ⟨htu.handles.trans hst.handles, hst.host.trans htu.host⟩

theorem steady_host {h : Host n} (hhost : NoExpiry s.host h) : Steady s { s with host := h } :=
  ⟨rfl, hhost⟩

theorem steady_updateEndpoint (s : Session n) (b : Fin n) (f : Endpoint → Endpoint) :
    Steady s (s.updateEndpoint b f) :=
  ⟨rfl, .refl _⟩

theorem steady_closeEnd (s : Session n) (i : Option Nat) : Steady s (s.closeEnd i) := by
  cases i with
  | none => exact .refl s
  | some i => exact steady_host (s.host.calm_lines _).noExpiry

theorem steady_addLine (s : Session n) : Steady s s.addLine.1 :=
  steady_host (s.host.calm_lines _).noExpiry

theorem steady_setReceiver (s : Session n) (b : Fin n) (i : Nat) : Steady s (s.setReceiver b i) :=
  (steady_closeEnd s _).trans (steady_updateEndpoint _ b _)

theorem steady_setInbound (s : Session n) (b : Fin n) (i : Nat) : Steady s (s.setInbound b i) :=
  (steady_closeEnd s _).trans (steady_updateEndpoint _ b _)

theorem steady_openBridge (s : Session n) (b : Fin n) (channel : Channel) :
    Steady s (s.openBridge b channel).1 :=
  steady_host (s.host.calm_openWith b channel).noExpiry

theorem steady_openWith (s : Session n) (b : Fin n) (kind : ChannelKind) :
    Steady s (s.openWith b kind).1 := by
  cases kind with
  | tape verdict => exact steady_openBridge s b _
  | outlet =>
      exact ((steady_addLine s).trans (steady_setReceiver _ b _)).trans (steady_openBridge _ b _)
  | peer =>
      have hlines := (steady_addLine s).trans (steady_addLine s.addLine.1)
      have hends := (steady_setReceiver s.addLine.1.addLine.1 b s.addLine.2).trans
        (steady_setInbound _ b s.addLine.1.addLine.2)
      dsimp only [openWith]
      exact ((hlines.trans hends).trans (steady_updateEndpoint _ b _)).trans
        (steady_openBridge _ b _)

theorem steady_link (s : Session n) (b c : Fin n) : Steady s (s.link b c).1 := by
  have hlines := (steady_addLine s).trans (steady_addLine s.addLine.1)
  have hends := (steady_setInbound s.addLine.1.addLine.1 b s.addLine.1.addLine.2).trans
    (steady_setInbound _ c s.addLine.2)
  dsimp only [link]
  exact ((hlines.trans hends).trans (steady_openBridge _ b _)).trans (steady_openBridge _ c _)

theorem noExpiry_popLine (h : Host n) (i : Nat) : NoExpiry h (h.popLine i).1 := by
  unfold popLine
  split
  · exact .refl h
  · exact (h.calm_lines _).noExpiry

theorem noExpiry_pumpLine [Limits] (b : Fin n) (i : Nat) (room : Nat) :
    ∀ h : Host n, NoExpiry h (pumpLine h b i room).1 := by
  induction room with
  | zero => exact NoExpiry.refl
  | succ room ih =>
      intro h
      have hpop := noExpiry_popLine h i
      unfold pumpLine
      split <;> rename_i heq <;> rw [heq] at hpop
      · exact hpop
      · exact (hpop.trans (noExpiry_handle _ b _)).trans (ih _)

theorem noExpiry_serveLine [Limits] (b : Fin n) (i : Nat) (room : Nat) :
    ∀ h : Host n, NoExpiry h (serveLine h b i room).1 := by
  induction room with
  | zero => exact NoExpiry.refl
  | succ room ih =>
      intro h
      have hpop := noExpiry_popLine h i
      unfold serveLine
      split
      · next h' heq =>
          rw [heq] at hpop
          exact hpop
      · next h' frame heq =>
          rw [heq] at hpop
          have hframe := (hpop.trans (noExpiry_handle h' b frame)).trans
            (noExpiry_afterFrame (h'.handle b frame).1 (h'.handle b frame).2)
          dsimp only
          split <;> rename_i hafter <;> rw [hafter] at hframe
          · exact hframe
          · exact hframe.trans (ih _)

theorem steady_endServer (s : Session n) (b : Fin n) : Steady s (s.endServer b) :=
  (steady_closeEnd s _).trans (steady_updateEndpoint _ b _)

theorem steady_startServer (s : Session n) (b : Fin n) : Steady s (s.startServer b).1 := by
  rw [startServer]
  split
  · exact .refl s
  · dsimp only
    exact (steady_endServer s b).trans (steady_updateEndpoint _ b _)

theorem steady_pollServer [Limits] (s : Session n) (b : Fin n) : Steady s (s.pollServer b).1 := by
  unfold pollServer
  split
  · exact .refl s
  · next i hserving =>
      have hserve := steady_host (s := s) (noExpiry_serveLine b i Limits.frames s.host)
      split <;> rename_i heq <;> rw [heq] at hserve
      · exact hserve.trans (steady_endServer _ b)
      · dsimp only
        split
        · exact hserve
        · exact (hserve.trans (steady_host (noExpiry_log _ _ _ _ _))).trans (steady_endServer _ b)

theorem steady_pump [Limits] (s : Session n) (b : Fin n) (max : Nat) :
    Steady s (s.pump b max).1 := by
  unfold pump
  split
  · exact .refl s
  · exact steady_host (noExpiry_pumpLine b _ max s.host)

theorem steady_inject (s : Session n) (b : Fin n) (frame : String) :
    Steady s (s.inject b frame).1 := by
  unfold inject
  split
  · exact .refl s
  · exact steady_host (s.host.calm_pushLine _ frame).noExpiry

theorem steady_receive (s : Session n) (b : Fin n) : Steady s (s.receive b).1 := by
  unfold receive
  split
  · exact .refl s
  · exact steady_host (s.host.calm_lines _).noExpiry

/-! ## Steps that are no polls -/

/-- From `s` to `t` the trace grows by `es`, in which no call expires, and a handle of `t` stands
for a call made meanwhile, or for the call that the handle of its name stood for, first polled when
that was. -/
structure PassesBy (s t : Session n) (es : List (Event n)) : Prop where
  trace : t.host.trace = s.host.trace ++ es
  unexpired : ∀ b id, .expired b id ∉ es
  handles : ∀ name y, t.handle? name = some y →
    (∃ x, s.handle? name = some x ∧ x.call = y.call ∧ x.started = y.started) ∨
      (y.started = none ∧ y.call.2 ∈ calledIds y.call.1 es)

def Passes (s t : Session n) : Prop := ∃ es, PassesBy s t es

/-- The handles of `t` are handles of `s`. -/
theorem passes_of_handles (hhost : NoExpiry s.host t.host)
    (hhandles : ∀ name y, t.handle? name = some y → s.handle? name = some y) : Passes s t := by
  obtain ⟨es, htrace, hes⟩ := hhost
  exact ⟨es, htrace, hes, fun name y hy => .inl ⟨y, hhandles name y hy, rfl, rfl⟩⟩

theorem Passes.refl (s : Session n) : Passes s s := passes_of_handles (.refl _) fun _ _ hy => hy

theorem Steady.passes (hst : Steady s t) : Passes s t := by
  apply passes_of_handles hst.host
  intro name y hy
  rwa [handle?, hst.handles] at hy

theorem Passes.trans (hst : Passes s t) (htu : Passes t u) : Passes s u := by
  obtain ⟨es, htrace, hes, hhandles⟩ := hst
  obtain ⟨es', htrace', hes', hhandles'⟩ := htu
  refine ⟨es ++ es', by rw [htrace', htrace, List.append_assoc], ?_, ?_⟩
  · intro b id hmem
    exact (List.mem_append.1 hmem).elim (hes b id) (hes' b id)
  · intro name y hy
    rw [calledIds_append, List.mem_append]
    rcases hhandles' name y hy with ⟨x, hx, hcall, hstarted⟩ | ⟨hnone, hcalled⟩
    · rw [← hcall, ← hstarted]
      rcases hhandles name x hx with hold | ⟨hnone, hcalled⟩
      · exact .inl hold
      · exact .inr ⟨hnone, .inl hcalled⟩
    · exact .inr ⟨hnone, .inr hcalled⟩

theorem passes_removeHandle (s : Session n) (name : String) {h : Host n}
    (hhost : NoExpiry s.host h) : Passes s { s.removeHandle name with host := h } := by
  apply passes_of_handles hhost
  intro key y hy
  have hkey : (s.removeHandle name).handle? key = some y := hy
  rw [handle?_removeHandle] at hkey
  split at hkey
  · cases hkey
  · exact hkey

theorem noExpiry_giveUp (id : CallId) (r : Host n × Bool) : NoExpiry r.1 (giveUp id r) := by
  obtain ⟨h, present⟩ := r
  cases present with
  | false => exact .refl h
  | true => exact noExpiry_log _ _ _ _ _

theorem noExpiry_discard (h : Host n) (x : Handle n) : NoExpiry h (discard h x) := by
  cases x with
  | binder b id => exact h.noExpiry_drop b id
  | future b id started => exact (h.noExpiry_drop b id).trans (noExpiry_giveUp id _)

theorem noExpiry_keep (s : Session n) (name : String) (b : Fin n) (id : CallId) :
    NoExpiry s.host (s.keep name b id).host := by
  unfold keep
  split
  · exact noExpiry_discard s.host _
  · exact .refl _

theorem handle?_keep (s : Session n) (name key : String) (b : Fin n) (id : CallId) :
    (s.keep name b id).handle? key
      = if key = name then some (.binder b id) else s.handle? key := by
  unfold keep
  split
  · next old _ => exact handle?_setHandle { s with host := discard s.host old } name key _
  · exact s.handle?_setHandle name key _

theorem passes_call (s : Session n) (b : Fin n) (function : String) (args : List Json)
    (name : String) : Passes s (s.call b function args name).1 := by
  have hcalled := s.host.noExpiry_call b function args
  unfold call
  split
  · next h id hcall =>
      obtain ⟨rfl, -⟩ := call_ok hcall
      have htaken := s.host.calledIds_call b function args
      rw [hcall] at hcalled htaken
      obtain ⟨es, htrace, hes⟩ := hcalled
      obtain ⟨es', htrace', hes'⟩ := noExpiry_keep { s with host := h } name b
        (s.host.bridge b).tokens.peek
      rw [htrace, calledIds_append, List.append_cancel_left_eq] at htaken
      refine ⟨es ++ es', by rw [htrace', htrace, List.append_assoc], ?_, ?_⟩
      · intro d k hmem
        exact (List.mem_append.1 hmem).elim (hes d k) (hes' d k)
      · intro key y hy
        rw [handle?_keep] at hy
        split at hy
        · obtain rfl := Option.some.inj hy
          refine .inr ⟨rfl, ?_⟩
          show _ ∈ calledIds b (es ++ es')
          rw [calledIds_append, htaken]
          exact List.mem_append_left _ (List.mem_singleton_self _)
        · exact .inl ⟨y, hy, rfl, rfl⟩
  · next h e hcall =>
      rw [hcall] at hcalled
      exact (steady_host hcalled).passes

theorem passes_callEach (b : Fin n) (args : List Json) (name : String) (functions : List String) :
    ∀ (s : Session n) (i : Nat), Passes s (s.callEach b args name i functions).1 := by
  induction functions with
  | nil => exact fun s i => .refl s
  | cons function rest ih =>
      exact fun s i => (passes_call s b function args (name ++ toString i)).trans (ih _ _)

theorem passes_withBridge {b : Fin n} {f : Unit → Session n × Answer} (hf : Passes s (f ()).1) :
    Passes s (s.withBridge b f).1 := by
  unfold withBridge
  split
  · exact hf
  · exact .refl s

theorem passes_withHandle {f : Handle n → Session n × Answer}
    (hf : ∀ x, s.handle? name = some x → Passes s (f x).1) :
    Passes s (s.withHandle name f).1 := by
  unfold withHandle
  split
  · next x hx => exact hf x hx
  · exact .refl s

theorem passes_attach [Limits] (s : Session n) (name : String) (c : Callback n) :
    Passes s (s.attach name c).1 := by
  apply passes_withHandle
  intro x hx
  cases x with
  | future b id started => exact .refl s
  | binder b id =>
      dsimp only
      split
      · exact passes_removeHandle s name (s.host.noExpiry_bind b id c)
      · exact .refl s

/-- A step that is no poll lets no call expire and starts no time limit. -/
theorem passes_step [Limits] (s : Session n) (x : Step n) (hx : ∀ name, x ≠ .poll name) :
    Passes s (s.step x).1 := by
  cases x with
  | expose b name f =>
      exact passes_withBridge (steady_host (s.host.calm_expose b name f).noExpiry).passes
  | names b | isExposed b name | config b | describe b | remote b function | remotes b =>
      exact passes_withBridge (.refl s)
  | call b function args name => exact passes_withBridge (passes_call s b function args name)
  | callRemote b function args name =>
      apply passes_withBridge
      split
      · exact passes_call s b function args name
      · exact .refl s
  | callRemotes b args name => exact passes_withBridge (passes_callEach b args name _ s 0)
  | openWith b kind => exact passes_withBridge (steady_openWith s b kind).passes
  | link b c => exact passes_withBridge (passes_withBridge (steady_link s b c).passes)
  | handle b frame => exact passes_withBridge (steady_host (noExpiry_handle _ b frame)).passes
  | handleValue b v => exact passes_withBridge (steady_host (noExpiry_handleValue _ b v)).passes
  | serve b frames => exact passes_withBridge (steady_host (noExpiry_serve b frames _)).passes
  | startServer b => exact passes_withBridge (steady_startServer s b).passes
  | pollServer b => exact (steady_pollServer s b).passes
  | pump b max => exact passes_withBridge (steady_pump s b _).passes
  | inject b frame => exact (steady_inject s b frame).passes
  | receive b => exact (steady_receive s b).passes
  | closeSender b | dropBridge b =>
      dsimp only [step]
      exact (steady_updateEndpoint s b _).passes
  | closeReceiver b =>
      dsimp only [step]
      exact ((steady_closeEnd s _).trans (steady_updateEndpoint _ b _)).passes
  | hangUp b =>
      dsimp only [step]
      exact (((steady_closeEnd s _).trans (steady_endServer _ b)).trans
        (steady_updateEndpoint _ b _)).passes
  | advance ms | setLevel l => exact passes_of_handles (.refl _) fun _ _ hy => hy
  | future name =>
      apply passes_withHandle
      intro x hx
      cases x with
      | future b id started => exact .refl s
      | binder b id =>
          refine ⟨[], (List.append_nil _).symm, fun _ _ => List.not_mem_nil, ?_⟩
          intro key y hy
          have hkey : (s.setHandle name (.future b id none)).handle? key = some y := hy
          rw [handle?_setHandle] at hkey
          split at hkey
          · next heq =>
              obtain rfl := Option.some.inj hkey
              exact .inl ⟨.binder b id, heq ▸ hx, rfl, rfl⟩
          · exact .inl ⟨y, hkey, rfl, rfl⟩
  | poll name => exact absurd rfl (hx name)
  | drop name =>
      apply passes_withHandle
      intro x _
      exact passes_removeHandle s name (noExpiry_discard s.host x)
  | describeHandle name =>
      apply passes_withHandle
      intro x _
      cases x with
      | binder b id => exact .refl s
      | future b id started => exact .refl s
  | bind name sequel => exact passes_attach s name _
  | attach name c => exact passes_attach s name c

end Session

end CallBridge
