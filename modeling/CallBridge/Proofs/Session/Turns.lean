import CallBridge.Proofs.Bridge.Turn
import CallBridge.Session.Step

/-!
# What a session does to its host

Every step of a session is a sequence of turns of its host, in which the calls that the session
holds under names come and go (`moves_step`). What every turn keeps therefore holds after every run
from where it holds at the start (`invariant_after`).
-/

namespace CallBridge

variable {n : Nat}

/-- The call that a handle stands for. -/
def Handle.call : Handle n → Fin n × CallId
  | .binder b id => (b, id)
  | .future b id _ => (b, id)

namespace Session

/-- The calls that the session holds. -/
def held (s : Session n) : Custody n := (s.handles.map fun h => h.2.call : List _)

/-- No two handles have one name. -/
def NamesDistinct (s : Session n) : Prop := (s.handles.map Prod.fst).Nodup

/-- From `s` to `t` the host takes turns, and the names of handles stay distinct. -/
def Moves (s t : Session n) : Prop :=
  s.NamesDistinct → t.NamesDistinct ∧ Turns (s.host, s.held) (t.host, t.held)

theorem Moves.refl (s : Session n) : Moves s s := fun hs => ⟨hs, .refl⟩

theorem Moves.trans {s t u : Session n} (hst : Moves s t) (htu : Moves t u) : Moves s u := by
  intro hs
  obtain ⟨ht, hturns⟩ := hst hs
  obtain ⟨hu, hturns'⟩ := htu ht
  exact ⟨hu, hturns.trans hturns'⟩

/-- A step that keeps the handles, and in which the host takes turns. -/
theorem moves_of_turns {s t : Session n} (hhandles : t.handles = s.handles)
    (hturns : ∀ m, Turns (s.host, m) (t.host, m)) : Moves s t := by
  intro hs
  refine ⟨by rw [NamesDistinct, hhandles]; exact hs, ?_⟩
  have hheld : t.held = s.held := by rw [held, held, hhandles]
  rw [hheld]
  exact hturns _

/-! ## Handles -/

theorem namesDistinct_removeHandle {s : Session n} (hs : s.NamesDistinct) (name : String) :
    (s.removeHandle name).NamesDistinct :=
  hs.sublist (List.filter_sublist.map _)

theorem namesDistinct_setHandle {s : Session n} (hs : s.NamesDistinct) (name : String)
    (x : Handle n) : (s.setHandle name x).NamesDistinct := by
  have hrest := namesDistinct_removeHandle hs name
  simp only [NamesDistinct, setHandle, List.map_append, List.map_cons, List.map_nil] at hrest ⊢
  refine List.nodup_append.2 ⟨hrest, List.nodup_singleton _, ?_⟩
  intro a ha c hc
  rw [List.mem_singleton] at hc
  obtain ⟨p, hp, rfl⟩ := List.mem_map.1 ha
  have hne := List.of_mem_filter hp
  simpa [hc] using hne

theorem held_setHandle (s : Session n) (name : String) (x : Handle n) :
    (s.setHandle name x).held = x.call ::ₘ (s.removeHandle name).held := by
  simp only [held, setHandle, List.map_append, List.map_cons, List.map_nil, Multiset.cons_coe]
  exact Multiset.coe_eq_coe.2 (List.perm_append_singleton _ _)

/-- A handle that is found is one of those held, and removing its name removes just it. -/
theorem held_of_handle? {s : Session n} (hs : s.NamesDistinct) {name : String} {x : Handle n}
    (hx : s.handle? name = some x) : s.held = x.call ::ₘ (s.removeHandle name).held := by
  obtain ⟨host, endpoints, handles, clock, manager⟩ := s
  simp only [NamesDistinct, handle?, held, removeHandle, Multiset.cons_coe,
    Multiset.coe_eq_coe] at hs hx ⊢
  induction handles with
  | nil => simp at hx
  | cons p rest ih =>
      obtain ⟨key, y⟩ := p
      rw [List.map_cons, List.nodup_cons] at hs
      rw [lookup_cons_if] at hx
      by_cases hkey : name = key
      · subst hkey
        rw [if_pos rfl, Option.some.injEq] at hx
        subst hx
        have hrest : (rest.filter fun h => h.1 ≠ name) = rest := by
          refine List.filter_eq_self.2 fun q hq => ?_
          have hne : q.1 ≠ name := fun heq => hs.1 (List.mem_map.2 ⟨q, hq, heq⟩)
          simpa using hne
        rw [List.filter_cons_of_neg (by simp), hrest]
        exact .refl _
      · rw [if_neg hkey] at hx
        have hne : key ≠ name := fun heq => hkey heq.symm
        rw [List.filter_cons_of_pos (by simpa using hne), List.map_cons, List.map_cons]
        exact ((ih hs.2 hx).cons _).trans (.swap _ _ _)

/-- A call that is held may be given another handle. -/
theorem moves_setHandle {s : Session n} {name : String} {x y : Handle n}
    (hx : s.handle? name = some x) (hcall : y.call = x.call) : Moves s (s.setHandle name y) := by
  intro hs
  refine ⟨namesDistinct_setHandle hs name y, ?_⟩
  rw [held_setHandle, hcall, ← held_of_handle? hs hx]
  exact .refl

/-- A handle leaves the session when its call does. -/
theorem moves_removeHandle {s : Session n} {name : String} {x : Handle n} {h : Host n}
    (hx : s.handle? name = some x) (hturns : ∀ m, Turns (s.host, x.call ::ₘ m) (h, m)) :
    Moves s { s.removeHandle name with host := h } := by
  intro hs
  refine ⟨namesDistinct_removeHandle hs name, ?_⟩
  rw [held_of_handle? hs hx]
  exact hturns _

theorem turns_giveUp (id : CallId) (r : Host n × Bool) (m : Custody n) :
    Turns (r.1, m) (giveUp id r, m) := by
  obtain ⟨h, present⟩ := r
  cases present with
  | false => exact .refl
  | true => exact .single (.log _ _ _ _)

theorem turns_discard (h : Host n) (x : Handle n) (m : Custody n) :
    Turns (h, x.call ::ₘ m) (discard h x, m) := by
  cases x with
  | binder b id => exact .single (.dropped b id)
  | future b id started => exact .head (.dropped b id) (turns_giveUp id _ m)

/-! ## Calls -/

/-- A new call is kept, and what had its name before is dropped. -/
theorem turns_keep {s : Session n} (hs : s.NamesDistinct) (name : String) (b : Fin n)
    (id : CallId) :
    Turns (s.host, (b, id) ::ₘ s.held) ((s.keep name b id).host, (s.keep name b id).held) := by
  rw [keep]
  cases hold : s.handle? name with
  | none =>
      have hheld : (s.removeHandle name).held = s.held := by
        have hfilter : (s.handles.filter fun h => h.1 ≠ name) = s.handles := by
          refine List.filter_eq_self.2 fun p hp => ?_
          have hne : name ≠ p.1 := by simpa using List.lookup_eq_none_iff.1 hold p hp
          simpa using hne.symm
        rw [held, held, removeHandle, hfilter]
      rw [held_setHandle, hheld]
      exact .refl
  | some old =>
      rw [held_setHandle, held_of_handle? hs hold, Multiset.cons_swap]
      exact turns_discard s.host old _

theorem moves_call (s : Session n) (b : Fin n) (function : String) (args : List Json)
    (name : String) : Moves s (s.call b function args name).1 := by
  rw [call]
  split
  · next h id hcall =>
      intro hs
      refine ⟨?_, .head (.called hcall) (turns_keep (s := { s with host := h }) hs name b id)⟩
      rw [keep]
      split
      · exact namesDistinct_setHandle (s := { s with host := _ }) hs name _
      · exact namesDistinct_setHandle (s := { s with host := h }) hs name _
  · next h e hcall => exact moves_of_turns rfl fun m => .single (.refused hcall)

theorem moves_callEach (b : Fin n) (args : List Json) (name : String) (functions : List String) :
    ∀ (s : Session n) (i : Nat), Moves s (s.callEach b args name i functions).1 := by
  induction functions with
  | nil => exact fun s i => .refl s
  | cons function rest ih =>
      exact fun s i => (moves_call s b function args (name ++ toString i)).trans (ih _ _)

/-- A poll that is not pending ends the custody of its call. -/
theorem turns_pollFuture {h h' : Host n} {b : Fin n} {id : CallId} {started now : Nat}
    {o : Outcome} (hpoll : pollFuture h b id started now = (h', .ready o)) (m : Custody n) :
    Turns (h, (b, id) ::ₘ m) (h', m) := by
  rw [pollFuture, Host.takeOutcome] at hpoll
  cases harrived : (h.bridge b).arrived? id with
  | some o' =>
      simp only [harrived, Prod.mk.injEq] at hpoll
      obtain ⟨rfl, -⟩ := hpoll
      exact .single (.taken harrived)
  | none =>
      simp only [harrived] at hpoll
      split at hpoll
      · split at hpoll
        · simp only [Prod.mk.injEq] at hpoll
          obtain ⟨rfl, -⟩ := hpoll
          exact .head (.log _ _ _ _) (.head (.expired harrived) (turns_giveUp id _ m))
        · simp at hpoll
      · simp at hpoll

theorem pollFuture_pending {h h' : Host n} {b : Fin n} {id : CallId} {started now : Nat}
    (hpoll : pollFuture h b id started now = (h', .pending)) : h' = h := by
  rw [pollFuture, Host.takeOutcome] at hpoll
  cases harrived : (h.bridge b).arrived? id with
  | some o => simp [harrived] at hpoll
  | none =>
      simp only [harrived] at hpoll
      split at hpoll
      · split at hpoll
        · simp at hpoll
        · simpa using hpoll.symm
      · simpa using hpoll.symm

theorem moves_poll {s : Session n} {name : String} {x : Handle n}
    (hx : s.handle? name = some x) : Moves s (s.poll name x).1 := by
  have hgo : ∀ b id started, x.call = (b, id) → Moves s (poll.go s name b id started).1 := by
    intro b id started hcall
    rw [poll.go]
    split
    · next h o hpoll =>
        exact moves_removeHandle hx fun m => hcall ▸ turns_pollFuture hpoll m
    · next h hpoll =>
        rw [pollFuture_pending hpoll]
        exact moves_setHandle hx hcall.symm
  cases x with
  | binder b id => exact hgo _ _ _ rfl
  | future b id started => exact hgo _ _ _ rfl

/-! ## Lines and frames -/

theorem moves_updateEndpoint (s : Session n) (b : Fin n) (f : Endpoint → Endpoint) :
    Moves s (s.updateEndpoint b f) :=
  moves_of_turns rfl fun _ => .refl

theorem moves_closeEnd (s : Session n) (i : Option Nat) : Moves s (s.closeEnd i) := by
  cases i with
  | none => exact .refl s
  | some i => exact moves_of_turns rfl fun m => .single (.quiet (.rewired _))

theorem moves_addLine (s : Session n) : Moves s s.addLine.1 :=
  moves_of_turns rfl fun _ => .single (.quiet (.rewired _))

theorem moves_setReceiver (s : Session n) (b : Fin n) (i : Nat) : Moves s (s.setReceiver b i) :=
  (moves_closeEnd s _).trans (moves_updateEndpoint _ b _)

theorem moves_setInbound (s : Session n) (b : Fin n) (i : Nat) : Moves s (s.setInbound b i) :=
  (moves_closeEnd s _).trans (moves_updateEndpoint _ b _)

theorem moves_openBridge (s : Session n) (b : Fin n) (channel : Channel) :
    Moves s (s.openBridge b channel).1 :=
  moves_of_turns rfl fun _ => .single (.quiet (.opened b channel))

theorem moves_openWith (s : Session n) (b : Fin n) (kind : ChannelKind) :
    Moves s (s.openWith b kind).1 := by
  cases kind with
  | tape verdict => exact moves_openBridge s b _
  | outlet =>
      exact ((moves_addLine s).trans (moves_setReceiver _ b _)).trans (moves_openBridge _ b _)
  | peer =>
      have hlines := (moves_addLine s).trans (moves_addLine s.addLine.1)
      have hends := (moves_setReceiver s.addLine.1.addLine.1 b s.addLine.2).trans
        (moves_setInbound _ b s.addLine.1.addLine.2)
      exact ((hlines.trans hends).trans (moves_updateEndpoint _ b _)).trans
        (moves_openBridge _ b _)

theorem moves_link (s : Session n) (b c : Fin n) : Moves s (s.link b c).1 := by
  have hlines := (moves_addLine s).trans (moves_addLine s.addLine.1)
  have hends := (moves_setInbound s.addLine.1.addLine.1 b s.addLine.1.addLine.2).trans
    (moves_setInbound _ c s.addLine.2)
  exact ((hlines.trans hends).trans (moves_openBridge _ b _)).trans (moves_openBridge _ c _)

theorem turns_popLine (h : Host n) (i : Nat) (m : Custody n) :
    Turns (h, m) ((h.popLine i).1, m) := by
  rw [Host.popLine]
  split
  · exact .refl
  · exact .single (.quiet (.rewired _))

theorem turns_pumpLine [Limits] (b : Fin n) (i : Nat) (room : Nat) :
    ∀ (h : Host n) (m : Custody n), Turns (h, m) ((pumpLine h b i room).1, m) := by
  induction room with
  | zero => exact fun h m => .refl
  | succ room ih =>
      intro h m
      have hpop := turns_popLine h i m
      rw [pumpLine]
      split <;> rename_i heq <;> rw [heq] at hpop
      · exact hpop
      · exact (hpop.trans (Host.turns_handle _ b _ m)).trans (ih _ m)

theorem turns_serveLine [Limits] (b : Fin n) (i : Nat) (room : Nat) :
    ∀ (h : Host n) (m : Custody n), Turns (h, m) ((serveLine h b i room).1, m) := by
  induction room with
  | zero => exact fun h m => .refl
  | succ room ih =>
      intro h m
      have hpop := turns_popLine h i m
      rw [serveLine]
      split <;> rename_i heq <;> rw [heq] at hpop
      · exact hpop
      · next h' frame =>
          have hframe := (hpop.trans (Host.turns_handle h' b frame m)).trans
            (Host.turns_afterFrame (h'.handle b frame).1 (h'.handle b frame).2 m)
          dsimp only
          split <;> rename_i hafter <;> rw [hafter] at hframe
          · exact hframe
          · exact hframe.trans (ih _ m)

theorem moves_endServer (s : Session n) (b : Fin n) : Moves s (s.endServer b) :=
  (moves_closeEnd s _).trans (moves_updateEndpoint _ b _)

theorem moves_startServer (s : Session n) (b : Fin n) : Moves s (s.startServer b).1 := by
  rw [startServer]
  split
  · exact .refl s
  · exact (moves_endServer s b).trans (moves_updateEndpoint _ b _)

theorem moves_pollServer [Limits] (s : Session n) (b : Fin n) : Moves s (s.pollServer b).1 := by
  rw [pollServer]
  split
  · exact .refl s
  · next i _ =>
      have hserve : Moves s { s with host := (serveLine s.host b i Limits.frames).1 } :=
        moves_of_turns rfl (turns_serveLine b i Limits.frames s.host)
      split
      · next h e heq =>
          rw [heq] at hserve
          exact hserve.trans (moves_endServer _ b)
      · next h heq =>
          rw [heq] at hserve
          dsimp only
          split
          · exact hserve
          · have hlog : Moves { s with host := h } { s with host := h.serveEnded } :=
              moves_of_turns rfl fun m => .single (.log _ _ _ _)
            exact (hserve.trans hlog).trans (moves_endServer _ b)

theorem moves_pump [Limits] (s : Session n) (b : Fin n) (max : Nat) : Moves s (s.pump b max).1 := by
  rw [pump]
  split
  · exact .refl s
  · exact moves_of_turns rfl (turns_pumpLine b _ max s.host)

theorem moves_inject (s : Session n) (b : Fin n) (frame : String) :
    Moves s (s.inject b frame).1 := by
  rw [inject]
  split
  · exact .refl s
  · next i _ =>
      refine moves_of_turns rfl fun m => ?_
      simp only [Host.pushLine]
      split
      · exact .single (.quiet (.rewired _))
      · exact .refl

theorem moves_receive (s : Session n) (b : Fin n) : Moves s (s.receive b).1 := by
  rw [receive]
  split
  · exact .refl s
  · exact moves_of_turns rfl fun _ => .single (.quiet (.rewired _))

/-! ## Steps -/

theorem moves_withBridge {s : Session n} {b : Fin n} {f : Unit → Session n × Answer}
    (hf : Moves s (f ()).1) : Moves s (s.withBridge b f).1 := by
  rw [withBridge]
  split
  · exact hf
  · exact .refl s

theorem moves_withHandle {s : Session n} {name : String} {f : Handle n → Session n × Answer}
    (hf : ∀ x, s.handle? name = some x → Moves s (f x).1) :
    Moves s (s.withHandle name f).1 := by
  rw [withHandle]
  split
  · next x hx => exact hf x hx
  · exact .refl s

theorem moves_attach [Limits] (s : Session n) (name : String) (c : Callback n) :
    Moves s (s.attach name c).1 := by
  refine moves_withHandle fun x hx => ?_
  cases x with
  | future b id started => exact .refl s
  | binder b id =>
      dsimp only
      split
      · exact moves_removeHandle hx (Host.turns_bind s.host b id c)
      · exact .refl s

/-- Whatever a session does, its host only takes turns. -/
theorem moves_step [Limits] (s : Session n) (x : Step n) : Moves s (s.step x).1 := by
  cases x with
  | expose b name f =>
      exact moves_withBridge (moves_of_turns rfl fun _ => .single (.quiet (.exposed b name f)))
  | names b | isExposed b name | config b | describe b | remote b function | remotes b =>
      exact moves_withBridge (.refl s)
  | call b function args name => exact moves_withBridge (moves_call s b function args name)
  | callRemote b function args name =>
      refine moves_withBridge ?_
      split
      · exact moves_call s b function args name
      · exact .refl s
  | callRemotes b args name => exact moves_withBridge (moves_callEach b args name _ s 0)
  | openWith b kind => exact moves_withBridge (moves_openWith s b kind)
  | link b c => exact moves_withBridge (moves_withBridge (moves_link s b c))
  | handle b frame =>
      exact moves_withBridge (moves_of_turns rfl (Host.turns_handle s.host b frame))
  | handleValue b v =>
      exact moves_withBridge (moves_of_turns rfl (Host.turns_handleValue s.host b v))
  | serve b frames => exact moves_withBridge (moves_of_turns rfl (Host.turns_serve b frames s.host))
  | startServer b => exact moves_withBridge (moves_startServer s b)
  | pollServer b => exact moves_pollServer s b
  | pump b max => exact moves_withBridge (moves_pump s b _)
  | inject b frame => exact moves_inject s b frame
  | receive b => exact moves_receive s b
  | closeSender b | dropBridge b => exact moves_updateEndpoint s b _
  | closeReceiver b => exact (moves_closeEnd s _).trans (moves_updateEndpoint _ b _)
  | hangUp b =>
      exact ((moves_closeEnd s _).trans (moves_endServer _ b)).trans (moves_updateEndpoint _ b _)
  | advance ms | setLevel l => exact moves_of_turns rfl fun _ => .refl
  | future name =>
      refine moves_withHandle fun x hx => ?_
      cases x with
      | binder b id => exact moves_setHandle hx rfl
      | future b id started => exact .refl s
  | poll name => exact moves_withHandle fun x hx => moves_poll hx
  | drop name => exact moves_withHandle fun x hx => moves_removeHandle hx (turns_discard s.host x)
  | describeHandle name =>
      refine moves_withHandle fun x hx => ?_
      cases x with
      | binder b id => exact .refl s
      | future b id started => exact .refl s
  | bind name sequel => exact moves_attach s name _
  | attach name c => exact moves_attach s name c

theorem moves_advance [Limits] (s : Session n) (x : Step n) : Moves s (s.advance x).1 :=
  (moves_step s x).trans (moves_of_turns rfl fun _ => .refl)

/-! ## Runs -/

/-- The session after some steps. -/
def after [Limits] (s : Session n) (steps : List (Step n)) : Session n :=
  steps.foldl (fun s x => (s.advance x).1) s

theorem moves_after [Limits] (steps : List (Step n)) :
    ∀ s : Session n, Moves s (s.after steps) := by
  induction steps with
  | nil => exact fun s => .refl s
  | cons x rest ih => exact fun s => (moves_advance s x).trans (ih _)

/-- What every turn keeps holds after every run. -/
theorem invariant_after [Limits] {P : Host n × Custody n → Prop}
    (hturn : ∀ a c, Turn a c → P a → P c) {s : Session n} (hs : s.NamesDistinct)
    (hstart : P (s.host, s.held)) (steps : List (Step n)) :
    P ((s.after steps).host, (s.after steps).held) :=
  (moves_after steps s hs).2.keep hturn hstart

end Session

end CallBridge
