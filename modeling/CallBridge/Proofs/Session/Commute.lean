import CallBridge.Proofs.Bridge.Serve
import CallBridge.Proofs.Bridge.Settle
import CallBridge.Proofs.Session.Lockstep

/-!
# Returns commute

Handling a return commutes with every step that is not about its call, and returns for different
calls may come in any order: the sessions agree afterwards.
-/

namespace CallBridge

variable {n : Nat}

/-! ## Returns in any order -/

theorem Proc.Aloof.of_asks [Limits] {level : Nat} {h k : Host n} {p q : Proc n} (hp : p.Aloof)
    (hasks : Host.Asks level h p k q) : q.Aloof := by
  induction hasks with
  | now => exact hp
  | later hnext _ ih =>
      cases hnext with
      | noted => exact ih hp
      | called | refused | forgotten | forgottenRefused | exposed | opened | handled | named
      | asked => exact hp.elim
  | inside _ _ _ _ => exact hp.elim

theorem Proc.Aloof.ignores {p : Proc n} (hp : p.Aloof) (b : Fin n) (id : CallId) (h : Host n) :
    p.Ignores b id h := by
  cases p with
  | done e => exact ⟨trivial, by simp⟩
  | note label what next => exact ⟨trivial, by simp⟩
  | call | callAndForget | expose | openWith | handle | names | status => exact hp.elim

namespace Host

variable {h k : Host n} {b : Fin n}

/-- The frame is a return, and the callback that waits for it keeps to itself. -/
def TakesReturn (h : Host n) (b : Fin n) (frame : String) (r : Return) : Prop :=
  Message.decode frame = .ok (.ret r) ∧ h.Discreet b r

/-- A return that is put aside starts no callback. -/
theorem discreet_of_parked {r : Return}
    (hr : (r.parked ((h.bridge b).pending? r.id)).isSome = true) : h.Discreet b r := by
  intro c hc
  rw [hc] at hr
  cases hr

/-- The frame is a return that will be put aside. -/
def awaits (h : Host n) (b : Fin n) (frame : String) : Bool :=
  match Message.decode frame with
  | .ok (.ret r) => (r.parked ((h.bridge b).pending? r.id)).isSome
  | _ => false

theorem takesReturn_of_awaits {frame : String} (hframe : h.awaits b frame = true) :
    ∃ r, h.TakesReturn b frame r := by
  rw [awaits] at hframe
  split at hframe
  · next r hr => exact ⟨r, hr, discreet_of_parked hframe⟩
  · cases hframe

theorem TakesReturn.handle_eq [Limits] {frame : String} {r : Return}
    (hframe : h.TakesReturn b frame r) :
    (h.handle b frame).1 = handleReturn nestedHandling h b r := by
  rw [handle, hframe.1]
  rfl

theorem TakesReturn.settled {frame : String} {r r' : Return} (hframe : h.TakesReturn b frame r)
    (es : List (Event n)) : (h.settled b r' es).TakesReturn b frame r := by
  refine ⟨hframe.1, fun c hc => hframe.2 c ?_⟩
  rw [bridge_settled, if_pos rfl, Bridge.pending?_settle] at hc
  split at hc
  · cases hc
  · exact hc

theorem TakesReturn.handle [Limits] {frame frame' : String} {r r' : Return}
    (hframe : h.TakesReturn b frame r) (hframe' : h.TakesReturn b frame' r') :
    (h.handle b frame').1.TakesReturn b frame r := by
  obtain ⟨es, hsettles⟩ := exists_settles hframe'.2
  rw [hframe'.handle_eq, hsettles.eq rfl]
  exact hframe.settled es

/-- Hosts that agree still do when they have handled the same returns. -/
theorem Agree.handleAll [Limits] {frames : List String} (hhk : Agree h k)
    (hframes : ∀ frame ∈ frames, ∃ r, h.TakesReturn b frame r) :
    Agree (h.handleAll b frames) (k.handleAll b frames) := by
  induction frames generalizing h k with
  | nil => exact hhk
  | cons frame rest ih =>
      obtain ⟨r, hr⟩ := hframes frame List.mem_cons_self
      have hentry : (k.bridge b).pending? r.id = (h.bridge b).pending? r.id := by
        rw [hhk.bridge b]
        rfl
      have hr' : k.TakesReturn b frame r := ⟨hr.1, fun c hc => hr.2 c (hentry ▸ hc)⟩
      obtain ⟨es, hsettles⟩ := exists_settles hr.2
      refine ih (h := (h.handle b frame).1) (k := (k.handle b frame).1) ?_ ?_
      · rw [hr.handle_eq, hr'.handle_eq, hsettles.eq rfl, hsettles.eq hentry]
        exact hhk.settled b r es
      · intro frame' hframe'
        obtain ⟨r', hr'⟩ := hframes frame' (List.mem_cons_of_mem _ hframe')
        exact ⟨r', hr'.handle hr⟩

/-- Two returns for different calls change places. -/
theorem agree_swap [Limits] {frame frame' : String} {r r' : Return} (hr : h.TakesReturn b frame r)
    (hr' : h.TakesReturn b frame' r') (hne : r'.id ≠ r.id) :
    Agree ((h.handle b frame).1.handle b frame').1 ((h.handle b frame').1.handle b frame).1 := by
  obtain ⟨es, hsettles⟩ := exists_settles hr.2
  have hreceives : ∀ m, Message.decode frame' = .ok m →
      (h.besideSettled b r es).Receives outerLevel h b m := by
    intro m hm
    obtain rfl : m = .ret r' := Except.ok.inj (hm.symm.trans hr'.1)
    refine ⟨?_, ?_⟩
    · rintro r'' heq
      obtain rfl := Message.ret.inj heq
      exact only_eq_false.2 fun hown => hne hown.2
    · intro h' p' j q henters hasks
      cases henters with
      | callback hc => exact ((hr'.2 _ hc).of_asks hasks).ignores b r.id j
  obtain ⟨hh, -⟩ := (h.abreast_settled b r es).handle (lawful_besideSettled h b r es) hreceives
  rw [(hr.handle hr').handle_eq, hr.handle_eq, hsettles.eq rfl]
  exact agree_of_abreast hsettles hh

/-- Two frames are not returns for the same call. -/
def Unrelated (frame frame' : String) : Prop :=
  ∀ r r', Message.decode frame = .ok (.ret r) → Message.decode frame' = .ok (.ret r') →
    r'.id ≠ r.id

theorem Unrelated.symm {frame frame' : String} (hframes : Unrelated frame frame') :
    Unrelated frame' frame :=
  fun r r' hr hr' heq => hframes r' r hr' hr heq.symm

/-- Returns for different calls may be handled in any order. -/
theorem agree_handleAll_of_perm [Limits] {frames frames' : List String}
    (hperm : frames.Perm frames') (hframes : ∀ frame ∈ frames, ∃ r, h.TakesReturn b frame r)
    (hunrelated : frames.Pairwise Unrelated) :
    Agree (h.handleAll b frames) (h.handleAll b frames') := by
  -- After the first return the others still find callbacks that keep to themselves, so the host
  -- varies in the induction.
  induction hperm generalizing h with
  | nil => exact .refl h
  | cons frame hperm ih =>
      obtain ⟨r, hr⟩ := hframes frame List.mem_cons_self
      refine ih (h := (h.handle b frame).1) ?_ (List.pairwise_cons.1 hunrelated).2
      intro frame' hframe'
      obtain ⟨r', hr'⟩ := hframes frame' (List.mem_cons_of_mem _ hframe')
      exact ⟨r', hr'.handle hr⟩
  | swap frame frame' rest =>
      obtain ⟨r', hr'⟩ := hframes frame' List.mem_cons_self
      obtain ⟨r, hr⟩ := hframes frame (List.mem_cons_of_mem _ List.mem_cons_self)
      have hne := (List.pairwise_cons.1 hunrelated).1 frame List.mem_cons_self r' r hr'.1 hr.1
      refine (agree_swap hr' hr hne).handleAll fun frame'' hframe'' => ?_
      obtain ⟨r'', hr''⟩ :=
        hframes frame'' (List.mem_cons_of_mem _ (List.mem_cons_of_mem _ hframe''))
      exact ⟨r'', (hr''.handle hr').handle (hr.handle hr')⟩
  | trans hperm _ ih ih' =>
      refine (ih hframes hunrelated).trans (ih' ?_ ?_)
      · exact fun frame hframe => hframes frame (hperm.mem_iff.2 hframe)
      · exact (hperm.pairwise_iff Unrelated.symm).1 hunrelated

end Host

/-! ## Opening beside a settled call -/

/-- The lines are the same on both hosts and may be changed alike. -/
def Pairing.KeepsLines (P : Pairing n) : Prop :=
  ∀ {h k : Host n}, P.wires h k →
    k.lines = h.lines ∧ ∀ lines, P.wires { h with lines } { k with lines }

theorem Host.keepsLines_besideSettled (h : Host n) (b : Fin n) (r : Return)
    (es : List (Event n)) : (h.besideSettled b r es).KeepsLines := by
  intro h' k' hw
  exact ⟨hw.lines trivial, fun lines => ⟨hw.outbound, fun _ => rfl, fun _ => rfl, hw.trace⟩⟩

namespace Session

variable {P : Pairing n} {s t : Session n} {b : Fin n}

theorem Abreast.rewire (hP : P.KeepsLines) (hst : Abreast P s t) (f : List Line → List Line) :
    Abreast P { s with host := { s.host with lines := f s.host.lines } }
      { t with host := { t.host with lines := f t.host.lines } } := by
  obtain ⟨hlines, hwires⟩ := hP hst.host.wires
  rw [hlines]
  exact hst.withHost ⟨hst.host.beside, hwires _⟩

theorem Abreast.closeEnd (hP : P.KeepsLines) (hst : Abreast P s t) (i : Option Nat) :
    Abreast P (s.closeEnd i) (t.closeEnd i) := by
  cases i with
  | none => exact hst
  | some i => exact hst.rewire hP fun lines => lines.modify i fun _ => { receiving := false }

theorem Abreast.updateEndpoint (hst : Abreast P s t) (b : Fin n) (f : Endpoint → Endpoint) :
    Abreast P (s.updateEndpoint b f) (t.updateEndpoint b f) := by
  refine ⟨hst.host, ?_, hst.handles, hst.clock⟩
  simp only [Session.updateEndpoint, hst.endpoint_eq, hst.endpoints]

theorem Abreast.addLine (hP : P.KeepsLines) (hst : Abreast P s t) :
    Abreast P s.addLine.1 t.addLine.1 ∧ t.addLine.2 = s.addLine.2 :=
  ⟨hst.rewire hP fun lines => lines ++ [({} : Line)], congrArg List.length (hP hst.host.wires).1⟩

theorem Abreast.setReceiver (hP : P.KeepsLines) (hst : Abreast P s t) (b : Fin n) (i : Nat) :
    Abreast P (s.setReceiver b i) (t.setReceiver b i) := by
  rw [Session.setReceiver, Session.setReceiver, hst.endpoint_eq]
  exact (hst.closeEnd hP _).updateEndpoint b _

theorem Abreast.setInbound (hP : P.KeepsLines) (hst : Abreast P s t) (b : Fin n) (i : Nat) :
    Abreast P (s.setInbound b i) (t.setInbound b i) := by
  rw [Session.setInbound, Session.setInbound, hst.endpoint_eq]
  exact (hst.closeEnd hP _).updateEndpoint b _

/-- Both bridges are opened with the same result. -/
def Opens (P : Pairing n) (x y : Session n × Except BridgeError Unit) : Prop :=
  Abreast P x.1 y.1 ∧ y.2 = x.2

theorem Abreast.openBridge (hP : P.Lawful) (hkind : ∀ p, P.kind p) (hst : Abreast P s t)
    (b : Fin n) (channel : Channel) :
    Opens P (s.openBridge b channel) (t.openBridge b channel) := by
  have hopens := hkind (.openWith b channel fun _ => .done (.returned none))
  obtain ⟨hh, hr⟩ := hst.host.openWith hP hopens
  exact ⟨hst.withHost hh, hr⟩

theorem Abreast.openWith (hP : P.Lawful) (hlines : P.KeepsLines) (hkind : ∀ p, P.kind p)
    (hst : Abreast P s t) (b : Fin n) (kind : ChannelKind) :
    Opens P (s.openWith b kind) (t.openWith b kind) := by
  cases kind with
  | tape verdict => exact hst.openBridge hP hkind b _
  | outlet =>
      obtain ⟨hline, hout⟩ := hst.addLine hlines
      rw [Session.openWith, Session.openWith]
      simp only [hout]
      exact (hline.setReceiver hlines b _).openBridge hP hkind b _
  | peer =>
      obtain ⟨hline, hout⟩ := hst.addLine hlines
      obtain ⟨hline', hback⟩ := hline.addLine hlines
      rw [Session.openWith, Session.openWith]
      simp only [hout, hback]
      exact (((hline'.setReceiver hlines b _).setInbound hlines b _).updateEndpoint b
        _).openBridge hP hkind b _

/-! ## Steps and returns -/

/-- The step handles `r` on `b`. -/
inductive Brings (b : Fin n) (r : Return) : Step n → Prop
  | frame {frame} (hframe : Message.decode frame = .ok (.ret r)) : Brings b r (.handle b frame)
  | value {v} (hv : Message.classify v = .ok (.ret r)) : Brings b r (.handleValue b v)

theorem Brings.step_eq [Limits] {r : Return} {y : Step n} (hy : Brings b r y) (s : Session n) :
    s.step y = s.withBridge b fun _ =>
      ({ s with host := Host.handleReturn Host.nestedHandling s.host b r }, .result (.ok ())) := by
  cases hy with
  | frame hframe =>
      rw [step, Host.handle, hframe]
      rfl
  | value hv =>
      rw [step, Host.handleValue, hv]
      rfl

/-- The session still has the same bridges. -/
def SameBridges (s t : Session n) : Prop := ∀ c, (t.endpoint c).present = (s.endpoint c).present

theorem SameBridges.trans {u : Session n} (hst : SameBridges s t) (htu : SameBridges t u) :
    SameBridges s u :=
  fun c => (htu c).trans (hst c)

theorem sameBridges_of_eq (hst : t.endpoints = s.endpoints) : SameBridges s t := by
  intro c
  rw [endpoint, endpoint, hst]

theorem sameBridges_updateEndpoint (s : Session n) (b : Fin n) {f : Endpoint → Endpoint}
    (hf : ∀ p, (f p).present = p.present) : SameBridges s (s.updateEndpoint b f) := by
  intro c
  by_cases hc : c = b
  · subst hc
    simp [updateEndpoint, endpoint, hf]
  · have hne : (b : Nat) ≠ c := fun heq => hc (Fin.ext heq.symm)
    simp [updateEndpoint, endpoint, hne]

theorem sameBridges_closeEnd (s : Session n) (i : Option Nat) : SameBridges s (s.closeEnd i) := by
  cases i <;> exact sameBridges_of_eq rfl

theorem sameBridges_setReceiver (s : Session n) (b : Fin n) (i : Nat) :
    SameBridges s (s.setReceiver b i) :=
  (sameBridges_closeEnd s _).trans (sameBridges_updateEndpoint _ b fun _ => rfl)

theorem sameBridges_setInbound (s : Session n) (b : Fin n) (i : Nat) :
    SameBridges s (s.setInbound b i) :=
  (sameBridges_closeEnd s _).trans (sameBridges_updateEndpoint _ b fun _ => rfl)

theorem sameBridges_openBridge (s : Session n) (b : Fin n) (channel : Channel) :
    SameBridges s (s.openBridge b channel).1 :=
  sameBridges_of_eq rfl

theorem sameBridges_openWith (s : Session n) (b : Fin n) (kind : ChannelKind) :
    SameBridges s (s.openWith b kind).1 := by
  have hline : SameBridges s s.addLine.1 := sameBridges_of_eq rfl
  have hlines : SameBridges s s.addLine.1.addLine.1 := sameBridges_of_eq rfl
  cases kind with
  | tape verdict => exact sameBridges_openBridge s b _
  | outlet =>
      exact (hline.trans (sameBridges_setReceiver _ b _)).trans (sameBridges_openBridge _ b _)
  | peer =>
      have hends := (hlines.trans (sameBridges_setReceiver _ b s.addLine.2)).trans
        (sameBridges_setInbound _ b s.addLine.1.addLine.2)
      have hsender := hends.trans (sameBridges_updateEndpoint _ b
        (f := fun p => { p with sender := some s.addLine.1.addLine.2 }) fun _ => rfl)
      exact hsender.trans (sameBridges_openBridge _ b _)

theorem sameBridges_withBridge {f : Unit → Session n × Answer} (hf : SameBridges s (f ()).1) :
    SameBridges s (s.withBridge b f).1 := by
  rw [withBridge]
  split
  · exact hf
  · exact sameBridges_of_eq rfl

theorem sameBridges_withHandle {name : String} {f : Handle n → Session n × Answer}
    (hf : ∀ x, SameBridges s (f x).1) : SameBridges s (s.withHandle name f).1 := by
  rw [withHandle]
  split
  · exact hf _
  · exact sameBridges_of_eq rfl

theorem sameBridges_call (s : Session n) (b : Fin n) (function : String) (args : List Json)
    (name : String) : SameBridges s (s.call b function args name).1 := by
  rw [call]
  split
  · simp only [keep]
    split <;> exact sameBridges_of_eq rfl
  · exact sameBridges_of_eq rfl

theorem sameBridges_poll (s : Session n) (name : String) (x : Handle n) :
    SameBridges s (s.poll name x).1 := by
  have hgo : ∀ b id started, SameBridges s (poll.go s name b id started).1 := by
    intro b id started
    rw [poll.go]
    split <;> exact sameBridges_of_eq rfl
  cases x <;> exact hgo _ _ _

theorem sameBridges_attach [Limits] (s : Session n) (name : String) (c : Callback n) :
    SameBridges s (s.attach name c).1 := by
  refine sameBridges_withHandle fun x => ?_
  cases x with
  | future b id started => exact sameBridges_of_eq rfl
  | binder b id =>
      dsimp only
      split <;> exact sameBridges_of_eq rfl

/-- The step opens a bridge, or is an ordinary one that is not about the call `id` of `b`. -/
def Beyond (b : Fin n) (id : CallId) (s : Session n) (x : Step n) : Prop :=
  (∃ c kind, x = .openWith c kind) ∨ Ordinary (fun _ => True) x ∧ s.Leaves (only b id) x

theorem Beyond.sameBridges [Limits] {id : CallId} {x : Step n} (hx : s.Beyond b id x) :
    SameBridges s (s.step x).1 := by
  rcases hx with ⟨c, kind, rfl⟩ | ⟨hx, -⟩
  · exact sameBridges_withBridge (sameBridges_openWith s c kind)
  · cases x with
    | expose | handle | handleValue => exact sameBridges_withBridge (sameBridges_of_eq rfl)
    | call c function args name =>
        exact sameBridges_withBridge (sameBridges_call s c function args name)
    | advance ms => exact sameBridges_of_eq rfl
    | future name =>
        refine sameBridges_withHandle fun x => ?_
        cases x <;> exact sameBridges_of_eq rfl
    | poll name => exact sameBridges_withHandle fun x => sameBridges_poll s name x
    | drop name => exact sameBridges_withHandle fun x => sameBridges_of_eq rfl
    | bind name sequel => exact sameBridges_attach s name _
    | attach name c => exact sameBridges_attach s name c
    | names | isExposed | config | describe | remote | callRemote | remotes | callRemotes
    | openWith | link | serve | startServer | pollServer | pump | inject | receive | closeSender
    | closeReceiver | hangUp | dropBridge | setLevel | describeHandle => exact hx.elim

/-! ## The two orders -/

/-- The sessions hold the same, and their hosts agree. -/
structure Agree (s t : Session n) : Prop where
  host : Host.Agree s.host t.host
  endpoints : t.endpoints = s.endpoints
  handles : t.handles = s.handles
  clock : t.clock = s.clock

theorem Beyond.same [Limits] {r : Return} {x : Step n} (hx : s.Beyond b r.id x)
    (hcode : ∀ {h p k q}, s.Starts x h p → Host.Asks Host.outerLevel h p k q → q.Ignores b r.id k)
    (es : List (Event n)) :
    Same (s.host.besideSettled b r es) (s.step x)
      (step { s with host := s.host.settled b r es } x) := by
  have hst : Abreast (s.host.besideSettled b r es) s { s with host := s.host.settled b r es } :=
    ⟨s.host.abreast_settled b r es, rfl, rfl, rfl⟩
  have hP := s.host.lawful_besideSettled b r es
  rcases hx with ⟨c, kind, rfl⟩ | ⟨hx, hleaves⟩
  · obtain ⟨hopened, hr⟩ :=
      hst.openWith hP (s.host.keepsLines_besideSettled b r es) (fun _ => trivial) c kind
    exact hst.withBridge ⟨hopened, congrArg Answer.result hr⟩
  · exact hst.step hP hx hleaves hcode

/-- Handling a return for a call whose callback, if it has one, keeps to itself commutes with every
step that is not about this call, if the host code that the step runs does not ask about the call or
for the number of pending calls: both have the same answers in either order, and the sessions agree
afterwards. So returns for different calls may be handled in any order. A callback that keeps to
itself touches no bridge at all; where there are several, callbacks that touch a bridge which the
step leaves alone are not covered. -/
theorem return_commutes [Limits] (s : Session n) (b : Fin n) :
    (∀ r x y, Brings b r y → s.host.Discreet b r → s.Beyond b r.id x →
      (∀ h p k q, s.Starts x h p → Host.Asks Host.outerLevel h p k q → q.Ignores b r.id k) →
      ((s.step y).1.step x).2 = (s.step x).2 ∧ ((s.step x).1.step y).2 = (s.step y).2 ∧
        Agree ((s.step y).1.step x).1 ((s.step x).1.step y).1) ∧
    ∀ frames frames', frames.Perm frames' →
      (∀ frame ∈ frames, ∃ r, s.host.TakesReturn b frame r) → frames.Pairwise Host.Unrelated →
      Host.Agree (s.host.handleAll b frames) (s.host.handleAll b frames') := by
  refine ⟨?_, fun frames frames' hperm hframes hunrelated =>
    Host.agree_handleAll_of_perm hperm hframes hunrelated⟩
  intro r x y hy hdiscreet hx hcode
  have hpresent := hx.sameBridges b
  obtain ⟨es, hsettles⟩ := Host.exists_settles hdiscreet
  rw [hy.step_eq s, hy.step_eq (s.step x).1, withBridge, withBridge, hpresent]
  -- If the session has let go of the bridge, the return reaches it in neither order.
  by_cases hb : (s.endpoint b).present = true
  · rw [if_pos hb, if_pos hb, hsettles.eq rfl]
    obtain ⟨hsame, hanswer⟩ := hx.same (fun hstarts hasks => hcode _ _ _ _ hstarts hasks) es
    refine ⟨hanswer, rfl, ?_⟩
    exact ⟨Host.agree_of_abreast hsettles hsame.host, hsame.endpoints.symm, hsame.handles.symm,
      hsame.clock.symm⟩
  · rw [if_neg hb, if_neg hb]
    exact ⟨rfl, rfl, .refl _, rfl, rfl, rfl⟩

/-- Two calls are pending. The peer calls a function that exposes another one, before or after the
first return; and the two returns come in either order. -/
theorem return_commutes_two_pending :
    let f : Exposed 1 := ⟨fun _ => .expose 0 "g" (fun _ => .done (.returned none)) []
      (.done (.returned none)), []⟩
    let called : Host 1 := (((Host.ofConfigs (fun _ => 0) #v[{}]).call 0 "h" []).1.call 0 "h" []).1
    let s : Session 1 := { host := called.expose 0 "f" f, endpoints := #v[{}] }
    let r : Return := { id := .text "0.0", value := some (.bool true) }
    let x : Step 1 := .handleValue 0 (.object [("args", .array []), ("call", .string "7"),
      ("name", .string "f")])
    let y : Step 1 := .handleValue 0 (.object [("return", .string "0.0"), ("value", .bool true)])
    let first := "\x7b\"return\":\"0.0\"\x7d"
    let second := "\x7b\"return\":\"0.1\"\x7d"
    (Brings 0 r y ∧ s.host.Discreet 0 r ∧ s.Beyond 0 r.id x ∧
      Agree ((s.step y).1.step x).1 ((s.step x).1.step y).1 ∧
      (((s.step x).1.step y).1.host.bridge 0).names = ["f", "g"] ∧
      (((s.step x).1.step y).1.host.bridge 0).pending.length = 1) ∧
    Host.Agree (s.host.handleAll 0 [first, second]) (s.host.handleAll 0 [second, first]) ∧
      ((s.host.handleAll 0 [first, second]).bridge 0).arrived.length = 2 := by
  intro f called s r x y first second
  have hy : Brings 0 r y := .value rfl
  have hparked : (r.parked ((s.host.bridge 0).pending? r.id)).isSome = true := by decide +kernel
  have hdiscreet : s.host.Discreet 0 r := Host.discreet_of_parked hparked
  have hexposed : (s.host.bridge 0).exposed? "f" = some f := by
    show ((called.expose 0 "f" f).bridge 0).exposed? "f" = some f
    rw [Host.expose, Host.log, Host.bridge_emit, Host.bridge_update_self]
    exact Keyed.lookup_insert_self "f" f _
  have hx : s.Beyond 0 r.id x := by
    refine .inr ⟨trivial, ?_⟩
    intro r' hr'
    cases hr'
  have hcode : ∀ h p k q, s.Starts x h p → Host.Asks Host.outerLevel h p k q →
      q.Ignores 0 r.id k := by
    intro h p k q hstarts hasks
    change s.Starts (.handleValue 0 _) h p at hstarts
    cases hstarts with
    | @handleValue _ _ m _ _ hv henters =>
        obtain rfl : m = .call ⟨.text "7", "f", []⟩ := (Except.ok.inj hv).symm
        cases henters with
        | @function _ f' hf =>
            have hf' : f' = f := Option.some.inj (hf.symm.trans hexposed)
            rw [hf'] at hasks
            change Host.Asks _ _ (.expose 0 "g" _ [] (.done (.returned none))) k q at hasks
            cases hasks with
            | now => exact ⟨trivial, by simp⟩
            | later hnext hasks =>
                cases hnext with
                | exposed =>
                    cases hasks with
                    | now => exact ⟨trivial, by simp⟩
                    | later hnext _ => cases hnext
  have hawaits : ∀ frame ∈ [first, second], s.host.awaits 0 frame = true := by decide +kernel
  have htakes : ∀ frame ∈ [first, second], ∃ r, s.host.TakesReturn 0 frame r :=
    fun frame hframe => Host.takesReturn_of_awaits (hawaits frame hframe)
  have hunrelated : [first, second].Pairwise Host.Unrelated := by
    have hids : (Message.decode first).toOption.map Message.id
        ≠ (Message.decode second).toOption.map Message.id := by decide +kernel
    refine List.pairwise_pair.2 fun r r' hr hr' heq => ?_
    simp [hr, hr', Except.toOption, Message.id, heq] at hids
  obtain ⟨hstep, hperm⟩ := return_commutes s 0
  exact ⟨⟨hy, hdiscreet, hx, (hstep r x y hy hdiscreet hx hcode).2.2, by decide +kernel,
    by decide +kernel⟩, hperm _ _ (.swap _ _ _) htakes hunrelated, by decide +kernel⟩

end Session

end CallBridge
