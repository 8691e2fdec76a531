import CallBridge.Proofs.Bridge.Course
import CallBridge.Proofs.Bridge.Opening
import CallBridge.Proofs.Session.Lockstep

/-!
# The moment of opening

It makes no difference when a bridge is opened, if the channel accepts every frame and host code
does not look at it: the steps of a session have the same answers, and the bridges end up the same
and have sent the same.
-/

namespace CallBridge

variable {n : Nat}

namespace Session

/-! ## Runs in lockstep -/

/-- The answers to steps. -/
def answers [Limits] (s : Session n) (steps : List (Step n)) : List Answer :=
  (s.run steps).map Report.answer

theorem answers_cons [Limits] (s : Session n) (x : Step n) (rest : List (Step n)) :
    s.answers (x :: rest) = (s.step x).2 :: (s.advance x).1.answers rest := rfl

theorem answers_append [Limits] (steps more : List (Step n)) (s : Session n) :
    s.answers (steps ++ more) = s.answers steps ++ (s.after steps).answers more := by
  induction steps generalizing s with
  | nil => rfl
  | cons x rest ih => rw [List.cons_append, answers_cons, ih, answers_cons]; rfl

theorem after_append [Limits] (s : Session n) (steps more : List (Step n)) :
    s.after (steps ++ more) = (s.after steps).after more :=
  List.foldl_append

theorem leaves_of_none (s : Session n) (x : Step n) : s.Leaves (fun _ _ => false) x := by
  cases x with
  | call => exact ⟨rfl, fun _ _ => rfl⟩
  | handle | handleValue | future | poll | drop | bind | attach => exact fun _ _ => rfl
  | expose | names | isExposed | config | describe | remote | callRemote | remotes | callRemotes
  | openWith | link | serve | startServer | pollServer | pump | inject | receive | closeSender
  | closeReceiver | hangUp | dropBridge | advance | setLevel | describeHandle => trivial

variable {s t : Session n} {b : Fin n} {channel : Channel}

/-- Where no call is left aside and code may ask for anything, ordinary steps have the same
answers. -/
theorem Abreast.run [Limits] {P : Pairing n} (hP : P.Lawful) (haside : P.aside = fun _ _ => false)
    (hok : ∀ h p, P.ok h p) {steps : List (Step n)} (hsteps : ∀ x ∈ steps, Ordinary P.kind x)
    (hst : Abreast P s t) :
    Abreast P (s.after steps) (t.after steps) ∧ t.answers steps = s.answers steps := by
  induction steps generalizing s t with
  | nil => exact ⟨hst, rfl⟩
  | cons x rest ih =>
      obtain ⟨hstep, hanswer⟩ := hst.step hP (hsteps x List.mem_cons_self)
        (haside ▸ s.leaves_of_none x) fun _ _ => hok _ _
      have hnext : Abreast P (s.advance x).1 (t.advance x).1 :=
        ⟨hstep.host, hstep.endpoints, hstep.handles, hstep.clock⟩
      obtain ⟨hrest, hanswers⟩ := ih (fun y hy => hsteps y (List.mem_cons_of_mem _ hy)) hnext
      refine ⟨hrest, ?_⟩
      rw [answers_cons, answers_cons, hanswer, hanswers]

/-! ## Runs with an opening -/

/-- The session after the steps, with `b` opened after the first `i` of them. -/
def openedAt [Limits] (s : Session n) (b : Fin n) (channel : Channel) (i : Nat)
    (steps : List (Step n)) : Session n :=
  ((s.after (steps.take i)).openBridge b channel).1.after (steps.drop i)

/-- The answers to the steps of such a run. -/
def answersAt [Limits] (s : Session n) (b : Fin n) (channel : Channel) (i : Nat)
    (steps : List (Step n)) : List Answer :=
  s.answers (steps.take i) ++
    ((s.after (steps.take i)).openBridge b channel).1.answers (steps.drop i)

/-- Opening `b` after some steps comes to the same as opening it before all of them. -/
theorem openedAt_abreast [Limits] {buffer : List String}
    (hout : (s.host.bridge b).outbound = .connecting buffer)
    (hcode : s.host.Holds (Proc.Modest b)) (haccepts : s.host.Accepts channel)
    {steps : List (Step n)} (hsteps : ∀ x ∈ steps, Ordinary (Proc.Modest b) x) (i : Nat) :
    ((s.after (steps.take i)).openBridge b channel).2 = .ok () ∧
      (s.openBridge b channel).1.answers steps = s.answersAt b channel i steps ∧
      Abreast (s.host.afterOpening b) (s.openedAt b channel i steps)
        ((s.openBridge b channel).1.after steps) := by
  have hfirst : ∀ x ∈ steps.take i, Ordinary (Proc.Modest b) x :=
    fun x hx => hsteps x (List.mem_of_mem_take hx)
  have hlater : ∀ x ∈ steps.drop i, Ordinary (Proc.Modest b) x :=
    fun x hx => hsteps x (List.mem_of_mem_drop hx)
  -- Up to the opening, the session that was opened first is one opening ahead of the other.
  have hstart : Abreast (s.host.beforeOpening b channel) s (s.openBridge b channel).1 :=
    ⟨(Host.abreast_openWith hcode hout haccepts).2, rfl, rfl, rfl⟩
  obtain ⟨hbefore, hanswers⟩ := hstart.run (s.host.lawful_beforeOpening b channel) rfl
    (fun _ _ => trivial) hfirst
  obtain ⟨hresult, hopened⟩ := Host.openWith_abreast hbefore.host
  -- From there on both are open, and the buffer of the one has reached the channel.
  have hmiddle : Abreast (s.host.afterOpening b)
      ((s.after (steps.take i)).openBridge b channel).1
      ((s.openBridge b channel).1.after (steps.take i)) :=
    ⟨hopened, hbefore.endpoints, hbefore.handles, hbefore.clock⟩
  obtain ⟨hafter, hanswers'⟩ := hmiddle.run (s.host.lawful_afterOpening b) rfl
    (fun _ _ => trivial) hlater
  refine ⟨hresult, ?_, ?_⟩
  · rw [answersAt, ← hanswers, ← hanswers', ← answers_append, List.take_append_drop]
  · rw [← after_append, List.take_append_drop] at hafter
    exact hafter

theorem deliveriesOf_unoffered (b d : Fin n) (id : CallId) (es : List (Event n)) :
    deliveriesOf d id (unoffered b es) = deliveriesOf d id es := by
  simp only [deliveriesOf, unoffered, unlogged, List.filterMap_filter]
  refine List.filterMap_congr fun e _ => ?_
  cases e <;> simp [Event.isRecord, Event.offerOf, Event.deliveryOf]

/-- The sessions hold the same, and their bridges are the same and have sent the same. The traces
may differ in log records, and in when the frames of `b` were offered. -/
structure Indistinct (b : Fin n) (s t : Session n) : Prop where
  bridge : ∀ d, t.host.bridge d = s.host.bridge d
  endpoints : t.endpoints = s.endpoints
  handles : t.handles = s.handles
  clock : t.clock = s.clock
  offers : offers b t.host.trace = offers b s.host.trace
  trace : unoffered b t.host.trace = unoffered b s.host.trace
  deliveries : ∀ d id, deliveriesOf d id t.host.trace = deliveriesOf d id s.host.trace

theorem Abreast.indistinct {start : Host n} (hst : Abreast (start.afterOpening b) s t) :
    Indistinct b s t where
  bridge d := by
    have hbridge := (hst.host.beside d).eq_of_none fun _ => rfl
    rw [hst.host.wires.outbound d] at hbridge
    exact hbridge
  endpoints := hst.endpoints
  handles := hst.handles
  clock := hst.clock
  offers := hst.host.wires.trace.1
  trace := hst.host.wires.trace.2
  deliveries d id := by
    rw [← deliveriesOf_unoffered b d id t.host.trace, hst.host.wires.trace.2,
      deliveriesOf_unoffered]

theorem Indistinct.trans_symm {u : Session n} (hsu : Indistinct b s u) (htu : Indistinct b t u) :
    Indistinct b s t where
  bridge d := (htu.bridge d).symm.trans (hsu.bridge d)
  endpoints := htu.endpoints.symm.trans hsu.endpoints
  handles := htu.handles.symm.trans hsu.handles
  clock := htu.clock.symm.trans hsu.clock
  offers := htu.offers.symm.trans hsu.offers
  trace := htu.trace.symm.trans hsu.trace
  deliveries d id := (htu.deliveries d id).symm.trans (hsu.deliveries d id)

/-- A bridge that still buffers may be opened at any moment of a run with a channel that accepts
every frame, if no host code opens it or looks at its channel. Opening succeeds, every step has the
same answer, and at the end the bridges are the same, the channel has been offered the same frames
in the same order, and every callback and future has got the same outcome. -/
theorem opening_moment [Limits] {buffer : List String}
    (hout : (s.host.bridge b).outbound = .connecting buffer)
    (hcode : s.host.Holds (Proc.Modest b)) (haccepts : s.host.Accepts channel)
    {steps : List (Step n)} (hsteps : ∀ x ∈ steps, Ordinary (Proc.Modest b) x) (i j : Nat) :
    ((s.after (steps.take i)).openBridge b channel).2 = .ok () ∧
      ((s.after (steps.take j)).openBridge b channel).2 = .ok () ∧
      s.answersAt b channel i steps = s.answersAt b channel j steps ∧
      Indistinct b (s.openedAt b channel i steps) (s.openedAt b channel j steps) := by
  obtain ⟨hopened, hanswers, hafter⟩ := openedAt_abreast hout hcode haccepts hsteps i
  obtain ⟨hopened', hanswers', hafter'⟩ := openedAt_abreast hout hcode haccepts hsteps j
  exact ⟨hopened, hopened', hanswers.symm.trans hanswers',
    hafter.indistinct.trans_symm hafter'.indistinct⟩

/-- A call is made, the peer calls a function that makes another one, and the first call returns;
the bridge is opened before all this or when it is over. -/
theorem opening_moment_after_return :
    let s : Session 1 := start #v[{}] none
    let f : Exposed 1 := ⟨fun _ => .call 0 "g" [] (fun _ => .done (.returned none)) []
      fun _ => .done (.returned none), []⟩
    let steps : List (Step 1) := [.expose 0 "f" f, .call 0 "h" [] "x",
      .handleValue 0 (.object [("args", .array []), ("call", .string "7"), ("name", .string "f")]),
      .handleValue 0 (.object [("return", .string "1700000000000.0")]), .poll "x"]
    (s.host.bridge 0).outbound = .connecting [] ∧ s.host.Holds (Proc.Modest 0) ∧
      s.host.Accepts ⟨.tape, fun _ => none⟩ ∧ (∀ x ∈ steps, Ordinary (Proc.Modest 0) x) ∧
      Indistinct 0 (s.openedAt 0 ⟨.tape, fun _ => none⟩ 0 steps)
        (s.openedAt 0 ⟨.tape, fun _ => none⟩ 5 steps) ∧
      (offers 0 (s.openedAt 0 ⟨.tape, fun _ => none⟩ 5 steps).host.trace).length = 3 := by
  intro s f steps
  have hout : (s.host.bridge 0).outbound = .connecting [] := by
    simp [s, start, Host.ofConfigs, Host.bridge]
  have hcode : s.host.Holds (Proc.Modest 0) := by
    constructor
    · simp [s, start, Host.ofConfigs, Host.bridge]
    · simp [s, start, Host.ofConfigs, Host.bridge]
  have haccepts : s.host.Accepts ⟨.tape, fun _ => none⟩ := fun _ => rfl
  have hsteps : ∀ x ∈ steps, Ordinary (Proc.Modest 0) x := by
    intro x hx
    simp only [steps, List.mem_cons, List.not_mem_nil, or_false] at hx
    rcases hx with rfl | rfl | rfl | rfl | rfl
    · exact fun _ => ⟨trivial, fun _ => trivial, fun _ => trivial⟩
    · trivial
    · trivial
    · trivial
    · trivial
  exact ⟨hout, hcode, haccepts, hsteps,
    (opening_moment hout hcode haccepts hsteps 0 5).2.2.2, by decide +kernel⟩

end Session

end CallBridge
