import CallBridge.Proofs.Bridge.Code
import CallBridge.Proofs.Bridge.Registry
import CallBridge.Proofs.Keyed

/-!
# The chronicle of functions and callbacks

While a host is at work, functions are exposed, calls come in for them, callbacks get the outcomes
of their calls, and code asks for the names of functions, also from inside a function or callback
that runs. `codeMarks` and the functions after it list all this in its order, each time with the
host at that moment. They follow the definitions of `CallBridge.Bridge.Dispatch` and take the hosts
from them.

`Way` is a way from one host to another with the marks on it, and `leads_handle`, `leads_bind` and
`leads_serve` say that the marks listed are those on the way which the host takes, and that what
comes of each mark is on record. So the table of functions at every mark is known from the exposures
before it (`Way.before`, `Way.exposed?_eq`), the functions that ran are those of the calls which
found one (`Way.invoked_eq`), and wherever a callback got an outcome there is a mark
(`Way.exists_deliver`).
-/

namespace CallBridge

variable {n : Nat}

/-! ## Marks -/

inductive Deed (n : Nat) where
  | expose (e : Exposure n)
  /-- A call comes in; `level` further levels may nest in the code that runs for it. -/
  | attend (level : Nat) (b : Fin n) (c : Call)
  /-- A callback gets the outcome of its call, and runs. -/
  | deliver (level : Nat) (b : Fin n) (id : CallId) (c : Callback n) (o : Outcome)
  /-- Code asks for the names of all exposed functions. -/
  | list (b : Fin n)

/-- Something happens while the host is this one. -/
structure Mark (n : Nat) where
  host : Host n
  deed : Deed n

def Mark.exposure? (m : Mark n) : Option (Exposure n) :=
  match m.deed with
  | .expose e => some e
  | _ => none

/-- The call for which a function runs. -/
def Mark.invocation? (m : Mark n) : Option (Fin n × Call) :=
  match m.deed with
  | .attend _ b c => if (m.host.bridge b).isExposed c.name then some (b, c) else none
  | _ => none

/-- The functions that are exposed, in order. -/
def exposures (ms : List (Mark n)) : List (Exposure n) := ms.filterMap Mark.exposure?

def Event.invocation? : Event n → Option (Fin n × Call)
  | .invoked b c => some (b, c)
  | _ => none

/-- A function or callback is about to run. -/
def Event.starts : Event n → Bool
  | .invoked _ _ => true
  | .delivered _ _ (some _) _ => true
  | _ => false

namespace Host

/-- The calls for which the host has run a function, in order. -/
def invoked (h : Host n) : List (Fin n × Call) := h.trace.filterMap Event.invocation?

/-- What handling a frame brings about. -/
abbrev Marking (n : Nat) := Host n → Fin n → String → List (Mark n)

/-- What running host code brings about; `inside` says it for the frames that the code handles. -/
def codeMarks [Limits] (level : Nat) (inside : Marking n) : Proc n → Host n → List (Mark n)
  | .done _, _ => []
  | .note label what next, h => codeMarks level inside next (h.emit (.noted label what))
  | .call b name args callback holds next, h =>
      match h.call b name args with
      | (h, .ok id) => codeMarks level inside (next (.ok id)) (h.bindPending b id ⟨callback, holds⟩)
      | (h, .error e) => codeMarks level inside (next (.error e)) h
  | .callAndForget b name args next, h =>
      match h.call b name args with
      | (h, .ok id) => codeMarks level inside (next (.ok id)) (h.drop b id).1
      | (h, .error e) => codeMarks level inside (next (.error e)) h
  | .expose b name body holds next, h =>
      ⟨h, .expose ⟨b, name, ⟨body, holds⟩⟩⟩
        :: codeMarks level inside next (h.expose b name ⟨body, holds⟩)
  | .openWith b channel next, h =>
      codeMarks level inside (next (h.openWith b channel).2) (h.openWith b channel).1
  | .handle b frame next, h =>
      inside h b frame
        ++ codeMarks level inside (next (inner level h b frame).2) (inner level h b frame).1
  | .names b next, h => ⟨h, .list b⟩ :: codeMarks level inside (next (h.bridge b).names) h
  | .status b next, h => codeMarks level inside (next (h.bridge b).status) h

def callbackMarks [Limits] (level : Nat) (inside : Marking n) (c : Callback n) (b : Fin n)
    (id : CallId) (o : Outcome) (h : Host n) : List (Mark n) :=
  ⟨h, .deliver level b id c o⟩
    :: codeMarks level inside (c.body o) (h.emit (.delivered b id (some c) o))

def messageMarks [Limits] (level : Nat) (inside : Marking n) (h : Host n) (b : Fin n) :
    Message → List (Mark n)
  | .call c =>
      ⟨h, .attend level b c⟩ ::
        match (h.bridge b).exposed? c.name with
        | none => []
        | some f => codeMarks level inside (f.body c.args) (h.emit (.invoked b c))
  | .ret r =>
      match (h.bridge b).pending? r.id with
      | some (.callback c) =>
          callbackMarks level inside c b r.id r.outcome
            ((h.emit (.returned b r)).update b fun x => x.unlist r.id)
      | _ => []

def decodedMarks [Limits] (level : Nat) (inside : Marking n) (h : Host n) (b : Fin n) :
    Except CodecError Message → List (Mark n)
  | .ok m => messageMarks level inside h b m
  | .error _ => []

/-- What handling a frame brings about when `level` further levels may nest. -/
def nestedMarks [Limits] : Nat → Marking n
  | 0 => fun h b frame => decodedMarks 0 (fun _ _ _ => []) h b (Message.decode frame)
  | level + 1 => fun h b frame =>
      decodedMarks (level + 1) (nestedMarks level) h b (Message.decode frame)

def handleMarks [Limits] (h : Host n) (b : Fin n) (frame : String) : List (Mark n) :=
  nestedMarks outerLevel h b frame

def handleValueMarks [Limits] (h : Host n) (b : Fin n) (v : Json) : List (Mark n) :=
  decodedMarks outerLevel (nestedMarks Limits.nesting) h b
    (match Message.classify v with
      | .ok m => .ok m
      | .error raw => .error (.invalidFormat raw))

def bindMarks [Limits] (h : Host n) (b : Fin n) (id : CallId) (c : Callback n) : List (Mark n) :=
  if ((h.bridge b).pending? id).isSome then []
  else match (h.bridge b).arrived? id with
    | some o =>
        callbackMarks outerLevel (nestedMarks Limits.nesting) c b id o
          ((h.emit (.bound b id c)).update b fun x => x.takeAside id)
    | none => []

def serveMarks [Limits] (h : Host n) (b : Fin n) : List String → List (Mark n)
  | [] => []
  | frame :: rest =>
      h.handleMarks b frame ++
        match (h.handle b frame).1.afterFrame (h.handle b frame).2 with
        | (_, some _) => []
        | (h, none) => serveMarks h b rest

end Host

/-! ## What happens without a mark -/

namespace Host

variable {h k l : Host n}

/-- From `h` to `k` no table of functions changes, and no function or callback runs. -/
structure Unmarked (h k : Host n) : Prop where
  registry : ∀ b, (k.bridge b).registry = (h.bridge b).registry
  trace : ∃ es, k.trace = h.trace ++ es ∧ ∀ e ∈ es, e.starts = false

theorem Unmarked.refl (h : Host n) : Unmarked h h where
  registry _ := rfl
  trace := ⟨[], (List.append_nil _).symm, fun _ he => by cases he⟩

theorem Unmarked.trans (hhk : Unmarked h k) (hkl : Unmarked k l) : Unmarked h l where
  registry b := (hkl.registry b).trans (hhk.registry b)
  trace := by
    obtain ⟨es, hk, hes⟩ := hhk.trace
    obtain ⟨es', hl, hes'⟩ := hkl.trace
    refine ⟨es ++ es', by rw [hl, hk, List.append_assoc], fun e he => ?_⟩
    rcases List.mem_append.1 he with he | he
    · exact hes e he
    · exact hes' e he

theorem Unmarked.trace_extends (hhk : Unmarked h k) : h.trace <+: k.trace := by
  obtain ⟨es, hk, -⟩ := hhk.trace
  exact ⟨es, hk.symm⟩

theorem Unmarked.invoked_eq (hhk : Unmarked h k) : k.invoked = h.invoked := by
  obtain ⟨es, hk, hes⟩ := hhk.trace
  have hnone : es.filterMap Event.invocation? = [] := by
    rw [List.filterMap_eq_nil_iff]
    intro e he
    have hstarts := hes e he
    cases e with
    | invoked b c => cases hstarts
    | _ => rfl
  rw [invoked, hk, List.filterMap_append, hnone, List.append_nil, invoked]

theorem unmarked_emit (h : Host n) {e : Event n} (he : e.starts = false) :
    Unmarked h (h.emit e) where
  registry _ := rfl
  trace := ⟨[e], rfl, fun e' he' => by rw [List.mem_singleton.1 he', he]⟩

theorem unmarked_log (h : Host n) (level : Level) (target message : String)
    (fields : List (String × String)) : Unmarked h (h.log level target message fields) :=
  h.unmarked_emit rfl

theorem unmarked_lines (h : Host n) (lines : List Line) : Unmarked h { h with lines } :=
  ⟨fun _ => rfl, (Unmarked.refl h).trace⟩

theorem unmarked_update (h : Host n) (b : Fin n) (f : Bridge n → Bridge n)
    (hf : ∀ x, (f x).registry = x.registry) : Unmarked h (h.update b f) :=
  ⟨fun c => h.field_update b c f Bridge.registry hf, (Unmarked.refl h).trace⟩

theorem unmarked_ship (h : Host n) (b : Fin n) {x : Shipment n}
    (hx : ∀ e ∈ x.events, e.starts = false) : Unmarked h (h.ship b x) :=
  ⟨(h.sameSetup_ship b x).registry, x.events, h.trace_ship b x, hx⟩

theorem starts_of_sending {b : Fin n} {refusal : Channel → Nat → Option BridgeError}
    {frame : String} {o : Outbound} {e : Event n} (he : e ∈ (o.sending b refusal frame).1.events) :
    e.starts = false := by
  cases o with
  | connecting buffer =>
      rw [List.mem_singleton.1 he]
      rfl
  | opened channel k =>
      rcases List.mem_cons.1 he with rfl | he
      · rfl
      · rw [List.mem_singleton.1 he]
        rfl

theorem starts_of_flush {b : Fin n} {channel : Channel}
    {refusal : Nat → Option BridgeError} {total : Nat} {frames : List String} {e : Event n} :
    ∀ {k : Nat}, e ∈ (Shipment.flush b channel refusal total k frames).1.events →
      e.starts = false := by
  induction frames with
  | nil =>
      intro k he
      cases he
  | cons frame rest ih =>
      intro k he
      unfold Shipment.flush at he
      split at he
      · rcases List.mem_cons.1 he with rfl | he
        · rfl
        · exact ih he
      · rcases List.mem_cons.1 he with rfl | he
        · rfl
        · rw [List.mem_singleton.1 he]
          rfl

theorem starts_of_opening {b : Fin n} {channel : Channel}
    {refusal : Nat → Option BridgeError} {o : Outbound} {e : Event n}
    (he : e ∈ (o.opening b channel refusal).1.events) : e.starts = false := by
  cases o with
  | opened held k => cases he
  | connecting buffer =>
      rcases List.mem_cons.1 he with rfl | he
      · rfl
      · exact starts_of_flush he

theorem unmarked_transmit (h : Host n) (b : Fin n) (frame : String) :
    Unmarked h (h.transmit b frame).1 := by
  rw [transmit_eq]
  exact h.unmarked_ship b fun e he => starts_of_sending he

theorem unmarked_openWith (h : Host n) (b : Fin n) (channel : Channel) :
    Unmarked h (h.openWith b channel).1 := by
  rw [openWith_eq]
  exact h.unmarked_ship b fun e he => starts_of_opening he

theorem unmarked_register (h : Host n) (b : Fin n) (id : CallId) :
    Unmarked h (h.register b id) := by
  have hupdate : Unmarked h (h.update b fun x => x.enlist id .waiting) :=
    h.unmarked_update b _ fun _ => rfl
  rw [register]
  split
  · exact hupdate.trans (unmarked_log _ _ _ _ _)
  · exact hupdate

theorem unmarked_prepared (h : Host n) (b : Fin n) (name : String) (args : List Json) :
    Unmarked h (h.prepared b name args) := by
  have htoken : Unmarked h (h.update b fun x => { x with tokens := x.tokens.advance }) :=
    h.unmarked_update b _ fun _ => rfl
  exact ((htoken.trans (unmarked_emit _ rfl)).trans (unmarked_register _ _ _)).trans
    (unmarked_log _ _ _ _ _)

theorem unmarked_call (h : Host n) (b : Fin n) (name : String) (args : List Json) :
    Unmarked h (h.call b name args).1 := by
  have hsent := (h.unmarked_prepared b name args).trans
    (unmarked_transmit _ b (h.callFrame b name args))
  rw [call_eq]
  split <;> rename_i heq <;> rw [heq] at hsent
  · exact hsent.trans (unmarked_emit _ rfl)
  · exact hsent.trans (unmarked_update _ b (fun x => x.unlist _) fun _ => rfl)

theorem unmarked_bindPending (h : Host n) (b : Fin n) (id : CallId) (c : Callback n) :
    Unmarked h (h.bindPending b id c) :=
  (h.unmarked_update b (fun x => { x with
    pending := x.pending.map fun p => if p.1 = id then (id, .callback c) else p })
    fun _ => rfl).trans (unmarked_emit _ rfl)

theorem unmarked_release (h : Host n) (b : Fin n) (id : CallId) : Unmarked h (h.release b id).1 :=
  (h.unmarked_update b (fun x => x.unlist id) fun _ => rfl).trans
    (unmarked_update _ b (fun x => x.takeAside id) fun _ => rfl)

theorem unmarked_drop (h : Host n) (b : Fin n) (id : CallId) : Unmarked h (h.drop b id).1 :=
  (h.unmarked_emit (e := .dropped b id) rfl).trans (unmarked_release _ b id)

theorem unmarked_expire (h : Host n) (b : Fin n) (id : CallId) : Unmarked h (h.expire b id).1 :=
  (h.unmarked_emit (e := .expired b id) rfl).trans (unmarked_release _ b id)

theorem unmarked_afterFrame (h : Host n) (r : Except BridgeError Unit) :
    Unmarked h (h.afterFrame r).1 := by
  cases r with
  | ok u => exact .refl h
  | error e =>
      simp only [afterFrame]
      split
      · exact .refl h
      · exact unmarked_log _ _ _ _ _

end Host

/-! ## Marks on the way -/

/-- What a deed itself does to the host. -/
inductive Deed.Does (h : Host n) : Deed n → Host n → Prop
  | expose (e : Exposure n) : Does h (.expose e) (e.after h)
  /-- A call finds its function, which is about to run. -/
  | found {level b c f} (hf : (h.bridge b).exposed? c.name = some f) :
      Does h (.attend level b c) (h.emit (.invoked b c))
  | missed {level b c} (hf : (h.bridge b).exposed? c.name = none) : Does h (.attend level b c) h
  /-- A callback is about to run. -/
  | deliver {level b id c o} :
      Does h (.deliver level b id c o) (h.emit (.delivered b id (some c) o))
  | list (b : Fin n) : Does h (.list b) h

/-- The way from one host to another, with all marks on it. -/
inductive Way : Host n → List (Mark n) → Host n → Prop
  | refl (h : Host n) : Way h [] h
  | unmarked {h k l ms} (hunmarked : Host.Unmarked h k) (hrest : Way k ms l) : Way h ms l
  | marked {h k l d ms} (hdoes : d.Does h k) (hrest : Way k ms l) : Way h (⟨h, d⟩ :: ms) l

/-- A deed adds to the trace, and only a delivery says that a callback got an outcome. -/
theorem Deed.Does.trace {h k : Host n} {d : Deed n} (hdoes : d.Does h k) :
    ∃ es, k.trace = h.trace ++ es ∧ ∀ b id c o, .delivered b id (some c) o ∈ es →
      es = [.delivered b id (some c) o] ∧ ∃ level, d = .deliver level b id c o := by
  cases hdoes with
  | expose e => exact ⟨_, rfl, fun b id c o he => by cases List.mem_singleton.1 he⟩
  | found hf => exact ⟨_, rfl, fun b id c o he => by cases List.mem_singleton.1 he⟩
  | missed hf => exact ⟨[], (List.append_nil _).symm, fun b id c o he => by cases he⟩
  | list b => exact ⟨[], (List.append_nil _).symm, fun b id c o he => by cases he⟩
  | @deliver level b id c o =>
      refine ⟨_, rfl, fun b' id' c' o' he => ?_⟩
      cases List.mem_singleton.1 he
      exact ⟨rfl, level, rfl⟩

namespace Way

variable {h k l : Host n} {ms ms' : List (Mark n)}

theorem trans (hhk : Way h ms k) (hkl : Way k ms' l) : Way h (ms ++ ms') l := by
  induction hhk with
  | refl h => exact hkl
  | unmarked hunmarked _ ih => exact .unmarked hunmarked (ih hkl)
  | marked hdoes _ ih => exact .marked hdoes (ih hkl)

theorem trace_extends (hway : Way h ms k) : h.trace <+: k.trace := by
  induction hway with
  | refl h => exact List.prefix_rfl
  | unmarked hunmarked _ ih => exact hunmarked.trace_extends.trans ih
  | marked hdoes _ ih =>
      obtain ⟨es, hes, -⟩ := hdoes.trace
      exact List.IsPrefix.trans ⟨es, hes.symm⟩ ih

/-- The marks before a mark lead to the host of that mark. -/
theorem before {front back : List (Mark n)} {m : Mark n}
    (hway : Way h (front ++ m :: back) k) : Way h front m.host := by
  generalize hms : front ++ m :: back = ms at hway
  induction hway generalizing front with
  | refl h => simp at hms
  | unmarked hunmarked _ ih => exact .unmarked hunmarked (ih hms)
  | marked hdoes _ ih =>
      rcases List.append_eq_cons_iff.1 hms with ⟨rfl, hm⟩ | ⟨rest, rfl, hrest⟩
      · obtain ⟨rfl, -⟩ := List.cons.inj hm
        exact .refl _
      · exact .marked hdoes (ih hrest.symm)

end Way

section Marked

variable [Limits]

/-- The host when all that a mark says is over. -/
def Mark.over (m : Mark n) : Host n :=
  match m.deed with
  | .expose e => e.after m.host
  | .attend level b c => (Host.handleCall (Host.inner level) m.host b c).1
  | .deliver level b id c o => Host.runCallback (Host.inner level) c b id o m.host
  | .list _ => m.host

/-- These are the marks on the way, and what comes of each of them is on record at its end. -/
structure Leads (h : Host n) (ms : List (Mark n)) (k : Host n) : Prop where
  way : Way h ms k
  recorded : ∀ m ∈ ms, m.over.trace <+: k.trace

namespace Leads

variable {h k l : Host n} {ms ms' : List (Mark n)}

theorem refl (h : Host n) : Leads h [] h := ⟨.refl h, fun _ hm => by cases hm⟩

theorem unmarked (hunmarked : Host.Unmarked h k) (hrest : Leads k ms l) : Leads h ms l :=
  ⟨.unmarked hunmarked hrest.way, hrest.recorded⟩

theorem marked {d : Deed n} (hdoes : d.Does h k) (hrest : Leads k ms l)
    (hover : (Mark.over ⟨h, d⟩).trace <+: l.trace) : Leads h (⟨h, d⟩ :: ms) l where
  way := .marked hdoes hrest.way
  recorded m hm := by
    rcases List.mem_cons.1 hm with rfl | hm
    · exact hover
    · exact hrest.recorded m hm

theorem exposed (e : Exposure n) (hrest : Leads (e.after h) ms l) :
    Leads h (⟨h, .expose e⟩ :: ms) l :=
  .marked (.expose e) hrest hrest.way.trace_extends

theorem listed (b : Fin n) (hrest : Leads h ms l) : Leads h (⟨h, .list b⟩ :: ms) l :=
  .marked (.list b) hrest hrest.way.trace_extends

theorem trans (hhk : Leads h ms k) (hkl : Leads k ms' l) : Leads h (ms ++ ms') l where
  way := hhk.way.trans hkl.way
  recorded m hm := by
    rcases List.mem_append.1 hm with hm | hm
    · exact (hhk.recorded m hm).trans hkl.way.trace_extends
    · exact hkl.recorded m hm

end Leads

theorem Host.Unmarked.leads {h k : Host n} (hunmarked : Host.Unmarked h k) : Leads h [] k :=
  .unmarked hunmarked (.refl k)

theorem Leads.thenUnmarked {h k l : Host n} {ms : List (Mark n)} (hhk : Leads h ms k)
    (hkl : Host.Unmarked k l) : Leads h ms l := by
  have hleads := hhk.trans hkl.leads
  rwa [List.append_nil] at hleads

end Marked

/-! ## Host code and frames -/

namespace Host

variable {level : Nat} {inside : Marking n}

/-- `inside` lists what comes of the frames that code of this level handles. -/
def Charts [Limits] (level : Nat) (inside : Marking n) : Prop :=
  ∀ h b frame, Leads h (inside h b frame) (inner level h b frame).1

theorem charts_refused [Limits] : Charts (n := n) 0 fun _ _ _ => [] := fun h _ _ => .refl h

theorem leads_run [Limits] (hinside : Charts level inside) (p : Proc n) :
    ∀ h, Leads h (codeMarks level inside p h) (run (inner level) p h).1 := by
  induction p with
  | done e => exact .refl
  | note label what next ih => exact fun h => .unmarked (h.unmarked_emit rfl) (ih _)
  | call b name args callback holds next _ ih =>
      intro h
      have hunmarked := h.unmarked_call b name args
      rcases hcall : h.call b name args with ⟨k, e | id⟩ <;> rw [hcall] at hunmarked
      · simp only [codeMarks, run, hcall]
        exact .unmarked hunmarked (ih _ k)
      · simp only [codeMarks, run, hcall]
        exact .unmarked (hunmarked.trans (unmarked_bindPending k b id _)) (ih _ _)
  | callAndForget b name args next ih =>
      intro h
      have hunmarked := h.unmarked_call b name args
      rcases hcall : h.call b name args with ⟨k, e | id⟩ <;> rw [hcall] at hunmarked
      · simp only [codeMarks, run, hcall]
        exact .unmarked hunmarked (ih _ k)
      · simp only [codeMarks, run, hcall]
        exact .unmarked (hunmarked.trans (unmarked_drop k b id)) (ih _ _)
  | expose b name body holds next _ ih =>
      exact fun h => .exposed ⟨b, name, ⟨body, holds⟩⟩ (ih _)
  | openWith b channel next ih => exact fun h => .unmarked (h.unmarked_openWith b channel) (ih _ _)
  | handle b frame next ih => exact fun h => (hinside h b frame).trans (ih _ _)
  | names b next ih => exact fun h => .listed b (ih _ h)
  | status b next ih => exact fun h => ih _ h

theorem leads_runGuarded [Limits] (hinside : Charts level inside) (p : Proc n) (h : Host n) :
    Leads h (codeMarks level inside p h) (runGuarded (inner level) p h).1 := by
  have hrun := leads_run hinside p h
  rw [runGuarded]
  split <;> rename_i heq <;> rw [heq] at hrun
  · exact hrun
  · exact hrun
  · exact hrun.thenUnmarked (unmarked_log _ _ _ _ _)

theorem leads_runCallback [Limits] (hinside : Charts level inside) (c : Callback n) (b : Fin n)
    (id : CallId) (o : Outcome) (h : Host n) :
    Leads h (callbackMarks level inside c b id o h) (runCallback (inner level) c b id o h) := by
  have hbody : Leads (h.emit (.delivered b id (some c) o))
      (codeMarks level inside (c.body o) (h.emit (.delivered b id (some c) o)))
      (runCallback (inner level) c b id o h) := by
    have hrun := leads_run hinside (c.body o) (h.emit (.delivered b id (some c) o))
    rw [runCallback]
    split <;> rename_i heq <;> rw [heq] at hrun
    · exact hrun.thenUnmarked ((unmarked_log _ _ _ _ _).trans (unmarked_log _ _ _ _ _))
    · exact hrun
  exact .marked .deliver hbody List.prefix_rfl

theorem leads_handleReturn [Limits] (hinside : Charts level inside) (h : Host n) (b : Fin n)
    (r : Return) :
    Leads h (messageMarks level inside h b (.ret r)) (handleReturn (inner level) h b r) := by
  have hreturned : Unmarked h (h.emit (.returned b r)) := h.unmarked_emit rfl
  rw [messageMarks]
  simp only [handleReturn, resolve, bridge_emit]
  cases hpending : (h.bridge b).pending? r.id with
  | none => exact (hreturned.trans (unmarked_log _ _ _ _ _)).leads
  | some completion =>
      cases completion with
      | waiting =>
          have hparked := unmarked_update (h.emit (.returned b r)) b
            (fun x => (x.unlist r.id).putAside r.id r.outcome) fun _ => rfl
          exact ((hreturned.trans hparked).trans (unmarked_log _ _ _ _ _)).leads
      | callback c =>
          have hstruck := unmarked_update (h.emit (.returned b r)) b (fun x => x.unlist r.id)
            fun _ => rfl
          exact (Leads.unmarked (hreturned.trans hstruck)
            (leads_runCallback hinside c b r.id r.outcome _)).thenUnmarked (unmarked_log _ _ _ _ _)

theorem leads_handleCall [Limits] (hinside : Charts level inside) (h : Host n) (b : Fin n)
    (c : Call) :
    Leads h (messageMarks level inside h b (.call c)) (handleCall (inner level) h b c).1 := by
  rw [messageMarks]
  cases hf : (h.bridge b).exposed? c.name with
  | none =>
      have hlogged : Leads h [] (handleCall (inner level) h b c).1 := by
        rw [handleCall, hf]
        exact (unmarked_log _ _ _ _ _).leads
      exact .marked (.missed hf) hlogged List.prefix_rfl
  | some f =>
      have hbody : Leads (h.emit (.invoked b c))
          (codeMarks level inside (f.body c.args) (h.emit (.invoked b c)))
          (handleCall (inner level) h b c).1 := by
        have hrun := leads_runGuarded hinside (f.body c.args) (h.emit (.invoked b c))
        rw [handleCall, hf]
        dsimp only
        split <;> rename_i heq <;> rw [heq] at hrun
        · exact hrun.thenUnmarked (unmarked_transmit _ b _)
        · split
          · exact hrun.thenUnmarked ((unmarked_log _ _ _ _ _).trans (unmarked_transmit _ b _))
          · exact hrun.thenUnmarked (unmarked_log _ _ _ _ _)
      exact .marked (.found hf) hbody List.prefix_rfl

theorem leads_handleDecoded [Limits] (hinside : Charts level inside) (h : Host n) (b : Fin n)
    (r : Except CodecError Message) :
    Leads h (decodedMarks level inside h b r) (handleDecoded (inner level) h b r).1 := by
  cases r with
  | ok message =>
      cases message with
      | call c => exact leads_handleCall hinside h b c
      | ret r => exact leads_handleReturn hinside h b r
  | error e =>
      simp only [handleDecoded]
      split
      · exact (unmarked_log _ _ _ _ _).leads
      · exact .refl h

/-- The next level nests what this level handles. -/
theorem charts_nestedMarks [Limits] (level : Nat) :
    Charts (n := n) (level + 1) (nestedMarks level) := by
  induction level with
  | zero => exact fun h b frame => leads_handleDecoded charts_refused h b _
  | succ level ih => exact fun h b frame => leads_handleDecoded ih h b _

theorem leads_handle [Limits] (h : Host n) (b : Fin n) (frame : String) :
    Leads h (h.handleMarks b frame) (h.handle b frame).1 :=
  charts_nestedMarks outerLevel h b frame

theorem leads_handleValue [Limits] (h : Host n) (b : Fin n) (v : Json) :
    Leads h (h.handleValueMarks b v) (h.handleValue b v).1 :=
  leads_handleDecoded (charts_nestedMarks Limits.nesting) h b _

theorem leads_bind [Limits] (h : Host n) (b : Fin n) (id : CallId) (c : Callback n) :
    Leads h (h.bindMarks b id c) (h.bind b id c) := by
  have hbound : Unmarked h (h.emit (.bound b id c)) := h.unmarked_emit rfl
  rw [bindMarks, bind]
  split
  · exact (h.unmarked_bindPending b id c).leads
  · cases (h.bridge b).arrived? id with
    | none => exact hbound.leads
    | some o =>
        have htaken := unmarked_update (h.emit (.bound b id c)) b (fun x => x.takeAside id)
          fun _ => rfl
        exact .unmarked (hbound.trans htaken)
          (leads_runCallback (charts_nestedMarks Limits.nesting) c b id o _)

theorem leads_serve [Limits] (b : Fin n) (frames : List String) :
    ∀ h : Host n, Leads h (h.serveMarks b frames) (h.serve b frames).1 := by
  induction frames with
  | nil => exact fun h => (unmarked_log _ _ _ _ _).leads
  | cons frame rest ih =>
      intro h
      have hframe := (h.leads_handle b frame).thenUnmarked
        (unmarked_afterFrame (h.handle b frame).1 (h.handle b frame).2)
      simp only [serveMarks, serve]
      rcases hafter : (h.handle b frame).1.afterFrame (h.handle b frame).2 with ⟨k, none | e⟩ <;>
        rw [hafter] at hframe
      · exact hframe.trans (ih k)
      · exact hframe.trans (.refl k)

end Host

/-! ## What the marks tell -/

theorem lastExposed_cons (b : Fin n) (name : String) (e : Exposure n) (es : List (Exposure n)) :
    lastExposed b name (e :: es)
      = (lastExposed b name es).or
          (if b = e.bridge ∧ name = e.name then some e.function else none) := by
  unfold lastExposed
  by_cases he : e.bridge = b ∧ e.name = name
  · obtain ⟨rfl, rfl⟩ := he
    rw [List.filter_cons_of_pos (by simp), List.getLast?_cons]
    cases (es.filter fun e' => e'.bridge = e.bridge ∧ e'.name = e.name).getLast? <;> simp
  · have hne : ¬ (b = e.bridge ∧ name = e.name) := fun hboth => he ⟨hboth.1.symm, hboth.2.symm⟩
    rw [List.filter_cons_of_neg (by simpa using he), if_neg hne, Option.or_none]

theorem lastExposed_eq_none_iff {b : Fin n} {name : String} {es : List (Exposure n)} :
    lastExposed b name es = none ↔ ∀ e ∈ es, ¬ (e.bridge = b ∧ e.name = name) := by
  unfold lastExposed
  rw [Option.map_eq_none_iff, List.getLast?_eq_none_iff, List.filter_eq_nil_iff]
  simp only [decide_eq_true_eq]

/-- What is added to a record does not reach an event that comes later, or holds it. -/
theorem prefix_or_split {α : Type} {as es pre after : List α} {e : α} (hpre : as <+: pre)
    (hext : as ++ es <+: pre ++ e :: after) :
    as ++ es <+: pre ∨ ∃ early late, es = early ++ e :: late ∧ pre = as ++ early := by
  obtain ⟨mid, rfl⟩ := hpre
  rw [List.append_assoc, List.prefix_append_right_inj] at hext
  obtain ⟨rest, hrest⟩ := hext
  rcases List.append_eq_append_iff.1 hrest with ⟨more, rfl, -⟩ | ⟨more, rfl, hmore⟩
  · exact .inl ⟨more, List.append_assoc _ _ _⟩
  · cases more with
    | nil =>
        rw [List.append_nil]
        exact .inl List.prefix_rfl
    | cons e' late =>
        obtain ⟨rfl, -⟩ := List.cons.inj hmore
        exact .inr ⟨mid, late, rfl, rfl⟩

theorem Bridge.isExposed_eq (x : Bridge n) (name : String) :
    x.isExposed name = (x.exposed? name).isSome :=
  rfl

namespace Way

variable {h k : Host n} {ms : List (Mark n)}

theorem exposed?_eq (hway : Way h ms k) (b : Fin n) (name : String) :
    (k.bridge b).exposed? name
      = (lastExposed b name (exposures ms)).or ((h.bridge b).exposed? name) := by
  induction hway with
  | refl h => rfl
  | unmarked hunmarked _ ih => rw [ih, Bridge.exposed?, Bridge.exposed?, hunmarked.registry b]
  | @marked h _ _ d ms hdoes _ ih =>
      rw [ih]
      cases hdoes with
      | expose e =>
          show _ = (lastExposed b name (e :: exposures ms)).or _
          rw [lastExposed_cons, Option.or_assoc, Exposure.after, h.exposed?_expose]
          split <;> rfl
      | found hf => rfl
      | missed hf => rfl
      | deliver => rfl
      | list b' => rfl

/-- Where nothing is exposed, the tables of functions stay as they are. -/
theorem registry_eq (hway : Way h ms k) (hnone : exposures ms = []) (b : Fin n) :
    (k.bridge b).registry = (h.bridge b).registry := by
  induction hway with
  | refl h => rfl
  | unmarked hunmarked _ ih => exact (ih hnone).trans (hunmarked.registry b)
  | marked hdoes _ ih =>
      cases hdoes with
      | expose e => cases hnone
      | found hf => exact ih hnone
      | missed hf => exact ih hnone
      | deliver => exact ih hnone
      | list b' => exact ih hnone

theorem sorted (hway : Way h ms k) (b : Fin n) (hsorted : Keyed.Sorted (h.bridge b).registry) :
    Keyed.Sorted (k.bridge b).registry := by
  induction hway with
  | refl h => exact hsorted
  | unmarked hunmarked _ ih => exact ih (hunmarked.registry b ▸ hsorted)
  | @marked h _ _ d ms hdoes _ ih =>
      apply ih
      cases hdoes with
      | expose e =>
          have hbridge : (h.expose e.bridge e.name e.function).bridge b
              = if b = e.bridge then (h.bridge e.bridge).expose e.name e.function else h.bridge b :=
            h.bridge_update e.bridge b fun x => x.expose e.name e.function
          rw [Exposure.after, hbridge]
          split
          · next hb =>
            subst hb
            exact Keyed.sorted_insert hsorted
          · exact hsorted
      | found hf => exact hsorted
      | missed hf => exact hsorted
      | deliver => exact hsorted
      | list b' => exact hsorted

/-- The functions that ran meanwhile are those of the calls that found one. -/
theorem invoked_eq (hway : Way h ms k) :
    k.invoked = h.invoked ++ ms.filterMap Mark.invocation? := by
  induction hway with
  | refl h => exact (List.append_nil _).symm
  | unmarked hunmarked _ ih => rw [ih, hunmarked.invoked_eq]
  | @marked h _ _ d ms hdoes _ ih =>
      rw [ih]
      cases hdoes with
      | expose e =>
          have hlogged := Host.unmarked_log (h.update e.bridge fun x => x.expose e.name e.function)
          have hinvoked : (e.after h).invoked = h.invoked := (hlogged _ _ _ _).invoked_eq
          rw [hinvoked]
          rfl
      | @found level b c f hf =>
          have hexposed : (h.bridge b).isExposed c.name = true := by
            rw [Bridge.isExposed_eq, hf]
            rfl
          have hmark : Mark.invocation? ⟨h, .attend level b c⟩ = some (b, c) := if_pos hexposed
          rw [List.filterMap_cons_some hmark, Host.invoked, Host.trace_emit,
            List.filterMap_append, List.append_assoc]
          rfl
      | @missed level b c hf =>
          have hexposed : (h.bridge b).isExposed c.name = false := by
            rw [Bridge.isExposed_eq, hf]
            rfl
          have hmark : Mark.invocation? ⟨h, .attend level b c⟩ = none := if_neg (by simp [hexposed])
          rw [List.filterMap_cons_none hmark]
      | @deliver level b id c o =>
          rw [Host.invoked, Host.trace_emit, List.filterMap_append]
          exact congrArg (· ++ _) (List.append_nil _)
      | list b' => rfl

/-- A callback that got an outcome on the way got it at a mark. -/
theorem exists_deliver (hway : Way h ms k) {pre after : List (Event n)} {b : Fin n} {id : CallId}
    {c : Callback n} {o : Outcome} (hpre : h.trace <+: pre)
    (htrace : k.trace = pre ++ .delivered b id (some c) o :: after) :
    ∃ front back level j, ms = front ++ ⟨j, .deliver level b id c o⟩ :: back ∧ j.trace = pre := by
  induction hway with
  | refl h =>
      have hlength := hpre.length_le
      rw [htrace, List.length_append, List.length_cons] at hlength
      omega
  | @unmarked h k l ms hunmarked hrest ih =>
      obtain ⟨es, hk, hes⟩ := hunmarked.trace
      have hext := hrest.trace_extends
      rw [hk, htrace] at hext
      rcases prefix_or_split hpre hext with hpre' | ⟨early, late, rfl, -⟩
      · exact ih (hk ▸ hpre') htrace
      · cases hes _ (List.mem_append_right early List.mem_cons_self)
  | @marked h k l d ms hdoes hrest ih =>
      obtain ⟨es, hk, hes⟩ := hdoes.trace
      have hext := hrest.trace_extends
      rw [hk, htrace] at hext
      rcases prefix_or_split hpre hext with hpre' | ⟨early, late, rfl, rfl⟩
      · obtain ⟨front, back, level, j, rfl, hj⟩ := ih (hk ▸ hpre') htrace
        exact ⟨⟨h, d⟩ :: front, back, level, j, rfl, hj⟩
      · obtain ⟨hone, level, rfl⟩ :=
          hes b id c o (List.mem_append_right early List.mem_cons_self)
        obtain ⟨rfl, -⟩ := List.append_eq_singleton_iff.1 hone |>.resolve_right (by simp)
        exact ⟨[], ms, level, h, rfl, (List.append_nil _).symm⟩

end Way

end CallBridge
