import CallBridge.Proofs.Bridge.Code
import CallBridge.Proofs.Bridge.Registry
import CallBridge.Proofs.Bridge.Serve

/-!
# Attending to a call

A call that comes in is ignored if nothing is exposed under its name. Otherwise the function runs,
and then one return is sent that says how it ended, unless it failed and errors are to be dropped.
`Attends` is that contract, and `handleCall_attends` says that it is kept at every level of nesting.
Main statement: `handle_fails_two_ways`, an error of handling a frame is that the frame is no
message, or that the channel refused the reply to a call.
-/

namespace CallBridge

variable {n : Nat}

/-! ## How a function ends -/

namespace Ending

/-- The error that a function ends with, if it does. Breaking off is one. -/
def error? : Ending → Option BridgeError
  | .returned _ => none
  | .failed e => some e
  | .panicked p => some p.toError

/-- The return that says how a function ended. -/
def answer (id : CallId) : Ending → Return
  | .returned value => ⟨id, value, none⟩
  | .failed e => ⟨id, none, some ⟨e.code, e.message⟩⟩
  | .panicked p => ⟨id, none, some ⟨6, p.describe⟩⟩

theorem id_answer (id : CallId) (e : Ending) : (e.answer id).id = id := by
  cases e <;> rfl

theorem answer_of_error {e : Ending} {err : BridgeError} (he : e.error? = some err)
    (id : CallId) : e.answer id = .ofReply id (.error err) := by
  cases e with
  | returned value => cases he
  | failed err' =>
      obtain rfl := Option.some.inj he
      rfl
  | panicked p =>
      obtain rfl := Option.some.inj he
      rfl

end Ending

namespace Host

variable {h k l : Host n} {b : Fin n} {c : Call}

/-! ## Log records make no difference -/

theorem SameButLog.bridge (hsame : SameButLog h k) (d : Fin n) : k.bridge d = h.bridge d := by
  rw [Host.bridge, Host.bridge, hsame.bridges]

theorem SameButLog.transmit (hsame : SameButLog h k) (b : Fin n) (frame : String) :
    SameButLog (h.transmit b frame).1 (k.transmit b frame).1 ∧
      (k.transmit b frame).2 = (h.transmit b frame).2 := by
  have hh : (besidesLog h).Abreast h k := abreast_besidesLog_iff.2 hsame
  obtain ⟨hh', hresult⟩ := hh.transmit (lawful_besidesLog h) b frame
  exact ⟨abreast_besidesLog_iff.1 hh', hresult⟩

theorem unlogged_transmit_opened {channel : Channel} {j : Nat} (frame : String)
    (hout : (h.bridge b).outbound = .opened channel j) :
    unlogged (h.transmit b frame).1.trace
      = unlogged h.trace
        ++ [.produced b frame, .offered b channel.carrier frame (h.refusal channel j)] := by
  rw [transmit_eq, trace_ship, unlogged_append, hout]
  rfl

/-- What is on record beside the log when a frame has been sent: that it was produced, and that it
was offered if there was a channel. -/
theorem unlogged_transmit (h : Host n) (b : Fin n) (frame : String) :
    ∃ offer : List (Event n),
      unlogged (h.transmit b frame).1.trace = unlogged h.trace ++ .produced b frame :: offer ∧
      ∀ e ∈ offer, ∃ carrier refusal, e = .offered b carrier frame refusal := by
  cases hout : (h.bridge b).outbound with
  | opened channel j =>
      refine ⟨_, unlogged_transmit_opened frame hout, fun e he => ?_⟩
      exact ⟨channel.carrier, h.refusal channel j, List.mem_singleton.1 he⟩
  | connecting buffer =>
      refine ⟨[], ?_, fun e he => by cases he⟩
      rw [transmit_eq, trace_ship, unlogged_append, hout]
      rfl

/-- Sending fails exactly if there is a channel that refuses the frame. -/
theorem transmit_eq_error_iff {frame : String} {err : BridgeError} :
    (h.transmit b frame).2 = .error err ↔
      ∃ channel j, (h.bridge b).outbound = .opened channel j ∧ h.refusal channel j = some err := by
  rw [transmit_eq]
  cases hout : (h.bridge b).outbound with
  | connecting buffer =>
      constructor
      · intro herror
        cases herror
      · rintro ⟨channel, j, hopened, -⟩
        cases hopened
  | opened channel j =>
      show asResult (h.refusal channel j) = .error err ↔ _
      constructor
      · intro herror
        refine ⟨channel, j, rfl, ?_⟩
        cases hrefusal : h.refusal channel j with
        | none =>
            rw [hrefusal] at herror
            cases herror
        | some err' =>
            rw [hrefusal] at herror
            cases herror
            rfl
      · rintro ⟨channel', j', hopened, hrefusal⟩
        cases hopened
        rw [hrefusal]
        rfl

/-! ## The contract -/

/-- The frame with which `b` answers a call whose function ended like this. -/
def replyFrame (h : Host n) (b : Fin n) (c : Call) (e : Ending) : String :=
  (Message.ret (e.answer c.id)).encode (h.bridge b).config.layout

/-- What it comes to when `b` attends to a call and finds this function under its name. -/
inductive Attends [Limits] (level : Nat) (h : Host n) (b : Fin n) (c : Call) :
    Option (Exposed n) → Host n × Except BridgeError Unit → Prop
  /-- Nothing is exposed. -/
  | ignored {out} (hsame : SameButLog h out) : Attends level h b c none (out, .ok ())
  /-- The function runs once and fails, and errors are dropped. -/
  | silent {f k e out}
      (hrun : run (inner level) (f.body c.args) (h.emit (.invoked b c)) = (k, e))
      (herror : e.error? ≠ none) (hpolicy : (h.bridge b).config.dispatchErrors = .drop)
      (hsame : SameButLog k out) : Attends level h b c (some f) (out, .ok ())
  /-- The function runs once, and its answer is sent. -/
  | replied {f k e out}
      (hrun : run (inner level) (f.body c.args) (h.emit (.invoked b c)) = (k, e))
      (hpolicy : e.error? ≠ none → (h.bridge b).config.dispatchErrors ≠ .drop)
      (hsame : SameButLog (k.transmit b (h.replyFrame b c e)).1 out) :
      Attends level h b c (some f) (out, (k.transmit b (h.replyFrame b c e)).2)

theorem takesTurns_inner [Limits] (level : Nat) : TakesTurns (inner (n := n) level) := by
  cases level with
  | zero => exact fun _ _ _ _ => .refl
  | succ level => exact takesTurns_handleNested level

theorem config_run [Limits] {level : Nat} {p : Proc n} {e : Ending}
    (hrun : run (inner level) p h = (k, e)) (b : Fin n) :
    (k.bridge b).config = (h.bridge b).config := by
  have hturns := turns_run (takesTurns_inner level) p h 0
  rw [hrun] at hturns
  exact hturns.config_eq b

/-- A function that fails is answered or not, as the configuration says. -/
theorem attends_of_error [Limits] {level : Nat} {f : Exposed n} {e : Ending} {err : BridgeError}
    (hrun : run (inner level) (f.body c.args) (h.emit (.invoked b c)) = (k, e))
    (he : e.error? = some err) (hsame : SameButLog k l) :
    Attends level h b c (some f)
      (match (l.bridge b).config.dispatchErrors with
        | .returnError => l.answer b (.ofReply c.id (.error err))
        | .drop => (l, .ok ())) := by
  have hconfig : (l.bridge b).config = (h.bridge b).config := by
    rw [hsame.bridge b]
    exact config_run hrun b
  rw [hconfig]
  have herror : e.error? ≠ none := by
    rw [he]
    exact Option.some_ne_none err
  cases hpolicy : (h.bridge b).config.dispatchErrors with
  | drop => exact .silent hrun herror hpolicy hsame
  | returnError =>
      obtain ⟨hsent, hresult⟩ := hsame.transmit b (h.replyFrame b c e)
      have hframe : l.answer b (.ofReply c.id (.error err))
          = l.transmit b (h.replyFrame b c e) := by
        rw [answer, hconfig, ← Ending.answer_of_error he]
        rfl
      show Attends level h b c (some f) (l.answer b (.ofReply c.id (.error err)))
      rw [hframe, ← Prod.eta (l.transmit b _), hresult]
      exact .replied hrun (fun _ => by rw [hpolicy]; simp) hsent

theorem handleCall_attends [Limits] (level : Nat) (h : Host n) (b : Fin n) (c : Call) :
    Attends level h b c ((h.bridge b).exposed? c.name) (handleCall (inner level) h b c) := by
  rw [handleCall]
  cases hf : (h.bridge b).exposed? c.name with
  | none => exact .ignored (h.sameButLog_log _ _ _ _)
  | some f =>
      rcases hrun : run (inner level) (f.body c.args) (h.emit (.invoked b c)) with ⟨k, e⟩
      simp only [runGuarded, hrun]
      cases e with
      | returned value =>
          have hframe : k.answer b (.ofReply c.id (.ok value))
              = k.transmit b (h.replyFrame b c (.returned value)) := by
            rw [answer, config_run hrun b]
            rfl
          show Attends level h b c (some f) (k.answer b (.ofReply c.id (.ok value)))
          rw [hframe, ← Prod.eta (k.transmit b _)]
          exact .replied hrun (fun herror => absurd rfl herror) (.refl _)
      | failed err => exact attends_of_error hrun rfl (k.sameButLog_log _ _ _ _)
      | panicked p =>
          exact attends_of_error hrun rfl
            ((k.sameButLog_log _ _ _ _).trans (sameButLog_log _ _ _ _ _))

/-! ## Two ways to fail -/

/-- The function for `c` has run to its end with the host at `k`, its answer was due, and the
channel of `b` refused it with `err`. That is the last thing on record. -/
def ReplyRefused [Limits] (level : Nat) (h : Host n) (b : Fin n) (c : Call) (out : Host n)
    (err : BridgeError) : Prop :=
  ∃ f k e channel j, (h.bridge b).exposed? c.name = some f ∧
    run (inner level) (f.body c.args) (h.emit (.invoked b c)) = (k, e) ∧
    (e.error? ≠ none → (h.bridge b).config.dispatchErrors ≠ .drop) ∧
    (k.bridge b).outbound = .opened channel j ∧ k.refusal channel j = some err ∧
    unlogged out.trace = unlogged k.trace
      ++ [.produced b (h.replyFrame b c e),
        .offered b channel.carrier (h.replyFrame b c e) (some err)]

theorem Attends.error_iff [Limits] {level : Nat} {found : Option (Exposed n)}
    {out : Host n × Except BridgeError Unit} (hattends : Attends level h b c found out)
    (hfound : (h.bridge b).exposed? c.name = found) {err : BridgeError} :
    out.2 = .error err ↔ ReplyRefused level h b c out.1 err := by
  cases hattends with
  | ignored hsame =>
      constructor
      · intro herror
        cases herror
      · rintro ⟨f, k, e, channel, j, hf, -⟩
        cases hf.symm.trans hfound
  | silent hrun herror hpolicy hsame =>
      constructor
      · intro herror
        cases herror
      · rintro ⟨f, k, e, channel, j, hf, hrun', hpolicy', -⟩
        -- The function is the one that ran, so its answer was not due.
        cases hf.symm.trans hfound
        cases hrun.symm.trans hrun'
        exact absurd hpolicy (hpolicy' herror)
  | @replied f k e out hrun hpolicy hsame =>
      rw [transmit_eq_error_iff]
      constructor
      · rintro ⟨channel, j, hout, hrefusal⟩
        refine ⟨f, k, e, channel, j, hfound, hrun, hpolicy, hout, hrefusal, ?_⟩
        rw [hsame.trace, unlogged_transmit_opened _ hout, hrefusal]
      · rintro ⟨f', k', e', channel, j, hf, hrun', -, hout, hrefusal, -⟩
        cases hf.symm.trans hfound
        cases hrun.symm.trans hrun'
        exact ⟨channel, j, hout, hrefusal⟩

/-- Handling a frame, at any level of nesting, fails in just two ways.

* A frame that is no message is refused with its payload, and but for a log record the host stays as
  it was.
* A return is always handled.
* A call ends with an error exactly if its reply was due and the channel refused it, and then with
  that refusal.

Writing a message never fails, and an error of writing can only come from a channel. -/
theorem handle_fails_two_ways [Limits] (h : Host n) (b : Fin n) (frame : String) (level : Nat) :
    let out := handleNested level h b frame
    h.handle b frame = handleNested outerLevel h b frame ∧
    ((∀ m, Message.decode frame ≠ .ok m) →
      out.2 = .error (.malformed (Message.payload frame)) ∧ SameButLog h out.1) ∧
    (∀ r, Message.decode frame = .ok (.ret r) → out.2 = .ok ()) ∧
    (∀ c, Message.decode frame = .ok (.call c) →
      ∀ err, out.2 = .error err ↔ ReplyRefused level h b c out.1 err) ∧
    (∀ (m : Message) layout, (Document.value m.toJson).encode layout = .ok (m.encode layout)) ∧
    ∀ text, out.2 = .error (.serialization text) →
      ∃ c, Message.decode frame = .ok (.call c) ∧
        ReplyRefused level h b c out.1 (.serialization text) := by
  intro out
  have hout : out = handleDecoded (inner level) h b (Message.decode frame) :=
    handleNested_eq level h b frame
  have hmalformed : (∀ m, Message.decode frame ≠ .ok m) →
      out.2 = .error (.malformed (Message.payload frame)) ∧ SameButLog h out.1 := by
    intro hframe
    rw [hout, decode_eq_error hframe]
    exact ⟨rfl, h.sameButLog_log _ _ _ _⟩
  have hreturn : ∀ r, Message.decode frame = .ok (.ret r) → out.2 = .ok () := by
    intro r hframe
    rw [hout, hframe]
    rfl
  have hcall : ∀ c, Message.decode frame = .ok (.call c) →
      ∀ err, out.2 = .error err ↔ ReplyRefused level h b c out.1 err := by
    intro c hframe err
    rw [hout, hframe]
    exact (handleCall_attends level h b c).error_iff rfl
  refine ⟨rfl, hmalformed, hreturn, hcall, fun _ _ => rfl, fun text herror => ?_⟩
  cases hframe : Message.decode frame with
  | error e =>
      obtain ⟨hresult, -⟩ := hmalformed fun m hm => by rw [hframe] at hm; cases hm
      cases herror.symm.trans hresult
  | ok m =>
      cases m with
      | ret r => cases herror.symm.trans (hreturn r hframe)
      | call c => exact ⟨c, rfl, (hcall c hframe _).1 herror⟩

/-- A channel refuses the reply with an error of writing, while a text that is no JSON is refused
for itself. -/
theorem handle_fails_two_ways_refused :
    let f : Exposed 1 := ⟨fun _ => .done (.returned none), []⟩
    let h : Host 1 := (((ofConfigs (fun _ => 0) #v[{}]).expose 0 "f" f).openWith 0
      ⟨.tape, fun _ => some (.serialization "full")⟩).1
    let call := "\x7b\"call\":\"1\",\"name\":\"f\"\x7d"
    (h.handle 0 "?").2 = .error (.malformed "?") ∧ SameButLog h (h.handle 0 "?").1 ∧
      (h.handle 0 call).2 = .error (.serialization "full") ∧
      ∃ c, Message.decode call = .ok (.call c) ∧
        ReplyRefused outerLevel h 0 c (h.handle 0 call).1 (.serialization "full") := by
  intro f h call
  have hunread : (Message.decode "?").isOk = false := by decide +kernel
  have hpayload : Message.payload "?" = "?" := by decide +kernel
  have hrefused : (h.handle 0 call).2 = .error (.serialization "full") := by decide +kernel
  obtain ⟨-, hmalformed, -⟩ := handle_fails_two_ways h 0 "?" outerLevel
  obtain ⟨hresult, hsame⟩ := hmalformed fun m hm => by
    rw [hm] at hunread
    cases hunread
  obtain ⟨-, -, -, -, -, hserialization⟩ := handle_fails_two_ways h 0 call outerLevel
  rw [hpayload] at hresult
  exact ⟨hresult, hsame, hrefused, hserialization "full" hrefused⟩

end Host

end CallBridge
