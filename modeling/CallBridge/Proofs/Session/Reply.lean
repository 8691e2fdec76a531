import CallBridge.Proofs.Bridge.Attend
import CallBridge.Proofs.Json.Literal
import CallBridge.Proofs.Message.Grammar
import CallBridge.Proofs.Message.RoundTrip
import CallBridge.Proofs.Session.Turns

/-!
# Replies

In every run, a call that comes in is answered by the function last exposed under its name, and the
reply names the call as the call named itself. Main statement: `Session.call_answered`.
-/

namespace CallBridge

variable {n : Nat}

/-! ## Tokens given back -/

/-- A token that is given back just as it came: a text, or an integer in range. Minus zero, which is
a double, is not among them. -/
def Json.IsExactToken : Json → Prop
  | .string _ => True
  | .number (.int _) => True
  | _ => False

theorem CallId.Shape.toJson_eq {token : Json} {id : CallId} (hid : CallId.Shape token id)
    (htoken : token.IsExactToken) : id.toJson = token := by
  cases hid with
  | text s => rfl
  | number m =>
      cases m with
      | float x => cases htoken
      | int i =>
          have hread : Json.parseNumber? (String.ofList (Json.numberText (.int i)))
              = some (.int i) := Json.parseNumber?_intText i
          simp only [toJson, hread]

namespace Message

/-- The token of a call stands under `call` in its frame. -/
theorem exists_token {frame : String} {c : Call} (hframe : decode frame = .ok (.call c)) :
    ∃ members token, Json.parse? frame = some (.object members) ∧
      Keyed.Holds members "call" token ∧ CallId.Shape token c.id := by
  obtain ⟨v, hparse, hcall, hid, -, -⟩ := exists_shape hframe
  exact ⟨_, _, hparse, hcall, hid⟩

/-- A return begins with its token. -/
theorem encode_ret (layout : Json.Layout) (r : Return) :
    ∃ tail, ((Message.ret r).encode layout).toList
      = '{' :: layout.newline 1 ++ Json.quoted "return" ++ layout.colon
        ++ Json.render layout 1 r.id.toJson ++ tail := by
  refine ⟨Json.renderMembers layout 1 ((r.value.map fun v => ("value", v)).toList
    ++ (r.error.map fun e => ("error", e.toJson)).toList) ++ layout.newline 0 ++ ['}'], ?_⟩
  rw [encode, Json.print, String.toList_ofList]
  show Json.render layout 0 (.object (("return", r.id.toJson) :: _)) = _
  rw [Json.render]
  simp only [List.append_assoc]
  rfl

/-- The return `r`, written in this layout, names the call of `frame` as it named itself: if the
token is a text or an integer in range, it comes first in the return, and an integer has the literal
there that it has in the frame. -/
def EchoesToken (frame : String) (layout : Json.Layout) (r : Return) : Prop :=
  ∀ members token, Json.parse? frame = some (.object members) →
    Keyed.Holds members "call" token → token.IsExactToken →
    (∃ rest, (Message.ret r).toJson = .object (("return", token) :: rest)) ∧
    ∀ i literal, token = .number (.int i) → Json.parseNumber? literal = some (.int i) →
      ∃ tail, ((Message.ret r).encode layout).toList
        = '{' :: layout.newline 1 ++ Json.quoted "return" ++ layout.colon ++ literal.toList
          ++ tail

theorem echoesToken_of_id {frame : String} {c : Call} (hframe : decode frame = .ok (.call c))
    (layout : Json.Layout) {r : Return} (hr : r.id = c.id) : EchoesToken frame layout r := by
  intro members token hparse hcall htoken
  have hid : r.id.toJson = token := by
    obtain ⟨members', token', hparse', hcall', hshape⟩ := exists_token hframe
    rw [hparse] at hparse'
    cases hparse'
    rw [← Keyed.lookup_eq_some_iff] at hcall hcall'
    obtain rfl := Option.some.inj (hcall.symm.trans hcall')
    rw [hr]
    exact hshape.toJson_eq htoken
  constructor
  · rw [← hid]
    exact ⟨_, rfl⟩
  · -- The literal can only be the one that the integer is written with.
    rintro i literal rfl hliteral
    obtain ⟨tail, htail⟩ := encode_ret layout r
    refine ⟨tail, ?_⟩
    rw [htail, hid, Json.eq_intText_of_parseNumber? hliteral, String.toList_ofList]
    rfl

end Message

/-! ## Calls in a run -/

namespace Session

open Host

/-- Every run of a session has a history. -/
theorem exists_history [Limits] {s : Session n} (hnames : s.NamesDistinct) (steps : List (Step n)) :
    ∃ es, History (s.host, s.held) ((s.after steps).host, (s.after steps).held) es :=
  History.of_turns (moves_after steps s hnames).2

/-- What happens to a call, wherever a run of a session has come to, between two steps or inside the
code of the host, where `level` further levels may nest. The run may start anywhere that nothing is
exposed yet, and the functions exposed since then are `es`.

* If none was exposed under its name, nothing happens but for a log record.
* Otherwise the one exposed last runs, once and with the arguments of the call, and comes to its end
  `e` with the host at `k`. If it failed and errors are to be dropped, that is all. If not, one more
  frame is sent, the return that says how it ended, and the result is that of sending it.
* The return has the token of the call. A text or an integer in range is the very first thing in it,
  and the integer has the literal that it had in the call. -/
theorem call_answered [Limits] {s : Session n} (hnames : s.NamesDistinct)
    (hempty : s.host.NothingExposed) :
    (∀ steps, ∃ es,
      History (s.host, s.held) ((s.after steps).host, (s.after steps).held) es) ∧
    ∀ h m es, History (s.host, s.held) (h, m) es →
      ∀ frame c, Message.decode frame = .ok (.call c) → ∀ (b : Fin n) (level : Nat),
        let out := handleNested level h b frame
        h.handle b frame = handleNested outerLevel h b frame ∧
        (lastExposed b c.name es = none → out.2 = .ok () ∧ SameButLog h out.1) ∧
        ∀ f, lastExposed b c.name es = some f →
          ∃ k e, Host.run (inner level) (f.body c.args) (h.emit (.invoked b c)) = (k, e) ∧
            let r := e.answer c.id
            let layout := (h.bridge b).config.layout
            let reply := (Message.ret r).encode layout
            (e.error? ≠ none ∧ (h.bridge b).config.dispatchErrors = .drop →
              out.2 = .ok () ∧ SameButLog k out.1) ∧
            (¬ (e.error? ≠ none ∧ (h.bridge b).config.dispatchErrors = .drop) →
              out.2 = (k.transmit b reply).2 ∧ SameButLog (k.transmit b reply).1 out.1 ∧
              (∃ offer, unlogged out.1.trace = unlogged k.trace ++ .produced b reply :: offer ∧
                ∀ o ∈ offer, ∃ carrier refusal, o = .offered b carrier reply refusal) ∧
              Message.EchoesToken frame layout r) := by
  refine ⟨exists_history hnames, ?_⟩
  intro h m es hpast frame c hframe b level out
  have hattends : Attends level h b c (lastExposed b c.name es) out := by
    have hout : out = handleCall (inner level) h b c := by
      rw [show out = _ from handleNested_eq level h b frame, hframe]
      rfl
    rw [hout, ← hpast.exposed?_eq_lastExposed hempty]
    exact handleCall_attends level h b c
  clear_value out
  refine ⟨rfl, ?_, ?_⟩
  · intro hnone
    rw [hnone] at hattends
    cases hattends with
    | ignored hsame => exact ⟨rfl, hsame⟩
  · intro f hf
    rw [hf] at hattends
    cases hattends with
    | @silent f k e out hrun herror hpolicy hsame =>
        exact ⟨k, e, hrun, fun _ => ⟨rfl, hsame⟩, fun hnot => absurd ⟨herror, hpolicy⟩ hnot⟩
    | @replied f k e out hrun hpolicy hsame =>
        refine ⟨k, e, hrun, fun hboth => absurd hboth.2 (hpolicy hboth.1), fun _ => ?_⟩
        obtain ⟨offer, htrace, hoffer⟩ := k.unlogged_transmit b (h.replyFrame b c e)
        exact ⟨rfl, hsame, ⟨offer, hsame.trace.trans htrace, hoffer⟩,
          Message.echoesToken_of_id hframe _ (e.id_answer c.id)⟩

/-- A function breaks off that has replaced another one: the reply carries a handler error, under
the number that the call has for a token. -/
theorem call_answered_replaced :
    let g : Exposed 1 := ⟨fun args => .done (.returned args.head?), []⟩
    let f : Exposed 1 := ⟨fun _ => .done (.panicked (.text "x")), []⟩
    let s : Session 1 := start #v[{}] none
    let h : Host 1 := (s.host.expose 0 "f" g).expose 0 "f" f
    let c : Call := ⟨.number "-7", "f", [.null]⟩
    let frame := (Message.call c).encode .compact
    let reply := "\x7b\"return\":-7,\"error\":\x7b\"code\":6,\"message\":\"panicked: x\"\x7d\x7d"
    s.NamesDistinct ∧ s.host.NothingExposed ∧
      History (s.host, s.held) (h, s.held) [⟨0, "f", g⟩, ⟨0, "f", f⟩] ∧
      Message.decode frame = .ok (.call c) ∧ (h.handle 0 frame).2 = .ok () ∧
      ∃ offer, unlogged (h.handle 0 frame).1.trace
        = .invoked 0 c :: .produced 0 reply :: offer := by
  intro g f s h c frame reply
  have hnames : s.NamesDistinct := List.nodup_nil
  have hempty : s.host.NothingExposed := nothingExposed_ofConfigs _ _
  have hpast : History (s.host, s.held) (h, s.held) [⟨0, "f", g⟩, ⟨0, "f", f⟩] :=
    .exposed (.exposed .start ⟨0, "f", g⟩) ⟨0, "f", f⟩
  have hframe : Message.decode frame = .ok (.call c) := by
    have hplain : (Message.call c).Plain := by
      refine ⟨.inl ⟨⟨-7, by decide, by decide⟩, rfl⟩, ?_⟩
      intro v hv
      rw [List.mem_singleton.1 hv]
      exact ⟨trivial, trivial⟩
    have hid : CallId.norm (.number "-7") = .number "-7" := by decide +kernel
    have hnorm : (Message.call c).norm = .call c := by
      show Message.call ⟨CallId.norm (.number "-7"), "f", [.null]⟩ = .call c
      rw [hid]
    rw [← hnorm]
    exact Message.decode_encode_of_le .compact hplain (by decide +kernel)
  have hlast : lastExposed 0 c.name [⟨0, "f", g⟩, ⟨0, "f", f⟩] = some f := rfl
  obtain ⟨hhandle, -, hexposed⟩ :=
    (call_answered hnames hempty).2 h s.held _ hpast frame c hframe 0 outerLevel
  obtain ⟨k, e, hrun, -, hreplied⟩ := hexposed f hlast
  obtain ⟨rfl, rfl⟩ := Prod.mk.inj hrun
  obtain ⟨hresult, -, ⟨offer, htrace, -⟩, -⟩ := hreplied fun hboth => by cases hboth.2
  have hreply : (Message.ret (Ending.answer c.id (.panicked (.text "x")))).encode .compact
      = reply := by decide +kernel
  rw [hhandle]
  refine ⟨hnames, hempty, hpast, hframe, hresult.trans rfl, offer, ?_⟩
  rw [htrace, ← hreply]
  rfl

end Session

end CallBridge
