import CallBridge.Proofs.Bridge.Post
import CallBridge.Proofs.Bridge.Wired

/-!
# Serving frames

Serving is handling frames one after the other, up to the first one that is no message. It adds log
records of its own, and these make no difference to anything else (`SameButLog.handle`). An error
that handling a message ends with is the refusal of a reply (`handleDecoded_error`), so it does not
end the serving unless a channel refuses frames as malformed.
-/

namespace CallBridge

variable {n : Nat}

/-! ## Hosts that differ in the log -/

/-- What a frame is refused with if it is no message: its text, or its compact text if it is
JSON. -/
def Message.payload (frame : String) : String :=
  match Json.parse? frame with
  | none => frame
  | some v => v.compact

namespace Host

/-- The hosts are the same but for log records. -/
structure SameButLog (h k : Host n) : Prop where
  bridges : k.bridges = h.bridges
  lines : k.lines = h.lines
  trace : unlogged k.trace = unlogged h.trace

variable {h k l : Host n} {b : Fin n}

theorem SameButLog.refl (h : Host n) : SameButLog h h := ⟨rfl, rfl, rfl⟩

theorem SameButLog.trans (hhk : SameButLog h k) (hkl : SameButLog k l) : SameButLog h l :=
  ⟨hkl.bridges.trans hhk.bridges, hkl.lines.trans hhk.lines, hkl.trace.trans hhk.trace⟩

theorem sameButLog_log (h : Host n) (level : Level) (target message : String)
    (fields : List (String × String) := []) : SameButLog h (h.log level target message fields) := by
  refine ⟨rfl, rfl, ?_⟩
  rw [log, trace_emit, unlogged_append]
  exact List.append_nil _

/-- Hosts that differ in the log, where code may be of any kind and do what it wants. -/
def besidesLog (h : Host n) : Pairing n where
  aside _ _ := false
  left := h
  right := h
  kind _ := True
  ok _ _ := True
  wires := Wired True fun l r => unlogged r = unlogged l

theorem abreast_besidesLog_iff {start : Host n} :
    (besidesLog start).Abreast h k ↔ SameButLog h k := by
  constructor
  · rintro ⟨hbeside, hwires⟩
    refine ⟨?_, hwires.lines trivial, hwires.trace⟩
    ext1 i hi
    have hx := (hbeside ⟨i, hi⟩).eq_of_none fun _ => rfl
    rw [hwires.outbound] at hx
    exact hx
  · intro hsame
    have hbridge : ∀ d, k.bridge d = h.bridge d := by
      intro d
      rw [bridge, bridge, hsame.bridges]
    refine ⟨fun d => ?_, ⟨fun d => by rw [hbridge], ?_, fun _ => hsame.lines, hsame.trace⟩⟩
    · rw [hbridge]
      exact .of_eq (fun _ => rfl) rfl
        (fun _ _ _ => Proc.throughout_of_forall (fun _ => trivial) _)
        fun _ _ _ _ _ => Proc.throughout_of_forall (fun _ => trivial) _
    · intro i
      rw [line, line, hsame.lines]

theorem lawful_besidesLog (start : Host n) : (besidesLog start).Lawful := by
  refine Pairing.lawful_of_wired rfl ?_ ?_ fun _ => Proc.leaves_of_none _ _
  · intro l r e hlr _
    rw [unlogged_append, unlogged_append, hlr]
  · intro h k b next hh _ _
    have hsame := abreast_besidesLog_iff.1 hh
    rw [bridge, bridge, hsame.bridges]

/-- Log records make no difference to the handling of a frame. -/
theorem SameButLog.handle [Limits] (hsame : SameButLog h k) (b : Fin n) (frame : String) :
    SameButLog (h.handle b frame).1 (k.handle b frame).1 ∧
      (k.handle b frame).2 = (h.handle b frame).2 := by
  have hh : (besidesLog h).Abreast h k := abreast_besidesLog_iff.2 hsame
  have hreceives : ∀ m, Message.decode frame = .ok m →
      (besidesLog h).Receives outerLevel h b m :=
    fun _ _ => ⟨fun _ _ => rfl, fun _ _ => trivial⟩
  obtain ⟨hh', hresult⟩ := hh.handle (lawful_besidesLog h) hreceives
  exact ⟨abreast_besidesLog_iff.1 hh', hresult⟩

/-! ## Frames one by one -/

/-- The host after handling frames one after the other. -/
def handleAll [Limits] (h : Host n) (b : Fin n) (frames : List String) : Host n :=
  frames.foldl (fun h frame => (h.handle b frame).1) h

theorem SameButLog.handleAll [Limits] (hsame : SameButLog h k) (b : Fin n) (frames : List String) :
    SameButLog (h.handleAll b frames) (k.handleAll b frames) := by
  induction frames generalizing h k with
  | nil => exact hsame
  | cons frame rest ih => exact ih (hsame.handle b frame).1

/-- The host after serving one frame that does not end the serving. -/
def served [Limits] (h : Host n) (b : Fin n) (frame : String) : Host n :=
  ((h.handle b frame).1.afterFrame (h.handle b frame).2).1

theorem sameButLog_served [Limits] (h : Host n) (b : Fin n) (frame : String) :
    SameButLog (h.handle b frame).1 (h.served b frame) := by
  rw [served]
  cases (h.handle b frame).2 with
  | ok u => exact .refl _
  | error e =>
      simp only [afterFrame]
      split
      · exact .refl _
      · exact sameButLog_log _ _ _ _ _

theorem serve_cons [Limits] {frame : String}
    (hframe : ∀ e, (h.handle b frame).2 = .error e → e.isFatal = false) (rest : List String) :
    h.serve b (frame :: rest) = (h.served b frame).serve b rest := by
  rw [served, serve]
  rcases heq : h.handle b frame with ⟨h', r⟩
  rw [heq] at hframe
  cases r with
  | ok u => rfl
  | error e => simp [afterFrame, hframe e rfl]

theorem serve_undecodable [Limits] {frame : String} {e : CodecError}
    (hframe : Message.decode frame = .error e) (hfatal : e.toBridge.isFatal = true)
    (rest : List String) :
    h.serve b (frame :: rest)
      = (h.log .error bridgeTarget e.toBridge.display, .error e.toBridge) := by
  simp [serve, handle, hframe, handleDecoded, afterFrame, hfatal]

/-! ## Where errors come from -/

/-- What has happened from `h` to `k`. -/
def since (h k : Host n) : List (Event n) := k.trace.drop h.trace.length

theorem since_trans (hhk : h.trace <+: k.trace) (hkl : k.trace <+: l.trace) :
    h.since l = h.since k ++ k.since l := by
  obtain ⟨es, hk⟩ := hhk
  obtain ⟨es', hl⟩ := hkl
  simp [since, ← hl, ← hk]

/-- From `h` to `k` a frame of `b` was refused with `e`. -/
def Refuses (b : Fin n) (h k : Host n) (e : BridgeError) : Prop :=
  ∃ o ∈ offers b (h.since k), o.refusal = some e

theorem Refuses.trans {e : BridgeError} (hhk : h.trace <+: k.trace) (hkl : k.trace <+: l.trace)
    (hrefuses : Refuses b h k e ∨ Refuses b k l e) : Refuses b h l e := by
  rw [Refuses, since_trans hhk hkl, offers_append]
  rcases hrefuses with ⟨o, ho, he⟩ | ⟨o, ho, he⟩
  · exact ⟨o, List.mem_append_left _ ho, he⟩
  · exact ⟨o, List.mem_append_right _ ho, he⟩

theorem refuses_transmit {frame : String} {e : BridgeError}
    (herror : (h.transmit b frame).2 = .error e) : Refuses b h (h.transmit b frame).1 e := by
  rw [transmit_eq] at herror ⊢
  rw [Refuses, since, trace_ship, List.drop_left]
  cases hout : (h.bridge b).outbound with
  | connecting buffer =>
      rw [hout] at herror
      cases herror
  | opened channel k =>
      rw [hout] at herror
      have hrefusal : h.refusal channel k = some e := by
        simp only [Outbound.sending] at herror
        cases hr : h.refusal channel k with
        | none =>
            rw [hr] at herror
            cases herror
        | some e' =>
            rw [hr] at herror
            cases herror
            rfl
      refine ⟨⟨channel.carrier, frame, some e⟩, ?_, rfl⟩
      simp [Outbound.sending, Shipment.followedBy, Shipment.offer, hrefusal, offers,
        Event.offerOf]

theorem trace_transmit (h : Host n) (b : Fin n) (frame : String) :
    h.trace <+: (h.transmit b frame).1.trace := by
  rw [transmit_eq]
  exact List.prefix_append _ _

/-- When handling a message ends with an error, a channel has refused the reply with it. -/
theorem handleDecoded_error {nested : Handling n} (hnested : TakesTurns nested) {m : Message}
    {e : BridgeError} (herror : (handleDecoded nested h b (.ok m)).2 = .error e) :
    Refuses b h (handleDecoded nested h b (.ok m)).1 e := by
  cases m with
  | ret r => cases herror
  | call c =>
      simp only [handleDecoded, handleMessage, handleCall] at herror ⊢
      split at herror
      · cases herror
      · next f hf =>
          have hinvoked : h.trace <+: (h.emit (.invoked b c)).trace := List.prefix_append _ _
          have hbody := hinvoked.trans
            (turns_runGuarded hnested (f.body c.args) (h.emit (.invoked b c)) 0).trace_extends
          rcases heq : runGuarded nested (f.body c.args) (h.emit (.invoked b c)) with ⟨h', reply⟩
          rw [heq] at herror hbody
          cases reply with
          | ok value =>
              exact .trans hbody (h'.trace_transmit b _) (.inr (refuses_transmit herror))
          | error e' =>
              have hlogged := hbody.trans (List.prefix_append h'.trace
                [.logged (.say .warn bridgeTarget ("exposed function failed: " ++ e'.display)
                  [idField c.id, nameField c.name])])
              dsimp only at herror ⊢
              split at herror
              · exact .trans hlogged (trace_transmit _ b _) (.inr (refuses_transmit herror))
              · cases herror

theorem trace_handle [Limits] (h : Host n) (b : Fin n) (frame : String) :
    h.trace <+: (h.handle b frame).1.trace :=
  (turns_handle h b frame 0).trace_extends

theorem trace_served [Limits] (h : Host n) (b : Fin n) (frame : String) :
    h.trace <+: (h.served b frame).trace :=
  (h.trace_handle b frame).trans (turns_afterFrame _ _ 0).trace_extends

theorem trace_serve [Limits] (h : Host n) (b : Fin n) (frames : List String) :
    h.trace <+: (h.serve b frames).1.trace :=
  (turns_serve b frames h 0).trace_extends

theorem trace_serve_cons [Limits] (h : Host n) (b : Fin n) (frame : String) (rest : List String) :
    (h.handle b frame).1.trace <+: (h.serve b (frame :: rest)).1.trace := by
  have hafter := (turns_afterFrame (h.handle b frame).1 (h.handle b frame).2 0).trace_extends
  simp only [serve]
  split <;> rename_i heq <;> rw [heq] at hafter
  · exact hafter
  · exact hafter.trans (trace_serve _ b rest)

/-! ## The whole of serving -/

/-- Frames that are messages are handled one by one before the others are served. -/
theorem serve_append [Limits] {frames rest : List String}
    (hframes : ∀ frame ∈ frames, ∃ m, Message.decode frame = .ok m)
    (hrefusals : ∀ e, Refuses b h (h.serve b (frames ++ rest)).1 e → e.isFatal = false) :
    ∃ k, SameButLog (h.handleAll b frames) k ∧
      ∀ rest', h.serve b (frames ++ rest') = k.serve b rest' := by
  induction frames generalizing h with
  | nil => exact ⟨h, .refl h, fun _ => rfl⟩
  | cons frame frames ih =>
      obtain ⟨m, hm⟩ := hframes frame List.mem_cons_self
      have hframe : ∀ e, (h.handle b frame).2 = .error e → e.isFatal = false := by
        intro e he
        -- The frame is a message, so the error can only be the refusal of its reply.
        have hrefused : Refuses b h (h.handle b frame).1 e := by
          rw [handle, hm] at he ⊢
          exact handleDecoded_error (takesTurns_handleNested Limits.nesting) he
        exact hrefusals e (.trans (h.trace_handle b frame) (h.trace_serve_cons b frame _)
          (.inl hrefused))
      have hserve : h.serve b (frame :: (frames ++ rest))
          = (h.served b frame).serve b (frames ++ rest) := serve_cons hframe _
      obtain ⟨k, hk, hrest⟩ := ih (h := h.served b frame)
        (fun frame' hframe' => hframes frame' (List.mem_cons_of_mem _ hframe')) (by
          intro e he
          refine hrefusals e ?_
          rw [List.cons_append, hserve]
          exact .trans (h.trace_served b frame) (trace_serve _ b _) (.inr he))
      refine ⟨k, ((sameButLog_served h b frame).handleAll b frames).trans hk, fun rest' => ?_⟩
      rw [List.cons_append, serve_cons hframe, hrest]

/-- Every refusal of a frame is for its payload. -/
theorem decode_eq_error {frame : String} (hframe : ∀ m, Message.decode frame ≠ .ok m) :
    Message.decode frame = .error (.invalidFormat (Message.payload frame)) := by
  simp only [Message.decode, Message.payload] at hframe ⊢
  cases hparse : Json.parse? frame with
  | none => rfl
  | some v =>
      simp only [hparse, Message.classify] at hframe ⊢
      cases hv : Message.ofJson? v with
      | none => rfl
      | some m => simp [hv] at hframe

/-- Serving frames is handling them one by one, cut at the first one that is no message, if no
channel refuses a frame as malformed. When all frames are messages, serving succeeds and leaves the
host as handling them does. Otherwise it ends with the payload of the first one that is none, leaves
the host as handling those before it does, and the frames behind it play no part. The two hosts may
differ in log records only. -/
theorem serve_eq_handleAll [Limits] (h : Host n) (b : Fin n) (frames : List String)
    (hrefusals : ∀ e, Refuses b h (h.serve b frames).1 e → e.isFatal = false) :
    ((∀ frame ∈ frames, ∃ m, Message.decode frame = .ok m) →
      (h.serve b frames).2 = .ok () ∧ SameButLog (h.handleAll b frames) (h.serve b frames).1) ∧
    ∀ first frame later, frames = first ++ frame :: later →
      (∀ frame' ∈ first, ∃ m, Message.decode frame' = .ok m) →
      (∀ m, Message.decode frame ≠ .ok m) →
      (h.serve b frames).2 = .error (.malformed (Message.payload frame)) ∧
        SameButLog (h.handleAll b first) (h.serve b frames).1 ∧
        ∀ later', h.serve b (first ++ frame :: later') = h.serve b frames := by
  constructor
  · intro hframes
    have hall : ∀ e, Refuses b h (h.serve b (frames ++ [])).1 e → e.isFatal = false := by
      simpa using hrefusals
    obtain ⟨k, hk, hserve⟩ := serve_append hframes hall
    have hend := hserve []
    rw [List.append_nil] at hend
    rw [hend]
    exact ⟨rfl, hk.trans (k.sameButLog_log _ _ _ _)⟩
  · rintro first frame later rfl hfirst hframe
    obtain ⟨k, hk, hserve⟩ := serve_append hfirst hrefusals
    have hcut := serve_undecodable (h := k) (b := b) (decode_eq_error hframe) rfl
    rw [hserve, hcut]
    refine ⟨rfl, hk.trans (k.sameButLog_log _ _ _ _), fun later' => ?_⟩
    rw [hserve, hcut]

/-- A function fails with an error that would end the serving, its reply is refused, and a return
has a token that nobody waits for; serving goes on until the text that is no JSON. -/
theorem serve_eq_handleAll_failing :
    let f : Exposed 1 := ⟨fun _ => .done (.failed (.malformed "f")), []⟩
    let h : Host 1 := (((ofConfigs (fun _ => 0) #v[{}]).expose 0 "f" f).openWith 0
      ⟨.tape, fun _ => some .channelClosed⟩).1
    let call := "\x7b\"call\":\"1\",\"name\":\"f\",\"args\":[]\x7d"
    let stray := "\x7b\"return\":\"9\"\x7d"
    let frames := [call, stray, "?", call]
    (∀ e, Refuses 0 h (h.serve 0 frames).1 e → e.isFatal = false) ∧
      Refuses 0 h (h.serve 0 frames).1 .channelClosed ∧
      (h.serve 0 frames).2 = .error (.malformed "?") ∧
      SameButLog (h.handleAll 0 [call, stray]) (h.serve 0 frames).1 := by
  intro f h call stray frames
  have hoffers : (offers 0 (h.since (h.serve 0 frames).1)).map Offer.refusal
      = [some .channelClosed] := by decide +kernel
  have hrefusals : ∀ e, Refuses 0 h (h.serve 0 frames).1 e → e.isFatal = false := by
    rintro e ⟨o, ho, he⟩
    have hmem : some e ∈ (offers 0 (h.since (h.serve 0 frames).1)).map Offer.refusal :=
      List.mem_map.2 ⟨o, ho, he⟩
    rw [hoffers, List.mem_singleton, Option.some.injEq] at hmem
    rw [hmem]
    rfl
  have hfirst : ∀ frame ∈ [call, stray], (Message.decode frame).isOk = true := by decide +kernel
  have hframe : (Message.decode "?").isOk = false := by decide +kernel
  have hpayload : Message.payload "?" = "?" := by decide +kernel
  obtain ⟨hresult, hsame, -⟩ := (serve_eq_handleAll h 0 frames hrefusals).2 [call, stray] "?" [call]
    rfl
    (by
      intro frame hmem
      have hok := hfirst frame hmem
      cases hdecode : Message.decode frame with
      | ok m => exact ⟨m, rfl⟩
      | error e => simp [hdecode, Except.isOk, Except.toBool] at hok)
    (by
      intro m hm
      simp [hm, Except.isOk, Except.toBool] at hframe)
  rw [hpayload] at hresult
  refine ⟨hrefusals, ?_, hresult, hsame⟩
  have hmem : some .channelClosed
      ∈ (offers 0 (h.since (h.serve 0 frames).1)).map Offer.refusal := by
    rw [hoffers]
    exact List.mem_singleton_self _
  obtain ⟨o, ho, he⟩ := List.mem_map.1 hmem
  exact ⟨o, ho, he⟩

end Host

end CallBridge
