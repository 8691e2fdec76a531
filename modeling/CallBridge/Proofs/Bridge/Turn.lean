import CallBridge.Proofs.Bridge.Host
import CallBridge.Proofs.Bridge.Table
import Mathlib.Data.Multiset.AddSub
import Mathlib.Logic.Relation

/-!
# What can happen to a host

Whatever a session does with its host, and whatever code of the host does while it runs, comes down
to a few elementary turns. A turn also says who holds which calls: a call that is made is held by
whoever made it until it is bound, dropped, expires, or its outcome is taken. Invariants of the
bridges are proved for one turn, and hold after every run by `Session.moves_advance`.
-/

namespace CallBridge

variable {n : Nat}

/-! ## Turns -/

/-- Says nothing but what host code or the log says. -/
def Event.IsRemark : Event n → Prop
  | .noted _ _ => True
  | .logged _ => True
  | _ => False

/-- The calls whose binder or future someone holds. -/
abbrev Custody (n : Nat) := Multiset (Fin n × CallId)

/-- What can happen to a host without anything happening to a call. -/
inductive Quiet : Host n → Host n → Prop
  | remarked {h} (e : Event n) (he : e.IsRemark) : Quiet h (h.emit e)
  | invoked {h} (b : Fin n) (c : Call) : Quiet h (h.emit (.invoked b c))
  | rewired {h} (lines : List Line) : Quiet h { h with lines }
  | exposed {h} (b : Fin n) (name : String) (f : Exposed n) : Quiet h (h.expose b name f)
  | opened {h} (b : Fin n) (channel : Channel) : Quiet h (h.openWith b channel).1
  | sent {h} (b : Fin n) (frame : String) : Quiet h (h.transmit b frame).1

theorem Quiet.calm {h h' : Host n} (hquiet : Quiet h h') : Host.Calm h h' := by
  cases hquiet with
  | remarked e he =>
      refine h.calm_emit ?_
      cases e <;> trivial
  | invoked b c => exact h.calm_emit trivial
  | rewired lines => exact h.calm_lines lines
  | exposed b name f => exact h.calm_expose b name f
  | opened b channel => exact h.calm_openWith b channel
  | sent b frame => exact h.calm_transmit b frame

inductive Turn : Host n × Custody n → Host n × Custody n → Prop
  | quiet {h h' m} (hquiet : Quiet h h') : Turn (h, m) (h', m)
  | refused {h h' m} {b : Fin n} {name args e} (hcall : h.call b name args = (h', .error e)) :
      Turn (h, m) (h', m)
  | called {h h' m} {b : Fin n} {name args id} (hcall : h.call b name args = (h', .ok id)) :
      Turn (h, m) (h', (b, id) ::ₘ m)
  /-- A callback is bound to a call without a return. -/
  | bound {h m} {b : Fin n} {id} (c : Callback n) (hpending : (h.bridge b).pending? id ≠ none) :
      Turn (h, (b, id) ::ₘ m) (h.bindPending b id c, m)
  /-- A callback is bound to a call whose outcome is there, and gets it. -/
  | boundLate {h m} {b : Fin n} {id o} (c : Callback n)
      (hpending : (h.bridge b).pending? id = none) (harrived : (h.bridge b).arrived? id = some o) :
      Turn (h, (b, id) ::ₘ m)
        (((h.emit (.bound b id c)).update b fun x => x.takeAside id).emit
          (.delivered b id (some c) o), m)
  /-- A callback is bound to a call that has neither an entry nor an outcome. -/
  | boundLost {h m} {b : Fin n} {id} (c : Callback n)
      (hpending : (h.bridge b).pending? id = none) (harrived : (h.bridge b).arrived? id = none) :
      Turn (h, (b, id) ::ₘ m) (h.emit (.bound b id c), m)
  | dropped {h m} (b : Fin n) (id : CallId) : Turn (h, (b, id) ::ₘ m) ((h.drop b id).1, m)
  | expired {h m} {b : Fin n} {id} (harrived : (h.bridge b).arrived? id = none) :
      Turn (h, (b, id) ::ₘ m) ((h.expire b id).1, m)
  | taken {h m} {b : Fin n} {id o} (harrived : (h.bridge b).arrived? id = some o) :
      Turn (h, (b, id) ::ₘ m)
        ((h.update b fun x => x.takeAside id).emit (.delivered b id none o), m)
  /-- A return comes for a token that nothing waits for. -/
  | unmatched {h m} {b : Fin n} {r} (hpending : (h.bridge b).pending? r.id = none) :
      Turn (h, m) (h.emit (.returned b r), m)
  /-- A return comes for a call that someone holds. -/
  | parked {h m} {b : Fin n} {r} (hpending : (h.bridge b).pending? r.id = some .waiting) :
      Turn (h, m)
        ((h.emit (.returned b r)).update b fun x => (x.unlist r.id).putAside r.id r.outcome, m)
  /-- A return comes for a call with a callback, which gets the outcome. -/
  | fired {h m} {b : Fin n} {r} {c : Callback n}
      (hpending : (h.bridge b).pending? r.id = some (.callback c)) :
      Turn (h, m)
        (((h.emit (.returned b r)).update b fun x => x.unlist r.id).emit
          (.delivered b r.id (some c) r.outcome), m)

abbrev Turns : Host n × Custody n → Host n × Custody n → Prop := Relation.ReflTransGen Turn

/-- What every turn keeps, turns keep. -/
theorem Turns.keep {P : Host n × Custody n → Prop} (hturn : ∀ a c, Turn a c → P a → P c)
    {a c : Host n × Custody n} (hturns : Turns a c) (ha : P a) : P c := by
  induction hturns with
  | refl => exact ha
  | tail _ hlast ih => exact hturn _ _ hlast ih

/-- A call adds to the trace. -/
theorem Host.trace_call (h : Host n) (b : Fin n) (name : String) (args : List Json) :
    h.trace <+: (h.call b name args).1.trace := by
  obtain ⟨sent, hcalm, hcall⟩ := h.call_cases b name args
  obtain ⟨es, -, htrace⟩ := hcalm.trace
  have hsent : h.trace <+: sent.trace := by
    rw [htrace, entered, trace_emit, trace_update, List.append_assoc]
    exact List.prefix_append _ _
  rcases hcall with hok | ⟨e, herror⟩
  · rw [hok]
    exact hsent.trans (List.prefix_append _ _)
  · rw [herror]
    exact hsent

/-- Nothing that is in the trace goes away. -/
theorem Turn.trace_extends {a a' : Host n × Custody n} (hturn : Turn a a') :
    a.1.trace <+: a'.1.trace := by
  cases hturn with
  | quiet hquiet =>
      obtain ⟨es, -, htrace⟩ := hquiet.calm.trace
      rw [htrace]
      exact List.prefix_append _ _
  | @refused h h' m b name args e hcall => simpa only [hcall] using h.trace_call b name args
  | @called h h' m b name args id hcall => simpa only [hcall] using h.trace_call b name args
  | bound c hpending | boundLost c hpending harrived | dropped b id | expired harrived
  | taken harrived | unmatched hpending | parked hpending => exact List.prefix_append _ _
  | boundLate c hpending harrived | fired hpending =>
      exact (List.prefix_append _ _).trans (List.prefix_append _ _)

theorem Turns.trace_extends {a a' : Host n × Custody n} (hturns : Turns a a') :
    a.1.trace <+: a'.1.trace := by
  induction hturns with
  | refl => exact List.prefix_rfl
  | tail _ hlast ih => exact ih.trans hlast.trace_extends

theorem Turn.log {h : Host n} {m : Custody n} (level : Level) (target message : String)
    (fields : List (String × String)) :
    Turn (h, m) (h.log level target message fields, m) :=
  .quiet (.remarked (.logged (.say level target message fields)) trivial)

/-! ## Host code -/

namespace Host

theorem pending?_call {h h' : Host n} {b : Fin n} {name : String} {args : List Json} {id : CallId}
    (hcall : h.call b name args = (h', .ok id)) :
    (h'.bridge b).pending? id = some .waiting := by
  obtain ⟨rfl, sent, hcalm, rfl⟩ := call_ok hcall
  have hentered : ((h.entered b name args).bridge b).pending? (h.bridge b).tokens.peek
      = some .waiting := by
    simp [entered, Bridge.pending?_enlist]
  simpa [Bridge.pending?, hcalm.pending] using hentered

/-- What handles frames takes turns, and leaves it to others who holds what. -/
def TakesTurns (nested : Handling n) : Prop :=
  ∀ h b frame m, Turns (h, m) ((nested h b frame).1, m)

theorem turns_run {nested : Handling n} (hnested : TakesTurns nested) (p : Proc n) :
    ∀ (h : Host n) (m : Custody n), Turns (h, m) ((run nested p h).1, m) := by
  induction p with
  | done e => exact fun h m => .refl
  | note label what next ih =>
      intro h m
      exact .head (.quiet (.remarked (.noted label what) trivial)) (ih _ _)
  | call b name args callback holds next _ ih =>
      intro h m
      rw [run]
      split
      · next h' id hcall =>
          refine .head (.called hcall) (.head (.bound ⟨callback, holds⟩ ?_) (ih _ _ _))
          simp [pending?_call hcall]
      · next h' e hcall => exact .head (.refused hcall) (ih _ _ _)
  | callAndForget b name args next ih =>
      intro h m
      rw [run]
      split
      · next h' id hcall => exact .head (.called hcall) (.head (.dropped b id) (ih _ _ _))
      · next h' e hcall => exact .head (.refused hcall) (ih _ _ _)
  | expose b name body holds next _ ih =>
      intro h m
      exact .head (.quiet (.exposed b name ⟨body, holds⟩)) (ih _ _)
  | openWith b channel next ih =>
      intro h m
      exact .head (.quiet (.opened b channel)) (ih _ _ _)
  | handle b frame next ih =>
      intro h m
      exact (hnested h b frame m).trans (ih _ _ _)
  | names b next ih => exact fun h m => ih _ h m
  | status b next ih => exact fun h m => ih _ h m

theorem turns_runGuarded {nested : Handling n} (hnested : TakesTurns nested) (p : Proc n)
    (h : Host n) (m : Custody n) : Turns (h, m) ((runGuarded nested p h).1, m) := by
  have hrun := turns_run hnested p h m
  rw [runGuarded]
  split <;> rename_i heq <;> rw [heq] at hrun
  · exact hrun
  · exact hrun
  · exact hrun.tail (.log _ _ _ _)

/-- A callback runs after its outcome has been delivered. -/
theorem turns_runCallback {nested : Handling n} (hnested : TakesTurns nested) (c : Callback n)
    (b : Fin n) (id : CallId) (o : Outcome) (h : Host n) (m : Custody n) :
    Turns (h.emit (.delivered b id (some c) o), m) (runCallback nested c b id o h, m) := by
  have hrun := turns_run hnested (c.body o) (h.emit (.delivered b id (some c) o)) m
  rw [runCallback]
  split <;> rename_i heq <;> rw [heq] at hrun
  · exact (hrun.tail (.log _ _ _ _)).tail (.log _ _ _ _)
  · exact hrun

theorem turns_handleReturn {nested : Handling n} (hnested : TakesTurns nested) (h : Host n)
    (b : Fin n) (r : Return) (m : Custody n) : Turns (h, m) (handleReturn nested h b r, m) := by
  simp only [handleReturn, resolve]
  cases hpending : (h.bridge b).pending? r.id with
  | none =>
      simp only [bridge_emit, hpending]
      exact .tail (.single (.unmatched hpending)) (.log _ _ _ _)
  | some completion =>
      cases completion with
      | waiting =>
          simp only [bridge_emit, hpending]
          exact .tail (.single (.parked hpending)) (.log _ _ _ _)
      | callback c =>
          simp only [bridge_emit, hpending]
          exact .tail (.head (.fired hpending) (turns_runCallback hnested _ _ _ _ _ _))
            (.log _ _ _ _)

theorem turns_answer (h : Host n) (b : Fin n) (r : Return) (m : Custody n) :
    Turns (h, m) ((h.answer b r).1, m) :=
  .single (.quiet (.sent b _))

theorem turns_handleCall {nested : Handling n} (hnested : TakesTurns nested) (h : Host n)
    (b : Fin n) (c : Call) (m : Custody n) : Turns (h, m) ((handleCall nested h b c).1, m) := by
  rw [handleCall]
  split
  · exact .single (.log _ _ _ _)
  · next f hf =>
      have hbody : Turns (h, m)
          ((runGuarded nested (f.body c.args) (h.emit (.invoked b c))).1, m) :=
        .head (.quiet (.invoked b c)) (turns_runGuarded hnested _ _ _)
      split <;> rename_i heq <;> rw [heq] at hbody
      · exact hbody.trans (turns_answer _ _ _ _)
      · dsimp only
        split
        · exact (hbody.tail (.log _ _ _ _)).trans (turns_answer _ _ _ _)
        · exact hbody.tail (.log _ _ _ _)

theorem turns_handleDecoded {nested : Handling n} (hnested : TakesTurns nested) (h : Host n)
    (b : Fin n) (m : Custody n) (r : Except CodecError Message) :
    Turns (h, m) ((handleDecoded nested h b r).1, m) := by
  cases r with
  | ok message =>
      cases message with
      | call c => exact turns_handleCall hnested h b c m
      | ret r => exact turns_handleReturn hnested h b r m
  | error e =>
      simp only [handleDecoded]
      split
      · exact .single (.log _ _ _ _)
      · exact .refl

theorem takesTurns_handleNested [Limits] (depth : Nat) :
    TakesTurns (handleNested (n := n) depth) := by
  -- Where the limit is reached, a nested frame is refused and the host stays as it is.
  induction depth with
  | zero => exact fun h b frame m => turns_handleDecoded (fun _ _ _ _ => .refl) h b m _
  | succ depth ih => exact fun h b frame m => turns_handleDecoded ih h b m _

theorem turns_handle [Limits] (h : Host n) (b : Fin n) (frame : String) (m : Custody n) :
    Turns (h, m) ((h.handle b frame).1, m) :=
  turns_handleDecoded (takesTurns_handleNested Limits.nesting) h b m _

theorem turns_handleValue [Limits] (h : Host n) (b : Fin n) (v : Json) (m : Custody n) :
    Turns (h, m) ((h.handleValue b v).1, m) :=
  turns_handleDecoded (takesTurns_handleNested Limits.nesting) h b m _

theorem turns_bind [Limits] (h : Host n) (b : Fin n) (id : CallId) (c : Callback n)
    (m : Custody n) : Turns (h, (b, id) ::ₘ m) (h.bind b id c, m) := by
  rw [bind]
  split
  · next hpending => exact .single (.bound c (Option.isSome_iff_ne_none.1 hpending))
  · next hpending =>
      have hnone : (h.bridge b).pending? id = none := by simpa using hpending
      split
      · next o harrived =>
          exact .head (.boundLate c hnone harrived)
            (turns_runCallback (takesTurns_handleNested Limits.nesting) _ _ _ _ _ _)
      · next harrived => exact .single (.boundLost c hnone harrived)

theorem turns_afterFrame (h : Host n) (r : Except BridgeError Unit) (m : Custody n) :
    Turns (h, m) ((h.afterFrame r).1, m) := by
  cases r with
  | ok u => exact .refl
  | error e =>
      simp only [afterFrame]
      split
      · exact .refl
      · exact .single (.log _ _ _ _)

theorem turns_serve [Limits] (b : Fin n) (frames : List String) :
    ∀ (h : Host n) (m : Custody n), Turns (h, m) ((h.serve b frames).1, m) := by
  induction frames with
  | nil => exact fun h m => .single (.log _ _ _ _)
  | cons frame rest ih =>
      intro h m
      have hframe := (turns_handle h b frame m).trans
        (turns_afterFrame (h.handle b frame).1 (h.handle b frame).2 m)
      simp only [serve]
      split <;> rename_i heq <;> rw [heq] at hframe
      · exact hframe
      · exact hframe.trans (ih _ _)

end Host

end CallBridge
