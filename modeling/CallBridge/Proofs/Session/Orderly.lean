import CallBridge.Proofs.Bridge.Follow
import CallBridge.Proofs.Session.Turns

/-!
# Orderly sessions

A session that starts with no calls stays orderly: its tokens are numbered, its pending tables have
no token twice, and every call is followed as long as the count of calls lasts.
-/

namespace CallBridge

variable {n : Nat}

/-! ## Tokens in the pending table -/

/-- No token is twice in a pending table. -/
def Host.IdsDistinct (h : Host n) : Prop := ∀ b, (h.bridge b).pendingIds.Nodup

namespace Host

theorem idsDistinct_update {h : Host n} (hids : h.IdsDistinct) (d : Fin n)
    {f : Bridge n → Bridge n} (hf : ∀ x, x.pendingIds.Nodup → (f x).pendingIds.Nodup) :
    (h.update d f).IdsDistinct := by
  intro b
  rw [bridge_update]
  split
  · exact hf _ (hids d)
  · exact hids b

theorem idsDistinct_unlist {h : Host n} (hids : h.IdsDistinct) (d : Fin n) (k : CallId) :
    (h.update d fun x => x.unlist k).IdsDistinct := by
  refine idsDistinct_update hids d fun x hx => ?_
  rw [Bridge.pendingIds_unlist]
  exact hx.filter _

theorem idsDistinct_entered {h : Host n} (hids : h.IdsDistinct) (d : Fin n) (name : String)
    (args : List Json) : (h.entered d name args).IdsDistinct := by
  have hupdate : (h.update d fun x => { x with tokens := x.tokens.advance }.enlist
      (h.bridge d).tokens.peek .waiting).IdsDistinct := by
    refine idsDistinct_update hids d fun x hx => ?_
    -- An old entry of the same token goes before the new one comes, so no bound on calls is needed.
    rw [Bridge.pendingIds_enlist]
    refine List.nodup_append.2 ⟨hx.filter _, List.nodup_singleton _, ?_⟩
    intro a ha c hc
    rw [List.mem_singleton.1 hc]
    have hne := List.of_mem_filter ha
    simpa using hne
  exact hupdate

theorem Calm.idsDistinct {h h' : Host n} (hcalm : Calm h h') (hids : h.IdsDistinct) :
    h'.IdsDistinct := by
  intro b
  rw [Bridge.pendingIds, hcalm.pending]
  exact hids b

theorem idsDistinct_call {h : Host n} (hids : h.IdsDistinct) (d : Fin n) (name : String)
    (args : List Json) : (h.call d name args).1.IdsDistinct := by
  obtain ⟨sent, hcalm, hcall⟩ := h.call_cases d name args
  have hsent := hcalm.idsDistinct (idsDistinct_entered hids d name args)
  rcases hcall with hok | ⟨e, herror⟩
  · rw [hok]
    exact hsent
  · rw [herror]
    exact idsDistinct_unlist hsent d _

end Host

theorem Turn.idsDistinct {a a' : Host n × Custody n} (hturn : Turn a a')
    (hids : a.1.IdsDistinct) : a'.1.IdsDistinct := by
  cases hturn with
  | quiet hquiet => exact hquiet.calm.idsDistinct hids
  | @refused h h' m d name args e hcall =>
      have hafter := Host.idsDistinct_call hids d name args
      rwa [hcall] at hafter
  | @called h h' m d name args k hcall =>
      have hafter := Host.idsDistinct_call hids d name args
      rwa [hcall] at hafter
  | @bound h m d k c hpending =>
      have hupdate : (h.update d fun x => { x with
          pending := x.pending.map fun p => if p.1 = k then (k, .callback c) else p
          }).IdsDistinct := by
        refine Host.idsDistinct_update hids d fun x hx => ?_
        rw [Bridge.pendingIds, Bridge.map_fst_callback]
        exact hx
      exact hupdate
  | @boundLate h m d k o c hpending harrived =>
      exact Host.idsDistinct_update (f := fun x => x.takeAside k) hids d fun x hx => hx
  | boundLost c hpending harrived => exact hids
  | @dropped h m d k =>
      exact Host.idsDistinct_update (Host.idsDistinct_unlist (h := h.emit _) hids d k) d
        fun x hx => hx
  | @expired h m d k harrived =>
      exact Host.idsDistinct_update (Host.idsDistinct_unlist (h := h.emit _) hids d k) d
        fun x hx => hx
  | @taken h m d k o harrived =>
      exact Host.idsDistinct_update (f := fun x => x.takeAside k) hids d fun x hx => hx
  | unmatched hpending => exact hids
  | @parked h m d r hpending =>
      refine Host.idsDistinct_update (h := h.emit _) hids d fun x hx => ?_
      change (x.unlist r.id).pendingIds.Nodup
      rw [Bridge.pendingIds_unlist]
      exact hx.filter _
  | @fired h m d r c hpending => exact Host.idsDistinct_unlist (h := h.emit _) hids d r.id

/-! ## Sessions -/

/-- No call has been made. -/
structure Host.Fresh (h : Host n) : Prop where
  trace : h.trace = []
  issued : ∀ b, (h.bridge b).tokens.issued = 0
  pending : ∀ b, (h.bridge b).pending = []
  arrived : ∀ b, (h.bridge b).arrived = []

namespace Session

/-- No call has been made, and none is held. Configurations, exposed functions, lines and buffered
frames may be there. -/
structure Fresh (s : Session n) : Prop where
  host : s.host.Fresh
  handles : s.handles = []

theorem fresh_start (configs : Vector Config n) (threshold : Option Level)
    (clock : Fin n → Nat) : (start configs threshold clock).Fresh where
  host :=
    { trace := rfl
      issued := fun b => by simp [start, Host.ofConfigs, Host.bridge]
      pending := fun b => by simp [start, Host.ofConfigs, Host.bridge]
      arrived := fun b => by simp [start, Host.ofConfigs, Host.bridge] }
  handles := rfl

variable {s : Session n}

theorem Fresh.namesDistinct (hs : s.Fresh) : s.NamesDistinct := by
  rw [NamesDistinct, hs.handles]
  exact List.nodup_nil

theorem Fresh.orderly (hs : s.Fresh) : Orderly (s.host, s.held) := by
  have hcalled : ∀ b, calledIds b s.host.trace = [] := fun b => by rw [hs.host.trace]; rfl
  refine ⟨fun b => ?_, fun _ b id => ?_⟩
  · rw [calls, hcalled b, hs.host.issued b]
    exact ⟨rfl, rfl⟩
  · refine ⟨.unborn, ?_, trivial, ?_, ?_, ?_⟩
    · rw [hs.host.trace]
      exact .refl _
    · rw [Bridge.pending?, hs.host.pending]
      rfl
    · rw [Bridge.arrived?, hs.host.arrived]
      rfl
    · rw [held, hs.handles]
      rfl

theorem Fresh.numbered_after [Limits] (hs : s.Fresh) (steps : List (Step n)) :
    (s.after steps).host.Numbered :=
  (invariant_after Turn.orderly hs.namesDistinct hs.orderly steps).1

/-- In a run with few enough calls, every call is followed. -/
theorem Fresh.followed_after [Limits] (hs : s.Fresh) (steps : List (Step n))
    (hcalls : ∀ b, calls b (s.after steps).host.trace < 2 ^ 64) :
    Followed ((s.after steps).host, (s.after steps).held) :=
  (invariant_after Turn.orderly hs.namesDistinct hs.orderly steps).2 fun b => (hcalls b).le

theorem Fresh.idsDistinct_after [Limits] (hs : s.Fresh) (steps : List (Step n)) :
    (s.after steps).host.IdsDistinct := by
  have hstart : s.host.IdsDistinct := by
    intro b
    rw [Bridge.pendingIds, hs.host.pending]
    exact List.nodup_nil
  exact invariant_after (P := fun a => a.1.IdsDistinct) (fun _ _ hturn => hturn.idsDistinct)
    hs.namesDistinct hstart steps

end Session

end CallBridge
