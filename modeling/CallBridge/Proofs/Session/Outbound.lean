import CallBridge.Proofs.Bridge.Post
import CallBridge.Proofs.Session.Orderly

/-!
# Outbound frames

Over a whole run of a session, the frames of a bridge are neither reordered nor doubled, and the
only ones that are lost are those that stand in the startup buffer behind the first frame that the
channel refuses.
-/

namespace CallBridge

variable {n : Nat} {b : Fin n}

/-! ## Runs of turns -/

/-- In a run that began with `start`, `b` still buffers, or was opened on the way. -/
def Outgoing (b : Fin n) (start a : Host n × Custody n) : Prop :=
  Buffers b a.1 ∨ ∃ first m channel flushed later, Turns start (first, m) ∧
    Turns ((first.openWith b channel).1, m) a ∧ OpenedBy b first channel flushed later a.1

theorem Turn.outgoing {start a a' : Host n × Custody n} (hstart : Turns start a)
    (hturn : Turn a a') (ha : Outgoing b start a) : Outgoing b start a' := by
  rcases ha with hbuffers | ⟨first, m, channel, flushed, later, hfirst, hsince, hopened⟩
  · rcases hturn.posting b with hposting | ⟨channel, buffer, -, rfl⟩
    · exact .inl (hbuffers.posting hposting)
    · -- This turn is the opening itself, so the host before it is the one we look for.
      obtain ⟨flushed, hopened⟩ := hbuffers.openedBy channel
      exact .inr ⟨a.1, a.2, channel, flushed, [], hstart, .refl, hopened⟩
  · rcases hturn.posting b with hposting | ⟨other, buffer, hconnecting, -⟩
    · obtain ⟨later', hopened'⟩ := hopened.posting hposting
      exact .inr ⟨first, m, channel, flushed, later', hfirst, hsince.tail hturn, hopened'⟩
    · cases hconnecting.symm.trans hopened.outbound

theorem Turns.outgoing {start a : Host n × Custody n} (hturns : Turns start a)
    (hstart : Buffers b start.1) : Outgoing b start a := by
  induction hturns with
  | refl => exact .inl hstart
  | tail hturns hlast ih => exact hlast.outgoing hturns ih

namespace Session

variable {s : Session n}

theorem Fresh.buffers (hs : s.Fresh) (hconnecting : (s.host.bridge b).outbound = .connecting []) :
    Buffers b s.host := by
  constructor
  · rw [hconnecting, hs.host.trace]
    rfl
  · rw [hs.host.trace]
    rfl

/-- After every run, for the frames that `b` has produced, in order:

* while `b` connects, its buffer holds them all and none has been offered. Opening it now would
  offer them up to and including the first refused one, return that refusal or success, and leave
  `b` open with an empty buffer;
* once `b` is open, it was opened with some channel at some point of the run (`first`). What it had
  produced by then was flushed into that channel, and each frame that came later was offered when it
  was produced. So the offers are the frames produced without one block, which is empty if the flush
  succeeded, and they all went to that channel. Opening `b` again is refused and changes nothing,
  and `b` stays open with its channel whatever comes next. -/
theorem frames_in_order [Limits] (hs : s.Fresh) (b : Fin n)
    (hconnecting : (s.host.bridge b).outbound = .connecting []) (steps : List (Step n)) :
    let t := s.after steps
    let frames := produced b t.host.trace
    ((t.host.bridge b).state = .connecting →
      (t.host.bridge b).outbound = .connecting frames ∧ offers b t.host.trace = [] ∧
      ∀ channel, ∃ flushed es,
        Flushed channel.carrier frames flushed (t.host.openWith b channel).2 ∧
        (t.host.openWith b channel).1.trace = t.host.trace ++ es ∧
        posts b es = flushed.map (Offer.event b) ∧
        ((t.host.openWith b channel).1.bridge b).status.state = .opened ∧
        ((t.host.openWith b channel).1.bridge b).status.buffered = 0) ∧
    ((t.host.bridge b).state = .opened →
      (∀ channel, t.host.openWith b channel
        = (t.host, .error (.invalidState "Connecting" "Open"))) ∧
      ∃ first m channel flushed later lost,
        Turns (s.host, s.held) (first, m) ∧
        Turns ((first.openWith b channel).1, m) (t.host, t.held) ∧
        OpenedBy b first channel flushed later t.host ∧
        produced b first.trace = flushed.map Offer.frame ++ lost ∧
        ((first.openWith b channel).2 = .ok () → lost = []) ∧
        frames = flushed.map Offer.frame ++ lost ++ later.map Offer.frame ∧
        offers b t.host.trace = flushed ++ later ∧
        (∀ o ∈ offers b t.host.trace, o.carrier = channel.carrier) ∧
        ∀ more, ∃ k, ((t.after more).host.bridge b).outbound = .opened channel k) := by
  intro t frames
  have hturns : Turns (s.host, s.held) (t.host, t.held) := (moves_after steps s hs.namesDistinct).2
  have hnames : t.NamesDistinct := (moves_after steps s hs.namesDistinct).1
  rcases hturns.outgoing (hs.buffers hconnecting) with
    hbuffers | ⟨first, m, channel, flushed, later, hfirst, hsince, hopened⟩
  · refine ⟨fun _ => ⟨hbuffers.outbound, hbuffers.offers_eq, fun channel => ?_⟩, fun hopen => ?_⟩
    · obtain ⟨flushed, es, hflushed, htrace, hposts, hout⟩ := hbuffers.openWith channel
      refine ⟨flushed, es, hflushed, htrace, hposts, ?_, ?_⟩
      · rw [Bridge.status, Bridge.state, hout]
        rfl
      · rw [Bridge.status, hout]
        rfl
    · rw [Bridge.state, hbuffers.outbound] at hopen
      cases hopen
  · refine ⟨fun hstate => ?_, fun _ => ⟨Host.openWith_opened hopened.outbound, ?_⟩⟩
    · rw [Bridge.state, hopened.outbound] at hstate
      cases hstate
    · obtain ⟨lost, hlost, hok⟩ := hopened.flush.lost
      have hframes : frames = flushed.map Offer.frame ++ lost ++ later.map Offer.frame := by
        rw [← hlost]
        exact hopened.produced_eq
      have hstays : ∀ more, ∃ k, ((t.after more).host.bridge b).outbound = .opened channel k := by
        intro more
        exact (moves_after more t hnames).2.keep
          (P := fun a => ∃ k, (a.1.bridge b).outbound = .opened channel k)
          (fun _ _ hturn => hturn.keeps_channel) ⟨_, hopened.outbound⟩
      exact ⟨first, m, channel, flushed, later, lost, hfirst, hsince, hopened, hlost, hok, hframes,
        hopened.offers_eq, hopened.carrier_eq, hstays⟩

/-- The channel refuses the first of two buffered frames: the second is lost, and a third one, which
comes later, is offered. -/
theorem frames_in_order_one_lost :
    let s : Session 1 := start #v[{}] none
    let steps : List (Step 1) := [.call 0 "f" [] "x", .call 0 "g" [] "y",
      .openWith 0 (.tape fun k => if k = 0 then some .channelClosed else none),
      .call 0 "h" [] "z"]
    s.Fresh ∧ (s.host.bridge 0).outbound = .connecting [] ∧
      ((s.after steps).host.bridge 0).state = .opened ∧
      ∃ kept lost later : List String, lost.length = 1 ∧
        produced 0 (s.after steps).host.trace = kept ++ lost ++ later ∧
        (offers 0 (s.after steps).host.trace).map Offer.frame = kept ++ later := by
  intro s steps
  have hfresh : s.Fresh := fresh_start _ _ _
  have hconnecting : (s.host.bridge 0).outbound = .connecting [] := by
    simp [s, start, Host.ofConfigs, Host.bridge]
  have hopen : ((s.after steps).host.bridge 0).state = .opened := by decide +kernel
  have hproduced : (produced 0 (s.after steps).host.trace).length = 3 := by decide +kernel
  have hoffers : (offers 0 (s.after steps).host.trace).length = 2 := by decide +kernel
  obtain ⟨-, first, m, channel, flushed, later, lost, -, -, -, -, -, hframes, hoffered, -⟩ :=
    (frames_in_order hfresh 0 hconnecting steps).2 hopen
  refine ⟨hfresh, hconnecting, hopen, flushed.map Offer.frame, lost, later.map Offer.frame, ?_,
    hframes, by rw [hoffered, List.map_append]⟩
  rw [hframes] at hproduced
  rw [hoffered] at hoffers
  simp only [List.length_append, List.length_map] at hproduced hoffers
  omega

end Session

end CallBridge
