import CallBridge.Proofs.Bridge.Lockstep
import CallBridge.Proofs.Session.Turns

/-!
# Two sessions in lockstep

Two sessions that hold the same, on hosts that are abreast, give the same answer to a step and stay
so, if the step leaves the calls aside and the host code that it starts is fair (`Abreast.step`).
-/

namespace CallBridge

variable {n : Nat}

namespace Session

/-! ## Steps and the code they start -/

/-- The name stands for no call that is left aside. -/
def Spares (aside : Fin n → CallId → Bool) (s : Session n) (name : String) : Prop :=
  ∀ x, s.handle? name = some x → aside x.call.1 x.call.2 = false

/-- The step makes, binds, polls or drops a call, exposes a function, handles a frame or lets time
pass. Code that it hands over is of some kind. -/
def Ordinary (kind : Proc n → Prop) : Step n → Prop
  | .expose _ _ f => f.Throughout kind
  | .bind name sequel => (sequel.callback name).Throughout kind
  | .attach _ c => c.Throughout kind
  | .call _ _ _ _ => True
  | .handle _ _ => True
  | .handleValue _ _ => True
  | .advance _ => True
  | .future _ => True
  | .poll _ => True
  | .drop _ => True
  | _ => False

/-- Such a step is not about a call that is left aside. -/
def Leaves (aside : Fin n → CallId → Bool) (s : Session n) : Step n → Prop
  | .call b _ _ name => aside b (s.host.bridge b).tokens.peek = false ∧ s.Spares aside name
  | .handle b frame => ∀ r, Message.decode frame = .ok (.ret r) → aside b r.id = false
  | .handleValue b v => ∀ r, Message.classify v = .ok (.ret r) → aside b r.id = false
  | .future name => s.Spares aside name
  | .poll name => s.Spares aside name
  | .drop name => s.Spares aside name
  | .bind name _ => s.Spares aside name
  | .attach name _ => s.Spares aside name
  | _ => True

/-- Attaching a callback starts it at once if the outcome is there. -/
def Wakes (s : Session n) (name : String) (c : Callback n) (h : Host n) (p : Proc n) : Prop :=
  ∃ b id o, s.handle? name = some (.binder b id) ∧
    (s.host.bridge b).pending? id = none ∧ (s.host.bridge b).arrived? id = some o ∧
    h = ((s.host.emit (.bound b id c)).update b fun x => x.takeAside id).emit
      (.delivered b id (some c) o) ∧ p = c.body o

/-- The step starts host code `p` when the host is `h`. -/
inductive Starts (s : Session n) : Step n → Host n → Proc n → Prop
  | handle {b frame m h p} (hframe : Message.decode frame = .ok m)
      (henters : Host.Enters s.host b m h p) : Starts s (.handle b frame) h p
  | handleValue {b v m h p} (hv : Message.classify v = .ok m)
      (henters : Host.Enters s.host b m h p) : Starts s (.handleValue b v) h p
  | bind {name sequel h p} (hwakes : s.Wakes name (sequel.callback name) h p) :
      Starts s (.bind name sequel) h p
  | attach {name c h p} (hwakes : s.Wakes name c h p) : Starts s (.attach name c) h p

/-! ## Sessions abreast -/

structure Abreast (P : Pairing n) (s t : Session n) : Prop where
  host : P.Abreast s.host t.host
  endpoints : t.endpoints = s.endpoints
  handles : t.handles = s.handles
  clock : t.clock = s.clock

/-- Both sessions give the same answer and are abreast. -/
def Same (P : Pairing n) (x y : Session n × Answer) : Prop := Abreast P x.1 y.1 ∧ y.2 = x.2

variable {P : Pairing n} {s t : Session n} {b : Fin n} {name : String}

namespace Abreast

theorem withHost (hst : Abreast P s t) {h k : Host n} (hh : P.Abreast h k) :
    Abreast P { s with host := h } { t with host := k } :=
  ⟨hh, hst.endpoints, hst.handles, hst.clock⟩

theorem handle?_eq (hst : Abreast P s t) (name : String) : t.handle? name = s.handle? name := by
  rw [handle?, handle?, hst.handles]

theorem endpoint_eq (hst : Abreast P s t) (b : Fin n) : t.endpoint b = s.endpoint b := by
  rw [endpoint, endpoint, hst.endpoints]

theorem removeHandle (hst : Abreast P s t) (name : String) :
    Abreast P (s.removeHandle name) (t.removeHandle name) :=
  ⟨hst.host, hst.endpoints, by rw [Session.removeHandle, Session.removeHandle, hst.handles],
    hst.clock⟩

theorem setHandle (hst : Abreast P s t) (name : String) (x : Handle n) :
    Abreast P (s.setHandle name x) (t.setHandle name x) :=
  ⟨hst.host, hst.endpoints,
    by rw [Session.setHandle, Session.setHandle, (hst.removeHandle name).handles], hst.clock⟩

theorem withBridge (hst : Abreast P s t) {f g : Unit → Session n × Answer}
    (hfg : Same P (f ()) (g ())) : Same P (s.withBridge b f) (t.withBridge b g) := by
  rw [Session.withBridge, Session.withBridge, hst.endpoint_eq]
  split
  · exact hfg
  · exact ⟨hst, rfl⟩

theorem withHandle (hst : Abreast P s t) {f g : Handle n → Session n × Answer}
    (hfg : ∀ x, s.handle? name = some x → Same P (f x) (g x)) :
    Same P (s.withHandle name f) (t.withHandle name g) := by
  rw [Session.withHandle, Session.withHandle, hst.handle?_eq]
  cases hx : s.handle? name with
  | none => exact ⟨hst, rfl⟩
  | some x => exact hfg x hx

theorem answered (hst : Abreast P s t) {x y : Host n × Except BridgeError Unit}
    (hxy : P.Same x y) : Same P (s.answered x) (t.answered y) := by
  refine ⟨hst.withHost hxy.1, ?_⟩
  rw [Session.answered, Session.answered, hxy.2]

end Abreast

/-! ## Calls held by name -/

theorem abreast_giveUp (hP : P.Lawful) (id : CallId) {x y : Host n × Bool} (hxy : P.Same x y) :
    P.Abreast (giveUp id x) (giveUp id y) := by
  obtain ⟨h, k, present, rfl, rfl, hh⟩ := hxy.cases
  cases present with
  | true => exact hh.log hP _ _ _ _
  | false => exact hh

theorem abreast_discard (hP : P.Lawful) {h k : Host n} (hh : P.Abreast h k) {x : Handle n}
    (hx : P.aside x.call.1 x.call.2 = false) : P.Abreast (discard h x) (discard k x) := by
  cases x with
  | binder b id => exact (hh.drop hP hx).1
  | future b id started => exact abreast_giveUp hP id (hh.drop hP hx)

theorem Abreast.keep (hP : P.Lawful) (hst : Abreast P s t) (hname : s.Spares P.aside name)
    (b : Fin n) (id : CallId) : Abreast P (s.keep name b id) (t.keep name b id) := by
  simp only [Session.keep, hst.handle?_eq]
  cases hold : s.handle? name with
  | none => exact hst.setHandle name _
  | some old => exact (hst.withHost (abreast_discard hP hst.host (hname old hold))).setHandle name _

theorem Abreast.call (hP : P.Lawful) (hst : Abreast P s t)
    (hid : P.aside b (s.host.bridge b).tokens.peek = false) (hname : s.Spares P.aside name)
    (function : String) (args : List Json) :
    Same P (s.call b function args name) (t.call b function args name) := by
  obtain ⟨h, k, r, hx, hy, hh⟩ := (hst.host.call hP hid function args).cases
  rw [Session.call, Session.call, hx, hy]
  cases r with
  | ok id => exact ⟨(hst.withHost hh).keep hP hname b id, rfl⟩
  | error e => exact ⟨hst.withHost hh, rfl⟩

theorem same_pollFuture (hP : P.Lawful) {h k : Host n} (hh : P.Abreast h k) {id : CallId}
    (hid : P.aside b id = false) (started now : Nat) :
    P.Same (pollFuture h b id started now) (pollFuture k b id started now) := by
  obtain ⟨h', k', o, hx, hy, hh'⟩ := (hh.takeOutcome hP hid).cases
  rw [pollFuture, pollFuture, hx, hy]
  cases o with
  | some o => exact ⟨hh', rfl⟩
  | none =>
      have hlimit : limit k' b = limit h' b := by rw [limit, limit, (hh'.beside b).config]
      simp only [hlimit]
      split
      · split
        · exact ⟨abreast_giveUp hP id ((hh'.log hP _ _ _ _).expire hP hid), rfl⟩
        · exact ⟨hh', rfl⟩
      · exact ⟨hh', rfl⟩

theorem Abreast.poll (hP : P.Lawful) (hst : Abreast P s t) {x : Handle n}
    (hx : P.aside x.call.1 x.call.2 = false) : Same P (s.poll name x) (t.poll name x) := by
  have hgo : ∀ b id started, P.aside b id = false →
      Same P (poll.go s name b id started) (poll.go t name b id started) := by
    intro b id started hid
    obtain ⟨h, k, found, hleft, hright, hh⟩ :=
      (same_pollFuture hP hst.host hid started s.clock).cases
    rw [← hst.clock] at hright
    rw [poll.go, poll.go, hleft, hright]
    cases found with
    | ready o => exact ⟨(hst.withHost hh).removeHandle name, rfl⟩
    | pending => exact ⟨(hst.withHost hh).setHandle name _, rfl⟩
  cases x with
  | binder b id =>
      rw [Session.poll, Session.poll, hst.clock]
      exact hgo b id _ hx
  | future b id started =>
      rw [Session.poll, Session.poll, hst.clock]
      exact hgo b id _ hx

theorem Abreast.attach [Limits] (hP : P.Lawful) (hst : Abreast P s t) {c : Callback n}
    (hname : s.Spares P.aside name) (hc : c.Throughout P.kind)
    (hok : ∀ {h p j q}, s.Wakes name c h p → Host.Asks Host.outerLevel h p j q → P.ok j q) :
    Same P (s.attach name c) (t.attach name c) := by
  rw [Session.attach, Session.attach]
  refine hst.withHandle fun x hx => ?_
  cases x with
  | future b id started => exact ⟨hst, rfl⟩
  | binder b id =>
      have hheld : (c.holds.all fun target => (t.endpoint target).present)
          = c.holds.all fun target => (s.endpoint target).present := by
        simp only [hst.endpoint_eq]
      simp only [hheld]
      split
      · refine ⟨(hst.removeHandle name).withHost
          (hst.host.bind hP (hname _ hx) hc fun hpending harrived hasks => ?_), rfl⟩
        exact hok ⟨_, _, _, hx, hpending, harrived, rfl, rfl⟩ hasks
      · exact ⟨hst, rfl⟩

/-! ## Steps -/

/-- A step has the same answer in both sessions, and they stay abreast. -/
theorem Abreast.step [Limits] (hP : P.Lawful) (hst : Abreast P s t) {x : Step n}
    (hx : Ordinary P.kind x) (hleaves : s.Leaves P.aside x)
    (hok : ∀ {h p j q}, s.Starts x h p → Host.Asks Host.outerLevel h p j q → P.ok j q) :
    Same P (s.step x) (t.step x) := by
  cases x with
  | expose b f g =>
      exact hst.withBridge ⟨hst.withHost (hst.host.expose hP b f hx), rfl⟩
  | call b function args name =>
      exact hst.withBridge (hst.call hP hleaves.1 hleaves.2 function args)
  | handle b frame =>
      refine hst.withBridge (hst.answered (hst.host.handle hP fun m hm => ⟨?_, ?_⟩))
      · rintro r rfl
        exact hleaves r hm
      · exact fun henters hasks => hok (.handle hm henters) hasks
  | handleValue b v =>
      refine hst.withBridge (hst.answered (hst.host.handleValue hP fun m hm => ⟨?_, ?_⟩))
      · rintro r rfl
        exact hleaves r hm
      · exact fun henters hasks => hok (.handleValue hm henters) hasks
  | advance ms =>
      exact ⟨⟨hst.host, hst.endpoints, hst.handles, by simp only [Session.step, hst.clock]⟩, rfl⟩
  | future name =>
      refine hst.withHandle fun x _ => ?_
      cases x with
      | binder b id => exact ⟨hst.setHandle name _, rfl⟩
      | future b id started => exact ⟨hst, rfl⟩
  | poll name => exact hst.withHandle fun x hname => hst.poll hP (hleaves x hname)
  | drop name =>
      exact hst.withHandle fun x hname =>
        ⟨(hst.removeHandle name).withHost (abreast_discard hP hst.host (hleaves x hname)), rfl⟩
  | bind name sequel =>
      exact hst.attach hP hleaves hx fun hwakes hasks => hok (.bind hwakes) hasks
  | attach name c => exact hst.attach hP hleaves hx fun hwakes hasks => hok (.attach hwakes) hasks
  | names | isExposed | config | describe | remote | callRemote | remotes | callRemotes | openWith
  | link | serve | startServer | pollServer | pump | inject | receive | closeSender | closeReceiver
  | hangUp | dropBridge | setLevel | describeHandle => exact hx.elim

end Session

end CallBridge
