import CallBridge.Proofs.Bridge.Beside
import CallBridge.Proofs.Bridge.Shipment

/-!
# Two hosts in lockstep

Two hosts that differ in their wires, in their traces and in what they hold of some calls stay so
when the same is done to both, and what is done has the same result on both. A `Pairing` says how
the two may differ and which host code cannot tell them apart; `Abreast` is the relation that is
kept, through all that host code can do (`runsSame`) and through the handling of frames
(`Abreast.handle`).
-/

namespace CallBridge

variable {n : Nat}

/-! ## Pairs of hosts -/

/-- Neither says that a frame is sent nor is about a call that is left aside. -/
def Event.Spares (aside : Fin n → CallId → Bool) : Event n → Prop
  | .produced _ _ => False
  | .offered _ _ _ _ => False
  | .called b id _ _ => aside b id = false
  | .issued b id _ _ => aside b id = false
  | .bound b id _ => aside b id = false
  | .dropped b id => aside b id = false
  | .expired b id => aside b id = false
  | .invoked _ _ => True
  | .returned b r => aside b r.id = false
  | .delivered b id _ _ => aside b id = false
  | .noted _ _ => True
  | .logged _ => True

/-- What code asks for next is not about a call that is left aside. -/
def Proc.Leaves (aside : Fin n → CallId → Bool) (h : Host n) : Proc n → Prop
  | .call b _ _ _ _ _ => aside b (h.bridge b).tokens.peek = false
  | .callAndForget b _ _ _ => aside b (h.bridge b).tokens.peek = false
  | .handle b frame _ => ∀ r, Message.decode frame = .ok (.ret r) → aside b r.id = false
  | _ => True

theorem Proc.leaves_of_none (p : Proc n) (h : Host n) : p.Leaves (fun _ _ => false) h := by
  cases p with
  | call | callAndForget => rfl
  | handle b frame next => exact fun _ _ => rfl
  | done | note | expose | openWith | names | status => trivial

/-- How two hosts may differ, and what code may do on them. -/
structure Pairing (n : Nat) where
  aside : Fin n → CallId → Bool
  /-- The two hosts from where on calls are left aside. -/
  left : Host n
  right : Host n
  /-- What all code is made of. -/
  kind : Proc n → Prop
  /-- What code may ask for when it runs on the left host. -/
  ok : Host n → Proc n → Prop
  /-- How outbound sides, lines and traces are related. -/
  wires : Host n → Host n → Prop

namespace Pairing

structure Abreast (P : Pairing n) (h k : Host n) : Prop where
  beside : ∀ d, Bridge.Beside (P.aside d) P.kind (P.left.bridge d) (P.right.bridge d) (h.bridge d)
    (k.bridge d)
  wires : P.wires h k

/-- Both hosts get to the same result and are abreast. -/
def Same (P : Pairing n) {α : Type} (x y : Host n × α) : Prop := P.Abreast x.1 y.1 ∧ y.2 = x.2

/-- The wires stay as they are related, and what code asks for does not show the difference. -/
structure Lawful (P : Pairing n) : Prop where
  emit : ∀ {h k e}, P.wires h k → e.Spares P.aside → P.wires (h.emit e) (k.emit e)
  update : ∀ {h k b} {f : Bridge n → Bridge n}, P.wires h k → (∀ x, (f x).outbound = x.outbound) →
    P.wires (h.update b f) (k.update b f)
  transmit : ∀ {h k} b frame, P.wires h k →
    P.wires (h.transmit b frame).1 (k.transmit b frame).1 ∧
      (k.transmit b frame).2 = (h.transmit b frame).2
  openWith : ∀ {h k b channel next}, P.wires h k → P.kind (.openWith b channel next) →
    P.wires (h.openWith b channel).1 (k.openWith b channel).1 ∧
      (k.openWith b channel).2 = (h.openWith b channel).2
  status : ∀ {h k b next}, P.Abreast h k → P.kind (.status b next) → P.ok h (.status b next) →
    next (k.bridge b).status = next (h.bridge b).status
  leaves : ∀ {h p}, P.ok h p → p.Leaves P.aside h

variable {P : Pairing n} {h k : Host n} {b : Fin n} {id : CallId}

theorem Same.cases {α : Type} {x y : Host n × α} (hsame : P.Same x y) :
    ∃ h k r, x = (h, r) ∧ y = (k, r) ∧ P.Abreast h k :=
  ⟨x.1, y.1, x.2, rfl, hsame.2 ▸ rfl, hsame.1⟩

/-! ## Operations without host code -/

section Operations

theorem Abreast.emit (hP : P.Lawful) (hh : P.Abreast h k) {e : Event n} (he : e.Spares P.aside) :
    P.Abreast (h.emit e) (k.emit e) :=
  ⟨hh.beside, hP.emit hh.wires he⟩

theorem Abreast.log (hP : P.Lawful) (hh : P.Abreast h k) (level : Level) (target message : String)
    (fields : List (String × String) := []) :
    P.Abreast (h.log level target message fields) (k.log level target message fields) :=
  hh.emit hP trivial

theorem Abreast.update (hP : P.Lawful) (hh : P.Abreast h k) {f : Bridge n → Bridge n}
    (hout : ∀ x, (f x).outbound = x.outbound)
    (hf : ∀ {x₀ y₀ x y}, Bridge.Beside (P.aside b) P.kind x₀ y₀ x y →
      Bridge.Beside (P.aside b) P.kind x₀ y₀ (f x) (f y)) :
    P.Abreast (h.update b f) (k.update b f) := by
  refine ⟨fun d => ?_, hP.update hh.wires hout⟩
  by_cases hd : d = b
  · subst hd
    rw [Host.bridge_update_self, Host.bridge_update_self]
    exact hf (hh.beside d)
  · rw [Host.bridge_update_of_ne _ _ hd, Host.bridge_update_of_ne _ _ hd]
    exact hh.beside d

/-- Sending changes nothing of a bridge but its outbound side. -/
theorem beside_ship (x y : Shipment n)
    (hh : ∀ d, Bridge.Beside (P.aside d) P.kind (P.left.bridge d) (P.right.bridge d) (h.bridge d)
      (k.bridge d)) (d : Fin n) :
    Bridge.Beside (P.aside d) P.kind (P.left.bridge d) (P.right.bridge d) ((h.ship b x).bridge d)
      ((k.ship b y).bridge d) := by
  rw [Host.bridge_ship, Host.bridge_ship]
  split
  · next hd => exact hd ▸ (hh d).outbound _ _
  · exact hh d

theorem Abreast.transmit (hP : P.Lawful) (hh : P.Abreast h k) (b : Fin n) (frame : String) :
    P.Same (h.transmit b frame) (k.transmit b frame) := by
  obtain ⟨hwires, hresult⟩ := hP.transmit b frame hh.wires
  refine ⟨⟨?_, hwires⟩, hresult⟩
  rw [Host.transmit_eq, Host.transmit_eq]
  exact beside_ship _ _ hh.beside

theorem Abreast.openWith (hP : P.Lawful) (hh : P.Abreast h k) {channel : Channel}
    {next : Except BridgeError Unit → Proc n} (hkind : P.kind (.openWith b channel next)) :
    P.Same (h.openWith b channel) (k.openWith b channel) := by
  obtain ⟨hwires, hresult⟩ := hP.openWith hh.wires hkind
  refine ⟨⟨?_, hwires⟩, hresult⟩
  rw [Host.openWith_eq, Host.openWith_eq]
  exact beside_ship _ _ hh.beside

theorem Abreast.expose (hP : P.Lawful) (hh : P.Abreast h k) (b : Fin n) (name : String)
    {f : Exposed n} (hf : f.Throughout P.kind) :
    P.Abreast (h.expose b name f) (k.expose b name f) := by
  have hknown : (k.bridge b).isExposed name = (h.bridge b).isExposed name := by
    rw [Bridge.isExposed, Bridge.isExposed, (hh.beside b).registry]
  rw [Host.expose, Host.expose, hknown]
  exact (hh.update hP (f := fun x => x.expose name f) (fun _ => rfl)
    fun hx => hx.expose name hf).log hP _ _ _ _

theorem Abreast.register (hP : P.Lawful) (hh : P.Abreast h k) (hid : P.aside b id = false) :
    P.Abreast (h.register b id) (k.register b id) := by
  have henlisted : P.Abreast (h.update b fun x => x.enlist id .waiting)
      (k.update b fun x => x.enlist id .waiting) :=
    hh.update hP (fun _ => rfl) fun hx => hx.enlist hid
  simp only [Host.register, (hh.beside b).pending?_eq hid]
  split
  · exact henlisted.log hP _ _ _ _
  · exact henlisted

theorem Abreast.cancel (hP : P.Lawful) (hh : P.Abreast h k) (hid : P.aside b id = false) :
    P.Same (h.cancel b id) (k.cancel b id) := by
  refine ⟨hh.update hP (f := fun x => x.unlist id) (fun _ => rfl) fun hx => hx.unlist hid, ?_⟩
  simp only [Host.cancel, (hh.beside b).pending?_eq hid]

theorem Abreast.release (hP : P.Lawful) (hh : P.Abreast h k) (hid : P.aside b id = false) :
    P.Same (h.release b id) (k.release b id) := by
  obtain ⟨hcancelled, hpresent⟩ := hh.cancel hP hid
  exact ⟨hcancelled.update hP (f := fun x => x.takeAside id) (fun _ => rfl)
    fun hx => hx.takeAside hid, hpresent⟩

theorem Abreast.drop (hP : P.Lawful) (hh : P.Abreast h k) (hid : P.aside b id = false) :
    P.Same (h.drop b id) (k.drop b id) :=
  (hh.emit hP (e := .dropped b id) hid).release hP hid

theorem Abreast.expire (hP : P.Lawful) (hh : P.Abreast h k) (hid : P.aside b id = false) :
    P.Same (h.expire b id) (k.expire b id) :=
  (hh.emit hP (e := .expired b id) hid).release hP hid

theorem Abreast.takeOutcome (hP : P.Lawful) (hh : P.Abreast h k) (hid : P.aside b id = false) :
    P.Same (h.takeOutcome b id) (k.takeOutcome b id) := by
  rw [Host.takeOutcome, Host.takeOutcome, (hh.beside b).arrived?_eq hid]
  cases (h.bridge b).arrived? id with
  | none => exact ⟨hh, rfl⟩
  | some o =>
      have htaken : P.Abreast (h.update b fun x => x.takeAside id)
          (k.update b fun x => x.takeAside id) :=
        hh.update hP (fun _ => rfl) fun hx => hx.takeAside hid
      exact ⟨htaken.emit hP hid, rfl⟩

theorem Abreast.bindPending (hP : P.Lawful) (hh : P.Abreast h k) (hid : P.aside b id = false)
    {c : Callback n} (hc : c.Throughout P.kind) :
    P.Abreast (h.bindPending b id c) (k.bindPending b id c) := by
  have hentered : P.Abreast
      (h.update b fun x =>
        { x with pending := x.pending.map fun p => if p.1 = id then (id, .callback c) else p })
      (k.update b fun x =>
        { x with pending := x.pending.map fun p => if p.1 = id then (id, .callback c) else p }) :=
    hh.update hP (fun _ => rfl) fun hx => hx.bindEntry hid hc
  exact hentered.emit hP hid

theorem Abreast.prepared (hP : P.Lawful) (hh : P.Abreast h k)
    (hid : P.aside b (h.bridge b).tokens.peek = false) (name : String) (args : List Json) :
    P.Abreast (h.prepared b name args) (k.prepared b name args) := by
  have htokens : (k.bridge b).tokens = (h.bridge b).tokens := (hh.beside b).tokens
  have hadvanced : P.Abreast (h.update b fun x => { x with tokens := x.tokens.advance })
      (k.update b fun x => { x with tokens := x.tokens.advance }) :=
    hh.update hP (fun _ => rfl) fun hx => hx.advance
  rw [Host.prepared, Host.prepared, htokens]
  exact ((hadvanced.emit hP (e := .called b _ name args) hid).register hP hid).log hP _ _ _ _

theorem Abreast.call (hP : P.Lawful) (hh : P.Abreast h k)
    (hid : P.aside b (h.bridge b).tokens.peek = false) (name : String) (args : List Json) :
    P.Same (h.call b name args) (k.call b name args) := by
  have htokens : (k.bridge b).tokens = (h.bridge b).tokens := (hh.beside b).tokens
  have hframe : k.callFrame b name args = h.callFrame b name args := by
    rw [Host.callFrame, Host.callFrame, htokens, (hh.beside b).config]
  obtain ⟨h', k', r, hx, hy, hsent⟩ :=
    ((hh.prepared hP hid name args).transmit hP b (h.callFrame b name args)).cases
  rw [Host.call_eq, Host.call_eq, htokens, hframe, hx, hy]
  cases r with
  | ok u => exact ⟨hsent.emit hP hid, rfl⟩
  | error e => exact ⟨(hsent.cancel hP hid).1, rfl⟩

end Operations

/-! ## Host code -/

/-- Code is of the right kind and never asks for what it may not. -/
structure Fair [Limits] (P : Pairing n) (level : Nat) (h : Host n) (p : Proc n) : Prop where
  kind : p.Throughout P.kind
  ok : ∀ {j q}, Host.Asks level h p j q → P.ok j q

theorem Fair.next [Limits] {level : Nat} {h' : Host n} {p p' : Proc n} (hfair : P.Fair level h p)
    (hnext : Host.Proceeds level h p h' p') : P.Fair level h' p' :=
  ⟨hnext.throughout hfair.kind, fun hasks => hfair.ok (.later hnext hasks)⟩

/-- A message is not about a call left aside, and the code that handling it starts is fair. -/
structure Receives [Limits] (P : Pairing n) (level : Nat) (h : Host n) (b : Fin n) (m : Message) :
    Prop where
  leaves : ∀ r, m = .ret r → P.aside b r.id = false
  ok : ∀ {h' p' j q}, Host.Enters h b m h' p' → Host.Asks level h' p' j q → P.ok j q

section Code

variable {level : Nat}

/-- At this level, code that runs on both hosts ends in the same way. -/
def RunsSame [Limits] (P : Pairing n) (level : Nat) : Prop :=
  ∀ (p : Proc n) (h k : Host n), P.Fair level h p → P.Abreast h k →
    P.Same (Host.run (Host.inner level) p h) (Host.run (Host.inner level) p k)

theorem RunsSame.runGuarded [Limits] (hP : P.Lawful) (hrun : P.RunsSame level) {p : Proc n}
    (hfair : P.Fair level h p) (hh : P.Abreast h k) :
    P.Same (Host.runGuarded (Host.inner level) p h) (Host.runGuarded (Host.inner level) p k) := by
  obtain ⟨h', k', ending, hx, hy, hh'⟩ := (hrun p h k hfair hh).cases
  rw [Host.runGuarded, Host.runGuarded, hx, hy]
  cases ending with
  | returned value => exact ⟨hh', rfl⟩
  | failed e => exact ⟨hh', rfl⟩
  | panicked cause => exact ⟨hh'.log hP _ _ _ _, rfl⟩

theorem RunsSame.runCallback [Limits] (hP : P.Lawful) (hrun : P.RunsSame level) {c : Callback n}
    {o : Outcome} (hid : P.aside b id = false)
    (hfair : P.Fair level (h.emit (.delivered b id (some c) o)) (c.body o))
    (hh : P.Abreast h k) :
    P.Abreast (Host.runCallback (Host.inner level) c b id o h)
      (Host.runCallback (Host.inner level) c b id o k) := by
  obtain ⟨h', k', ending, hx, hy, hh'⟩ := (hrun _ _ _ hfair (hh.emit hP hid)).cases
  rw [Host.runCallback, Host.runCallback, hx, hy]
  cases ending with
  | returned value => exact hh'
  | failed e => exact hh'
  | panicked cause => exact (hh'.log hP _ _ _ _).log hP _ _ _ _

theorem RunsSame.handleReturn [Limits] (hP : P.Lawful) (hrun : P.RunsSame level) {r : Return}
    (hreceives : P.Receives level h b (.ret r)) (hh : P.Abreast h k) :
    P.Abreast (Host.handleReturn (Host.inner level) h b r)
      (Host.handleReturn (Host.inner level) k b r) := by
  have hid := hreceives.leaves r rfl
  have hreturned : P.Abreast (h.emit (.returned b r)) (k.emit (.returned b r)) := hh.emit hP hid
  have hunlisted : P.Abreast ((h.emit (.returned b r)).update b fun x => x.unlist r.id)
      ((k.emit (.returned b r)).update b fun x => x.unlist r.id) :=
    hreturned.update hP (fun _ => rfl) fun hx => hx.unlist hid
  simp only [Host.handleReturn, Host.resolve, Host.bridge_emit, (hh.beside b).pending?_eq hid]
  cases hentry : (h.bridge b).pending? r.id with
  | none => exact hreturned.log hP _ _ _ _
  | some completion =>
      cases completion with
      | waiting =>
          have hparked : P.Abreast
              ((h.emit (.returned b r)).update b fun x => (x.unlist r.id).putAside r.id r.outcome)
              ((k.emit (.returned b r)).update b
                fun x => (x.unlist r.id).putAside r.id r.outcome) :=
            hreturned.update hP (fun _ => rfl) fun hx => (hx.unlist hid).putAside hid _
          exact hparked.log hP _ _ _ _
      | callback c =>
          have hfair : P.Fair level (((h.emit (.returned b r)).update b
              fun x => x.unlist r.id).emit (.delivered b r.id (some c) r.outcome))
              (c.body r.outcome) :=
            ⟨(hh.beside b).callback_kind hentry _, hreceives.ok (.callback hentry)⟩
          exact (hrun.runCallback hP hid hfair hunlisted).log hP _ _ _ _

theorem Abreast.answer (hP : P.Lawful) (hh : P.Abreast h k) (b : Fin n) (r : Return) :
    P.Same (h.answer b r) (k.answer b r) := by
  rw [Host.answer, Host.answer, (hh.beside b).config]
  exact hh.transmit hP b _

theorem RunsSame.handleCall [Limits] (hP : P.Lawful) (hrun : P.RunsSame level) {c : Call}
    (hreceives : P.Receives level h b (.call c)) (hh : P.Abreast h k) :
    P.Same (Host.handleCall (Host.inner level) h b c)
      (Host.handleCall (Host.inner level) k b c) := by
  rw [Host.handleCall, Host.handleCall, (hh.beside b).exposed?_eq]
  cases hf : (h.bridge b).exposed? c.name with
  | none => exact ⟨hh.log hP _ _ _ _, rfl⟩
  | some f =>
      have hfair : P.Fair level (h.emit (.invoked b c)) (f.body c.args) :=
        ⟨(hh.beside b).function_kind hf _, hreceives.ok (.function hf)⟩
      obtain ⟨h', k', reply, hx, hy, hh'⟩ :=
        (hrun.runGuarded hP hfair (hh.emit hP trivial)).cases
      dsimp only
      rw [hx, hy]
      cases reply with
      | ok value => exact hh'.answer hP b _
      | error e =>
          have hlogged := hh'.log hP .warn Host.bridgeTarget
            ("exposed function failed: " ++ e.display) [Host.idField c.id, Host.nameField c.name]
          dsimp only
          rw [(hlogged.beside b).config]
          split
          · exact hlogged.answer hP b _
          · exact ⟨hlogged, rfl⟩

theorem RunsSame.handleDecoded [Limits] (hP : P.Lawful) (hrun : P.RunsSame level)
    {m : Except CodecError Message} (hreceives : ∀ m', m = .ok m' → P.Receives level h b m')
    (hh : P.Abreast h k) :
    P.Same (Host.handleDecoded (Host.inner level) h b m)
      (Host.handleDecoded (Host.inner level) k b m) := by
  cases m with
  | error e =>
      rw [Host.handleDecoded, Host.handleDecoded]
      split
      · exact ⟨hh.log hP _ _ _ _, rfl⟩
      · exact ⟨hh, rfl⟩
  | ok m =>
      cases m with
      | call c => exact hrun.handleCall hP (hreceives _ rfl) hh
      | ret r => exact ⟨hrun.handleReturn hP (hreceives _ rfl) hh, rfl⟩

/-- Code may handle a frame if the frames that nest one level deeper may be handled. -/
theorem inner_same [Limits] (hP : P.Lawful)
    (hbelow : ∀ lower, level = lower + 1 → P.RunsSame lower) {frame : String}
    {next : Except BridgeError Unit → Proc n} (hfair : P.Fair level h (.handle b frame next))
    (hh : P.Abreast h k) :
    P.Same (Host.inner level h b frame) (Host.inner level k b frame) := by
  cases level with
  | zero => exact ⟨hh, rfl⟩
  | succ lower =>
      rw [Host.inner, Host.handleNested_eq, Host.handleNested_eq]
      refine (hbelow lower rfl).handleDecoded hP (fun m hm => ⟨?_, ?_⟩) hh
      -- What the code may ask for covers both the frame itself and the code that runs for it.
      · rintro r rfl
        exact hP.leaves (hfair.ok .now) r hm
      · intro h' p' j q henters hasks
        exact hfair.ok (.inside hm henters hasks)

theorem runsSame_of_below [Limits] (hP : P.Lawful)
    (hbelow : ∀ lower, level = lower + 1 → P.RunsSame lower) : P.RunsSame level := by
  intro p
  -- Each request is answered alike on both hosts, and the code that goes on is fair again. Only a
  -- frame that the code handles needs the level below.
  induction p with
  | done e => exact fun _ _ _ hh => ⟨hh, rfl⟩
  | note label what next ih =>
      intro h k hfair hh
      exact ih _ _ (hfair.next .noted) (hh.emit hP trivial)
  | call b name args callback holds next _ ih =>
      intro h k hfair hh
      have hid := hP.leaves (hfair.ok .now)
      obtain ⟨h', k', r, hcall, hcall', hh'⟩ := (hh.call hP hid name args).cases
      rw [Host.run, Host.run, hcall, hcall']
      cases r with
      | error e => exact ih _ _ _ (hfair.next (.refused hcall)) hh'
      | ok id =>
          obtain rfl : id = (h.bridge b).tokens.peek := (Host.call_ok hcall).1
          exact ih _ _ _ (hfair.next (.called hcall)) (hh'.bindPending hP hid hfair.kind.2.1)
  | callAndForget b name args next ih =>
      intro h k hfair hh
      have hid := hP.leaves (hfair.ok .now)
      obtain ⟨h', k', r, hcall, hcall', hh'⟩ := (hh.call hP hid name args).cases
      rw [Host.run, Host.run, hcall, hcall']
      cases r with
      | error e => exact ih _ _ _ (hfair.next (.forgottenRefused hcall)) hh'
      | ok id =>
          obtain rfl : id = (h.bridge b).tokens.peek := (Host.call_ok hcall).1
          exact ih _ _ _ (hfair.next (.forgotten hcall)) (hh'.drop hP hid).1
  | expose b name body holds next _ ih =>
      intro h k hfair hh
      exact ih _ _ (hfair.next .exposed) (hh.expose hP b name hfair.kind.2.1)
  | openWith b channel next ih =>
      intro h k hfair hh
      obtain ⟨hh', hr⟩ := hh.openWith hP hfair.kind.1
      rw [Host.Proceeds.run_eq (h := h) .opened, Host.Proceeds.run_eq (h := k) .opened, hr]
      exact ih _ _ _ (hfair.next .opened) hh'
  | handle b frame next ih =>
      intro h k hfair hh
      obtain ⟨hh', hr⟩ := inner_same hP hbelow hfair hh
      rw [Host.Proceeds.run_eq (h := h) .handled, Host.Proceeds.run_eq (h := k) .handled, hr]
      exact ih _ _ _ (hfair.next .handled) hh'
  | names b next ih =>
      intro h k hfair hh
      have hnames : (k.bridge b).names = (h.bridge b).names := by
        rw [Bridge.names, Bridge.names, (hh.beside b).registry]
      rw [Host.run, Host.run, hnames]
      exact ih _ _ _ (hfair.next .named) hh
  | status b next ih =>
      intro h k hfair hh
      rw [Host.run, Host.run, hP.status hh hfair.kind.1 (hfair.ok .now)]
      exact ih _ _ _ (hfair.next .asked) hh

/-- Fair code ends in the same way on two hosts that are abreast, and they still are. -/
theorem runsSame [Limits] (hP : P.Lawful) : ∀ level, P.RunsSame level
  | 0 => runsSame_of_below hP fun _ hlevel => (Nat.succ_ne_zero _ hlevel.symm).elim
  | level + 1 => runsSame_of_below hP fun _ hlevel =>
      Nat.succ.inj hlevel ▸ runsSame hP level

end Code

/-! ## Frames from outside -/

theorem Abreast.handle [Limits] (hP : P.Lawful) (hh : P.Abreast h k) {frame : String}
    (hreceives : ∀ m, Message.decode frame = .ok m → P.Receives Host.outerLevel h b m) :
    P.Same (h.handle b frame) (k.handle b frame) :=
  (runsSame hP Host.outerLevel).handleDecoded hP hreceives hh

theorem Abreast.handleValue [Limits] (hP : P.Lawful) (hh : P.Abreast h k) {v : Json}
    (hreceives : ∀ m, Message.classify v = .ok m → P.Receives Host.outerLevel h b m) :
    P.Same (h.handleValue b v) (k.handleValue b v) := by
  refine (runsSame hP Host.outerLevel).handleDecoded hP (fun m hm => hreceives m ?_) hh
  cases hv : Message.classify v with
  | ok m' => simpa [hv] using hm
  | error raw => simp [hv] at hm

theorem Abreast.bind [Limits] (hP : P.Lawful) (hh : P.Abreast h k) (hid : P.aside b id = false)
    {c : Callback n} (hc : c.Throughout P.kind)
    (hok : ∀ {o j q}, (h.bridge b).pending? id = none → (h.bridge b).arrived? id = some o →
      Host.Asks Host.outerLevel (((h.emit (.bound b id c)).update b fun x => x.takeAside id).emit
        (.delivered b id (some c) o)) (c.body o) j q → P.ok j q) :
    P.Abreast (h.bind b id c) (k.bind b id c) := by
  have hbound : P.Abreast (h.emit (.bound b id c)) (k.emit (.bound b id c)) := hh.emit hP hid
  rw [Host.bind, Host.bind, (hh.beside b).pending?_eq hid, (hh.beside b).arrived?_eq hid]
  split
  · exact hh.bindPending hP hid hc
  · next hpending =>
      cases harrived : (h.bridge b).arrived? id with
      | none => exact hbound
      | some o =>
          have htaken : P.Abreast ((h.emit (.bound b id c)).update b fun x => x.takeAside id)
              ((k.emit (.bound b id c)).update b fun x => x.takeAside id) :=
            hbound.update hP (fun _ => rfl) fun hx => hx.takeAside hid
          exact (runsSame hP Host.outerLevel).runCallback hP hid
            ⟨hc o, hok (by simpa using hpending) harrived⟩ htaken

end Pairing

end CallBridge
