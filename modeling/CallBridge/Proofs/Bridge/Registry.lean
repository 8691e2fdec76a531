import CallBridge.Proofs.Bridge.Shipment
import CallBridge.Proofs.Bridge.Turn

/-!
# Exposed functions over time

The configuration of a bridge never changes, and its table of functions only when a function is
exposed: `Turn.sameSetup`. So the function under a name is the one that was last exposed under it
(`History.exposed?_eq`), by the session or by host code, and a name under which none was exposed
stays without one.
-/

namespace CallBridge

variable {n : Nat}

/-! ## What operations leave alone -/

namespace Host

/-- From `h` to `k` no bridge gets another configuration or other functions. -/
structure SameSetup (h k : Host n) : Prop where
  config : ∀ b, (k.bridge b).config = (h.bridge b).config
  registry : ∀ b, (k.bridge b).registry = (h.bridge b).registry

variable {h k l : Host n}

theorem SameSetup.trans (hhk : SameSetup h k) (hkl : SameSetup k l) : SameSetup h l where
  config b := (hkl.config b).trans (hhk.config b)
  registry b := (hkl.registry b).trans (hhk.registry b)

theorem sameSetup_emit (h : Host n) (e : Event n) : SameSetup h (h.emit e) :=
  ⟨fun _ => rfl, fun _ => rfl⟩

theorem sameSetup_update (h : Host n) (b : Fin n) (f : Bridge n → Bridge n)
    (hconfig : ∀ x, (f x).config = x.config) (hregistry : ∀ x, (f x).registry = x.registry) :
    SameSetup h (h.update b f) where
  config c := h.field_update b c f Bridge.config hconfig
  registry c := h.field_update b c f Bridge.registry hregistry

theorem sameSetup_ship (h : Host n) (b : Fin n) (x : Shipment n) : SameSetup h (h.ship b x) := by
  have hupdate : SameSetup h (h.update b fun y => { y with outbound := x.outbound }) :=
    h.sameSetup_update b _ (fun _ => rfl) fun _ => rfl
  exact ⟨hupdate.config, hupdate.registry⟩

theorem sameSetup_transmit (h : Host n) (b : Fin n) (frame : String) :
    SameSetup h (h.transmit b frame).1 := by
  rw [transmit_eq]
  exact h.sameSetup_ship b _

theorem sameSetup_openWith (h : Host n) (b : Fin n) (channel : Channel) :
    SameSetup h (h.openWith b channel).1 := by
  rw [openWith_eq]
  exact h.sameSetup_ship b _

theorem sameSetup_register (h : Host n) (b : Fin n) (id : CallId) :
    SameSetup h (h.register b id) := by
  have hupdate : SameSetup h (h.update b fun x => x.enlist id .waiting) :=
    h.sameSetup_update b _ (fun _ => rfl) fun _ => rfl
  rw [register]
  split
  · exact hupdate.trans (sameSetup_emit _ _)
  · exact hupdate

theorem sameSetup_prepared (h : Host n) (b : Fin n) (name : String) (args : List Json) :
    SameSetup h (h.prepared b name args) := by
  have htoken : SameSetup h (h.update b fun x => { x with tokens := x.tokens.advance }) :=
    h.sameSetup_update b _ (fun _ => rfl) fun _ => rfl
  exact ((htoken.trans (sameSetup_emit _ _)).trans (sameSetup_register _ _ _)).trans
    (sameSetup_emit _ _)

theorem sameSetup_cancel (h : Host n) (b : Fin n) (id : CallId) :
    SameSetup h (h.cancel b id).1 :=
  h.sameSetup_update b (fun x => x.unlist id) (fun _ => rfl) fun _ => rfl

theorem sameSetup_takeAside (h : Host n) (b : Fin n) (id : CallId) :
    SameSetup h (h.update b fun x => x.takeAside id) :=
  h.sameSetup_update b _ (fun _ => rfl) fun _ => rfl

theorem sameSetup_release (h : Host n) (b : Fin n) (id : CallId) :
    SameSetup h (h.release b id).1 :=
  (h.sameSetup_cancel b id).trans (sameSetup_takeAside _ b id)

theorem sameSetup_bindPending (h : Host n) (b : Fin n) (id : CallId) (c : Callback n) :
    SameSetup h (h.bindPending b id c) := by
  have hupdate := h.sameSetup_update b (fun x => { x with
    pending := x.pending.map fun p => if p.1 = id then (id, .callback c) else p })
    (fun _ => rfl) fun _ => rfl
  exact hupdate.trans (sameSetup_emit _ _)

theorem sameSetup_call (h : Host n) (b : Fin n) (name : String) (args : List Json) :
    SameSetup h (h.call b name args).1 := by
  have hsent : SameSetup h
      ((h.prepared b name args).transmit b (h.callFrame b name args)).1 :=
    (h.sameSetup_prepared b name args).trans (sameSetup_transmit _ _ _)
  rw [call_eq]
  split <;> rename_i heq <;> rw [heq] at hsent
  · exact hsent.trans (sameSetup_emit _ _)
  · exact hsent.trans (sameSetup_cancel _ b _)

theorem config_expose (h : Host n) (b c : Fin n) (name : String) (f : Exposed n) :
    ((h.expose b name f).bridge c).config = (h.bridge c).config :=
  h.field_update b c (fun x => x.expose name f) Bridge.config fun _ => rfl

theorem exposed?_expose (h : Host n) (b c : Fin n) (name other : String) (f : Exposed n) :
    ((h.expose b name f).bridge c).exposed? other
      = if c = b ∧ other = name then some f else (h.bridge c).exposed? other := by
  have hbridge : (h.expose b name f).bridge c
      = if c = b then (h.bridge b).expose name f else h.bridge c :=
    h.bridge_update b c fun x => x.expose name f
  rw [hbridge]
  by_cases hc : c = b
  · subst hc
    rw [if_pos rfl, Bridge.exposed?, Bridge.expose]
    by_cases hname : other = name
    · rw [if_pos ⟨rfl, hname⟩, hname, Keyed.lookup_insert_self]
    · rw [if_neg fun hboth => hname hboth.2,
        Keyed.lookup_insert_ne fun heq => hname heq.symm]
      rfl
  · rw [if_neg hc, if_neg fun hboth => hc hboth.1]

/-- No bridge has a function yet. -/
def NothingExposed (h : Host n) : Prop := ∀ b, (h.bridge b).registry = []

theorem nothingExposed_ofConfigs (clock : Fin n → Nat) (configs : Vector Config n) :
    (ofConfigs clock configs).NothingExposed := by
  intro b
  simp [ofConfigs, bridge]

theorem NothingExposed.exposed?_eq (hempty : h.NothingExposed) (b : Fin n) (name : String) :
    (h.bridge b).exposed? name = none := by
  rw [Bridge.exposed?, hempty b]
  rfl

end Host

/-! ## Exposures -/

/-- A function is exposed. -/
structure Exposure (n : Nat) where
  bridge : Fin n
  name : String
  function : Exposed n

def Exposure.after (e : Exposure n) (h : Host n) : Host n := h.expose e.bridge e.name e.function

/-- The turn exposes some function. -/
def Exposes (a a' : Host n × Custody n) : Prop := ∃ e : Exposure n, a' = (e.after a.1, a.2)

/-- A turn either exposes a function or leaves alone what bridges are made with. -/
theorem Turn.sameSetup {a a' : Host n × Custody n} (hturn : Turn a a') (hother : ¬ Exposes a a') :
    Host.SameSetup a.1 a'.1 := by
  cases hturn with
  | quiet hquiet =>
      cases hquiet with
      | remarked e he => exact Host.sameSetup_emit _ e
      | invoked b c => exact Host.sameSetup_emit _ _
      | rewired lines => exact ⟨fun _ => rfl, fun _ => rfl⟩
      | exposed b name f => exact absurd ⟨⟨b, name, f⟩, rfl⟩ hother
      | opened b channel => exact Host.sameSetup_openWith _ b channel
      | sent b frame => exact Host.sameSetup_transmit _ b frame
  | @refused h h' m b name args e hcall => simpa only [hcall] using h.sameSetup_call b name args
  | @called h h' m b name args id hcall => simpa only [hcall] using h.sameSetup_call b name args
  | bound c hpending => exact Host.sameSetup_bindPending _ _ _ c
  | boundLate c hpending harrived =>
      exact ((Host.sameSetup_emit _ _).trans (Host.sameSetup_takeAside _ _ _)).trans
        (Host.sameSetup_emit _ _)
  | boundLost c hpending harrived => exact Host.sameSetup_emit _ _
  | dropped b id => exact (Host.sameSetup_emit _ _).trans (Host.sameSetup_release _ b id)
  | expired harrived => exact (Host.sameSetup_emit _ _).trans (Host.sameSetup_release _ _ _)
  | taken harrived =>
      exact (Host.sameSetup_takeAside _ _ _).trans (Host.sameSetup_emit _ _)
  | unmatched hpending => exact Host.sameSetup_emit _ _
  | @parked h m b r hpending =>
      exact (h.sameSetup_emit (.returned b r)).trans (Host.sameSetup_update _ b
        (fun x => (x.unlist r.id).putAside r.id r.outcome) (fun _ => rfl) fun _ => rfl)
  | @fired h m b r c hpending =>
      have hunlist := Host.sameSetup_cancel (h.emit (.returned b r)) b r.id
      exact ((h.sameSetup_emit (.returned b r)).trans hunlist).trans (Host.sameSetup_emit _ _)

theorem Turn.config_eq {a a' : Host n × Custody n} (hturn : Turn a a') (b : Fin n) :
    (a'.1.bridge b).config = (a.1.bridge b).config := by
  by_cases hexposes : Exposes a a'
  · obtain ⟨e, rfl⟩ := hexposes
    exact a.1.config_expose e.bridge b e.name e.function
  · exact (hturn.sameSetup hexposes).config b

theorem Turns.config_eq {a a' : Host n × Custody n} (hturns : Turns a a') (b : Fin n) :
    (a'.1.bridge b).config = (a.1.bridge b).config := by
  induction hturns with
  | refl => rfl
  | tail _ hlast ih => rw [hlast.config_eq b, ih]

/-! ## Histories -/

/-- Turns lead from `start` to this host, and on the way these functions are exposed, in order. -/
inductive History (start : Host n × Custody n) :
    Host n × Custody n → List (Exposure n) → Prop
  | start : History start start []
  | exposed {h m es} (hpast : History start (h, m) es) (e : Exposure n) :
      History start (e.after h, m) (es ++ [e])
  | other {a a' es} (hpast : History start a es) (hturn : Turn a a') (hother : ¬ Exposes a a') :
      History start a' es

/-- The function that was last exposed under a name. -/
def lastExposed (b : Fin n) (name : String) (es : List (Exposure n)) : Option (Exposed n) :=
  (es.filter fun e => e.bridge = b ∧ e.name = name).getLast?.map Exposure.function

theorem lastExposed_snoc (b : Fin n) (name : String) (es : List (Exposure n)) (e : Exposure n) :
    lastExposed b name (es ++ [e])
      = if b = e.bridge ∧ name = e.name then some e.function else lastExposed b name es := by
  rw [lastExposed, List.filter_append]
  by_cases he : b = e.bridge ∧ name = e.name
  · obtain ⟨rfl, rfl⟩ := he
    simp
  · have hnone : [e].filter (fun e => e.bridge = b ∧ e.name = name) = [] := by
      rw [List.filter_eq_nil_iff]
      intro e' he'
      rw [List.mem_singleton.1 he', decide_eq_true_eq]
      rintro ⟨rfl, rfl⟩
      exact he ⟨rfl, rfl⟩
    rw [hnone, List.append_nil, if_neg he, lastExposed]

namespace History

variable {start a : Host n × Custody n} {es : List (Exposure n)}

theorem of_turns (hturns : Turns start a) : ∃ es, History start a es := by
  induction hturns with
  | refl => exact ⟨[], .start⟩
  | @tail a a' _ hlast ih =>
      obtain ⟨es, hpast⟩ := ih
      by_cases hexposes : Exposes a a'
      · obtain ⟨e, rfl⟩ := hexposes
        exact ⟨es ++ [e], hpast.exposed e⟩
      · exact ⟨es, hpast.other hlast hexposes⟩

/-- Under each name stands the function that was last exposed under it, or what stood there at the
start. -/
theorem exposed?_eq (hpast : History start a es) (b : Fin n) (name : String) :
    (a.1.bridge b).exposed? name
      = (lastExposed b name es).or ((start.1.bridge b).exposed? name) := by
  induction hpast with
  | start => rfl
  | @exposed h m es _ e ih =>
      show ((h.expose e.bridge e.name e.function).bridge b).exposed? name = _
      rw [h.exposed?_expose, lastExposed_snoc]
      split
      · rfl
      · exact ih
  | other _ hturn hother ih =>
      rw [Bridge.exposed?, (hturn.sameSetup hother).registry b]
      exact ih

/-- Where nothing was exposed at the start, under each name stands what was last exposed under it
since. -/
theorem exposed?_eq_lastExposed (hpast : History start a es) (hempty : start.1.NothingExposed)
    (b : Fin n) (name : String) : (a.1.bridge b).exposed? name = lastExposed b name es := by
  rw [hpast.exposed?_eq, hempty.exposed?_eq, Option.or_none]

end History

end CallBridge
