import CallBridge.Proofs.Bridge.Host

/-!
# Host code at work

Host code is a tree of requests, and running it follows one path through the tree. `Proceeds` is one
step along that path, `Asks` says which requests are reached from a start, those of the code that
runs inside for the frames it handles included. `Proc.Throughout` is about the whole tree instead,
and about the functions and callbacks that the code hands over.
-/

namespace CallBridge

variable {n : Nat}

/-! ## The whole of the code -/

/-- `P` holds of host code, of all that it may come to, and of the functions and callbacks that it
hands over. -/
def Proc.Throughout (P : Proc n → Prop) : Proc n → Prop
  | .done e => P (.done e)
  | .note label what next => P (.note label what next) ∧ next.Throughout P
  | .call b name args callback holds next =>
      P (.call b name args callback holds next) ∧ (∀ o, (callback o).Throughout P) ∧
        ∀ r, (next r).Throughout P
  | .callAndForget b name args next =>
      P (.callAndForget b name args next) ∧ ∀ r, (next r).Throughout P
  | .expose b name body holds next =>
      P (.expose b name body holds next) ∧ (∀ args, (body args).Throughout P) ∧ next.Throughout P
  | .openWith b channel next => P (.openWith b channel next) ∧ ∀ r, (next r).Throughout P
  | .handle b frame next => P (.handle b frame next) ∧ ∀ r, (next r).Throughout P
  | .names b next => P (.names b next) ∧ ∀ names, (next names).Throughout P
  | .status b next => P (.status b next) ∧ ∀ status, (next status).Throughout P

def Exposed.Throughout (P : Proc n → Prop) (f : Exposed n) : Prop :=
  ∀ args, (f.body args).Throughout P

def Callback.Throughout (P : Proc n → Prop) (c : Callback n) : Prop :=
  ∀ o, (c.body o).Throughout P

theorem Proc.throughout_of_forall {P : Proc n → Prop} (hP : ∀ p, P p) (p : Proc n) :
    p.Throughout P := by
  induction p with
  | done e => exact hP _
  | note label what next ih => exact ⟨hP _, ih⟩
  | call b name args callback holds next ihc ih => exact ⟨hP _, ihc, ih⟩
  | callAndForget b name args next ih => exact ⟨hP _, ih⟩
  | expose b name body holds next ihb ih => exact ⟨hP _, ihb, ih⟩
  | openWith b channel next ih => exact ⟨hP _, ih⟩
  | handle b frame next ih => exact ⟨hP _, ih⟩
  | names b next ih => exact ⟨hP _, ih⟩
  | status b next ih => exact ⟨hP _, ih⟩

/-! ## Levels of nesting -/

namespace Host

/-- How code handles frames when `level` further levels may nest below it. -/
def inner [Limits] : Nat → Handling n
  | 0 => refuseNested
  | level + 1 => handleNested level

theorem handleNested_eq [Limits] (level : Nat) (h : Host n) (b : Fin n) (frame : String) :
    handleNested level h b frame = handleDecoded (inner level) h b (Message.decode frame) := by
  cases level <;> rfl

/-- The level of code that runs for a frame which nothing nests. -/
def outerLevel [Limits] : Nat := Limits.nesting + 1

/-! ## The path of the code -/

/-- Handling a message starts host code: an exposed function, or the callback of a pending call. -/
inductive Enters (h : Host n) (b : Fin n) : Message → Host n → Proc n → Prop
  | function {c f} (hf : (h.bridge b).exposed? c.name = some f) :
      Enters h b (.call c) (h.emit (.invoked b c)) (f.body c.args)
  | callback {r c} (hc : (h.bridge b).pending? r.id = some (.callback c)) :
      Enters h b (.ret r)
        (((h.emit (.returned b r)).update b fun x => x.unlist r.id).emit
          (.delivered b r.id (some c) r.outcome))
        (c.body r.outcome)

/-- One request of host code is answered, and the code goes on. -/
inductive Proceeds [Limits] (level : Nat) (h : Host n) : Proc n → Host n → Proc n → Prop
  | noted {label what next} :
      Proceeds level h (.note label what next) (h.emit (.noted label what)) next
  | called {b name args callback holds next k id} (hcall : h.call b name args = (k, .ok id)) :
      Proceeds level h (.call b name args callback holds next)
        (k.bindPending b id ⟨callback, holds⟩) (next (.ok id))
  | refused {b name args callback holds next k e} (hcall : h.call b name args = (k, .error e)) :
      Proceeds level h (.call b name args callback holds next) k (next (.error e))
  | forgotten {b name args next k id} (hcall : h.call b name args = (k, .ok id)) :
      Proceeds level h (.callAndForget b name args next) (k.drop b id).1 (next (.ok id))
  | forgottenRefused {b name args next k e} (hcall : h.call b name args = (k, .error e)) :
      Proceeds level h (.callAndForget b name args next) k (next (.error e))
  | exposed {b name body holds next} :
      Proceeds level h (.expose b name body holds next) (h.expose b name ⟨body, holds⟩) next
  | opened {b channel next} :
      Proceeds level h (.openWith b channel next) (h.openWith b channel).1
        (next (h.openWith b channel).2)
  | handled {b frame next} :
      Proceeds level h (.handle b frame next) (inner level h b frame).1
        (next (inner level h b frame).2)
  | named {b next} : Proceeds level h (.names b next) h (next (h.bridge b).names)
  | asked {b next} : Proceeds level h (.status b next) h (next (h.bridge b).status)

/-- Host code that runs from `h` comes to ask for `q` when the host is `k`. -/
inductive Asks [Limits] : Nat → Host n → Proc n → Host n → Proc n → Prop
  | now {level h p} : Asks level h p h p
  | later {level h p h' p' k q} (hnext : Proceeds level h p h' p')
      (hasks : Asks level h' p' k q) : Asks level h p k q
  /-- Code that runs for a frame which the code handles. -/
  | inside {level h b frame next m h' p' k q} (hframe : Message.decode frame = .ok m)
      (henters : Enters h b m h' p') (hasks : Asks level h' p' k q) :
      Asks (level + 1) h (.handle b frame next) k q

theorem Proceeds.throughout [Limits] {level : Nat} {h h' : Host n} {p p' : Proc n}
    {P : Proc n → Prop}
    (hnext : Proceeds level h p h' p') (hp : p.Throughout P) : p'.Throughout P := by
  cases hnext with
  | noted => exact hp.2
  | called hcall => exact hp.2.2 _
  | refused hcall => exact hp.2.2 _
  | forgotten hcall => exact hp.2 _
  | forgottenRefused hcall => exact hp.2 _
  | exposed => exact hp.2.2
  | opened | handled | named | asked => exact hp.2 _

/-- Running code is running what it goes on with. -/
theorem Proceeds.run_eq [Limits] {level : Nat} {h h' : Host n} {p p' : Proc n}
    (hnext : Proceeds level h p h' p') : run (inner level) p h = run (inner level) p' h' := by
  cases hnext with
  | called hcall | refused hcall => rw [run, hcall]
  | forgotten hcall | forgottenRefused hcall => rw [run, hcall]
  | noted | exposed | opened | handled | named | asked => rfl

end Host

end CallBridge
