import CallBridge.Proofs.Bridge.Token
import Mathlib.Data.List.Induction
import Mathlib.Tactic.Tauto

/-!
# The course of a call

What the trace says of one call follows a fixed course: its token is taken, the caller has it, and
then a return is put aside or handed to a callback, or the call is given up. `Phase.Next` is one
event of that course, `Course` a stretch of it. What a call has seen since it was issued is read off
its phase (`Course.sums`).
-/

namespace CallBridge

variable {n : Nat}

/-! ## Phases -/

/-- Where a call is in its course. -/
inductive Phase (n : Nat) where
  /-- The token has not been taken. -/
  | unborn
  /-- The token has been taken, and the caller does not have it; here refused calls stay. -/
  | called (name : String) (args : List Json)
  /-- Held by someone, without a return. -/
  | waiting
  /-- Held by someone, and the outcome is put aside. -/
  | parked (o : Outcome)
  /-- Bound to a callback, without a return. -/
  | bound (c : Callback n)
  /-- The callback is about to get the outcome. -/
  | due (c : Callback n) (o : Outcome)
  | done (receiver : Option (Callback n)) (o : Outcome)
  | abandoned

namespace Phase

/-- The entry in the pending table. -/
def entry : Phase n → Option (Completion n)
  | .waiting => some .waiting
  | .bound c => some (.callback c)
  | _ => none

/-- The outcome put aside. -/
def aside : Phase n → Option Outcome
  | .parked o => some o
  | _ => none

/-- How many hold the call. -/
def holders : Phase n → Nat
  | .waiting => 1
  | .parked _ => 1
  | _ => 0

/-- Nothing is about to happen. -/
def AtRest : Phase n → Prop
  | .due _ _ => False
  | _ => True

end Phase

/-- Is about the call with token `id` on `b`. -/
def Event.Concerns (b : Fin n) (id : CallId) : Event n → Prop
  | .called c k _ _ => c = b ∧ k = id
  | .issued c k _ _ => c = b ∧ k = id
  | .bound c k _ => c = b ∧ k = id
  | .dropped c k => c = b ∧ k = id
  | .expired c k => c = b ∧ k = id
  | .delivered c k _ _ => c = b ∧ k = id
  | .returned c r => c = b ∧ r.id = id
  | _ => False

theorem Event.IsIdle.not_concerns {e : Event n} (he : e.IsIdle) (b : Fin n) (id : CallId) :
    ¬ e.Concerns b id := by
  cases e <;> first | exact not_false | exact he.elim

section Course

variable (b : Fin n) (id : CallId)

/-- One event takes the call from one phase to the next. -/
inductive Phase.Next : Phase n → Event n → Phase n → Prop
  | other {p e} (he : ¬ e.Concerns b id) : Next p e p
  /-- A return that nothing waits for. -/
  | ignored {p r} (hp : p.entry = none) (hr : r.id = id) : Next p (.returned b r) p
  | called (name : String) (args : List Json) :
      Next .unborn (.called b id name args) (.called name args)
  | issued (name : String) (args : List Json) :
      Next (.called name args) (.issued b id name args) .waiting
  | parked {r} (hr : r.id = id) : Next .waiting (.returned b r) (.parked r.outcome)
  | bound (c : Callback n) : Next .waiting (.bound b id c) (.bound c)
  | boundLate {o} (c : Callback n) : Next (.parked o) (.bound b id c) (.due c o)
  | fired {c r} (hr : r.id = id) : Next (.bound c) (.returned b r) (.due c r.outcome)
  | delivered {c o} : Next (.due c o) (.delivered b id (some c) o) (.done (some c) o)
  | taken {o} : Next (.parked o) (.delivered b id none o) (.done none o)
  | dropped {p} (hp : p.holders = 1) : Next p (.dropped b id) .abandoned
  | expired : Next .waiting (.expired b id) .abandoned

/-- The events lead the call from one phase to another. -/
inductive Course : Phase n → List (Event n) → Phase n → Prop
  | refl (p) : Course p [] p
  | snoc {p es q e r} (hcourse : Course p es q) (hnext : Phase.Next b id q e r) :
      Course p (es ++ [e]) r

end Course

variable {b : Fin n} {id : CallId} {p q : Phase n} {es es' : List (Event n)}

namespace Course

theorem trans {r : Phase n} (h : Course b id p es q) (h' : Course b id q es' r) :
    Course b id p (es ++ es') r := by
  induction h' with
  | refl => simpa using h
  | snoc hcourse hnext ih =>
      rw [← List.append_assoc]
      exact .snoc ih hnext

theorem others (h : Course b id p es q) (hes : ∀ e ∈ es', ¬ e.Concerns b id) :
    Course b id p (es ++ es') q := by
  refine h.trans ?_
  clear h
  induction es' using List.reverseRecOn with
  | nil => exact .refl q
  | append_singleton es' e ih =>
      refine .snoc (ih fun e' he' => hes e' (List.mem_append_left _ he')) (.other ?_)
      exact hes e (List.mem_append_right _ (List.mem_singleton_self e))

/-- A course can be cut anywhere. -/
theorem split (h : Course b id p (es ++ es') q) :
    ∃ r, Course b id p es r ∧ Course b id r es' q := by
  induction es' using List.reverseRecOn generalizing q with
  | nil => exact ⟨q, by simpa using h, .refl q⟩
  | append_singleton es' e ih =>
      rw [← List.append_assoc] at h
      generalize hes : es ++ es' ++ [e] = whole at h
      cases h with
      | refl => simp at hes
      | snoc hcourse hnext =>
          obtain ⟨heq, hlast⟩ := List.append_inj' hes rfl
          obtain ⟨rfl⟩ := List.singleton_inj.1 hlast
          subst heq
          obtain ⟨r, hfirst, hrest⟩ := ih hcourse
          exact ⟨r, hfirst, hrest.snoc hnext⟩

theorem split_cons {e : Event n} (h : Course b id p (es ++ e :: es') q) :
    ∃ r r', Course b id p es r ∧ Phase.Next b id r e r' ∧ Course b id r' es' q := by
  have hsplit : Course b id p ((es ++ [e]) ++ es') q := by simpa using h
  obtain ⟨r', hfirst, hrest⟩ := hsplit.split
  generalize hes : es ++ [e] = whole at hfirst
  cases hfirst with
  | refl => simp at hes
  | snoc hcourse hnext =>
      obtain ⟨heq, hlast⟩ := List.append_inj' hes rfl
      obtain ⟨rfl⟩ := List.singleton_inj.1 hlast
      subst heq
      exact ⟨_, _, hcourse, hnext, hrest⟩

end Course

/-! ## What a course has seen -/

section Seen

variable (b : Fin n) (id : CallId)

/-- The token of a call that is issued. -/
def Event.issuedOf : Event n → Option CallId
  | .issued c id _ _ => if c = b then some id else none
  | _ => none

def Event.returnOf : Event n → Option Return
  | .returned c r => if c = b ∧ r.id = id then some r else none
  | _ => none

def Event.bindingOf : Event n → Option (Callback n)
  | .bound c k f => if c = b ∧ k = id then some f else none
  | _ => none

def Event.deliveryOf : Event n → Option (Option (Callback n) × Outcome)
  | .delivered c k receiver o => if c = b ∧ k = id then some (receiver, o) else none
  | _ => none

/-- The call is dropped, or its future expires. -/
def Event.givesUp : Event n → Bool
  | .dropped c k => c = b ∧ k = id
  | .expired c k => c = b ∧ k = id
  | _ => false

variable {b id} in
theorem Event.issuedOf_eq_some {e : Event n} :
    e.issuedOf b = some id ↔ ∃ name args, e = .issued b id name args := by
  cases e <;> simp [issuedOf]

variable {b id} in
theorem Event.bindingOf_eq_some {e : Event n} {c : Callback n} :
    e.bindingOf b id = some c ↔ e = .bound b id c := by
  cases e <;> simp [bindingOf]
  tauto

variable {b id} in
theorem Event.deliveryOf_eq_some {e : Event n} {receiver : Option (Callback n)} {o : Outcome} :
    e.deliveryOf b id = some (receiver, o) ↔ e = .delivered b id receiver o := by
  cases e <;> simp [deliveryOf]
  tauto

variable {b id} in
theorem Event.returnOf_eq_some {e : Event n} {r : Return} :
    e.returnOf b id = some r ↔ e = .returned b r ∧ r.id = id := by
  cases e with
  | returned c r' =>
      simp only [returnOf, Option.ite_none_right_eq_some, Option.some.injEq, returned.injEq]
      constructor
      · rintro ⟨⟨rfl, rfl⟩, rfl⟩
        exact ⟨⟨rfl, rfl⟩, rfl⟩
      · rintro ⟨⟨rfl, rfl⟩, rfl⟩
        exact ⟨⟨rfl, rfl⟩, rfl⟩
  | _ => simp [returnOf]

/-- The returns with the token of the call. -/
def returnsOf (es : List (Event n)) : List Return := es.filterMap (Event.returnOf b id)

/-- The callbacks bound to the call. -/
def bindingsOf (es : List (Event n)) : List (Callback n) := es.filterMap (Event.bindingOf b id)

/-- The outcomes of the call, each with the callback that got it, or none for a future. -/
def deliveriesOf (es : List (Event n)) : List (Option (Callback n) × Outcome) :=
  es.filterMap (Event.deliveryOf b id)

theorem returnsOf_concat (es : List (Event n)) (e : Event n) :
    returnsOf b id (es ++ [e]) = returnsOf b id es ++ (e.returnOf b id).toList := by
  cases he : e.returnOf b id <;> simp [returnsOf, he]

theorem bindingsOf_concat (es : List (Event n)) (e : Event n) :
    bindingsOf b id (es ++ [e]) = bindingsOf b id es ++ (e.bindingOf b id).toList := by
  cases he : e.bindingOf b id <;> simp [bindingsOf, he]

theorem deliveriesOf_concat (es : List (Event n)) (e : Event n) :
    deliveriesOf b id (es ++ [e]) = deliveriesOf b id es ++ (e.deliveryOf b id).toList := by
  cases he : e.deliveryOf b id <;> simp [deliveriesOf, he]

variable {b id} in
/-- An event about another call is seen by none of these. -/
theorem Event.seen_of_not_concerns {e : Event n} (he : ¬ e.Concerns b id) :
    e.returnOf b id = none ∧ e.bindingOf b id = none ∧ e.deliveryOf b id = none ∧
      e.givesUp b id = false := by
  cases e <;> simp_all [Concerns, returnOf, bindingOf, deliveryOf, givesUp]

end Seen

namespace Phase

/-- The caller has had the call. -/
def Issued : Phase n → Prop
  | .unborn => False
  | .called _ _ => False
  | _ => True

def binding : Phase n → Option (Callback n)
  | .bound c => some c
  | .due c _ => some c
  | .done receiver _ => receiver
  | _ => none

def delivery : Phase n → Option (Option (Callback n) × Outcome)
  | .done receiver o => some (receiver, o)
  | _ => none

def giveUps : Phase n → Nat
  | .abandoned => 1
  | _ => 0

/-- The outcome of the first return, for a call that was not given up. -/
def outcome : Phase n → Option Outcome
  | .parked o => some o
  | .due _ o => some o
  | .done _ o => some o
  | _ => none

/-- A phase tells what a call has seen since it was issued. -/
structure Sums (p : Phase n) (b : Fin n) (id : CallId) (es : List (Event n)) : Prop where
  issued : p.Issued
  bindings : bindingsOf b id es = p.binding.toList
  deliveries : deliveriesOf b id es = p.delivery.toList
  giveUps : es.countP (Event.givesUp b id) = p.giveUps
  outcome : p.giveUps = 0 → (returnsOf b id es).head?.map Return.outcome = p.outcome

/-- What a phase tells after one more event. -/
theorem Sums.concat {e : Event n} (hp : p.Sums b id es) (hissued : q.Issued)
    (hbinding : q.binding.toList = p.binding.toList ++ (e.bindingOf b id).toList)
    (hdelivery : q.delivery.toList = p.delivery.toList ++ (e.deliveryOf b id).toList)
    (hgiveUps : q.giveUps = p.giveUps + if e.givesUp b id then 1 else 0)
    (houtcome : q.giveUps = 0 →
      q.outcome = p.outcome.or ((e.returnOf b id).map Return.outcome)) :
    q.Sums b id (es ++ [e]) where
  issued := hissued
  bindings := by rw [bindingsOf_concat, hp.bindings, hbinding]
  deliveries := by rw [deliveriesOf_concat, hp.deliveries, hdelivery]
  giveUps := by rw [List.countP_append, hp.giveUps, hgiveUps, List.countP_singleton]
  outcome := by
    intro hq
    have hfirst := hp.outcome (by omega)
    rw [returnsOf_concat, List.head?_append, Option.map_or, hfirst, houtcome hq]
    cases e.returnOf b id <;> rfl

theorem Sums.next {e : Event n} (hp : p.Sums b id es) (hnext : Next b id p e q) :
    q.Sums b id (es ++ [e]) := by
  cases hnext with
  | other he =>
      obtain ⟨hreturn, hbinding, hdelivery, hgives⟩ := Event.seen_of_not_concerns he
      refine hp.concat hp.issued ?_ ?_ ?_ ?_
      · simp [hbinding]
      · simp [hdelivery]
      · simp [hgives]
      · simp [hreturn]
  | @ignored r hentry hr =>
      refine hp.concat hp.issued ?_ ?_ ?_ ?_
      · simp [Event.bindingOf]
      · simp [Event.deliveryOf]
      · simp [Event.givesUp]
      · -- An issued call without an entry has had its first return, unless it is given up.
        intro hkept
        have hissued := hp.issued
        cases p <;> simp_all [entry, Issued, Phase.giveUps, Phase.outcome]
  | called name args => exact hp.issued.elim
  | issued name args => exact hp.issued.elim
  | dropped hheld =>
      have hissued := hp.issued
      refine hp.concat trivial ?_ ?_ ?_ ?_ <;>
        cases p <;> simp_all [holders, Issued, binding, delivery, Phase.giveUps, Event.bindingOf,
          Event.deliveryOf, Event.givesUp]
  | parked hr | bound c | boundLate c | fired hr | delivered | taken | expired =>
      refine hp.concat trivial ?_ ?_ ?_ ?_ <;>
        simp_all [binding, delivery, Phase.giveUps, Phase.outcome, Event.bindingOf,
          Event.deliveryOf, Event.givesUp, Event.returnOf]

end Phase

/-- What a call has seen since it was issued is what its phase tells. -/
theorem Course.sums (h : Course b id .waiting es p) : p.Sums b id es := by
  induction h with
  | refl => exact ⟨trivial, rfl, rfl, rfl, fun _ => rfl⟩
  | snoc hcourse hnext ih => exact ih.next hnext

/-- A call that has been issued was issued at some point of its course. -/
theorem Course.exists_issued (h : Course b id .unborn es p) (hp : p.Issued) :
    ∃ pre name args post, es = pre ++ .issued b id name args :: post ∧
      Course b id .waiting post p := by
  induction h with
  | refl => exact hp.elim
  | @snoc es q e r hcourse hnext ih =>
      by_cases hq : q.Issued
      · obtain ⟨pre, name, args, post, rfl, hpost⟩ := ih hq
        exact ⟨pre, name, args, post ++ [e], by simp, hpost.snoc hnext⟩
      · -- The phase turns into an issued one with this very event.
        cases hnext with
        | other he => exact (hq hp).elim
        | ignored hentry hr => exact (hq hp).elim
        | called name args => exact hp.elim
        | issued name args => exact ⟨es, name, args, [], rfl, .refl _⟩
        | dropped hheld => cases q <;> simp_all [Phase.holders, Phase.Issued]
        | parked hr | bound c | boundLate c | fired hr | delivered | taken | expired =>
            exact (hq trivial).elim

/-- From where a call is issued, its course starts with waiting. -/
theorem Course.since_issued {pre post : List (Event n)} {name : String} {args : List Json}
    (h : Course b id .unborn (pre ++ .issued b id name args :: post) p) :
    Course b id .waiting post p := by
  obtain ⟨q, r, -, hnext, hrest⟩ := h.split_cons
  cases hnext with
  | other he => exact absurd ⟨rfl, rfl⟩ he
  | issued => exact hrest

/-- What is delivered comes from the first return, to the callback that was bound, and before the
call is given up. -/
theorem Course.delivered {before after : List (Event n)} {receiver : Option (Callback n)}
    {o : Outcome} (h : Course b id .waiting (before ++ .delivered b id receiver o :: after) p) :
    ((returnsOf b id before).head?.map Return.outcome = some o) ∧
      bindingsOf b id before = receiver.toList ∧ before.countP (Event.givesUp b id) = 0 := by
  obtain ⟨q, r, hbefore, hnext, -⟩ := h.split_cons
  have hsums := hbefore.sums
  cases hnext with
  | other he => exact absurd ⟨rfl, rfl⟩ he
  | delivered => exact ⟨hsums.outcome rfl, hsums.bindings, hsums.giveUps⟩
  | taken => exact ⟨hsums.outcome rfl, hsums.bindings, hsums.giveUps⟩

/-- What has taken a token is on record. -/
theorem Course.mem_called {name : String} {args : List Json}
    (h : Course b id .unborn es (.called name args)) : .called b id name args ∈ es := by
  generalize hlast : Phase.called name args = last at h
  induction h with
  | refl => cases hlast
  | @snoc es q e r hcourse hnext ih =>
      subst hlast
      cases hnext with
      | other he => exact List.mem_append_left _ (ih rfl)
      | ignored hentry hr => exact List.mem_append_left _ (ih rfl)
      | called => exact List.mem_append_right _ (List.mem_singleton_self _)

/-- A call that is issued has taken its token before. -/
theorem Course.called_of_issued {pre post : List (Event n)} {name : String} {args : List Json}
    (h : Course b id .unborn (pre ++ .issued b id name args :: post) p) :
    .called b id name args ∈ pre := by
  obtain ⟨q, r, hpre, hnext, -⟩ := h.split_cons
  cases hnext with
  | other he => exact absurd ⟨rfl, rfl⟩ he
  | issued => exact hpre.mem_called

/-- A token that no call has taken is unborn. -/
theorem Course.unborn_of_notMem (h : Course b id .unborn es p) (hid : id ∉ calledIds b es) :
    p = .unborn := by
  induction h with
  | refl => rfl
  | @snoc es q e r hcourse hnext ih =>
      rw [calledIds_append] at hid
      have hq := ih fun hmem => hid (List.mem_append_left _ hmem)
      subst hq
      cases hnext with
      | other he => rfl
      | ignored hentry hr => rfl
      | called name args => exact absurd (by simp [calledIds, Event.calledOf]) hid
      | dropped hheld => cases hheld

end CallBridge
