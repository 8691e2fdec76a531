import CallBridge.Proofs.Duplex.Wire
import CallBridge.Proofs.Message.RoundTrip
import Mathlib.Logic.Function.Basic

/-!
# What two peers have exchanged

Two peers expose functions that only compute. The calls that one of them has made are those that the
other has dealt with, followed by those underway; the other has run its function for each of the
former that names one, in that order; and the returns that came back, followed by those underway,
answer just these runs (`Exchange`).
-/

namespace CallBridge

/-! ## Functions that only compute -/

/-- How code ends that asks nothing of a bridge and at most leaves notes. -/
def Proc.ending? {n : Nat} : Proc n → Option Ending
  | .done e => some e
  | .note _ _ next => next.ending?
  | _ => none

def Ending.reply : Ending → Reply
  | .returned value => .ok value
  | .failed e => .error e
  | .panicked cause => .error cause.toError

/-- What the caller of a function gets that ends in this way. -/
def Ending.outcome : Ending → Outcome
  | .returned value => .ok (value.getD .null)
  | .failed e => .error (.remote e.code e.message)
  | .panicked cause => .error (.remote cause.toError.code cause.toError.message)

theorem Return.outcome_ofReply (id : CallId) (e : Ending) :
    (Return.ofReply id e.reply).outcome = e.outcome := by
  cases e <;> rfl

/-- A value that nests at most `d` arrays and objects, with integers as its only numbers. -/
def Json.Within (d : Nat) (v : Json) : Prop := v.Plain ∧ v.depth ≤ d

/-- Asks nothing of a bridge; results nest at most 126 deep for arguments that nest at most 125
deep. -/
def Exposed.Computes (f : Exposed 2) : Prop :=
  ∀ args : List Json, (∀ v ∈ args, v.Within 125) →
    ∃ e, (f.body args).ending? = some e ∧ ∀ v, e = .returned (some v) → v.Within 126

/-- Configuration and exposed functions of two peers. -/
structure Peers where
  config : Fin 2 → Config
  registry : Fin 2 → List (String × Exposed 2)

namespace Peers

def find? (P : Peers) (b : Fin 2) (name : String) : Option (Exposed 2) :=
  (P.registry b).lookup name

def exposes (P : Peers) (b : Fin 2) (c : Call) : Bool := (P.find? b c.name).isSome

/-- Errors are returned, and functions only compute. -/
structure Honest (P : Peers) : Prop where
  policy : ∀ b, (P.config b).dispatchErrors = .returnError
  computes : ∀ b name f, P.find? b name = some f → f.Computes

/-- The return with which `b` answers a call of a function that it exposes. -/
def answer (P : Peers) (b : Fin 2) (c : Call) : Return :=
  .ofReply c.id (match (P.find? b c.name).bind fun f => (f.body c.args).ending? with
    | some e => e.reply
    | none => .ok none)

theorem answer_eq (P : Peers) {b : Fin 2} {c : Call} {f : Exposed 2} {e : Ending}
    (hf : P.find? b c.name = some f) (he : (f.body c.args).ending? = some e) :
    P.answer b c = .ofReply c.id e.reply := by
  rw [answer, hf, Option.bind_some, he]

theorem id_answer (P : Peers) (b : Fin 2) (c : Call) : (P.answer b c).id = c.id := by
  rw [answer]
  cases (P.find? b c.name).bind fun f => (f.body c.args).ending? with
  | none => rfl
  | some e => cases e <;> rfl

end Peers

/-! ## Messages underway -/

/-- What a caller sees of a return. -/
def Return.gist (r : Return) : CallId × Outcome := (r.id, r.outcome)

namespace Message

def call? : Message → Option Call
  | .call c => some c
  | .ret _ => none

def ret? : Message → Option Return
  | .call _ => none
  | .ret r => some r

section Kinds

variable (c : Call) (r : Return) (rest : List Message)

@[simp] theorem calls_call : (Message.call c :: rest).filterMap call? = c :: rest.filterMap call? :=
  rfl

@[simp] theorem rets_call : (Message.call c :: rest).filterMap ret? = rest.filterMap ret? := rfl

@[simp] theorem calls_ret : (Message.ret r :: rest).filterMap call? = rest.filterMap call? := rfl

@[simp] theorem rets_ret : (Message.ret r :: rest).filterMap ret? = r :: rest.filterMap ret? := rfl

end Kinds

/-- A message that arrives as it was sent. -/
structure Sendable (m : Message) : Prop where
  token : ∃ s, m.id = .text s
  plain : m.Plain
  depth : m.toJson.depth ≤ Json.maxDepth

theorem norm_call {c : Call} (hc : (Message.call c).Sendable) :
    (Message.call c).norm = .call c := by
  obtain ⟨id, name, args⟩ := c
  obtain ⟨s, rfl⟩ := hc.token
  rfl

theorem norm_ret {r : Return} (hr : (Message.ret r).Sendable) :
    ∃ r', (Message.ret r).norm = .ret r' ∧ r'.gist = r.gist := by
  obtain ⟨id, value, error⟩ := r
  obtain ⟨s, rfl⟩ := hr.token
  refine ⟨_, rfl, ?_⟩
  cases error with
  | some e => rfl
  | none =>
      rcases value with - | v
      · rfl
      · cases v <;> rfl

end Message

theorem Message.sendable_call {s name : String} {args : List Json}
    (hargs : ∀ v ∈ args, v.Within 125) : (Message.call ⟨.text s, name, args⟩).Sendable where
  token := ⟨s, rfl⟩
  plain := ⟨trivial, fun v hv => (hargs v hv).1⟩
  depth := by
    rw [Message.depth_call]
    exact Nat.add_le_add_right (Json.depthItems_le_iff.2 fun v hv => (hargs v hv).2) 2

/-- The arguments of a call that arrives are within bounds. -/
theorem Message.Sendable.args_within {c : Call} (hc : (Message.call c).Sendable) :
    ∀ v ∈ c.args, v.Within 125 := by
  intro v hv
  refine ⟨hc.plain.2 v hv, ?_⟩
  have hdepth := hc.depth
  rw [Message.depth_call] at hdepth
  exact Json.depthItems_le_iff.1 (Nat.le_of_add_le_add_right hdepth) v hv

theorem Message.sendable_ret {s : String} {e : Ending}
    (he : ∀ v, e = .returned (some v) → v.Within 126) :
    (Message.ret (.ofReply (.text s) e.reply)).Sendable where
  token := by cases e <;> exact ⟨s, rfl⟩
  plain := by
    rcases e with ⟨- | v⟩ | e | cause
    · exact ⟨trivial, fun v hv => by cases hv⟩
    · refine ⟨trivial, fun w hw => ?_⟩
      obtain rfl := Option.some.inj hw
      exact (he _ rfl).1
    · exact ⟨trivial, fun v hv => by cases hv⟩
    · exact ⟨trivial, fun v hv => by cases hv⟩
  depth := by
    refine (Message.depth_ret (d := 126) _ fun v hv => ?_).trans (by decide)
    rcases e with ⟨- | w⟩ | e | cause
    · cases hv
    · obtain rfl := Option.some.inj hv
      exact (he _ rfl).2
    · cases hv
    · cases hv

/-! ## What is on record -/

section Record

variable {n : Nat} (b : Fin n)

def Event.callOf : Event n → Option Call
  | .called c id name args => if c = b then some ⟨id, name, args⟩ else none
  | _ => none

def Event.invocationOf : Event n → Option Call
  | .invoked c call => if c = b then some call else none
  | _ => none

def Event.handledOf : Event n → Option Return
  | .returned c r => if c = b then some r else none
  | _ => none

/-- The calls made on `b`, in order. -/
def callsMade (es : List (Event n)) : List Call := es.filterMap (Event.callOf b)

/-- The calls for which `b` has run a function. -/
def invocations (es : List (Event n)) : List Call := es.filterMap (Event.invocationOf b)

/-- The returns that `b` has handled. -/
def returnsTo (es : List (Event n)) : List Return := es.filterMap (Event.handledOf b)

variable {b} in
theorem mem_returnsTo {es : List (Event n)} {r : Return} :
    r ∈ returnsTo b es ↔ .returned b r ∈ es := by
  constructor
  · intro hr
    obtain ⟨e, he, hof⟩ := List.mem_filterMap.1 hr
    cases e with
    | returned c r' =>
        obtain ⟨rfl, hsame⟩ := Option.ite_none_right_eq_some.1 hof
        obtain rfl := Option.some.inj hsame
        exact he
    | _ => cases hof
  · exact fun hmem => List.mem_filterMap.2 ⟨_, hmem, if_pos rfl⟩

theorem filterMap_news {α : Type} {g : Event n → Option α}
    (hg : ∀ e : Event n, e.isNews = false → g e = none) (es : List (Event n)) :
    (es.filter Event.isNews).filterMap g = es.filterMap g := by
  induction es with
  | nil => rfl
  | cons e rest ih =>
      cases he : e.isNews with
      | true => rw [List.filter_cons_of_pos he, List.filterMap_cons, List.filterMap_cons, ih]
      | false =>
          rw [List.filter_cons_of_neg (by simp [he]), ih, List.filterMap_cons, hg e he]

end Record

section News

variable (b c : Fin 2) (id : CallId) (name : String) (args : List Json) (call : Call) (r : Return)

@[simp] theorem callsMade_called :
    callsMade b [.called b id name args] = [⟨id, name, args⟩] := by
  simp [callsMade, Event.callOf]

@[simp] theorem callsMade_called_other : callsMade (other b) [.called b id name args] = [] := by
  simp [callsMade, Event.callOf, (other_ne b).symm]

@[simp] theorem invocations_called : invocations c [.called b id name args] = [] := rfl

@[simp] theorem returnsTo_called : returnsTo c [.called b id name args] = [] := rfl

@[simp] theorem callsMade_invoked : callsMade c [.invoked b call] = [] := rfl

@[simp] theorem invocations_invoked : invocations b [.invoked b call] = [call] := by
  simp [invocations, Event.invocationOf]

@[simp] theorem invocations_invoked_other : invocations (other b) [.invoked b call] = [] := by
  simp [invocations, Event.invocationOf, (other_ne b).symm]

@[simp] theorem returnsTo_invoked : returnsTo c [.invoked b call] = [] := rfl

@[simp] theorem callsMade_returned : callsMade c [.returned b r] = [] := rfl

@[simp] theorem invocations_returned : invocations c [.returned b r] = [] := rfl

@[simp] theorem returnsTo_returned : returnsTo b [.returned b r] = [r] := by
  simp [returnsTo, Event.handledOf]

@[simp] theorem returnsTo_returned_other : returnsTo (other b) [.returned b r] = [] := by
  simp [returnsTo, Event.handledOf, (other_ne b).symm]

end News

namespace Host

variable {h h' : Host 2} {b : Fin 2} {frames : List String} {news : List (Event 2)}

/-- What is on record after an operation is what was, and its news. -/
theorem Adds.filterMap_trace {α : Type} {g : Event 2 → Option α}
    (hg : ∀ e : Event 2, e.isNews = false → g e = none) (hadds : Adds h h' b frames news) :
    h'.trace.filterMap g = h.trace.filterMap g ++ news.filterMap g := by
  obtain ⟨es, htrace, hnews⟩ := hadds.trace
  rw [htrace, List.filterMap_append, ← hnews, filterMap_news hg]

theorem Adds.callsMade (hadds : Adds h h' b frames news) (c : Fin 2) :
    callsMade c h'.trace = callsMade c h.trace ++ CallBridge.callsMade c news :=
  hadds.filterMap_trace fun e he => by cases e <;> first | rfl | cases he

theorem Adds.invocations (hadds : Adds h h' b frames news) (c : Fin 2) :
    invocations c h'.trace = invocations c h.trace ++ CallBridge.invocations c news :=
  hadds.filterMap_trace fun e he => by cases e <;> first | rfl | cases he

theorem Adds.returnsTo (hadds : Adds h h' b frames news) (c : Fin 2) :
    returnsTo c h'.trace = returnsTo c h.trace ++ CallBridge.returnsTo c news :=
  hadds.filterMap_trace fun e he => by cases e <;> first | rfl | cases he

end Host

/-! ## Exchange in one direction -/

/-- The calls `made` by `b`, those of them `out` and underway, those for which the other peer `ran`
a function, the returns that `b` has `got`, and those on their way `back`. -/
structure Exchange (P : Peers) (b : Fin 2) (made ran : List Call) (got : List Return)
    (out : List Call) (back : List Return) : Prop where
  within : ∀ c ∈ made, ∀ v ∈ c.args, Json.Within 125 v
  -- Calls arrive in the order in which they were made, so those dealt with come first.
  calls : ∃ dealt, made = dealt ++ out ∧ ran = dealt.filter (P.exposes (other b))
  returns : (got ++ back).map Return.gist = ran.map fun c => (P.answer (other b) c).gist

namespace Exchange

variable {P : Peers} {b : Fin 2} {made ran out : List Call} {got back : List Return} {c : Call}
  {r : Return}

theorem call (h : Exchange P b made ran got out back) (hc : ∀ v ∈ c.args, v.Within 125) :
    Exchange P b (made ++ [c]) ran got (out ++ [c]) back := by
  obtain ⟨hwithin, ⟨dealt, rfl, hran⟩, hreturns⟩ := h
  refine ⟨?_, ⟨dealt, by rw [List.append_assoc], hran⟩, hreturns⟩
  intro c' hc'
  rcases List.mem_append.1 hc' with hold | hnew
  · exact hwithin c' hold
  · rw [List.mem_singleton.1 hnew]
    exact hc

/-- The other peer takes a call, runs its function and answers. -/
theorem serve (h : Exchange P b made ran got (c :: out) back)
    (hc : P.exposes (other b) c = true) :
    Exchange P b made (ran ++ [c]) got out (back ++ [P.answer (other b) c]) := by
  obtain ⟨hwithin, ⟨dealt, rfl, rfl⟩, hreturns⟩ := h
  refine ⟨hwithin, ⟨dealt ++ [c], by simp, by simp [List.filter_append, hc]⟩, ?_⟩
  rw [← List.append_assoc, List.map_append, hreturns, List.map_append]
  rfl

/-- The other peer takes a call of a function that it does not expose. -/
theorem skip (h : Exchange P b made ran got (c :: out) back)
    (hc : P.exposes (other b) c = false) : Exchange P b made ran got out back := by
  obtain ⟨hwithin, ⟨dealt, rfl, rfl⟩, hreturns⟩ := h
  exact ⟨hwithin, ⟨dealt ++ [c], by simp, by simp [List.filter_append, hc]⟩, hreturns⟩

theorem receive {r' : Return} (h : Exchange P b made ran got out (r :: back))
    (hr : r'.gist = r.gist) : Exchange P b made ran (got ++ [r']) out back := by
  refine ⟨h.within, h.calls, ?_⟩
  rw [← h.returns]
  simp [hr]

/-- Each return that came back answers a call that the other peer ran a function for. -/
theorem exists_run (h : Exchange P b made ran got out back) (hr : r ∈ got) :
    ∃ c ∈ ran, r.id = c.id ∧ r.outcome = (P.answer (other b) c).outcome := by
  have hmem : r.gist ∈ (got ++ back).map Return.gist :=
    List.mem_map_of_mem (List.mem_append_left _ hr)
  rw [h.returns] at hmem
  obtain ⟨c, hc, hgist⟩ := List.mem_map.1 hmem
  obtain ⟨hid, houtcome⟩ := Prod.mk.inj hgist
  exact ⟨c, hc, by rw [← hid, P.id_answer], houtcome.symm⟩

/-- The runs are among the calls, in their order. -/
theorem ran_sublist (h : Exchange P b made ran got out back) : ran.Sublist made := by
  obtain ⟨dealt, rfl, rfl⟩ := h.calls
  exact List.filter_sublist.trans (List.sublist_append_left _ _)

/-- The other peer runs functions only for calls that were made, and of functions it exposes. -/
theorem of_mem_ran (h : Exchange P b made ran got out back) (hc : c ∈ ran) :
    c ∈ made ∧ P.exposes (other b) c = true := by
  obtain ⟨dealt, rfl, rfl⟩ := h.calls
  obtain ⟨hdealt, hexposes⟩ := List.mem_filter.1 hc
  exact ⟨List.mem_append_left _ hdealt, hexposes⟩

/-- With nothing underway, every call of an exposed function has had its return. -/
theorem exists_return (h : Exchange P b made ran got [] []) (hc : c ∈ made)
    (hexposes : P.exposes (other b) c = true) :
    ∃ r ∈ got, r.id = c.id := by
  obtain ⟨dealt, rfl, rfl⟩ := h.calls
  rw [List.append_nil] at hc
  have hmem : (P.answer (other b) c).gist ∈ (got ++ []).map Return.gist := by
    rw [h.returns]
    exact List.mem_map.2 ⟨c, List.mem_filter.2 ⟨hc, hexposes⟩, rfl⟩
  rw [List.append_nil] at hmem
  obtain ⟨r, hr, hgist⟩ := List.mem_map.1 hmem
  exact ⟨r, hr, by rw [(Prod.mk.inj hgist).1, P.id_answer]⟩

end Exchange

end CallBridge
