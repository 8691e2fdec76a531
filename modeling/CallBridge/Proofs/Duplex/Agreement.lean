import CallBridge.Proofs.Duplex.Books
import CallBridge.Proofs.Keyed
import CallBridge.Proofs.Session.Orderly

/-!
# Agreement of two peers

A session with two peers that are joined by a line in each direction makes calls on either side,
opens them, lets them handle the next frame, and binds, polls and drops the calls it holds, in any
order. Whenever a call completes, the other peer has run its function of that name, once for that
call and with its arguments, and the outcome is what the function returned.
-/

namespace CallBridge

/-! ## What the session does -/

/-- One thing that a session does with two peers. -/
inductive Action where
  | call (b : Fin 2) (function : String) (args : List Json) (name : String)
  /-- Opens a peer with its line. -/
  | connect (b : Fin 2)
  /-- A peer takes the next frame of the other, if there is one, and handles it. -/
  | deliver (b : Fin 2)
  | attach (name : String) (c : Callback 2)
  | future (name : String)
  | poll (name : String)
  | drop (name : String)
  | advance (ms : Nat)

/-- Arguments can be sent, and callbacks are tame. -/
def Action.Tame : Action → Prop
  | .call _ _ args _ => ∀ v ∈ args, v.Within 125
  | .attach _ c => c.Tame
  | _ => True

namespace Session

def act [Limits] (s : Session 2) : Action → Session 2
  | .call b function args name => (s.step (.call b function args name)).1
  | .connect b => (s.openBridge b (openLine b)).1
  | .deliver b => (s.step (.pump b (some 1))).1
  | .attach name c => (s.step (.attach name c)).1
  | .future name => (s.step (.future name)).1
  | .poll name => (s.step (.poll name)).1
  | .drop name => (s.step (.drop name)).1
  | .advance ms => (s.step (.advance ms)).1

def acts [Limits] (s : Session 2) (actions : List Action) : Session 2 := actions.foldl act s

/-- Two peers before anything has happened: no calls, both connecting, a line from each to the
other. -/
structure Opposite (P : Peers) (s : Session 2) : Prop where
  fresh : s.Fresh
  config : ∀ b, (s.host.bridge b).config = P.config b
  registry : ∀ b, (s.host.bridge b).registry = P.registry b
  outbound : ∀ b, (s.host.bridge b).outbound = .connecting []
  lines : ∀ b : Fin 2, s.host.line b = {}
  inbound : ∀ b, (s.endpoint b).inbound = some (other b : Nat)

/-- Two peers that are about to be joined, with tokens of these epochs. -/
def pair (P : Peers) (epoch : Fin 2 → Nat) : Session 2 where
  host :=
    { bridges := .ofFn fun b =>
        { config := P.config b, tokens := { epoch := epoch b }, registry := P.registry b }
      lines := [{}, {}] }
  endpoints := .ofFn fun b => { inbound := some (other b : Nat) }

theorem opposite_pair (P : Peers) (epoch : Fin 2 → Nat) : (pair P epoch).Opposite P where
  fresh :=
    { host :=
        { trace := rfl
          issued := fun b => by simp [pair, Host.bridge]
          pending := fun b => by simp [pair, Host.bridge]
          arrived := fun b => by simp [pair, Host.bridge] }
      handles := rfl }
  config b := by simp [pair, Host.bridge]
  registry b := by simp [pair, Host.bridge]
  outbound b := by simp [pair, Host.bridge]
  lines
    | 0 => rfl
    | 1 => rfl
  inbound b := by simp [pair, endpoint]

theorem moves_act [Limits] (s : Session 2) (a : Action) : Moves s (s.act a) := by
  cases a with
  | connect b => exact moves_openBridge s b _
  | call b function args name => exact moves_step s _
  | deliver b => exact moves_step s _
  | attach name c => exact moves_step s _
  | future name | poll name | drop name => exact moves_step s _
  | advance ms => exact moves_step s _

theorem moves_acts [Limits] (actions : List Action) :
    ∀ s : Session 2, Moves s (s.acts actions) := by
  induction actions with
  | nil => exact fun s => .refl s
  | cons a rest ih => exact fun s => (moves_act s a).trans (ih _)

/-! ## Books of the session -/

/-- The books agree, and each peer still has the line of the other. -/
structure Balanced (P : Peers) (s : Session 2) : Prop where
  duplex : Duplex P s.host
  inbound : ∀ b, (s.endpoint b).inbound = some (other b : Nat)

variable {P : Peers} {s : Session 2}

theorem Opposite.balanced (hs : s.Opposite P) : s.Balanced P where
  inbound := hs.inbound
  duplex := by
    refine ⟨⟨fun _ => [], ⟨⟨?_, ?_⟩, hs.config, hs.registry, ?_, ?_⟩, ?_⟩, ?_⟩
    · intro b
      rw [hs.lines]
    · exact fun b => .inl ⟨[], hs.outbound b⟩
    · intro b
      rw [Host.underway, hs.lines, hs.outbound]
      rfl
    · intro b m hm
      cases hm
    · intro b
      rw [hs.fresh.host.trace]
      exact ⟨fun c hc => (by cases hc), ⟨[], rfl, rfl⟩, rfl⟩
    · intro b p hp
      rw [hs.fresh.host.pending] at hp
      cases hp

/-- Only the host changes, and its books agree. -/
theorem Balanced.of_host {t : Session 2} (hs : s.Balanced P) (hhost : Duplex P t.host)
    (hends : t.endpoints = s.endpoints) : t.Balanced P where
  duplex := hhost
  inbound b := by
    rw [endpoint, hends]
    exact hs.inbound b

end Session

variable {P : Peers} {h : Host 2}

theorem Duplex.giveUp (id : CallId) {r : Host 2 × Bool} (hd : Duplex P r.1) :
    Duplex P (Session.giveUp id r) := by
  obtain ⟨h, present⟩ := r
  cases present with
  | true => exact hd.emit rfl
  | false => exact hd

theorem Duplex.discard (hd : Duplex P h) (x : Handle 2) : Duplex P (Session.discard h x) := by
  cases x with
  | binder b id => exact hd.release b id rfl
  | future b id started => exact Duplex.giveUp id (hd.release b id rfl)

theorem Duplex.takeAside (hd : Duplex P h) (b : Fin 2) (id : CallId) :
    Duplex P (h.update b fun x => x.takeAside id) := by
  refine hd.still (hd.joined.still_update b (fun _ => rfl) (fun _ => rfl) fun _ => rfl) ?_
  exact hd.callbacks.update b fun _ hx => hx

theorem Duplex.bind [Limits] (hd : Duplex P h) (b : Fin 2) (id : CallId) {c : Callback 2}
    (hc : c.Tame) : Duplex P (h.bind b id c) := by
  have hbound : Duplex P (h.emit (.bound b id c)) := hd.emit rfl
  rw [Host.bind]
  split
  · exact hd.bindPending b id hc
  · split
    · exact (hbound.takeAside b id).runCallback _ hc b id _
    · exact hbound

theorem Duplex.pollFuture (hd : Duplex P h) (b : Fin 2) (id : CallId) (started now : Nat) :
    Duplex P (Session.pollFuture h b id started now).1 := by
  rw [Session.pollFuture, Host.takeOutcome]
  cases (h.bridge b).arrived? id with
  | some o => exact (hd.takeAside b id).emit rfl
  | none =>
      dsimp only
      split
      · next ms hlimit =>
          split
          · have hlogged : Duplex P (h.log .warn Host.binderTarget
                ("remote call timed out after " ++ Duration.describeMillis ms)
                [Host.idField id]) := hd.emit rfl
            exact Duplex.giveUp id (hlogged.release b id rfl)
          · exact hd
      · exact hd

namespace Session

variable {s : Session 2}

theorem Balanced.call (hs : s.Balanced P) (b : Fin 2) (function : String) {args : List Json}
    (hargs : ∀ v ∈ args, v.Within 125) (name : String) :
    (s.call b function args name).1.Balanced P := by
  obtain ⟨h', id, hcall, hd⟩ := hs.duplex.call b function hargs
  rw [Session.call, hcall]
  simp only [keep]
  split
  · exact hs.of_host (hd.discard _) rfl
  · exact hs.of_host hd rfl

theorem Balanced.deliver [Limits] (hP : P.Honest) (hs : s.Balanced P) (b : Fin 2) :
    (s.pump b 1).1.Balanced P := by
  rw [pump, hs.inbound b]
  refine hs.of_host ?_ rfl
  simp only [pumpLine]
  cases hpop : s.host.popLine (other b) with
  | mk h' frame =>
      cases frame with
      | none =>
          rcases hs.duplex.joined.popLine (other b) with hnone | ⟨_, _, _, hsome, -⟩
          · rw [hnone] at hpop
            obtain ⟨rfl, -⟩ := Prod.mk.inj hpop
            exact hs.duplex
          · rw [hsome] at hpop
            simp at hpop
      | some frame => exact hs.duplex.handle hP hpop

theorem Balanced.withHandle {name : String} {f : Handle 2 → Session 2 × Answer}
    (hs : s.Balanced P) (hf : ∀ x, (f x).1.Balanced P) : (s.withHandle name f).1.Balanced P := by
  rw [Session.withHandle]
  split
  · exact hf _
  · exact hs

/-- Whatever the session does, the books agree. -/
theorem Balanced.act [Limits] (hP : P.Honest) (hs : s.Balanced P) {a : Action} (ha : a.Tame) :
    (s.act a).Balanced P := by
  cases a with
  | call b function args name =>
      rw [Session.act, step, withBridge]
      split
      · exact hs.call b function ha name
      · exact hs
  | connect b => exact hs.of_host (hs.duplex.openWith b) rfl
  | deliver b =>
      rw [Session.act, step, withBridge]
      split
      · exact hs.deliver hP b
      · exact hs
  | attach name c =>
      refine hs.withHandle fun x => ?_
      cases x with
      | future b id started => exact hs
      | binder b id =>
          dsimp only
          split
          · exact hs.of_host (hs.duplex.bind b id ha) rfl
          · exact hs
  | future name =>
      refine hs.withHandle fun x => ?_
      cases x with
      | binder b id => exact hs.of_host hs.duplex rfl
      | future b id started => exact hs
  | poll name =>
      have hgo : ∀ b id started, (poll.go s name b id started).1.Balanced P := by
        intro b id started
        have hpoll := hs.duplex.pollFuture b id started s.clock
        rw [poll.go]
        split <;> rename_i heq <;> rw [heq] at hpoll
        · exact hs.of_host hpoll rfl
        · exact hs.of_host hpoll rfl
      refine hs.withHandle fun x => ?_
      cases x with
      | binder b id => exact hgo _ _ _
      | future b id started => exact hgo _ _ _
  | drop name => exact hs.withHandle fun x => hs.of_host (hs.duplex.discard x) rfl
  | advance ms => exact hs.of_host hs.duplex rfl

theorem Balanced.acts [Limits] (hP : P.Honest) (actions : List Action)
    (hactions : ∀ a ∈ actions, a.Tame) :
    ∀ s : Session 2, s.Balanced P → (s.acts actions).Balanced P := by
  induction actions with
  | nil => exact fun s hs => hs
  | cons a rest ih =>
      intro s hs
      exact ih (fun a' ha' => hactions a' (List.mem_cons_of_mem a ha')) _
        (hs.act hP (hactions a List.mem_cons_self))

end Session

/-! ## Calls and their tokens -/

theorem map_id_callsMade {n : Nat} (b : Fin n) (es : List (Event n)) :
    (callsMade b es).map Call.id = calledIds b es := by
  rw [callsMade, calledIds, List.map_filterMap]
  congr 1
  funext e
  cases e with
  | called c id name args =>
      simp only [Event.callOf, Event.calledOf]
      split <;> rfl
  | _ => rfl

theorem mem_callsMade {n : Nat} {b : Fin n} {id : CallId} {name : String} {args : List Json}
    {es : List (Event n)} (hmem : .called b id name args ∈ es) :
    ⟨id, name, args⟩ ∈ callsMade b es :=
  List.mem_filterMap.2 ⟨_, hmem, if_pos rfl⟩

/-- Among calls with distinct tokens, one token stands for one call. -/
theorem filter_id_eq {l : List Call} (hnodup : (l.map Call.id).Nodup) {c : Call} (hc : c ∈ l) :
    l.filter (fun x => x.id = c.id) = [c] := by
  induction l with
  | nil => cases hc
  | cons x rest ih =>
      rw [List.map_cons, List.nodup_cons] at hnodup
      rcases List.mem_cons.1 hc with rfl | hrest
      · have hnone : rest.filter (fun x => x.id = c.id) = [] := by
          refine List.filter_eq_nil_iff.2 fun y hy => ?_
          have hne : y.id ≠ c.id := fun heq => hnodup.1 (List.mem_map.2 ⟨y, hy, heq⟩)
          simpa using hne
        rw [List.filter_cons_of_pos (by simp), hnone]
      · have hne : x.id ≠ c.id := fun heq => hnodup.1 (List.mem_map.2 ⟨c, hrest, heq.symm⟩)
        rw [List.filter_cons_of_neg (by simpa using hne)]
        exact ih hnodup.2 hrest

/-- Peer `b` exposes a function of exactly that name, has run it exactly once for the call, with
exactly its arguments, and the outcome is that of the function. -/
def Peers.Served (P : Peers) (b : Fin 2) (trace : List (Event 2)) (c : Call) (o : Outcome) : Prop :=
  ∃ f e, P.find? b c.name = some f ∧ (invocations b trace).filter (fun x => x.id = c.id) = [c] ∧
    (f.body c.args).ending? = some e ∧ o = e.outcome

/-- A call that has had its return was served. -/
theorem Exchange.served {trace : List (Event 2)} {b : Fin 2} {got : List Return} {out : List Call}
    {back : List Return} (hexchange : Exchange P b (callsMade b trace) (invocations (other b) trace)
      got out back)
    (hP : P.Honest) (hnodup : ((callsMade b trace).map Call.id).Nodup) {c : Call}
    (hmade : c ∈ callsMade b trace) {r : Return} (hgot : r ∈ got) (hid : r.id = c.id) :
    P.Served (other b) trace c r.outcome := by
  obtain ⟨c', hran, hcid, houtcome⟩ := hexchange.exists_run hgot
  obtain ⟨hmade', hexposes⟩ := hexchange.of_mem_ran hran
  obtain rfl : c' = c := List.inj_on_of_nodup_map hnodup hmade' hmade (hcid.symm.trans hid)
  obtain ⟨f, hf⟩ := Option.isSome_iff_exists.1 hexposes
  obtain ⟨e, he, -⟩ := hP.computes (other b) c'.name f hf c'.args (hexchange.within _ hmade)
  refine ⟨f, e, hf, ?_, he, ?_⟩
  · exact filter_id_eq (hnodup.sublist (hexchange.ran_sublist.map _)) hran
  · rw [houtcome, P.answer_eq hf he, Return.outcome_ofReply]

namespace Session

/-- **Two peers agree.** Each of two peers exposes functions that only compute, and returns errors.
Whatever a session does with them, in whatever order, and whether or not their tokens coincide:
if a call that one of them issued is completed, then the other has served it, and the outcome is
that of the function, both in the return and in what reaches a callback or a future. And when
nothing is underway, every call of an exposed function has had its return. -/
theorem peers_agree [Limits] {P : Peers} (hP : P.Honest) {s : Session 2} (hs : s.Opposite P)
    (actions : List Action) (hactions : ∀ a ∈ actions, a.Tame)
    (hcalls : ∀ b, calls b (s.acts actions).host.trace < 2 ^ 64) {b : Fin 2} {id : CallId}
    {name : String} {args : List Json} {pre post : List (Event 2)}
    (hissued : (s.acts actions).host.trace = pre ++ .issued b id name args :: post) :
    let h := (s.acts actions).host
    (∀ r, .returned b r ∈ h.trace → r.id = id →
      P.Served (other b) h.trace ⟨id, name, args⟩ r.outcome) ∧
    (∀ receiver o, .delivered b id receiver o ∈ post →
      P.Served (other b) h.trace ⟨id, name, args⟩ o) ∧
    ((∀ c, h.underway c = []) → (P.find? (other b) name).isSome →
      ∃ r, .returned b r ∈ h.trace ∧ r.id = id) := by
  intro h
  have hbalanced : (s.acts actions).Balanced P := Balanced.acts hP actions hactions s hs.balanced
  obtain ⟨hnumbered, hfollowed⟩ : Orderly (h, (s.acts actions).held) :=
    (moves_acts actions s hs.fresh.namesDistinct).2.keep Turn.orderly hs.fresh.orderly
  obtain ⟨p, hcourse, -⟩ := hfollowed (fun b => (hcalls b).le) b id
  rw [hissued] at hcourse
  obtain ⟨ms, hcarries, hexchanges⟩ := hbalanced.duplex.books
  have hexchange := hexchanges b
  -- Tokens of the other peer may be the same, but its calls are in other books.
  have hnodup : ((callsMade b h.trace).map Call.id).Nodup := by
    rw [map_id_callsMade]
    exact hnumbered.nodup_calledIds (hcalls b).le
  have hmade : ⟨id, name, args⟩ ∈ callsMade b h.trace := by
    refine mem_callsMade ?_
    rw [hissued]
    exact List.mem_append_left _ hcourse.called_of_issued
  have hserved : ∀ r, .returned b r ∈ h.trace → r.id = id →
      P.Served (other b) h.trace ⟨id, name, args⟩ r.outcome :=
    fun r hr hid => hexchange.served hP hnodup hmade (mem_returnsTo.2 hr) hid
  refine ⟨hserved, ?_, ?_⟩
  · intro receiver o hdelivered
    -- The course of the call leads from what was delivered back to the return that brought it.
    obtain ⟨before, after, rfl⟩ := List.append_of_mem hdelivered
    obtain ⟨r, hfirst, rfl⟩ := Option.map_eq_some_iff.1 hcourse.since_issued.delivered.1
    obtain ⟨e, he, hreturn⟩ := List.mem_filterMap.1 (List.mem_of_head? hfirst)
    obtain ⟨rfl, hid⟩ := Event.returnOf_eq_some.1 hreturn
    refine hserved r ?_ hid
    rw [hissued]
    simp [he]
  · intro hempty hexposed
    have hnone : ∀ c, ms c = [] := by
      intro c
      have hframes := hcarries.frames c
      rw [hempty] at hframes
      exact List.map_eq_nil_iff.1 hframes.symm
    rw [hnone, hnone] at hexchange
    obtain ⟨r, hgot, hid⟩ := hexchange.exists_return hmade hexposed
    exact ⟨r, mem_returnsTo.1 hgot, hid⟩

/-- Both peers call each other with the same token. -/
theorem peers_agree_same_token :
    let echo : Exposed 2 := ⟨fun args => .done (.returned args.head?), []⟩
    let P : Peers := ⟨fun _ => {}, fun _ => [("echo", echo)]⟩
    let s := pair P fun _ => 0
    let actions : List Action := [.call 0 "echo" [.bool true] "x", .call 1 "echo" [] "y",
      .connect 0, .connect 1, .deliver 1, .deliver 0, .deliver 0, .deliver 1, .future "x",
      .poll "x"]
    let es := (s.acts actions).host.trace
    let id : CallId := .text "0.0"
    calledIds 0 es = [id] ∧ calledIds 1 es = [id] ∧
      ∃ pre name args post receiver o, es = pre ++ .issued 0 id name args :: post ∧
        .delivered 0 id receiver o ∈ post ∧ P.Served 1 es ⟨id, name, args⟩ o ∧
        ∃ r, .returned 0 r ∈ es ∧ r.id = id := by
  intro echo P s actions es id
  have hhonest : P.Honest := by
    refine ⟨fun _ => rfl, fun b name f hf args hargs => ⟨.returned args.head?, ?_, ?_⟩⟩
    · have hmem : (name, f) ∈ [("echo", echo)] := Keyed.mem_of_lookup hf
      obtain ⟨-, rfl⟩ := Prod.mk.inj (List.mem_singleton.1 hmem)
      rfl
    · intro v hv
      have hhead : args.head? = some v := by injection hv
      obtain ⟨hplain, hdepth⟩ := hargs v (List.mem_of_head? hhead)
      exact ⟨hplain, by omega⟩
  have htame : ∀ a ∈ actions, a.Tame := by
    simp [actions, Action.Tame, Json.Within, Json.Plain, Json.Integral, Json.Canonical, Json.depth]
  have hs : s.Opposite P := opposite_pair P _
  have hcalls : ∀ b, calls b es < 2 ^ 64 := by decide +kernel
  have htokens : calledIds 0 es = [id] ∧ calledIds 1 es = [id] := by decide +kernel
  have hfourth : es[3]?.bind (Event.issuedOf 0) = some id := by decide +kernel
  have hdeliveries : (deliveriesOf 0 id (es.drop 4)).length = 1 := by decide +kernel
  have hempty : ∀ c, (s.acts actions).host.underway c = [] := by decide +kernel
  obtain ⟨e, he, hissuedOf⟩ := Option.bind_eq_some_iff.1 hfourth
  obtain ⟨name, args, rfl⟩ := Event.issuedOf_eq_some.1 hissuedOf
  have hissued : es = es.take 3 ++ .issued 0 id name args :: es.drop 4 := by
    obtain ⟨hlt, hget⟩ := List.getElem?_eq_some_iff.1 he
    rw [← hget, ← List.drop_eq_getElem_cons hlt, List.take_append_drop]
  obtain ⟨⟨receiver, o⟩, hd⟩ := List.length_eq_one_iff.1 hdeliveries
  have hdelivered : .delivered 0 id receiver o ∈ es.drop 4 := by
    have hmem : (receiver, o) ∈ deliveriesOf 0 id (es.drop 4) := by simp [hd]
    obtain ⟨e, he, hdelivery⟩ := List.mem_filterMap.1 hmem
    rwa [Event.deliveryOf_eq_some.1 hdelivery] at he
  obtain ⟨-, hdone, hanswered⟩ := peers_agree hhonest hs actions htame hcalls hissued
  obtain ⟨f, -, hf, -⟩ := hdone receiver o hdelivered
  exact ⟨htokens.1, htokens.2, _, name, args, _, receiver, o, hissued, hdelivered,
    hdone receiver o hdelivered, hanswered hempty (Option.isSome_of_eq_some hf)⟩

end Session

end CallBridge
