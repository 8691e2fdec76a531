import CallBridge.Proofs.Bridge.Course
import Mathlib.Data.Multiset.Count

/-!
# Every call is followed

At every moment each token of each bridge is in some phase that the trace leads to and that agrees
with the two tables and with who holds the call (`Followed`). One turn keeps this as long as the
count of calls lasts (`Turn.followed`). When and with what a call completes is then a matter of its
phase alone.
-/

namespace CallBridge

variable {n : Nat} {b : Fin n} {id : CallId} {p : Phase n} {es : List (Event n)}

/-- The tables of a host and the calls that are held agree with the phase of a call. -/
structure Phase.Fits (p : Phase n) (a : Host n × Custody n) (b : Fin n) (id : CallId) : Prop where
  rest : p.AtRest
  pending : (a.1.bridge b).pending? id = p.entry
  arrived : (a.1.bridge b).arrived? id = p.aside
  custody : a.2.count (b, id) = p.holders

/-- Every call is in a phase that its course leads to. -/
def Followed (a : Host n × Custody n) : Prop :=
  ∀ b id, ∃ p, Course b id .unborn a.1.trace p ∧ p.Fits a b id

/-- The entries of a call in both tables are the same in both hosts. -/
def Host.SameEntries (h h' : Host n) (b : Fin n) (id : CallId) : Prop :=
  (h'.bridge b).pending? id = (h.bridge b).pending? id ∧
    (h'.bridge b).arrived? id = (h.bridge b).arrived? id

/-- An update that is about `k` on `d` only changes no entry of another call. -/
theorem Host.sameEntries_update (h : Host n) {d : Fin n} {k : CallId} {f : Bridge n → Bridge n}
    (hf : ∀ x j, j ≠ k → (f x).pending? j = x.pending? j ∧ (f x).arrived? j = x.arrived? j)
    (hother : ¬ (d = b ∧ k = id)) : h.SameEntries (h.update d f) b id := by
  rw [SameEntries, bridge_update]
  split
  · next hb =>
      subst hb
      exact hf _ _ fun hk => hother ⟨rfl, hk.symm⟩
  · exact ⟨rfl, rfl⟩

theorem Host.SameEntries.trans {h₁ h₂ h₃ : Host n} (h₁₂ : SameEntries h₁ h₂ b id)
    (h₂₃ : SameEntries h₂ h₃ b id) : SameEntries h₁ h₃ b id :=
  ⟨h₂₃.1.trans h₁₂.1, h₂₃.2.trans h₁₂.2⟩

/-- A call that nothing is said about stays in its phase. -/
theorem Followed.other {h h' : Host n} {m m' : Custody n} (ha : Followed (h, m))
    (htrace : h'.trace = h.trace ++ es) (hes : ∀ e ∈ es, ¬ e.Concerns b id)
    (hentries : h.SameEntries h' b id) (hcustody : m'.count (b, id) = m.count (b, id)) :
    ∃ p, Course b id .unborn h'.trace p ∧ p.Fits (h', m') b id := by
  obtain ⟨p, hcourse, hfits⟩ := ha b id
  refine ⟨p, ?_, hfits.rest, ?_, ?_, ?_⟩
  · rw [htrace]
    exact hcourse.others hes
  · exact hentries.1.trans hfits.pending
  · exact hentries.2.trans hfits.arrived
  · exact hcustody.trans hfits.custody

/-- A call that is held is held once, and waits or has its outcome put aside. -/
theorem Phase.Fits.held {h : Host n} {m : Custody n} (hfits : p.Fits (h, (b, id) ::ₘ m) b id) :
    m.count (b, id) = 0 ∧ (p = .waiting ∨ ∃ o, p = .parked o) := by
  have hcustody := hfits.custody
  rw [Multiset.count_cons_self] at hcustody
  cases p <;> simp_all [Phase.holders]

theorem count_cons_other {m : Custody n} {d : Fin n} {k : CallId} (hother : ¬ (d = b ∧ k = id)) :
    ((d, k) ::ₘ m).count (b, id) = m.count (b, id) := by
  refine Multiset.count_cons_of_ne (fun heq => hother ?_) m
  exact ⟨(congrArg Prod.fst heq).symm, (congrArg Prod.snd heq).symm⟩

theorem Host.Calm.sameEntries {h h' : Host n} (hcalm : Calm h h') (b : Fin n) (id : CallId) :
    h.SameEntries h' b id := by
  refine ⟨?_, ?_⟩
  · rw [Bridge.pending?, Bridge.pending?, hcalm.pending]
  · rw [Bridge.arrived?, Bridge.arrived?, hcalm.arrived]

theorem Quiet.followed {h h' : Host n} {m : Custody n} (hquiet : Quiet h h')
    (ha : Followed (h, m)) : Followed (h', m) := by
  intro b id
  obtain ⟨es, hidle, htrace⟩ := hquiet.calm.trace
  exact ha.other htrace (fun e he => (hidle e he).not_concerns b id)
    (hquiet.calm.sameEntries b id) rfl

/-- What the tables have of a call that is held: an entry before its first return, and the outcome
of that return afterwards. -/
theorem Followed.held_entries {h : Host n} {m : Custody n} (ha : Followed (h, (b, id) ::ₘ m))
    {pre post : List (Event n)} {name : String} {args : List Json}
    (htrace : h.trace = pre ++ .issued b id name args :: post) :
    ((returnsOf b id post).head? = none ∧ (h.bridge b).pending? id = some .waiting ∧
        (h.bridge b).arrived? id = none) ∨
      ∃ r, (returnsOf b id post).head? = some r ∧ (h.bridge b).pending? id = none ∧
        (h.bridge b).arrived? id = some r.outcome := by
  obtain ⟨p, hcourse, hfits⟩ := ha b id
  rw [htrace] at hcourse
  have hsums := hcourse.since_issued.sums
  obtain ⟨-, rfl | ⟨o, rfl⟩⟩ := hfits.held
  · have houtcome : (returnsOf b id post).head?.map Return.outcome = none := hsums.outcome rfl
    exact .inl ⟨Option.map_eq_none_iff.1 houtcome, hfits.pending, hfits.arrived⟩
  · obtain ⟨r, hfirst, rfl⟩ := Option.map_eq_some_iff.1 (hsums.outcome rfl)
    exact .inr ⟨r, hfirst, hfits.pending, hfits.arrived⟩

/-! ## Calls -/

section Calls

variable {h h' sent : Host n} {m : Custody n} {d : Fin n} {name : String} {args : List Json}

/-- While the count lasts, the next token is unborn. -/
theorem Followed.peek_unborn (ha : Followed (h, m)) (hnum : h.Numbered)
    (hcalls : calls d h.trace < 2 ^ 64) :
    Course d (h.bridge d).tokens.peek .unborn h.trace .unborn ∧
      Phase.unborn.Fits (h, m) d (h.bridge d).tokens.peek := by
  obtain ⟨p, hcourse, hfits⟩ := ha d (h.bridge d).tokens.peek
  obtain rfl := hcourse.unborn_of_notMem (hnum.peek_notMem hcalls)
  exact ⟨hcourse, hfits⟩

theorem Host.sameEntries_entered (hother : ¬ (d = b ∧ (h.bridge d).tokens.peek = id)) :
    h.SameEntries (h.entered d name args) b id := by
  have hupdate : h.SameEntries (h.update d fun x =>
      { x with tokens := x.tokens.advance }.enlist (h.bridge d).tokens.peek .waiting) b id := by
    refine h.sameEntries_update ?_ hother
    intro x j hj
    refine ⟨?_, rfl⟩
    rw [Bridge.pending?_enlist, if_neg hj]
    rfl
  exact hupdate

/-- The course of a new call up to where its frame has been sent. -/
theorem Followed.course_sent (ha : Followed (h, m)) (hnum : h.Numbered)
    (hcalls : calls d h.trace < 2 ^ 64) (hcalm : Host.Calm (h.entered d name args) sent) :
    Course d (h.bridge d).tokens.peek .unborn sent.trace (.called name args) := by
  obtain ⟨es, hidle, htrace⟩ := hcalm.trace
  rw [htrace]
  refine ((ha.peek_unborn hnum hcalls).1.snoc (.called name args)).others ?_
  exact fun e he => (hidle e he).not_concerns _ _

/-- The other calls while a new one is made. -/
theorem Host.Calm.other_sent (hcalm : Host.Calm (h.entered d name args) sent)
    (hother : ¬ (d = b ∧ (h.bridge d).tokens.peek = id)) :
    (∃ es, sent.trace = h.trace ++ es ∧ ∀ e ∈ es, ¬ e.Concerns b id) ∧
      h.SameEntries sent b id := by
  obtain ⟨es, hidle, htrace⟩ := hcalm.trace
  refine ⟨⟨.called d (h.bridge d).tokens.peek name args :: es, ?_, ?_⟩, ?_⟩
  · rw [htrace, Host.entered, Host.trace_emit, Host.trace_update]
    simp
  · intro e he
    rcases List.mem_cons.1 he with rfl | he
    · exact hother
    · exact (hidle e he).not_concerns b id
  · exact (Host.sameEntries_entered hother).trans (hcalm.sameEntries b id)

theorem Followed.called {k : CallId} (ha : Followed (h, m)) (hnum : h.Numbered)
    (hcalls : calls d h.trace < 2 ^ 64) (hcall : h.call d name args = (h', .ok k)) :
    Followed (h', (d, k) ::ₘ m) := by
  obtain ⟨rfl, sent, hcalm, rfl⟩ := Host.call_ok hcall
  intro b id
  -- The token was unborn before, so its course is what this call adds; no other call is touched.
  by_cases hsame : d = b ∧ (h.bridge d).tokens.peek = id
  · obtain ⟨rfl, rfl⟩ := hsame
    obtain ⟨-, hfits⟩ := ha.peek_unborn hnum hcalls
    refine ⟨.waiting, (ha.course_sent hnum hcalls hcalm).snoc (.issued name args), trivial, ?_, ?_,
      ?_⟩
    · exact Host.pending?_call hcall
    · rw [Host.bridge_emit, Bridge.arrived?, hcalm.arrived, Host.entered, Host.bridge_emit,
        Host.bridge_update_self]
      exact hfits.arrived
    · rw [Multiset.count_cons_self, hfits.custody]
      rfl
  · obtain ⟨⟨es, htrace, hes⟩, hentries⟩ := hcalm.other_sent hsame
    have htrace' : (sent.emit (.issued d (h.bridge d).tokens.peek name args)).trace
        = h.trace ++ (es ++ [.issued d (h.bridge d).tokens.peek name args]) := by
      rw [Host.trace_emit, htrace, List.append_assoc]
    refine ha.other htrace' ?_ hentries ?_
    · intro e he
      rcases List.mem_append.1 he with he | he
      · exact hes e he
      · rw [List.mem_singleton.1 he]
        exact hsame
    · exact count_cons_other hsame

theorem Followed.refused {e : BridgeError} (ha : Followed (h, m)) (hnum : h.Numbered)
    (hcalls : calls d h.trace < 2 ^ 64) (hcall : h.call d name args = (h', .error e)) :
    Followed (h', m) := by
  obtain ⟨sent, hcalm, rfl⟩ := Host.call_error hcall
  intro b id
  by_cases hsame : d = b ∧ (h.bridge d).tokens.peek = id
  · obtain ⟨rfl, rfl⟩ := hsame
    obtain ⟨-, hfits⟩ := ha.peek_unborn hnum hcalls
    have hcourse : Course d (h.bridge d).tokens.peek .unborn sent.trace (.called name args) :=
      ha.course_sent hnum hcalls hcalm
    refine ⟨.called name args, hcourse, trivial, ?_, ?_, hfits.custody⟩
    · rw [Host.cancel, Host.bridge_update_self, Bridge.pending?_unlist, if_pos rfl]
      rfl
    · have harrived := hfits.arrived
      simp only [Host.cancel, Host.bridge_update_self]
      change (sent.bridge d).arrived.lookup _ = _
      rw [hcalm.arrived, Host.entered, Host.bridge_emit, Host.bridge_update_self]
      exact harrived
  · obtain ⟨⟨es, htrace, hes⟩, hentries⟩ := hcalm.other_sent hsame
    refine ha.other htrace hes (hentries.trans ?_) rfl
    refine sent.sameEntries_update (k := (h.bridge d).tokens.peek) ?_ hsame
    exact fun x j hj => ⟨by rw [Bridge.pending?_unlist, if_neg hj], rfl⟩

end Calls

/-! ## What is done with a call -/

section Ends

variable {h : Host n} {m : Custody n} {d : Fin n} {k : CallId}

theorem Followed.bound {c : Callback n} (ha : Followed (h, (d, k) ::ₘ m))
    (hpending : (h.bridge d).pending? k ≠ none) : Followed (h.bindPending d k c, m) := by
  intro b id
  by_cases hsame : d = b ∧ k = id
  · obtain ⟨rfl, rfl⟩ := hsame
    obtain ⟨p, hcourse, hfits⟩ := ha d k
    obtain ⟨hcount, rfl | ⟨o, rfl⟩⟩ := hfits.held
    · refine ⟨.bound c, hcourse.snoc (.bound c), trivial, ?_, ?_, hcount⟩
      · have hentry : (h.bridge d).pending.lookup k = _ := hfits.pending
        simp [Host.bindPending, Bridge.pending?, Bridge.lookup_map_callback, hentry, Phase.entry]
      · simp only [Host.bindPending, Host.bridge_emit, Host.bridge_update_self]
        exact hfits.arrived
    · -- An outcome put aside has no entry any more.
      exact absurd hfits.pending hpending
  · have htrace : (h.bindPending d k c).trace = h.trace ++ [.bound d k c] := rfl
    refine ha.other htrace ?_ ?_ (count_cons_other hsame).symm
    · simpa [Event.Concerns] using hsame
    · have hupdate : h.SameEntries (h.update d fun x => { x with
          pending := x.pending.map fun p => if p.1 = k then (k, .callback c) else p }) b id := by
        refine h.sameEntries_update (fun x j hj => ⟨?_, rfl⟩) hsame
        simp [Bridge.pending?, Bridge.lookup_map_callback, hj]
      exact hupdate

/-- Taking the outcome of a call out of the table. -/
theorem Host.arrived?_taken : ((h.update d fun x => x.takeAside k).bridge d).arrived? k = none := by
  rw [Host.bridge_update_self, Bridge.arrived?_takeAside, if_pos rfl]

theorem Host.sameEntries_takeAside (hother : ¬ (d = b ∧ k = id)) :
    h.SameEntries (h.update d fun x => x.takeAside k) b id := by
  refine h.sameEntries_update (fun x j hj => ⟨rfl, ?_⟩) hother
  rw [Bridge.arrived?_takeAside, if_neg hj]

theorem Host.sameEntries_unlist (hother : ¬ (d = b ∧ k = id)) :
    h.SameEntries (h.update d fun x => x.unlist k) b id := by
  refine h.sameEntries_update (fun x j hj => ⟨?_, rfl⟩) hother
  rw [Bridge.pending?_unlist, if_neg hj]

theorem Followed.taken {o : Outcome} (ha : Followed (h, (d, k) ::ₘ m))
    (harrived : (h.bridge d).arrived? k = some o) :
    Followed ((h.update d fun x => x.takeAside k).emit (.delivered d k none o), m) := by
  intro b id
  by_cases hsame : d = b ∧ k = id
  · obtain ⟨rfl, rfl⟩ := hsame
    obtain ⟨p, hcourse, hfits⟩ := ha d k
    obtain ⟨hcount, rfl | ⟨o', rfl⟩⟩ := hfits.held
    · exact absurd (hfits.arrived.symm.trans harrived) (by simp [Phase.aside])
    · obtain rfl : o' = o := Option.some.inj (hfits.arrived.symm.trans harrived)
      refine ⟨.done none o', hcourse.snoc .taken, trivial, ?_, Host.arrived?_taken, hcount⟩
      rw [Host.bridge_emit, Host.bridge_update_self]
      exact hfits.pending
  · refine ha.other rfl ?_ (Host.sameEntries_takeAside hsame) (count_cons_other hsame).symm
    simpa [Event.Concerns] using hsame

theorem Followed.boundLate {o : Outcome} {c : Callback n} (ha : Followed (h, (d, k) ::ₘ m))
    (harrived : (h.bridge d).arrived? k = some o) :
    Followed (((h.emit (.bound d k c)).update d fun x => x.takeAside k).emit
      (.delivered d k (some c) o), m) := by
  intro b id
  by_cases hsame : d = b ∧ k = id
  · obtain ⟨rfl, rfl⟩ := hsame
    obtain ⟨p, hcourse, hfits⟩ := ha d k
    obtain ⟨hcount, rfl | ⟨o', rfl⟩⟩ := hfits.held
    · exact absurd (hfits.arrived.symm.trans harrived) (by simp [Phase.aside])
    · obtain rfl : o' = o := Option.some.inj (hfits.arrived.symm.trans harrived)
      refine ⟨.done (some c) o', (hcourse.snoc (.boundLate c)).snoc .delivered, trivial, ?_,
        Host.arrived?_taken, hcount⟩
      rw [Host.bridge_emit, Host.bridge_update_self]
      exact hfits.pending
  · have htrace : (((h.emit (.bound d k c)).update d fun x => x.takeAside k).emit
        (.delivered d k (some c) o)).trace
          = h.trace ++ [.bound d k c, .delivered d k (some c) o] := by simp
    refine ha.other htrace ?_ (Host.sameEntries_takeAside hsame) (count_cons_other hsame).symm
    simpa [Event.Concerns] using hsame

/-- A call that is held has an entry or an outcome put aside. -/
theorem Followed.not_lost (ha : Followed (h, (d, k) ::ₘ m))
    (hpending : (h.bridge d).pending? k = none) : (h.bridge d).arrived? k ≠ none := by
  obtain ⟨p, -, hfits⟩ := ha d k
  obtain ⟨-, rfl | ⟨o, rfl⟩⟩ := hfits.held
  · exact absurd (hfits.pending.symm.trans hpending) (by simp [Phase.entry])
  · rw [hfits.arrived]
    simp [Phase.aside]

/-- Giving up a call strikes it from both tables. -/
theorem Followed.released {e : Event n} (ha : Followed (h, (d, k) ::ₘ m))
    (hconcerns : ∀ b id, e.Concerns b id → d = b ∧ k = id)
    (hnext : ∀ p, p.Fits (h, (d, k) ::ₘ m) d k → Phase.Next d k p e .abandoned) :
    Followed (((h.emit e).release d k).1, m) := by
  have htrace : ((h.emit e).release d k).1.trace = h.trace ++ [e] := rfl
  intro b id
  by_cases hsame : d = b ∧ k = id
  · obtain ⟨rfl, rfl⟩ := hsame
    obtain ⟨p, hcourse, hfits⟩ := ha d k
    refine ⟨.abandoned, hcourse.snoc (hnext p hfits), trivial, ?_, Host.arrived?_taken,
      hfits.held.1⟩
    simp only [Host.release, Host.cancel, Host.bridge_update_self]
    change ((h.bridge d).unlist k).pending? k = none
    rw [Bridge.pending?_unlist, if_pos rfl]
  · refine ha.other htrace ?_ ?_ (count_cons_other hsame).symm
    · intro e' he'
      rw [List.mem_singleton.1 he']
      exact fun hconcern => hsame (hconcerns b id hconcern)
    · exact (Host.sameEntries_unlist (h := h.emit e) hsame).trans (Host.sameEntries_takeAside hsame)

end Ends

/-! ## Returns -/

section Returns

variable {h : Host n} {m : Custody n} {d : Fin n} {r : Return}

theorem Followed.unmatched (ha : Followed (h, m)) (hpending : (h.bridge d).pending? r.id = none) :
    Followed (h.emit (.returned d r), m) := by
  intro b id
  by_cases hsame : d = b ∧ r.id = id
  · obtain ⟨rfl, rfl⟩ := hsame
    obtain ⟨p, hcourse, hfits⟩ := ha d r.id
    have hentry : p.entry = none := hfits.pending.symm.trans hpending
    exact ⟨p, hcourse.snoc (.ignored hentry rfl), hfits.rest, hfits.pending, hfits.arrived,
      hfits.custody⟩
  · refine ha.other rfl ?_ ⟨rfl, rfl⟩ rfl
    simpa [Event.Concerns] using hsame

theorem Followed.parked (ha : Followed (h, m))
    (hpending : (h.bridge d).pending? r.id = some .waiting) :
    Followed ((h.emit (.returned d r)).update d
      fun x => (x.unlist r.id).putAside r.id r.outcome, m) := by
  intro b id
  by_cases hsame : d = b ∧ r.id = id
  · obtain ⟨rfl, rfl⟩ := hsame
    obtain ⟨p, hcourse, hfits⟩ := ha d r.id
    have hentry : p.entry = some .waiting := hfits.pending.symm.trans hpending
    obtain rfl : p = .waiting := by cases p <;> simp_all [Phase.entry]
    refine ⟨.parked r.outcome, hcourse.snoc (.parked rfl), trivial, ?_, ?_, hfits.custody⟩
    · rw [Host.bridge_update_self]
      change ((h.bridge d).unlist r.id).pending? r.id = none
      rw [Bridge.pending?_unlist, if_pos rfl]
    · have harrived : ((h.bridge d).unlist r.id).arrived? r.id = none := hfits.arrived
      rw [Host.bridge_update_self, Host.bridge_emit, Bridge.arrived?_putAside, harrived]
      simp [Phase.aside]
  · have hupdate : h.SameEntries
        (h.update d fun x => (x.unlist r.id).putAside r.id r.outcome) b id := by
      refine h.sameEntries_update (fun x j hj => ⟨?_, ?_⟩) hsame
      · change (x.unlist r.id).pending? j = x.pending? j
        rw [Bridge.pending?_unlist, if_neg hj]
      · rw [Bridge.arrived?_putAside, if_neg hj, Option.or_none]
        rfl
    have htrace : ((h.emit (.returned d r)).update d fun x =>
        (x.unlist r.id).putAside r.id r.outcome).trace = h.trace ++ [.returned d r] := rfl
    refine ha.other htrace ?_ hupdate rfl
    simpa [Event.Concerns] using hsame

theorem Followed.fired {c : Callback n} (ha : Followed (h, m))
    (hpending : (h.bridge d).pending? r.id = some (.callback c)) :
    Followed (((h.emit (.returned d r)).update d fun x => x.unlist r.id).emit
      (.delivered d r.id (some c) r.outcome), m) := by
  intro b id
  by_cases hsame : d = b ∧ r.id = id
  · obtain ⟨rfl, rfl⟩ := hsame
    obtain ⟨p, hcourse, hfits⟩ := ha d r.id
    have hentry : p.entry = some (.callback c) := hfits.pending.symm.trans hpending
    obtain rfl : p = .bound c := by cases p <;> simp_all [Phase.entry]
    refine ⟨.done (some c) r.outcome, (hcourse.snoc (.fired rfl)).snoc .delivered, trivial, ?_, ?_,
      hfits.custody⟩
    · rw [Host.bridge_emit, Host.bridge_update_self, Bridge.pending?_unlist, if_pos rfl]
      rfl
    · rw [Host.bridge_emit, Host.bridge_update_self]
      exact hfits.arrived
  · have htrace : (((h.emit (.returned d r)).update d fun x => x.unlist r.id).emit
        (.delivered d r.id (some c) r.outcome)).trace
          = h.trace ++ [.returned d r, .delivered d r.id (some c) r.outcome] := by simp
    refine ha.other htrace ?_ (Host.sameEntries_unlist (h := h) hsame) rfl
    simpa [Event.Concerns] using hsame

end Returns

/-! ## Turns -/

theorem Turn.followed {a a' : Host n × Custody n} (hturn : Turn a a') (hnum : a.1.Numbered)
    (hcalls : ∀ b, calls b a'.1.trace ≤ 2 ^ 64) (ha : Followed a) : Followed a' := by
  cases hturn with
  | quiet hquiet => exact hquiet.followed ha
  | @refused h h' m d name args e hcall =>
      -- A refused call counts too, and its token is not used again.
      have hcount := h.calls_call d name args
      rw [hcall] at hcount
      exact ha.refused hnum (Nat.lt_of_succ_le (hcount.symm.trans_le (hcalls d))) hcall
  | @called h h' m d name args k hcall =>
      have hcount := h.calls_call d name args
      rw [hcall] at hcount
      exact ha.called hnum (Nat.lt_of_succ_le (hcount.symm.trans_le (hcalls d))) hcall
  | bound c hpending => exact ha.bound hpending
  | boundLate c hpending harrived => exact ha.boundLate harrived
  | boundLost c hpending harrived =>
      -- No run gets here: a call that is held is in one of the tables.
      exact absurd harrived (ha.not_lost hpending)
  | dropped d k =>
      refine ha.released (fun b id hconcerns => hconcerns) fun p hfits => .dropped ?_
      obtain ⟨-, rfl | ⟨o, rfl⟩⟩ := hfits.held <;> rfl
  | expired harrived =>
      refine ha.released (fun b id hconcerns => hconcerns) fun p hfits => ?_
      obtain ⟨-, rfl | ⟨o, rfl⟩⟩ := hfits.held
      · exact .expired
      · exact absurd (hfits.arrived.symm.trans harrived) (by simp [Phase.aside])
  | taken harrived => exact ha.taken harrived
  | unmatched hpending => exact ha.unmatched hpending
  | parked hpending => exact ha.parked hpending
  | fired hpending => exact ha.fired hpending

/-- Tokens are numbered, and every call is followed as long as the count of calls lasts. -/
def Orderly (a : Host n × Custody n) : Prop :=
  a.1.Numbered ∧ ((∀ b, calls b a.1.trace ≤ 2 ^ 64) → Followed a)

theorem Turn.orderly (a a' : Host n × Custody n) (hturn : Turn a a') (ha : Orderly a) :
    Orderly a' := by
  obtain ⟨hnum, hfollowed⟩ := ha
  refine ⟨hturn.numbered hnum, fun hcalls => hturn.followed hnum hcalls (hfollowed fun b => ?_)⟩
  exact (hturn.calls_le b).trans (hcalls b)

end CallBridge
