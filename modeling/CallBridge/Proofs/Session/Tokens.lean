import CallBridge.Proofs.Session.Refused

/-!
# Tokens in a run

The token of a call is told by the epoch of its bridge and the number of the call, whatever else
happens in between: epochs never change (`Turns.epoch_eq`), and calls are numbered
(`Host.Numbered`). So the tokens of one bridge are distinct while the count of calls lasts, the
pending table has no entry for the next one, and bridges with different epochs have no token in
common. Main statement: `Session.tokens_never_collide`.
-/

namespace CallBridge

variable {n : Nat}

/-! ## Sources -/

namespace TokenSource

/-- The tokens that a source gives next are numbered on from its count. -/
theorem take_eq (k : Nat) (s : TokenSource) :
    (take k s).1 = (List.range k).map fun i => token s.epoch (s.issued + .ofNat i) := by
  induction k generalizing s with
  | zero => rfl
  | succ k ih =>
      have hfirst : s.peek = token s.epoch (s.issued + .ofNat 0) := by simp [peek]
      have hrest : (take k s.advance).1
          = (List.range k).map fun i => token s.epoch (s.issued + .ofNat (i + 1)) := by
        rw [ih]
        apply List.map_congr_left
        intro i hi
        rw [advance, UInt64.ofNat_add, UInt64.add_assoc, UInt64.add_comm 1]
        rfl
      show s.peek :: (take k s.advance).1 = _
      rw [List.range_succ_eq_map, List.map_cons, List.map_map, hfirst, hrest]
      rfl

/-- Sources with different epochs have no token in common. -/
theorem disjoint_take {s t : TokenSource} (hepoch : s.epoch ≠ t.epoch) (j k : Nat) :
    (take j s).1.Disjoint (take k t).1 := by
  rw [take_eq, take_eq]
  intro id hs ht
  obtain ⟨i, -, rfl⟩ := List.mem_map.1 hs
  obtain ⟨i', -, heq⟩ := List.mem_map.1 ht
  exact hepoch (token_inj.1 heq).1.symm

end TokenSource

/-! ## Epochs -/

theorem Turn.epoch_eq {a a' : Host n × Custody n} (hturn : Turn a a') (b : Fin n) :
    (a'.1.bridge b).tokens.epoch = (a.1.bridge b).tokens.epoch := by
  rcases hturn.tokens b with ⟨htokens, -⟩ | ⟨htokens, -⟩
  · rw [htokens]
  · rw [htokens]
    rfl

theorem Turns.epoch_eq {a a' : Host n × Custody n} (hturns : Turns a a') (b : Fin n) :
    (a'.1.bridge b).tokens.epoch = (a.1.bridge b).tokens.epoch := by
  induction hturns with
  | refl => rfl
  | tail _ hlast ih => rw [hlast.epoch_eq b, ih]

/-- Tokens reach their callers in the order in which they are taken. -/
theorem Turn.issued_sublist {a a' : Host n × Custody n} (hturn : Turn a a') {b : Fin n}
    (ha : (issuedIds b a.1.trace).Sublist (calledIds b a.1.trace)) :
    (issuedIds b a'.1.trace).Sublist (calledIds b a'.1.trace) := by
  rcases hturn.issued b with hissued | ⟨hcalled, hissued⟩
  · rw [hissued]
    rcases hturn.tokens b with ⟨-, hcalled⟩ | ⟨-, hcalled⟩
    · rwa [hcalled]
    · rw [hcalled]
      exact ha.trans (List.sublist_append_left _ _)
  · rw [hissued, hcalled]
    exact ha.append (List.Sublist.refl _)

namespace Session

open Host

variable {s : Session n} {h : Host n} {m : Custody n}

theorem Fresh.numbered (hs : s.Fresh) (hpast : Turns (s.host, s.held) (h, m)) : h.Numbered :=
  hpast.keep (P := fun a => a.1.Numbered) (fun _ _ hturn => hturn.numbered) hs.orderly.1

/-- The next token is that of the epoch and the number of calls made so far. -/
theorem Fresh.peek_eq (hs : s.Fresh) (hpast : Turns (s.host, s.held) (h, m)) (b : Fin n) :
    (h.bridge b).tokens.peek
      = TokenSource.nth (s.host.bridge b).tokens.epoch (calls b h.trace) := by
  rw [TokenSource.peek, hpast.epoch_eq b, (hs.numbered hpast b).1]
  rfl

/-- The tokens that calls have taken, in order. -/
theorem Fresh.calledIds_eq (hs : s.Fresh) (hpast : Turns (s.host, s.held) (h, m)) (b : Fin n) :
    calledIds b h.trace
      = (List.range (calls b h.trace)).map (TokenSource.nth (s.host.bridge b).tokens.epoch) := by
  rw [← hpast.epoch_eq b]
  exact (hs.numbered hpast b).2

theorem Fresh.issued_sublist (hs : s.Fresh) (hpast : Turns (s.host, s.held) (h, m)) (b : Fin n) :
    (issuedIds b h.trace).Sublist (calledIds b h.trace) := by
  refine hpast.keep (P := fun a => (issuedIds b a.1.trace).Sublist (calledIds b a.1.trace))
    (fun _ _ hturn => hturn.issued_sublist) ?_
  rw [hs.host.trace]
  exact List.Sublist.refl _

/-- While the count lasts, the table has no entry for the next token. -/
theorem Fresh.pending?_peek (hs : s.Fresh) (hpast : Turns (s.host, s.held) (h, m)) {b : Fin n}
    (hcalls : calls b h.trace < 2 ^ 64) :
    (h.bridge b).pending? (h.bridge b).tokens.peek = none := by
  have haccounted : h.Accounted b :=
    hpast.keep (P := fun a => a.1.Accounted b) (fun _ _ hturn => hturn.accounted) (hs.accounted b)
  by_contra hpending
  apply (hs.numbered hpast).peek_notMem hcalls
  exact haccounted.pending ((Bridge.mem_pendingIds _ _).2 hpending)

/-- **Tokens never collide.** Two sources have the same next token only if they have the same epoch
and the same count, and with different epochs they have none in common. Wherever a run has come to,
between two steps or inside the code of the host, on every bridge `b`:

* the tokens that calls have taken, refused calls included, are those of the epoch that `b` started
  with and of the numbers of the calls, and the next call takes the next one of them;
* up to `2 ^ 64` calls no token was taken or issued twice;
* the next call up to that number finds no entry under its token, and enters it at the end of the
  table, with no word of a duplicate in the log;
* a bridge with another epoch, in this run or any other, has taken none of these tokens. -/
theorem tokens_never_collide [Limits] (hs : s.Fresh) :
    (∀ e₁ e₂ n₁ n₂, (TokenSource.mk e₁ n₁).peek = (TokenSource.mk e₂ n₂).peek →
      e₁ = e₂ ∧ n₁ = n₂) ∧
    (∀ x y : TokenSource, x.epoch ≠ y.epoch → ∀ j k,
      (TokenSource.take j x).1.Disjoint (TokenSource.take k y).1) ∧
    (∀ steps, Turns (s.host, s.held) ((s.after steps).host, (s.after steps).held)) ∧
    ∀ h m, Turns (s.host, s.held) (h, m) → ∀ b,
      let epoch := (s.host.bridge b).tokens.epoch
      let id := (h.bridge b).tokens.peek
      calledIds b h.trace = (List.range (calls b h.trace)).map (TokenSource.nth epoch) ∧
      (∀ name args,
        calledIds b (h.call b name args).1.trace
          = calledIds b h.trace ++ [TokenSource.nth epoch (calls b h.trace)] ∧
        ∀ given, (h.call b name args).2 = .ok given →
          given = TokenSource.nth epoch (calls b h.trace)) ∧
      (calls b h.trace ≤ 2 ^ 64 → (calledIds b h.trace).Nodup ∧ (issuedIds b h.trace).Nodup) ∧
      (calls b h.trace < 2 ^ 64 → (h.bridge b).pending? id = none ∧ ∀ name args,
        h.prepared b name args
          = ((h.update b fun x => { x with
              tokens := x.tokens.advance
              pending := x.pending ++ [(id, .waiting)] }).emit (.called b id name args)).emit
            (.issuing id name)) ∧
      ∀ (n' : Nat) (t : Session n'), t.Fresh → ∀ k m', Turns (t.host, t.held) (k, m') →
        ∀ c, (t.host.bridge c).tokens.epoch ≠ epoch →
          (calledIds b h.trace).Disjoint (calledIds c k.trace) := by
  refine ⟨fun e₁ e₂ n₁ n₂ heq => TokenSource.token_inj.1 heq,
    fun x y hepoch j k => TokenSource.disjoint_take hepoch j k,
    fun steps => (moves_after steps s hs.namesDistinct).2, ?_⟩
  intro h m hpast b epoch id
  have hpeek : id = TokenSource.nth epoch (calls b h.trace) := hs.peek_eq hpast b
  refine ⟨hs.calledIds_eq hpast b, ?_, ?_, ?_, ?_⟩
  · intro name args
    rw [← hpeek]
    refine ⟨h.calledIds_call b name args, fun given hgiven => ?_⟩
    exact (call_ok (Prod.ext rfl hgiven)).1
  · intro hcalls
    have hnodup := (hs.numbered hpast).nodup_calledIds hcalls
    exact ⟨hnodup, hnodup.sublist (hs.issued_sublist hpast b)⟩
  · intro hcalls
    have hnew := hs.pending?_peek hpast hcalls
    exact ⟨hnew, fun name args => prepared_of_new name args hnew⟩
  · intro n' t ht k m' hpast' c hepoch given hb hc
    rw [hs.calledIds_eq hpast b] at hb
    rw [ht.calledIds_eq hpast' c] at hc
    obtain ⟨i, -, rfl⟩ := List.mem_map.1 hb
    obtain ⟨j, -, heq⟩ := List.mem_map.1 hc
    exact hepoch (TokenSource.token_inj.1 heq).1

/-- Of two calls on one bridge the first is refused, and the second has the next number; the call on
another bridge has the other epoch. -/
theorem tokens_never_collide_after_refusal :
    let s : Session 2 := start #v[{}, {}] none
    let steps : List (Step 2) := [
      .openWith 0 (.tape fun k => if k = 0 then some .channelClosed else none),
      .call 0 "f" [] "x", .call 0 "f" [] "y", .call 1 "f" [] "z"]
    let h := (s.after steps).host
    s.Fresh ∧ calls 0 h.trace < 2 ^ 64 ∧
      calledIds 0 h.trace = [.text "1700000000000.0", .text "1700000000000.1"] ∧
      issuedIds 0 h.trace = [.text "1700000000000.1"] ∧
      calledIds 1 h.trace = [.text "1700000000001.0"] ∧
      (calledIds 0 h.trace).Nodup ∧ (issuedIds 0 h.trace).Nodup ∧
      (h.bridge 0).pending? (.text "1700000000000.2") = none ∧
      (calledIds 0 h.trace).Disjoint (calledIds 1 h.trace) := by
  -- The run is written out here: the kernel evaluates a closed term once, and one with `s` and
  -- `steps` in it over and over.
  have hcalls : calls 0 ((start #v[{}, {}] none : Session 2).after [
      .openWith 0 (.tape fun k => if k = 0 then some .channelClosed else none),
      .call 0 "f" [] "x", .call 0 "f" [] "y", .call 1 "f" [] "z"]).host.trace < 2 ^ 64 := by
    decide +kernel
  obtain ⟨-, -, hruns, hpoints⟩ := tokens_never_collide (fresh_start #v[{}, {}] none epoch)
  obtain ⟨-, -, hnodup, hnew, hdisjoint⟩ := hpoints _ _ (hruns _) 0
  refine ⟨fresh_start _ _ _, hcalls, by decide +kernel, by decide +kernel, by decide +kernel,
    (hnodup hcalls.le).1, (hnodup hcalls.le).2, ?_, ?_⟩
  · exact (hnew hcalls).1
  · exact hdisjoint 2 _ (fresh_start _ _ _) _ _ (hruns _) 1 (by decide +kernel)

end Session

end CallBridge
