import CallBridge.Proofs.Bridge.Serve
import CallBridge.Proofs.Message.RoundTrip
import CallBridge.Proofs.Session.Turns

/-!
# Messages as text and as values

A bridge takes a message as a frame or as a value that was read before. Main statement:
`Session.run_as_text`, it does not matter which: a run in which some values are handed over as their
texts, in either layout, reports the same and ends in the same session.
-/

namespace CallBridge

variable {n : Nat}

/-- A printed value is decoded as the value is classified. -/
theorem Message.decode_print {v : Json} (hv : v.Plain) (hdepth : v.depth ≤ Json.maxDepth)
    (layout : Json.Layout) :
    decode (v.print layout) = (classify v).mapError .invalidFormat := by
  have hparse : Json.parse? (v.print layout) = some v := by
    rw [Json.parse?_print layout hv.1, if_pos hdepth, Json.sorted_of_canonical v hv.2]
  unfold decode
  rw [hparse]
  dsimp only
  cases classify v <;> rfl

/-- A value that is nested too deep prints to a text that is refused as it stands. -/
theorem Message.decode_print_deep {v : Json} (hv : v.Integral) (hdepth : Json.maxDepth < v.depth)
    (layout : Json.Layout) :
    decode (v.print layout) = .error (.invalidFormat (v.print layout)) := by
  rw [decode, Json.parse?_print layout hv, if_neg (Nat.not_le.2 hdepth)]

namespace Host

theorem handleValue_eq [Limits] (h : Host n) (b : Fin n) (v : Json) :
    h.handleValue b v
      = handleDecoded nestedHandling h b ((Message.classify v).mapError .invalidFormat) := by
  rw [handleValue]
  cases Message.classify v <;> rfl

theorem handle_print [Limits] {v : Json} (hv : v.Plain) (hdepth : v.depth ≤ Json.maxDepth)
    (layout : Json.Layout) (h : Host n) (b : Fin n) :
    h.handle b (v.print layout) = h.handleValue b v := by
  rw [handle, Message.decode_print hv hdepth layout, handleValue_eq]

end Host

namespace Session

/-- The second step is the first, or hands over as a text what the first hands over as a value. -/
inductive Retold : Step n → Step n → Prop
  | same (x : Step n) : Retold x x
  | printed {v : Json} (hv : v.Plain) (hdepth : v.depth ≤ Json.maxDepth) (b : Fin n)
      (layout : Json.Layout) : Retold (.handleValue b v) (.handle b (v.print layout))

theorem Retold.advance_eq [Limits] {x y : Step n} (hxy : Retold x y) (s : Session n) :
    s.advance y = s.advance x := by
  have hstep : s.step y = s.step x := by
    cases hxy with
    | same => rfl
    | printed hv hdepth b layout => rw [step, step, Host.handle_print hv hdepth layout]
  rw [advance, hstep, advance]

/-- For every session, in whatever state, and every value without doubles in which at most 127
arrays and objects are nested:

* handling either printing of it and handling the value itself are the same: the result, payload of
  a refusal included, and the whole host with all that was sent and delivered;
* so it is for runs in which any number of values are printed: the reports are the same, and so is
  the session at the end.

One level deeper, the text is no message at all. -/
theorem run_as_text [Limits] (s : Session n) :
    (∀ (v : Json) (layout : Json.Layout) (b : Fin n), v.Plain →
      (v.depth ≤ 127 → s.host.handle b (v.print layout) = s.host.handleValue b v) ∧
      (127 < v.depth →
        (s.host.handle b (v.print layout)).2 = .error (.malformed (v.print layout)))) ∧
    ∀ {values texts : List (Step n)}, List.Forall₂ Retold values texts →
      s.run texts = s.run values ∧ s.after texts = s.after values := by
  constructor
  · intro v layout b hv
    constructor
    · intro hdepth
      exact Host.handle_print hv hdepth layout s.host b
    · intro hdepth
      rw [Host.handle, Message.decode_print_deep hv.1 hdepth layout]
      rfl
  · intro values texts hretold
    induction hretold generalizing s with
    | nil => exact ⟨rfl, rfl⟩
    | @cons x y values texts hxy hrest ih =>
        obtain ⟨hrun, hafter⟩ := ih (s.advance x).1
        constructor
        · show (s.advance y).2 :: (s.advance y).1.run texts
            = (s.advance x).2 :: (s.advance x).1.run values
          rw [hxy.advance_eq s, hrun]
        · show Session.after (s.advance y).1 texts = Session.after (s.advance x).1 values
          rw [hxy.advance_eq s, hafter]

/-- A call without a token is refused with its compact text, however it was laid out, although its
other members make a return. -/
theorem run_as_text_refused :
    let s : Session 1 := start #v[{}] none
    let v : Json := .object [("call", .null), ("return", .string "1")]
    v.Plain ∧ v.depth ≤ 127 ∧ v.print .pretty ≠ v.compact ∧
      (s.host.handle 0 (v.print .pretty)).2 = .error (.malformed v.compact) ∧
      s.run [.handle 0 (v.print .pretty), .names 0] = s.run [.handleValue 0 v, .names 0] := by
  intro s v
  have hv : v.Plain := by
    have hkeys : ["call", "return"].Pairwise (· < ·) := by decide
    exact ⟨⟨trivial, trivial, trivial⟩, hkeys, trivial, trivial, trivial⟩
  have hdepth : v.depth ≤ 127 := by decide
  have htext : v.print .pretty ≠ v.compact := by decide +kernel
  obtain ⟨hhandle, hruns⟩ := run_as_text s
  refine ⟨hv, hdepth, htext, ?_, ?_⟩
  · rw [(hhandle v .pretty 0 hv).1 hdepth]
    rfl
  · exact (hruns (.cons (.printed hv hdepth 0 .pretty) (.cons (.same _) .nil))).1

end Session

end CallBridge
