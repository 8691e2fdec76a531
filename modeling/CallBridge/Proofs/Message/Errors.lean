import CallBridge.Proofs.Message.RoundTrip

/-!
# Errors on the wire

An error travels as its code and its message, and reaches the caller as an error of the peer. What
was expected of a state does not travel, and neither does the code that an error of the peer had of
its own; all other errors can be rebuilt from what arrives (`BridgeError.ofCode_eq_self_iff`). Main
statement: `Message.error_read_back`.
-/

namespace CallBridge

namespace BridgeError

/-- The code of a rebuilt error: each of the eleven codes stands for itself, and every other one has
become that of an internal error. -/
theorem code_ofCode (c : UInt32) (text : String) :
    (ofCode c text).code = if 1 ≤ c ∧ c ≤ 11 then c else 11 := by
  by_cases hrange : 1 ≤ c ∧ c ≤ 11
  · have hcases : c = 1 ∨ c = 2 ∨ c = 3 ∨ c = 4 ∨ c = 5 ∨ c = 6 ∨ c = 7 ∨ c = 8 ∨ c = 9 ∨ c = 10 ∨
        c = 11 := by grind
    rcases hcases with rfl | rfl | rfl | rfl | rfl | rfl | rfl | rfl | rfl | rfl | rfl <;> rfl
  · have hne (k : UInt32) (hk : 1 ≤ k ∧ k ≤ 11) : c ≠ k := fun heq => hrange (heq ▸ hk)
    rw [if_neg hrange, ofCode, if_neg (hne 1 (by decide)), if_neg (hne 2 (by decide)),
      if_neg (hne 3 (by decide)), if_neg (hne 4 (by decide)), if_neg (hne 5 (by decide)),
      if_neg (hne 6 (by decide)), if_neg (hne 7 (by decide)), if_neg (hne 8 (by decide)),
      if_neg (hne 9 (by decide)), if_neg (hne 10 (by decide))]
    rfl

/-- Two parts do not travel: what was expected of a state, which is rebuilt as nothing, and the code
that an error of the peer came with, which is rebuilt as 8. -/
theorem ofCode_eq_self_iff (e : BridgeError) :
    ofCode e.code e.message = e ↔
      (¬ ∃ expected actual, expected ≠ "" ∧ e = .invalidState expected actual) ∧
        ¬ ∃ c text, c ≠ 8 ∧ e = .remote c text := by
  cases e with
  | invalidState expected actual => simp [ofCode, code, message, eq_comm]
  | remote c text => simp [ofCode, code, message, eq_comm]
  | config text | serialization text | malformed text | unknownFunction text | handler text
  | invalidArguments text | channelClosed | timeout | internal text => simp [ofCode, code, message]

end BridgeError

namespace Message

/-- A failed return with a text token is read back as it was written: a token of that kind and an
error have one spelling each, and the frame is two levels deep. -/
theorem decode_encode_failed (layout : Json.Layout) (id : String) (e : BridgeError) :
    decode ((Message.ret (.ofReply (.text id) (.error e))).encode layout)
      = .ok (.ret (.ofReply (.text id) (.error e))) := by
  have hplain : (Message.ret (.ofReply (.text id) (.error e))).Plain := by
    constructor
    · trivial
    · rintro v ⟨⟩
  have hdepth : (Message.ret (.ofReply (.text id) (.error e))).toJson.depth ≤ 2 := by
    refine depth_ret _ (d := 0) ?_
    rintro v ⟨⟩
  have hroom : 2 ≤ Json.maxDepth := by decide
  exact decode_encode_of_le layout hplain (Nat.le_trans hdepth hroom)

/-- **Errors survive the wire as far as the format allows.** The frame of a failed return with a
text token, in either layout, is read as a return with that token, and its outcome is the error of
the peer with the code and the message of `e`. From these two `e` is rebuilt, unless it is an
invalid state with something expected, or itself an error of a peer whose code is not 8. What is
rebuilt from a code between 1 and 11 has that code, and from any other one the code 11. -/
theorem error_read_back (layout : Json.Layout) (id : String) (e : BridgeError) :
    (∃ r, decode ((Message.ret (.ofReply (.text id) (.error e))).encode layout) = .ok (.ret r) ∧
      r.id = .text id ∧ r.outcome = .error (.remote e.code e.message)) ∧
    (BridgeError.ofCode e.code e.message = e ↔
      (¬ ∃ expected actual, expected ≠ "" ∧ e = .invalidState expected actual) ∧
        ¬ ∃ c text, c ≠ 8 ∧ e = .remote c text) ∧
    ∀ (c : UInt32) (text : String),
      (BridgeError.ofCode c text).code = if 1 ≤ c ∧ c ≤ 11 then c else 11 := by
  refine ⟨?_, e.ofCode_eq_self_iff, BridgeError.code_ofCode⟩
  exact ⟨_, decode_encode_failed layout id e, rfl, rfl⟩

end Message

end CallBridge
