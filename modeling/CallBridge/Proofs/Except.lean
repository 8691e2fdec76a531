/-!
# Results that may be errors

When one step after another succeeds, and when a list of steps does: all of them, or none but those
before the first that fails.
-/

namespace CallBridge

variable {α β ε : Type} {f : α → Except ε β} {as : List α} {bs : List β}

/-! ## One after another -/

theorem map_eq_ok_iff {r : Except ε α} {g : α → β} {b : β} :
    r.map g = .ok b ↔ ∃ a, r = .ok a ∧ g a = b := by
  cases r with
  | error e => simp [Except.map]
  | ok a => simp [Except.map]

theorem toOption_eq_some_iff {r : Except ε α} {a : α} : r.toOption = some a ↔ r = .ok a := by
  cases r with
  | error e => simp [Except.toOption]
  | ok a => simp [Except.toOption]

theorem bind_eq_ok_iff {r : Except ε α} {next : α → Except ε β} {b : β} :
    (r >>= next) = .ok b ↔ ∃ a, r = .ok a ∧ next a = .ok b := by
  cases r with
  | error e => simp [bind, Except.bind]
  | ok a => simp [bind, Except.bind]

/-! ## Lists -/

/-- Where each step undoes `g`, so does the list of steps. -/
theorem mapM_eq_ok_iff {g : β → α} (hfg : ∀ a b, f a = .ok b ↔ a = g b) :
    as.mapM f = .ok bs ↔ as = bs.map g := by
  induction as generalizing bs with
  | nil => cases bs <;> simp [pure, Except.pure]
  | cons a as ih =>
      rw [List.mapM_cons, bind_eq_ok_iff]
      constructor
      · rintro ⟨b, hb, hrest⟩
        obtain ⟨bs', hbs', hrest⟩ := bind_eq_ok_iff.1 hrest
        obtain rfl := Except.ok.inj hrest
        rw [List.map_cons, (hfg a b).1 hb, ih.1 hbs']
      · intro hcons
        cases bs with
        | nil => cases hcons
        | cons b bs =>
            obtain ⟨ha, has⟩ := List.cons.inj hcons
            exact ⟨b, (hfg a b).2 ha, bind_eq_ok_iff.2 ⟨bs, ih.2 has, rfl⟩⟩

end CallBridge
