import CallBridge.Proofs.Bridge.Attend
import CallBridge.Proofs.Message.Grammar
import CallBridge.Proofs.Session.Marks

/-!
# Exposed functions in a run

The tables of functions in a run are what the exposures so far make them, also where those were made
by code of the host, and a call runs the function that was last exposed under its name. Main
statement: `Session.registry_follows_exposures`.
-/

namespace CallBridge

variable {n : Nat}

/-! ## The law of the tables -/

/-- The tables of functions are what these exposures make them. -/
structure Host.Registers (h : Host n) (es : List (Exposure n)) : Prop where
  /-- Under each name stands the function last exposed under it. -/
  latest : ∀ b name, (h.bridge b).exposed? name = lastExposed b name es
  exposed_iff : ∀ b name,
    (h.bridge b).isExposed name = true ↔ ∃ e ∈ es, e.bridge = b ∧ e.name = name
  ordered : ∀ b, (h.bridge b).names.Pairwise (· < ·)
  mem_names_iff : ∀ b name, name ∈ (h.bridge b).names ↔ (h.bridge b).isExposed name = true

theorem Way.registers {h k : Host n} {ms : List (Mark n)} (hway : Way h ms k)
    (hempty : h.NothingExposed) : k.Registers (exposures ms) := by
  have hlatest : ∀ b name, (k.bridge b).exposed? name = lastExposed b name (exposures ms) := by
    intro b name
    rw [hway.exposed?_eq b name, hempty.exposed?_eq, Option.or_none]
  constructor
  · exact hlatest
  · intro b name
    rw [Bridge.isExposed_eq, hlatest, Option.isSome_iff_ne_none, ne_eq, lastExposed_eq_none_iff]
    simp only [not_forall, not_not, exists_prop]
  · intro b
    apply hway.sorted b
    rw [hempty b]
    exact List.Pairwise.nil
  · intro b name
    exact Keyed.contains_eq_true_iff.symm

/-- A mark of a call that found its function splits the marks. -/
theorem exists_attended {ms : List (Mark n)} {i : Nat} {b : Fin n} {c : Call}
    (hfound : ms[i]?.bind Mark.invocation? = some (b, c)) :
    ∃ m level, ms = ms.take i ++ m :: ms.drop (i + 1) ∧ m.deed = .attend level b c := by
  obtain ⟨⟨h, d⟩, hm, hinvoked⟩ := Option.bind_eq_some_iff.1 hfound
  obtain ⟨hi, hget⟩ := List.getElem?_eq_some_iff.1 hm
  cases d with
  | expose e => cases hinvoked
  | deliver level b' id c' o => cases hinvoked
  | list b' => cases hinvoked
  | attend level b' c' =>
      obtain ⟨-, hsame⟩ := Option.ite_none_right_eq_some.1 hinvoked
      obtain ⟨rfl, rfl⟩ := Prod.mk.inj (Option.some.inj hsame)
      refine ⟨⟨h, .attend level b' c'⟩, level, ?_, rfl⟩
      rw [← hget, ← List.drop_eq_getElem_cons hi, List.take_append_drop]

namespace Session

open Host

/-- For every run from where nothing is exposed, with `ms` all that happens about functions and
callbacks, inside the code of the host too and in order.

* At the end, and at every mark, the tables of functions are what the exposures before make them: a
  name is exposed if some exposure used it, the names are listed in strictly increasing order, and
  the function under a name is the one last exposed under it.
* A call that comes in is attended to with the function last exposed under its name, wherever in the
  run that was, and what comes of that is on record. The functions that ran are those of the calls
  which found one.
* A step in which nothing is exposed leaves all tables as they are. -/
theorem registry_follows_exposures [Limits] {s : Session n} (hempty : s.host.NothingExposed)
    (steps : List (Step n)) :
    let ms := s.marks steps
    (s.after steps).host.Registers (exposures ms) ∧
    (∀ front m back, ms = front ++ m :: back →
      m.host.Registers (exposures front) ∧ m.over.trace <+: (s.after steps).host.trace ∧
      ∀ level b c, m.deed = .attend level b c →
        Attends level m.host b c (lastExposed b c.name (exposures front))
          (handleCall (inner level) m.host b c)) ∧
    (s.after steps).host.invoked = s.host.invoked ++ ms.filterMap Mark.invocation? ∧
    ∀ x, exposures ((s.after steps).stepMarks x) = [] →
      ∀ b, (((s.after steps).advance x).1.host.bridge b).registry
        = ((s.after steps).host.bridge b).registry := by
  intro ms
  obtain ⟨hway, hrecorded⟩ : Leads s.host ms (s.after steps).host := leads_after steps s
  refine ⟨hway.registers hempty, ?_, hway.invoked_eq, ?_⟩
  · intro front m back hms
    have hbefore : m.host.Registers (exposures front) := by
      rw [hms] at hway
      exact hway.before.registers hempty
    have hmem : m ∈ ms := hms ▸ List.mem_append_right front List.mem_cons_self
    refine ⟨hbefore, hrecorded m hmem, ?_⟩
    intro level b c _
    rw [← hbefore.latest]
    exact handleCall_attends level m.host b c
  · intro x hnone b
    exact ((s.after steps).leads_step x).way.registry_eq hnone b

/-- The function `f` exposes another `g`, one that holds the bridge, and lets a call to it come in
while it runs itself. -/
def reexposing : List (Step 1) :=
  let body (_ : List Json) : Proc 1 := .done (.returned none)
  let f (_ : List Json) : Proc 1 := .expose 0 "g" body [0]
    (.handle 0 "\x7b\"call\":2,\"name\":\"g\"\x7d" fun _ => .done (.returned none))
  [.expose 0 "g" ⟨body, []⟩, .expose 0 "f" ⟨f, []⟩,
    .handle 0 "\x7b\"call\":1,\"name\":\"f\"\x7d"]

/-- The call is attended to with the new `g`. -/
theorem registry_follows_exposures_from_inside :
    let s : Session 1 := start #v[{}] none
    s.host.NothingExposed ∧ ((s.after reexposing).host.bridge 0).names = ["f", "g"] ∧
      (s.after reexposing).host.invoked.map (fun p => p.2.name) = ["f", "g"] ∧
      ∃ front m back level c, s.marks reexposing = front ++ m :: back ∧
        m.deed = .attend level 0 c ∧ c.name = "g" ∧
        (exposures front).map Exposure.name = ["g", "f", "g"] ∧
        (lastExposed 0 c.name (exposures front)).map Exposed.holds = some [0] ∧
        Attends level m.host 0 c (lastExposed 0 c.name (exposures front))
          (handleCall (inner level) m.host 0 c) := by
  have hlast : (((start #v[{}] none : Session 1).marks reexposing)[4]?.bind Mark.invocation?).map
      (fun p => (p.1, p.2.name)) = some (0, "g") := by decide +kernel
  have hholds : (lastExposed 0 "g"
      (exposures (((start #v[{}] none : Session 1).marks reexposing).take 4))).map Exposed.holds
      = some [0] := by decide +kernel
  obtain ⟨⟨b, c⟩, hfound, hname⟩ := Option.map_eq_some_iff.1 hlast
  obtain ⟨rfl, hg⟩ : b = 0 ∧ c.name = "g" := Prod.mk.inj hname
  rw [← hg] at hholds
  obtain ⟨m, level, hms, hdeed⟩ := exists_attended hfound
  have hempty : (start #v[{}] none : Session 1).host.NothingExposed := nothingExposed_ofConfigs _ _
  obtain ⟨-, hmarks, -, -⟩ := registry_follows_exposures hempty reexposing
  refine ⟨hempty, by decide +kernel, by decide +kernel, _, m, _, level, c, hms, hdeed, hg,
    by decide +kernel, hholds, (hmarks _ m _ hms).2.2 level 0 c hdeed⟩

end Session

end CallBridge
