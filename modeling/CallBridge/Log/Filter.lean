import CallBridge.Log.Event

/-!
# Event filters

A filter is a list of directives, written `level` or `target=level` and separated by commas. Of the
directives whose target begins an event's target, the longest decides, and of equal ones the last.
An event without any is dropped.
-/

namespace CallBridge.Log

structure Directive where
  target : String
  threshold : Level
deriving DecidableEq

abbrev Filter := List Directive

namespace Directive

/-- A level by name in any case, or by number, where larger numbers let more pass. -/
def threshold? (text : String) : Option Level :=
  match Level.named? (Text.lower text) with
  | some l => some l
  | none =>
      match text.toList with
      | [c] => if '0' ≤ c && c ≤ '5' then some (.ofRank (5 - (c.toNat - '0'.toNat))) else none
      | _ => none

/-- A word that is no level is a target at which everything passes. -/
def parse? (text : String) : Option Directive :=
  match text.splitOn "=" with
  | [word] =>
      match threshold? word with
      | some l => some ⟨"", l⟩
      | none => some ⟨word, .trace⟩
  | [target, level] => (threshold? level).map fun l => ⟨target, l⟩
  | _ => none

end Directive

namespace Filter

def parse? (text : String) : Option Filter :=
  ((text.splitOn ",").filter (· ≠ "")).mapM Directive.parse?

/-- Everything at `l` and above. -/
def atLevel (l : Level) : Filter := [⟨"", l⟩]

/-- The directive that decides about `target`. -/
def decisive? (f : Filter) (target : String) : Option Directive :=
  f.foldl (fun best d =>
    if d.target.toList.isPrefixOf target.toList then
      match best with
      | some b => if b.target.length ≤ d.target.length then some d else some b
      | none => some d
    else best) none

def allows (f : Filter) (target : String) (l : Level) : Bool :=
  match f.decisive? target with
  | some d => d.threshold.passes l
  | none => false

end Filter

end CallBridge.Log
