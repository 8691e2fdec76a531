/-!
# Similar words

How alike two words are, from 0 to 1: the share of letters that match within a window, reduced by
those out of order, and raised by a common beginning of up to four letters.
-/

namespace CallBridge.Text

/-- Takes the first unused place from `lo` up to before `hi` that holds `c`. -/
def takePlace (c : Char) (lo hi : Nat) (places : List (Char × Bool)) :
    Option (List (Char × Bool)) :=
  let matching (i : Nat) (p : Char × Bool) : Bool := lo ≤ i && i < hi && p.1 = c && !p.2
  match places.zipIdx.find? fun p => matching p.2 p.1 with
  | some (_, i) => some (places.modify i fun p => (p.1, true))
  | none => none

/-- Matches the letters of `cs`, the first of which stands at `i`; gives the ones matched, and the
places with those used marked. -/
def matchLetters (window i : Nat) (places : List (Char × Bool)) :
    List Char → List Char × List (Char × Bool)
  | [] => ([], places)
  | c :: rest =>
      match takePlace c (i - window) (i + window + 1) places with
      | some marked =>
          let (found, places) := matchLetters window (i + 1) marked rest
          (c :: found, places)
      | none => matchLetters window (i + 1) places rest

/-- The similarity without regard to a common beginning. -/
def overlap (a b : List Char) : Float :=
  if a.isEmpty && b.isEmpty then 1
  else
    let window := Nat.max a.length b.length / 2 - 1
    let (found, places) := matchLetters window 0 (b.map (·, false)) a
    let used := (places.filter (·.2)).map (·.1)
    let swaps := ((found.zip used).filter fun p => p.1 ≠ p.2).length / 2
    let m := found.length.toFloat
    if found.isEmpty then 0
    else (m / a.length.toFloat + m / b.length.toFloat + (m - swaps.toFloat) / m) / 3

def commonStart : List Char → List Char → Nat
  | a :: as, b :: bs => if a = b then commonStart as bs + 1 else 0
  | _, _ => 0

def similarity (a b : String) : Float :=
  let base := overlap a.toList b.toList
  let start := (Nat.min 4 (commonStart a.toList b.toList)).toFloat
  if 0.7 < base then base + 0.1 * start * (1 - base) else base

/-- The word most like `s` if it is close enough; of equals, the first. -/
def closest? (s : String) (words : List String) : Option String :=
  let best := words.foldl (fun (best : Option (Float × String)) w =>
    let x := similarity s w
    if 0.8 < x && best.all (·.1 < x) then some (x, w) else best) none
  best.map (·.2)

end CallBridge.Text
