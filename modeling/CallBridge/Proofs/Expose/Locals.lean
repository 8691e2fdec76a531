import CallBridge.Expose.Closure
import CallBridge.Proofs.Json.Numeral
import Mathlib.Data.List.Nodup
import Mathlib.Data.List.Forall2

/-!
# The locals of a wrapper

The closure of a wrapper decodes each argument into a local and then calls its function with the
locals by name. A local is named after its parameter or, where the parameter has no name, after its
position, and a parameter may have a name that looks like a position. `Clashes` says when that
happens. Where it does not, each parameter gets its own argument; where it does, two parameters get
the same one. Main statement: `own_arguments_iff`.
-/

namespace CallBridge.Expose

open Source

variable {ε α : Type}

/-! ## Names -/

/-- The names that the parameters bind, without the mark of raw names. -/
def boundNames (ps : List Parameter) : List String :=
  ps.filterMap fun p => p.name.map Ident.name

/-- The parameter at `i` has the name that stands for position `j`, and the one at `j` has none. -/
def Clashes (ps : List Parameter) (i j : Nat) : Prop :=
  ∃ p q x, ps[i]? = some p ∧ ps[j]? = some q ∧ p.name = some x ∧ x.name = "arg" ++ toString j ∧
    q.name = none

theorem Clashes.ne {ps : List Parameter} {i j : Nat} (h : Clashes ps i j) : i ≠ j := by
  rintro rfl
  obtain ⟨p, q, x, hp, hq, hx, -, hnone⟩ := h
  obtain rfl := Option.some.inj (hp.symm.trans hq)
  cases hx.symm.trans hnone

theorem localName_of_some {p : Parameter} {x : Ident} (hp : p.name = some x) (i : Nat) :
    localName i p = "__eel_" ++ x.name := by
  simp only [localName, hp]

theorem localName_of_none {p : Parameter} (hp : p.name = none) (i : Nat) :
    localName i p = "__eel_" ++ ("arg" ++ toString i) := by
  simp only [localName, hp, ← String.append_assoc]
  rfl

theorem getElem?_locals (ps : List Parameter) (i : Nat) :
    (locals ps)[i]? = ps[i]?.map fun p => ⟨localName i p, p.type, i⟩ := by
  simp [locals, List.getElem?_zipIdx, Function.comp_def]

theorem getElem?_names (ps : List Parameter) (i : Nat) :
    ((locals ps).map Local.name)[i]? = ps[i]?.map (localName i) := by
  rw [List.getElem?_map, getElem?_locals, Option.map_map]
  rfl

/-- A name is bound at one position only. -/
theorem eq_of_boundNames {ps : List Parameter} (hnames : (boundNames ps).Nodup) {i j : Nat}
    {p q : Parameter} {x y : Ident} (hp : ps[i]? = some p) (hq : ps[j]? = some q)
    (hx : p.name = some x) (hy : q.name = some y) (hname : x.name = y.name) : i = j := by
  have hpairs := List.pairwise_filterMap.1 hnames
  rw [List.pairwise_iff_getElem] at hpairs
  obtain ⟨hi, rfl⟩ := List.getElem?_eq_some_iff.1 hp
  obtain ⟨hj, rfl⟩ := List.getElem?_eq_some_iff.1 hq
  rcases Nat.lt_trichotomy i j with hlt | heq | hlt
  · exact absurd hname (hpairs i j hi hj hlt x.name (by simp [hx]) y.name (by simp [hy]))
  · exact heq
  · exact absurd hname.symm (hpairs j i hj hi hlt y.name (by simp [hy]) x.name (by simp [hx]))

/-- Two locals of the same name come from one parameter, or from two that clash. -/
theorem eq_or_clashes {ps : List Parameter} (hnames : (boundNames ps).Nodup) {i j : Nat}
    {p q : Parameter} (hp : ps[i]? = some p) (hq : ps[j]? = some q)
    (hlocal : localName i p = localName j q) :
    i = j ∨ Clashes ps i j ∨ Clashes ps j i := by
  cases hx : p.name with
  | some x =>
      rw [localName_of_some hx] at hlocal
      cases hy : q.name with
      | some y =>
          rw [localName_of_some hy, String.append_right_inj] at hlocal
          exact .inl (eq_of_boundNames hnames hp hq hx hy hlocal)
      | none =>
          rw [localName_of_none hy, String.append_right_inj] at hlocal
          exact .inr (.inl ⟨p, q, x, hp, hq, hx, hlocal, hy⟩)
  | none =>
      rw [localName_of_none hx] at hlocal
      cases hy : q.name with
      | some y =>
          rw [localName_of_some hy, String.append_right_inj] at hlocal
          exact .inr (.inr ⟨q, p, y, hq, hp, hy, hlocal.symm, hx⟩)
      | none =>
          rw [localName_of_none hy, String.append_right_inj, String.append_right_inj,
            Nat.toString_eq_ofList_toDigits, Nat.toString_eq_ofList_toDigits,
            String.ofList_inj] at hlocal
          exact .inl (Scan.toDigits_injective hlocal)

theorem Clashes.localName_eq {ps : List Parameter} {i j : Nat} (h : Clashes ps i j) :
    ∃ p q, ps[i]? = some p ∧ ps[j]? = some q ∧ localName i p = localName j q := by
  obtain ⟨p, q, x, hp, hq, hx, hname, hnone⟩ := h
  exact ⟨p, q, hp, hq, by rw [localName_of_some hx, localName_of_none hnone, hname]⟩

/-- No third local has the name that two parameters clash over. -/
theorem Clashes.eq_or_eq {ps : List Parameter} (hnames : (boundNames ps).Nodup) {i j m : Nat}
    (h : Clashes ps i j) {q r : Parameter} (hq : ps[j]? = some q) (hr : ps[m]? = some r)
    (hlocal : localName m r = localName j q) : m = i ∨ m = j := by
  obtain ⟨p, q', x, hp, hq', hx, hname, hnone⟩ := h
  obtain rfl := Option.some.inj (hq.symm.trans hq')
  rcases eq_or_clashes hnames hr hq hlocal with heq | hclash | hclash
  · exact .inr heq
  · obtain ⟨r', -, y, hr', -, hy, hname', -⟩ := hclash
    exact .inl (eq_of_boundNames hnames hr' hp hy hx (hname'.trans hname.symm))
  · obtain ⟨q', -, y, hq', -, hy, -, -⟩ := hclash
    obtain rfl := Option.some.inj (hq.symm.trans hq')
    cases hy.symm.trans hnone

/-- The names of the locals are distinct exactly if no two parameters clash. -/
theorem nodup_locals_iff {ps : List Parameter} (hnames : (boundNames ps).Nodup) :
    ((locals ps).map Local.name).Nodup ↔ ∀ i j, ¬ Clashes ps i j := by
  rw [List.nodup_iff_getElem?_ne_getElem?]
  constructor
  · intro hdistinct i j hclash
    obtain ⟨p, q, hp, hq, hlocal⟩ := hclash.localName_eq
    have hsame : ((locals ps).map Local.name)[i]? = ((locals ps).map Local.name)[j]? := by
      simp only [getElem?_names, hp, hq, Option.map_some, hlocal]
    have hlength : ∀ k r, ps[k]? = some r → k < ((locals ps).map Local.name).length := by
      intro k r hr
      obtain ⟨hk, -⟩ := List.getElem?_eq_some_iff.1 hr
      simpa [locals] using hk
    rcases Nat.lt_or_gt_of_ne hclash.ne with hlt | hlt
    · exact hdistinct i j hlt (hlength j q hq) hsame
    · exact hdistinct j i hlt (hlength i p hp) hsame.symm
  · intro hclear i j hlt hj hsame
    have hj' : j < ps.length := by simpa [locals] using hj
    have hq : ps[j]? = some ps[j] := List.getElem?_eq_getElem hj'
    have hp : ps[i]? = some ps[i] := List.getElem?_eq_getElem (Nat.lt_trans hlt hj')
    rw [getElem?_names, getElem?_names, hp, hq, Option.map_some, Option.map_some,
      Option.some.injEq] at hsame
    rcases eq_or_clashes hnames hp hq hsame with heq | hclash | hclash
    · exact Nat.ne_of_lt hlt heq
    · exact hclear i j hclash
    · exact hclear j i hclash

/-! ## Values -/

/-- The arguments that the closure of a wrapper calls its function with. -/
def Wrapper.arguments (w : Wrapper) (arg : List Token → Nat → Except ε α) :
    Except ε (List (Option α)) := w.code.arguments arg

/-- For each parameter the argument at its position, decoded as its type. -/
def ownArguments (arg : List Token → Nat → Except ε α) (ps : List Parameter) :
    Except ε (List (Option α)) :=
  ps.zipIdx.mapM fun p => (arg p.1.type p.2).map some

section Values

variable {arg : List Token → Nat → Except ε α} {ls : List Local} {vs : List α}

/-- Each local holds what was decoded for it. -/
theorem holds_of_mapM (hvs : ls.mapM (fun l => arg l.type l.index) = .ok vs) :
    List.Forall₂ (fun l v => arg l.type l.index = .ok v) ls vs := by
  induction ls generalizing vs with
  | nil =>
      obtain rfl := Except.ok.inj hvs
      exact .nil
  | cons l rest ih =>
      rw [List.mapM_cons] at hvs
      cases hl : arg l.type l.index with
      | error e =>
          rw [hl] at hvs
          cases hvs
      | ok v =>
          cases hrest : rest.mapM (fun l => arg l.type l.index) with
          | error e =>
              rw [hl, hrest] at hvs
              cases hvs
          | ok vs' =>
              rw [hl, hrest] at hvs
              obtain rfl := Except.ok.inj hvs
              exact .cons hl (ih hrest)

/-- The scope lists the locals with their values, the last one first. -/
theorem declare_eq (arg : List Token → Nat → Except ε α) (ls : List Local) :
    declare arg ls = (ls.mapM fun l => arg l.type l.index).map fun vs =>
      ((ls.map Local.name).zip vs).reverse := by
  have hscope : ∀ (ls : List Local) (scope : List (String × α)),
      ls.foldlM (fun scope l => do
        let v ← arg l.type l.index
        return (l.name, v) :: scope) scope
      = (ls.mapM fun l => arg l.type l.index).map fun vs =>
        ((ls.map Local.name).zip vs).reverse ++ scope := by
    intro ls
    induction ls with
    | nil => exact fun scope => rfl
    | cons l rest ih =>
        intro scope
        rw [List.foldlM_cons, List.mapM_cons]
        cases hl : arg l.type l.index with
        | error e => rfl
        | ok v =>
            show rest.foldlM _ ((l.name, v) :: scope) = _
            rw [ih]
            cases rest.mapM fun l => arg l.type l.index with
            | error e => rfl
            | ok vs => simp [Except.map, bind, Except.bind, pure, Except.pure]
  rw [declare, hscope ls []]
  simp

/-- Of several entries under one name the last one counts when the list is turned round. -/
theorem lookup_reverse {entries : List (String × α)} {k : Nat} {name : String} {v : α}
    (hk : entries[k]? = some (name, v))
    (hlast : ∀ l, k < l → ∀ e, entries[l]? = some e → e.1 ≠ name) :
    entries.reverse.lookup name = some v := by
  rw [List.lookup_eq_some_iff]
  obtain ⟨hlt, hget⟩ := List.getElem?_eq_some_iff.1 hk
  refine ⟨(entries.drop (k + 1)).reverse, (entries.take k).reverse, ?_, ?_⟩
  · conv_lhs => rw [← List.take_append_drop k entries, List.drop_eq_getElem_cons hlt, hget]
    simp
  · intro e he
    obtain ⟨l, hl⟩ := List.mem_iff_getElem?.1 (List.mem_reverse.1 he)
    rw [List.getElem?_drop] at hl
    simpa using (hlast (k + 1 + l) (by omega) e hl).symm

/-- Once all locals are declared, a name stands for what the last local of that name holds. -/
theorem lookup_locals (hvs : ls.mapM (fun l => arg l.type l.index) = .ok vs) {k : Nat}
    {last : Local} (hk : ls[k]? = some last)
    (hlast : ∀ m (l : Local), k < m → ls[m]? = some l → l.name ≠ last.name) :
    ∃ v, arg last.type last.index = .ok v ∧ vs[k]? = some v ∧
      ((ls.map Local.name).zip vs).reverse.lookup last.name = some v := by
  have hholds := List.forall₂_iff_get.1 (holds_of_mapM hvs)
  obtain ⟨hlt, rfl⟩ := List.getElem?_eq_some_iff.1 hk
  have hlt' : k < vs.length := hholds.1 ▸ hlt
  have hvk : vs[k]? = some vs[k] := List.getElem?_eq_getElem hlt'
  refine ⟨vs[k], hholds.2 k hlt hlt', hvk, ?_⟩
  apply lookup_reverse (k := k)
  · rw [List.getElem?_zip_eq_some, List.getElem?_map, hk]
    exact ⟨rfl, hvk⟩
  · intro m hm e he
    rw [List.getElem?_zip_eq_some, List.getElem?_map, Option.map_eq_some_iff] at he
    obtain ⟨⟨l, hl, hname⟩, -⟩ := he
    rw [← hname]
    exact hlast m l hm hl

theorem arguments_eq (w : Wrapper) (arg : List Token → Nat → Except ε α) :
    w.arguments arg = (w.locals.mapM fun l => arg l.type l.index).map fun vs =>
      w.locals.map fun l => ((w.locals.map Local.name).zip vs).reverse.lookup l.name := by
  show (do
    let scope ← declare arg w.locals
    return (w.locals.map Local.name).map fun name => scope.lookup name) = _
  rw [declare_eq]
  cases w.locals.mapM fun l => arg l.type l.index with
  | error e => rfl
  | ok vs => exact congrArg Except.ok List.map_map

theorem ownArguments_eq (arg : List Token → Nat → Except ε α) (ps : List Parameter) :
    ownArguments arg ps = ((locals ps).mapM fun l => arg l.type l.index).map (·.map some) := by
  have hlocals : ((locals ps).mapM fun l => arg l.type l.index)
      = ps.zipIdx.mapM fun p => arg p.1.type p.2 := List.mapM_map ..
  rw [hlocals, ownArguments]
  induction ps.zipIdx with
  | nil => rfl
  | cons p rest ih =>
      rw [List.mapM_cons, List.mapM_cons, ih]
      cases arg p.1.type p.2 with
      | error e => rfl
      | ok v =>
          cases rest.mapM fun p => arg p.1.type p.2 with
          | error e => rfl
          | ok vs => rfl

/-- Where no name hides another, each parameter gets its own argument. -/
theorem arguments_of_nodup {w : Wrapper} {ps : List Parameter} (hw : w.locals = locals ps)
    (hdistinct : ((locals ps).map Local.name).Nodup) (arg : List Token → Nat → Except ε α) :
    w.arguments arg = ownArguments arg ps := by
  rw [arguments_eq, ownArguments_eq, hw]
  cases hvs : (locals ps).mapM fun l => arg l.type l.index with
  | error e => rfl
  | ok vs =>
      apply congrArg Except.ok
      apply List.ext_getElem?
      intro i
      rw [List.getElem?_map, List.getElem?_map]
      cases hi : (locals ps)[i]? with
      | none =>
          rw [List.getElem?_eq_none_iff, (holds_of_mapM hvs).length_eq,
            ← List.getElem?_eq_none_iff] at hi
          rw [hi]
          rfl
      | some l =>
          have hlast : ∀ m (l' : Local), i < m → (locals ps)[m]? = some l' → l'.name ≠ l.name := by
            intro m l' hm hl' hname
            obtain ⟨hlt, -⟩ := List.getElem?_eq_some_iff.1 hl'
            apply List.nodup_iff_getElem?_ne_getElem?.1 hdistinct i m hm (by simpa using hlt)
            rw [List.getElem?_map, List.getElem?_map, hi, hl', Option.map_some, Option.map_some,
              hname]
          obtain ⟨v, -, hvi, hlookup⟩ := lookup_locals hvs hi hlast
          rw [hvi, Option.map_some, Option.map_some, hlookup]

/-- Where two parameters clash, both get the argument of the later one. -/
theorem arguments_of_clashes {w : Wrapper} {ps : List Parameter} (hw : w.locals = locals ps)
    (hnames : (boundNames ps).Nodup) {i j : Nat} (hclash : Clashes ps i j)
    {args : List (Option α)} (hargs : w.arguments arg = .ok args) :
    ∃ p v, ps[max i j]? = some p ∧ arg p.type (max i j) = .ok v ∧
      args[i]? = some (some v) ∧ args[j]? = some (some v) := by
  obtain ⟨p, q, hp, hq, hlocal⟩ := hclash.localName_eq
  -- the later of the two, which has the name of both
  obtain ⟨r, hr, hri, hrj⟩ : ∃ r, ps[max i j]? = some r ∧
      localName i p = localName (max i j) r ∧ localName j q = localName (max i j) r := by
    rcases Nat.le_total i j with hle | hle
    · exact ⟨q, by rwa [Nat.max_eq_right hle], by rw [Nat.max_eq_right hle, hlocal],
        by rw [Nat.max_eq_right hle]⟩
    · exact ⟨p, by rwa [Nat.max_eq_left hle], by rw [Nat.max_eq_left hle],
        by rw [Nat.max_eq_left hle, hlocal]⟩
  have hk : (locals ps)[max i j]? = some ⟨localName (max i j) r, r.type, max i j⟩ := by
    rw [getElem?_locals, hr, Option.map_some]
  rw [arguments_eq, hw] at hargs
  cases hvs : (locals ps).mapM fun l => arg l.type l.index with
  | error e =>
      rw [hvs] at hargs
      cases hargs
  | ok vs =>
      rw [hvs] at hargs
      obtain rfl := Except.ok.inj hargs
      obtain ⟨v, hv, -, hlookup⟩ := lookup_locals hvs hk fun m l hm hl hname => by
        rw [getElem?_locals, Option.map_eq_some_iff] at hl
        obtain ⟨r', hr', rfl⟩ := hl
        rcases hclash.eq_or_eq hnames hq hr' (hname.trans hrj.symm) with rfl | rfl
        · exact Nat.not_lt.2 (Nat.le_max_left ..) hm
        · exact Nat.not_lt.2 (Nat.le_max_right ..) hm
      refine ⟨r, v, hr, hv, ?_, ?_⟩
      · rw [List.getElem?_map, getElem?_locals, hp, Option.map_some, Option.map_some, hri, hlookup]
      · rw [List.getElem?_map, getElem?_locals, hq, Option.map_some, Option.map_some, hrj, hlookup]

end Values

theorem wrap_of_checkSignature {f : FunctionItem} (hf : checkSignature f = .ok ()) (o : Options) :
    ∃ w, wrap o f = .ok w ∧ w.locals = locals f.parameters := by
  rw [wrap, hf]
  exact ⟨_, rfl, rfl⟩

/-- A function that can be exposed has a wrapper, whatever the options. The locals of the wrapper
have distinct names exactly if no parameter has the name that stands for the position of one
without a name. Then the closure calls the function with the argument of each parameter's own
position, decoded as its own type, and fails as that decoding fails. Otherwise the two parameters
both get the argument at the later of their positions. -/
theorem own_arguments_iff {f : FunctionItem} (hf : checkSignature f = .ok ())
    (hnames : (boundNames f.parameters).Nodup) (o : Options) :
    ∃ w, wrap o f = .ok w ∧
      ((w.locals.map Local.name).Nodup ↔ ∀ i j, ¬ Clashes f.parameters i j) ∧
      ((∀ i j, ¬ Clashes f.parameters i j) →
        ∀ (ε α : Type) (arg : List Token → Nat → Except ε α),
          w.arguments arg = ownArguments arg f.parameters) ∧
      ∀ i j, Clashes f.parameters i j → i ≠ j ∧
        ∀ (ε α : Type) (arg : List Token → Nat → Except ε α) (args : List (Option α)),
          w.arguments arg = .ok args →
            ∃ p v, f.parameters[max i j]? = some p ∧ arg p.type (max i j) = .ok v ∧
              args[i]? = some (some v) ∧ args[j]? = some (some v) := by
  obtain ⟨w, hwrap, hw⟩ := wrap_of_checkSignature hf o
  refine ⟨w, hwrap, ?_, ?_, ?_⟩
  · rw [hw]
    exact nodup_locals_iff hnames
  · intro hclear ε α arg
    exact arguments_of_nodup hw ((nodup_locals_iff hnames).2 hclear) arg
  · intro i j hclash
    exact ⟨hclash.ne, fun ε α arg args hargs => arguments_of_clashes hw hnames hclash hargs⟩

/-- `fn f(arg1: i64, _: i64) -> i64`, whose first parameter is named for the second position. -/
def misnamed : FunctionItem :=
  ⟨[], false, ⟨"f", false⟩, false, false,
    [⟨some ⟨"arg1", false⟩, [.word "i64"]⟩, ⟨none, [.word "i64"]⟩], .value⟩

theorem own_arguments_iff_misnamed :
    checkSignature misnamed = .ok () ∧ (boundNames misnamed.parameters).Nodup ∧
      Clashes misnamed.parameters 0 1 ∧
      ∃ w, wrap ⟨none, none⟩ misnamed = .ok w ∧ ¬ (w.locals.map Local.name).Nodup ∧
        ∀ args : List (Option Nat), w.arguments (fun _ k => (.ok k : Except Unit Nat)) = .ok args →
          args[0]? = some (some 1) ∧ args[1]? = some (some 1) := by
  have hf : checkSignature misnamed = .ok () := rfl
  have hnames : (boundNames misnamed.parameters).Nodup := by decide
  have hclash : Clashes misnamed.parameters 0 1 := ⟨_, _, _, rfl, rfl, rfl, rfl, rfl⟩
  obtain ⟨w, hw, hdistinct, -, hclashing⟩ := own_arguments_iff hf hnames ⟨none, none⟩
  refine ⟨hf, hnames, hclash, w, hw, fun h => hdistinct.1 h 0 1 hclash, fun args hargs => ?_⟩
  obtain ⟨p, v, -, hv, h0, h1⟩ := (hclashing 0 1 hclash).2 _ _ _ _ hargs
  obtain rfl := Except.ok.inj hv
  exact ⟨h0, h1⟩

/-- Called with 10 and 20, the function that the wrapper stands for gets 20 and 20. -/
theorem misnamed_first_argument_lost :
    checkSignature misnamed = .ok () ∧ (boundNames misnamed.parameters).Nodup ∧
      (wrap ⟨none, none⟩ misnamed).toOption.map (fun w => w.locals.map Local.name)
        = some ["__eel_arg1", "__eel_arg1"] ∧
      (wrap ⟨none, none⟩ misnamed).toOption.map
        (fun w => (w.arguments fun _ k => [10, 20][k]?.elim (.error ()) .ok).toOption)
        = some (some [some 20, some 20]) ∧
      (ownArguments (fun _ k => [10, 20][k]?.elim (.error ()) .ok) misnamed.parameters).toOption
        = some [some 10, some 20] := by
  decide +kernel

end CallBridge.Expose
