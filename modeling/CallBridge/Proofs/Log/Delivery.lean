import CallBridge.Log.Manager
import Mathlib.Data.List.Basic
import Mathlib.Data.List.Induction

/-!
# Delivery of log records

Over any sequence of acts on a manager, what its sinks note down is read off the sequence alone.
A record goes to the sink that the latest act before it installed, if it reaches the threshold that
the latest act before it set. The record of an event carries a text of words joined by single
spaces, although its fields are gathered one at a time.
-/

namespace CallBridge.Log

variable {α β κ : Type}

/-! ## The latest value -/

/-- The value that the last of the elements with one has; `start` if none has one. -/
def latest (f : α → Option β) (start : β) (past : List α) : β :=
  (past.filterMap f).getLast?.getD start

theorem latest_concat (f : α → Option β) (start : β) (past : List α) (a : α) :
    latest f start (past ++ [a]) = (f a).getD (latest f start past) := by
  unfold latest
  rw [List.filterMap_append]
  cases h : f a with
  | none => simp [h]
  | some b => simp [h]

theorem latest_eq_start {f : α → Option β} {past : List α} (h : ∀ a ∈ past, f a = none)
    (start : β) : latest f start past = start := by
  unfold latest
  rw [List.filterMap_eq_nil_iff.2 h]
  rfl

/-! ## The text of an event -/

/-- The text of a message field. -/
def saidBy (f : String × String) : Option String := if f.1 = messageField then some f.2 else none

/-- Any other field as `name=value`. -/
def detailOf (f : String × String) : Option String :=
  if f.1 = messageField then none else some (f.1 ++ "=" ++ f.2)

/-- The words of an event: its message unless that is empty, then its other fields. -/
def Event.words (e : Event) : List String :=
  (if latest saidBy "" e.fields = "" then [] else [latest saidBy "" e.fields])
    ++ e.fields.filterMap detailOf

theorem intercalate_eq_empty_iff {words : List String} (h : ∀ w ∈ words, w ≠ "") :
    " ".intercalate words = "" ↔ words = [] := by
  cases words with
  | nil => simp
  | cons w rest =>
      have hw : w ≠ "" := h w List.mem_cons_self
      cases rest with
      | nil => simp [hw]
      | cons _ _ => simp [hw]

theorem ne_empty_of_mem_details {fields : List (String × String)} {w : String}
    (hw : w ∈ fields.filterMap detailOf) : w ≠ "" := by
  obtain ⟨f, -, hf⟩ := List.mem_filterMap.1 hw
  unfold detailOf at hf
  split at hf
  · cases hf
  · cases hf
    simp

theorem joined_details_eq_empty_iff (fields : List (String × String)) :
    " ".intercalate (fields.filterMap detailOf) = "" ↔ fields.filterMap detailOf = [] :=
  intercalate_eq_empty_iff fun _ hw => ne_empty_of_mem_details hw

/-- What has been gathered after any fields: the latest message, and the details with one space
between each two. -/
theorem Gathered.foldl_add (fields : List (String × String)) :
    fields.foldl add {}
      = ⟨latest saidBy "" fields, " ".intercalate (fields.filterMap detailOf)⟩ := by
  induction fields using List.reverseRecOn with
  | nil => rfl
  | append_singleton fields f ih =>
      rw [List.foldl_append, ih, List.foldl_cons, List.foldl_nil, latest_concat,
        List.filterMap_append]
      by_cases hf : f.1 = messageField
      · simp [add, saidBy, detailOf, hf]
      -- A space stands exactly if a detail came before, since no detail is empty.
      · by_cases hnil : fields.filterMap detailOf = []
        · simp [add, saidBy, detailOf, hf, hnil]
        · have hlast : [f].filterMap detailOf = [f.1 ++ "=" ++ f.2] := by simp [detailOf, hf]
          rw [hlast, String.intercalate_append_of_ne_nil hnil (List.cons_ne_nil _ _)]
          simp [add, saidBy, hf, joined_details_eq_empty_iff, hnil, String.append_assoc]

theorem Event.render_eq (e : Event) : e.render = " ".intercalate e.words := by
  unfold render words
  rw [Gathered.foldl_add]
  have hempty := joined_details_eq_empty_iff e.fields
  by_cases hnil : e.fields.filterMap detailOf = []
  · by_cases hm : latest saidBy "" e.fields = "" <;> simp [Gathered.text, hnil, hm]
  · by_cases hm : latest saidBy "" e.fields = ""
    · simp [Gathered.text, hempty, hnil, hm]
    · simp [Gathered.text, hempty, hnil, hm, String.intercalate_cons_of_ne_nil hnil]

/-- Where the message stands among the fields makes no difference to the words. -/
theorem Event.words_of_message (level : Level) (target m : String)
    {front back : List (String × String)} (h : ∀ f ∈ front ++ back, f.1 ≠ messageField) :
    Event.words ⟨level, target, front ++ (messageField, m) :: back⟩
      = (if m = "" then [] else [m]) ++ (front ++ back).map fun f => f.1 ++ "=" ++ f.2 := by
  have hsaid : ∀ f ∈ front ++ back, saidBy f = none := fun f hf => if_neg (h f hf)
  have hdetail : ∀ f ∈ front ++ back, detailOf f = some (f.1 ++ "=" ++ f.2) :=
    fun f hf => if_neg (h f hf)
  have hmessage : latest saidBy "" (front ++ (messageField, m) :: back) = m := by
    unfold latest
    rw [List.filterMap_append, List.filterMap_cons]
    rw [List.filterMap_eq_nil_iff.2 fun f hf => hsaid f (List.mem_append_right _ hf)]
    simp [saidBy]
  have hdetails : (front ++ (messageField, m) :: back).filterMap detailOf
      = (front ++ back).map fun f => f.1 ++ "=" ++ f.2 := by
    rw [List.filterMap_append, List.filterMap_cons, ← List.filterMap_eq_map]
    show List.filterMap detailOf front ++ List.filterMap detailOf back = _
    rw [← List.filterMap_append]
    exact List.filterMap_congr hdetail
  show (if latest saidBy "" _ = "" then [] else [latest saidBy "" _]) ++ _ = _
  rw [hmessage, hdetails]

/-- Without a message the words are the fields. -/
theorem Event.words_of_no_message (level : Level) (target : String)
    {fields : List (String × String)} (h : ∀ f ∈ fields, f.1 ≠ messageField) :
    Event.words ⟨level, target, fields⟩ = fields.map fun f => f.1 ++ "=" ++ f.2 := by
  have hsaid : ∀ f ∈ fields, saidBy f = none := fun f hf => if_neg (h f hf)
  unfold words
  rw [latest_eq_start hsaid, if_pos rfl, List.nil_append, ← List.filterMap_eq_map]
  exact List.filterMap_congr fun f hf => if_neg (h f hf)

/-! ## Sinks that leave the manager alone -/

/-- The reaction notes things down and does nothing else. -/
def Reaction.Passive : Reaction → Prop
  | .done => True
  | .note _ next => next.Passive
  | _ => False

/-- What a passive reaction notes down. -/
def Reaction.entries : Reaction → List (List String)
  | .note entry next => entry :: next.entries
  | _ => []

namespace Manager

theorem react_of_passive (again : Manager → Record → Manager) {x : Reaction} (hx : x.Passive)
    (m : Manager) : react again x m = { m with notes := m.notes ++ x.entries } := by
  induction x generalizing m with
  | done => simp [react, Reaction.entries]
  | note entry next ih => rw [react, ih hx]; simp [Reaction.entries]
  | setLevel => cases hx
  | clearSink => cases hx
  | setSink => cases hx
  | log => cases hx

theorem enabled_iff {m : Manager} {l : Level} :
    m.enabled l = true ↔ m.level ≠ .off ∧ m.level.rank ≤ l.rank := by
  simp [enabled, Level.passes]

/-- Whatever the limit, the record that comes from outside is handed to the sink if it passes. -/
theorem exists_log_eq [Limits] (m : Manager) (r : Record) :
    ∃ again, m.log r = logWith again m r := by
  rw [log]
  cases Limits.records <;> exact ⟨_, rfl⟩

theorem log_of_passive [Limits] {m : Manager} {sink : Sink} {r : Record} (hm : m.sink = some sink)
    (hr : (sink r).Passive) :
    m.log r = if m.enabled r.level then { m with notes := m.notes ++ (sink r).entries } else m := by
  obtain ⟨again, hlog⟩ := m.exists_log_eq r
  simp only [hlog, logWith, hm, react_of_passive _ hr]

theorem log_of_no_sink [Limits] {m : Manager} (hm : m.sink = none) (r : Record) : m.log r = m := by
  obtain ⟨again, hlog⟩ := m.exists_log_eq r
  rw [hlog, logWith, hm]
  exact ite_self m

/-- The check for an event and the check for its record agree. -/
theorem emit_eq_log [Limits] (m : Manager) (e : Event) : m.emit e = m.log e.toRecord := by
  unfold emit
  by_cases h : m.enabled e.level
  · simp [h]
  · rw [if_neg h]
    obtain ⟨again, hlog⟩ := m.exists_log_eq e.toRecord
    rw [hlog]
    exact (if_neg h).symm

end Manager

/-! ## Acts on a manager -/

/-- What can be done with a manager from outside; sinks go by names. -/
inductive Act (κ : Type) where
  | setLevel (l : Level)
  | setSink (k : κ)
  | clearSink
  | log (r : Record)
  | event (e : Event)

def Manager.act [Limits] (sinks : κ → Sink) (m : Manager) : Act κ → Manager
  | .setLevel l => { m with level := l }
  | .setSink k => { m with sink := some (sinks k) }
  | .clearSink => { m with sink := none }
  | .log r => m.log r
  | .event e => m.emit e

/-- A new manager after some acts. -/
def Manager.after [Limits] (sinks : κ → Sink) (acts : List (Act κ)) : Manager :=
  acts.foldl (act sinks) {}

namespace Act

/-- The threshold that an act sets. -/
def threshold? : Act κ → Option Level
  | .setLevel l => some l
  | _ => none

/-- The sink that an act installs; `some none` is its removal. -/
def sink? : Act κ → Option (Option κ)
  | .setSink k => some (some k)
  | .clearSink => some none
  | _ => none

/-- The record that an act issues. -/
def record? : Act κ → Option Record
  | .log r => some r
  | .event e => some ⟨e.level, e.target, " ".intercalate e.words⟩
  | _ => none

end Act

/-- The delivery that an act causes after the acts `past`: the sink and its record. -/
def delivery (past : List (Act κ)) (a : Act κ) : Option (κ × Record) := do
  let k ← latest Act.sink? none past
  let r ← a.record?
  let threshold := latest Act.threshold? .info past
  if threshold ≠ .off ∧ threshold.rank ≤ r.level.rank then some (k, r) else none

/-- The deliveries of a whole sequence, at most one for each position. -/
def deliveries (acts : List (Act κ)) : List (κ × Record) :=
  (List.range acts.length).filterMap fun i => acts[i]?.bind (delivery (acts.take i))

/-- The records that one sink receives. -/
def received [DecidableEq κ] (k : κ) (acts : List (Act κ)) : List Record :=
  (deliveries acts).filterMap fun d => if d.1 = k then some d.2 else none

theorem deliveries_concat (acts : List (Act κ)) (a : Act κ) :
    deliveries (acts ++ [a]) = deliveries acts ++ (delivery acts a).toList := by
  unfold deliveries
  rw [List.length_append, List.length_singleton, List.range_succ, List.filterMap_append]
  congr 1
  · apply List.filterMap_congr
    intro i hi
    have hi : i < acts.length := List.mem_range.1 hi
    rw [List.getElem?_append_left hi, List.take_append_of_le_length (Nat.le_of_lt hi)]
  · have hlast : (acts ++ [a])[acts.length]? = some a := List.getElem?_concat_length
    rw [List.filterMap_cons, List.filterMap_nil, hlast, List.take_left, Option.bind_some]
    cases delivery acts a <;> rfl

/-! ## What sinks note down -/

section

variable {sinks : κ → Sink}

/-- What the sink of a delivery notes down. -/
def noted (sinks : κ → Sink) (d : κ × Record) : List (List String) := (sinks d.1 d.2).entries

/-- A manager whose threshold and sink are the latest that some acts set. -/
def Manager.upTo (sinks : κ → Sink) (past : List (Act κ)) (notes : List (List String)) : Manager :=
  ⟨latest Act.threshold? .info past, (latest Act.sink? none past).map sinks, notes⟩

theorem Manager.log_upTo [Limits] (hpassive : ∀ k r, (sinks k r).Passive) {past : List (Act κ)}
    {a : Act κ} {r : Record} (ha : a.record? = some r) (notes : List (List String)) :
    (upTo sinks past notes).log r
      = upTo sinks past (notes ++ (delivery past a).toList.flatMap (noted sinks)) := by
  unfold delivery
  rw [ha]
  cases hk : latest Act.sink? none past with
  | none =>
      rw [log_of_no_sink (by simp [upTo, hk])]
      simp
  | some k =>
      have hsink : (upTo sinks past notes).sink = some (sinks k) := by simp [upTo, hk]
      rw [log_of_passive hsink (hpassive k r)]
      by_cases hpass : (upTo sinks past notes).enabled r.level
      · have hreach := enabled_iff.1 hpass
        rw [if_pos hpass]
        simp only [upTo] at hreach
        simp [upTo, hreach, noted]
      · have hreach := fun h => hpass (enabled_iff.2 h)
        rw [if_neg hpass]
        simp only [upTo] at hreach
        simp only [Option.bind_eq_bind, Option.bind_some]
        rw [if_neg hreach]
        simp

/-- One act: the latest values move on, and the sink notes down what is delivered. -/
theorem Manager.act_upTo [Limits] (hpassive : ∀ k r, (sinks k r).Passive) (past : List (Act κ))
    (notes : List (List String)) (a : Act κ) :
    (upTo sinks past notes).act sinks a
      = upTo sinks (past ++ [a]) (notes ++ (delivery past a).toList.flatMap (noted sinks)) := by
  have hsame (hl : a.threshold? = none) (hs : a.sink? = none) (notes : List (List String)) :
      upTo sinks (past ++ [a]) notes = upTo sinks past notes := by
    simp [upTo, latest_concat, hl, hs]
  cases a with
  | setLevel l | setSink k | clearSink =>
      simp [act, upTo, latest_concat, delivery, Act.threshold?, Act.sink?, Act.record?]
  | log r =>
      rw [hsame rfl rfl]
      exact log_upTo hpassive rfl notes
  | event e =>
      rw [hsame rfl rfl]
      show (upTo sinks past notes).emit e = _
      rw [emit_eq_log]
      refine log_upTo hpassive ?_ notes
      rw [Act.record?, Event.toRecord, Event.render_eq]

theorem Manager.after_eq [Limits] (hpassive : ∀ k r, (sinks k r).Passive) (acts : List (Act κ)) :
    after sinks acts = upTo sinks acts ((deliveries acts).flatMap (noted sinks)) := by
  induction acts using List.reverseRecOn with
  | nil => rfl
  | append_singleton acts a ih =>
      unfold after at ih ⊢
      rw [List.foldl_append, ih, List.foldl_cons, List.foldl_nil, act_upTo hpassive,
        deliveries_concat, List.flatMap_append]

/-- What one sink notes down, if its entries tell it from the others. -/
theorem filter_noted [DecidableEq κ] {sign : List String → κ}
    (hsign : ∀ k r, ∀ entry ∈ (sinks k r).entries, sign entry = k) (k : κ)
    (ds : List (κ × Record)) :
    (ds.flatMap (noted sinks)).filter (fun entry => sign entry = k)
      = (ds.filterMap fun d => if d.1 = k then some d.2 else none).flatMap
          fun r => (sinks k r).entries := by
  induction ds with
  | nil => rfl
  | cons d ds ih =>
      obtain ⟨j, r⟩ := d
      rw [List.flatMap_cons, List.filter_append, ih]
      by_cases hj : j = k
      · subst hj
        have hall : (noted sinks (j, r)).filter (fun entry => sign entry = j)
            = (sinks j r).entries :=
          List.filter_eq_self.2 fun entry he => decide_eq_true (hsign j r entry he)
        simp [hall]
      · have hnone : (noted sinks (j, r)).filter (fun entry => sign entry = k) = [] :=
          List.filter_eq_nil_iff.2 fun entry he h =>
            hj ((hsign j r entry he).symm.trans (of_decide_eq_true h))
        simp [hnone, hj]

end

/-- For all sinks that leave the manager alone and all acts: the sinks note down exactly the
deliveries, in their order, and so each sink the records that it receives. The text of an event is
its message and its other fields, in their order and joined by single spaces, wherever the message
stands; an empty message and missing fields leave no space behind. -/
theorem records_reach_installed_sink [Limits] [DecidableEq κ] (sinks : κ → Sink)
    (hpassive : ∀ k r, (sinks k r).Passive) (acts : List (Act κ)) :
    (Manager.after sinks acts).notes
        = (deliveries acts).flatMap (fun d => (sinks d.1 d.2).entries) ∧
      (∀ sign : List String → κ, (∀ k r, ∀ entry ∈ (sinks k r).entries, sign entry = k) →
        ∀ k, (Manager.after sinks acts).notes.filter (fun entry => sign entry = k)
          = (received k acts).flatMap fun r => (sinks k r).entries) ∧
      (∀ e : Event, e.toRecord = ⟨e.level, e.target, " ".intercalate e.words⟩) ∧
      (∀ level target m front back, (∀ f ∈ front ++ back, f.1 ≠ messageField) →
        Event.words ⟨level, target, front ++ (messageField, m) :: back⟩
          = (if m = "" then [] else [m]) ++ (front ++ back).map fun f => f.1 ++ "=" ++ f.2) ∧
      (∀ level target fields, (∀ f ∈ fields, f.1 ≠ messageField) →
        Event.words ⟨level, target, fields⟩ = fields.map fun f => f.1 ++ "=" ++ f.2) := by
  have hnotes : (Manager.after sinks acts).notes = (deliveries acts).flatMap (noted sinks) := by
    rw [Manager.after_eq hpassive]
    rfl
  refine ⟨hnotes, ?_, ?_, ?_, ?_⟩
  · intro sign hsign k
    rw [hnotes]
    exact filter_noted hsign k (deliveries acts)
  · intro e
    rw [Event.toRecord, Event.render_eq]
  · intro level target m front back h
    exact Event.words_of_message level target m h
  · intro level target fields h
    exact Event.words_of_no_message level target h

/-- The sinks `a` and `b` take turns, with a threshold that goes down, off and down again. -/
theorem records_reach_installed_sink_in_turn :
    let acts : List (Act String) :=
      [.log ⟨.error, "t", "early"⟩, .setSink "a", .log ⟨.info, "t", "one"⟩,
        .event ⟨.debug, "t", [("message", "below")]⟩, .setLevel .debug,
        .event ⟨.debug, "t", [("n", "1"), ("message", "two"), ("m", "")]⟩, .setSink "b",
        .event ⟨.warn, "t", [("message", ""), ("n", "3")]⟩, .setLevel .off,
        .log ⟨.error, "t", "off"⟩, .setLevel .trace, .setSink "a",
        .event ⟨.trace, "t", [("message", "four")]⟩, .clearSink, .log ⟨.error, "t", "late"⟩]
    (∀ tag r, (Sink.tagged tag r).Passive) ∧
      (∀ tag r, ∀ entry ∈ (Sink.tagged tag r).entries, entry.headD "" = tag) ∧
      (Manager.after Sink.tagged acts).notes
        = [["a", "INFO", "one"], ["a", "DEBUG", "two n=1 m="], ["b", "WARN", "n=3"],
          ["a", "TRACE", "four"]] ∧
      (Manager.after Sink.tagged acts).notes.filter (fun entry => entry.headD "" = "b")
        = [["b", "WARN", "n=3"]] := by
  have hpassive : ∀ tag r, (Sink.tagged tag r).Passive := fun _ _ => trivial
  have hsign : ∀ tag r, ∀ entry ∈ (Sink.tagged tag r).entries, entry.headD "" = tag := by
    intro tag r entry he
    rw [List.mem_singleton.1 he]
    rfl
  refine ⟨hpassive, hsign, ?_, ?_⟩
  · rw [(records_reach_installed_sink Sink.tagged hpassive _).1]
    decide +kernel
  · rw [(records_reach_installed_sink Sink.tagged hpassive _).2.1 _ hsign]
    decide +kernel

end CallBridge.Log
