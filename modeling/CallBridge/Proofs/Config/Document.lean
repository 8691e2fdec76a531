import CallBridge.Proofs.Config.Setting

/-!
# Documents that say a configuration

A document is an object whose members give fields or have other keys, or an array with the first of
the fields in their order. Main statements: a document is read as the defaults with its settings put
in (`ofSymbols_document`), so nothing else about it matters, and an object in which a field comes
again is refused at that key (`ofSymbols_repeated`).
-/

namespace CallBridge.Config

open Json Scan

/-! ## Their texts -/

/-- What a member of an object conveys: a setting, or nothing when its key belongs to no field. -/
inductive Conveys : MemberText → Option Setting → Prop
  | known {m : MemberText} {x : Setting} (hkey : Quotes m.key.body x.field.name)
      (hvalue : Written x m.value.body) : Conveys m (some x)
  | unknown {m : MemberText} {key : String} (hkey : Quotes m.key.body key)
      (hfields : ∀ f : Field, f.name ≠ key) (hvalue : IsValue m.value.body) : Conveys m none

structure Member where
  text : MemberText
  setting : Option Setting
  conveys : Conveys text setting

def settings (members : List Member) : List Setting := members.filterMap Member.setting

theorem settings_cons_none {m : Member} (hm : m.setting = none) (members : List Member) :
    settings (m :: members) = settings members := by
  simp [settings, hm]

theorem settings_cons_some {m : Member} {x : Setting} (hm : m.setting = some x)
    (members : List Member) : settings (m :: members) = x :: settings members := by
  simp [settings, hm]

/-- An object up to some member: no field comes twice. -/
structure ObjectStart where
  lead : Blanks
  members : List Member
  once : ((settings members).map Setting.field).Nodup

/-- The text of the members, and `last` after them. -/
def ObjectStart.upTo (o : ObjectStart) (last : Symbols) : Symbols :=
  o.lead.1 ++ some '{' :: joined (o.members.map fun m => m.text.toPadded) last

structure ObjectText extends ObjectStart where
  inner : Blanks
  trail : Blanks

def ObjectText.symbols (t : ObjectText) : Symbols := t.upTo (t.inner.1 ++ some '}' :: t.trail.1)

/-- A value of an array. -/
structure Item where
  text : Padded
  setting : Setting
  written : Written setting text.body

structure ArrayText where
  lead : Blanks
  items : List Item
  inner : Blanks
  trail : Blanks
  inOrder : items.map (fun i => i.setting.field) <+: Field.all

def ArrayText.symbols (t : ArrayText) : Symbols :=
  t.lead.1 ++ some '[' :: joined (t.items.map Item.text) (t.inner.1 ++ some ']' :: t.trail.1)

inductive Document where
  | object (t : ObjectText)
  | array (t : ArrayText)

namespace Document

def symbols : Document → Symbols
  | .object t => t.symbols
  | .array t => t.symbols

def settings : Document → List Setting
  | .object t => Config.settings t.members
  | .array t => t.items.map Item.setting

/-- Each field comes at most once. -/
theorem nodup_fields (d : Document) : (d.settings.map Setting.field).Nodup := by
  cases d with
  | object t => exact t.once
  | array t =>
      rw [settings, List.map_map]
      exact t.inOrder.sublist.nodup (by decide)

end Document

/-! ## Members -/

theorem named?_name (f : Field) : Field.named? f.name = some f := by
  cases f <;> rfl

theorem named?_eq_none {key : String} (hkey : ∀ f : Field, f.name ≠ key) :
    Field.named? key = none :=
  List.find?_eq_none.2 fun f _ => by simpa using hkey f

/-- The draft with what a member conveys. -/
def Draft.add (d : Draft) : Option Setting → Draft
  | some x => ⟨x.put d.config, x.field :: d.seen⟩
  | none => d

def Draft.addAll (d : Draft) (members : List Member) : Draft :=
  members.foldl (fun d m => d.add m.setting) d

/-- No field of the members has been seen, and none comes twice. -/
def Draft.Admits (d : Draft) (members : List Member) : Prop :=
  ((settings members).map Setting.field).Nodup ∧ ∀ x ∈ settings members, x.field ∉ d.seen

namespace Draft

theorem config_addAll (d : Draft) (members : List Member) :
    (d.addAll members).config = d.config.putAll (settings members) := by
  induction members generalizing d with
  | nil => rfl
  | cons m members ih =>
      rw [addAll, List.foldl_cons, ← addAll, ih]
      cases hm : m.setting with
      | none => rw [settings_cons_none hm, add]
      | some x => rw [settings_cons_some hm, add, putAll, putAll, List.foldl_cons]

theorem mem_seen_addAll (d : Draft) (members : List Member) (f : Field) :
    f ∈ (d.addAll members).seen ↔ f ∈ d.seen ∨ ∃ x ∈ settings members, x.field = f := by
  induction members generalizing d with
  | nil => simp [addAll, settings]
  | cons m members ih =>
      rw [addAll, List.foldl_cons, ← addAll, ih]
      cases hm : m.setting with
      | none => rw [settings_cons_none hm, add]
      | some x =>
          rw [settings_cons_some hm, add]
          simp only [List.mem_cons, exists_eq_or_imp, eq_comm (a := f)]
          exact or_assoc.trans or_left_comm

theorem Admits.head {d : Draft} {m : Member} {members : List Member}
    (h : d.Admits (m :: members)) : ∀ x ∈ m.setting, x.field ∉ d.seen := by
  intro x hx
  refine h.2 x ?_
  rw [settings_cons_some hx]
  exact List.mem_cons_self

theorem Admits.tail {d : Draft} {m : Member} {members : List Member}
    (h : d.Admits (m :: members)) : (d.add m.setting).Admits members := by
  obtain ⟨hnodup, hnew⟩ := h
  cases hm : m.setting with
  | none =>
      rw [settings_cons_none hm] at hnodup hnew
      exact ⟨hnodup, hnew⟩
  | some x =>
      rw [settings_cons_some hm] at hnodup hnew
      rw [List.map_cons, List.nodup_cons] at hnodup
      refine ⟨hnodup.2, fun y hy hseen => ?_⟩
      rcases List.mem_cons.1 hseen with hfield | hseen
      · exact hnodup.1 (List.mem_map.2 ⟨y, hy, hfield⟩)
      · exact hnew y (List.mem_cons_of_mem x hy) hseen

end Draft

/-- A member from after its key. -/
def afterKey (d : Draft) (key : String) (s : Symbols) : Except Fault (Piece Draft) :=
  match Field.named? key with
  | some f =>
      if f ∈ d.seen then .error (.unfit (.duplicateField f.name))
      else do
        let (c, rest) ← f.read d.config (← mark ':' s)
        .ok (⟨c, f :: d.seen⟩, rest)
  | none => do
      let s ← mark ':' s
      .ok (d, ← skipValue s.length s)

theorem readMember_key (d : Draft) {key : Symbols} {name : String} (hkey : Quotes key name)
    (b : Blanks) (rest : Symbols) : readMember d (b.1 ++ (key ++ rest)) = afterKey d name rest := by
  obtain ⟨t, rfl, ht⟩ := hkey
  rw [List.cons_append, List.append_assoc, readMember, mark_blanks (by decide)]
  simp only [List.singleton_append, bind, Except.bind, stringRest_of_spells ht]
  rfl

/-- A key that belongs to a field seen before ends the reading. -/
theorem readMember_repeated {d : Draft} {f : Field} (hf : f ∈ d.seen) {key : Symbols}
    (hkey : Quotes key f.name) (b : Blanks) (rest : Symbols) :
    readMember d (b.1 ++ (key ++ rest)) = .error (.unfit (.duplicateField f.name)) := by
  rw [readMember_key d hkey, afterKey, named?_name]
  exact if_pos hf

theorem readMember_conveys {d : Draft} {m : MemberText} {o : Option Setting} (hm : Conveys m o)
    (hnew : ∀ x ∈ o, x.field ∉ d.seen) (b : Blanks) {rest : Symbols} (hrest : EndsNumber rest) :
    readMember d (b.1 ++ (m.toPadded.body ++ rest)) = .ok (d.add o, rest) := by
  have htext : m.toPadded.body ++ rest = m.key.body ++
      (m.key.after.1 ++ some ':' :: (m.value.before.1 ++ (m.value.body ++ rest))) := by
    simp [MemberText.toPadded]
  rw [htext]
  cases hm with
  | @known x hkey hvalue =>
      have hread := read_written hvalue d.config m.value.before hrest
      rw [readMember_key d hkey, afterKey, named?_name, mark_blanks (by decide)]
      simp only [if_neg (hnew x rfl), bind, Except.bind, hread]
      rfl
  | unknown hkey hfields hvalue =>
      have hroom : m.value.body.length ≤ (m.value.before.1 ++ (m.value.body ++ rest)).length := by
        simp only [List.length_append]
        omega
      have hskip := skipValue_of_isValue hvalue hroom m.value.before rest hrest
      rw [readMember_key d hkey, afterKey, named?_eq_none hfields, mark_blanks (by decide)]
      simp only [bind, Except.bind, hskip]
      rfl

/-- What may follow a member: a comma and further members, or the closing brace. -/
def afterMember (room : Nat) (d : Draft) (s : Symbols) : Except Fault (Piece Draft) :=
  match skipBlanks s with
  | some ',' :: rest => readMembers room d rest
  | some '}' :: rest => .ok (d, rest)
  | other => .error (unexpected other)

theorem readMembers_succ (room : Nat) (d : Draft) (s : Symbols) :
    readMembers (room + 1) d s = (readMember d s >>= fun p => afterMember room p.1 p.2) := rfl

theorem afterMember_following {last : Symbols} (hlast : EndsNumber last) {members : List Member}
    {d : Draft} (hd : d.Admits members) (b : Blanks) (room : Nat) :
    afterMember (room + members.length) d
        (b.1 ++ following (members.map fun m => m.text.toPadded) last)
      = afterMember room (d.addAll members) last := by
  induction members generalizing d b with
  | nil =>
      rw [afterMember, skipBlanks_blanks]
      rfl
  | cons m members ih =>
      have hread := readMember_conveys m.conveys hd.head m.text.toPadded.before
        (endsNumber_blanks m.text.toPadded.after
          (endsNumber_following (members.map fun m => m.text.toPadded) hlast))
      rw [afterMember, skipBlanks_blanks, List.map_cons, following, skipBlanks_cons (by decide)]
      show readMembers (room + members.length + 1) d _ = _
      rw [readMembers_succ, hread]
      exact ih hd.tail m.text.toPadded.after

/-! ## Objects -/

theorem head_of_conveys {m : MemberText} {o : Option Setting} (hm : Conveys m o) :
    ∃ t, m.toPadded.body = some '"' :: t := by
  cases hm with
  | known hkey _ | unknown hkey _ _ =>
      obtain ⟨t, hbody, -⟩ := hkey
      exact ⟨_, by rw [MemberText.toPadded, hbody]; rfl⟩

/-- The members of an object are read one after the other, and then what comes after them. -/
theorem readDocument_upTo (o : ObjectStart) (hne : o.members ≠ []) {last : Symbols}
    (hlast : EndsNumber last) :
    ∃ room, last.length ≤ room ∧ readDocument (o.upTo last) = (do
      let (d, rest) ← afterMember room (Draft.addAll {} o.members) last
      .ok (d.config, rest)) := by
  obtain ⟨lead, members, once⟩ := o
  cases members with
  | nil => exact absurd rfl hne
  | cons m members =>
      have hadmits : Draft.Admits {} (m :: members) := ⟨once, fun x _ => List.not_mem_nil⟩
      obtain ⟨t, hbody⟩ := head_of_conveys m.conveys
      have hread := readMember_conveys m.conveys hadmits.head noBlanks
        (endsNumber_blanks m.text.toPadded.after
          (endsNumber_following (members.map fun m => m.text.toPadded) hlast))
      have hlength := length_le_following (members.map fun m => m.text.toPadded) last
      rw [List.length_map] at hlength
      rw [hbody, noBlanks_append, List.cons_append] at hread
      -- what is left of the room once each member after the first has taken one
      obtain ⟨room, hroom⟩ : ∃ room, (t ++ (m.text.toPadded.after.1 ++
          following (members.map fun m => m.text.toPadded) last)).length
            = room + members.length := by
        refine ⟨_, (Nat.sub_add_cancel ?_).symm⟩
        simp only [List.length_append]
        omega
      refine ⟨room, ?_, ?_⟩
      · simp only [List.length_append] at hroom
        omega
      · rw [ObjectStart.upTo, readDocument, skipBlanks_blanks, skipBlanks_cons (by decide)]
        simp only [List.map_cons, joined, skipBlanks_blanks, hbody, List.cons_append,
          skipBlanks_cons (show isBlank (some '"') = false by decide)]
        show (readMembers (_ + 1) _ _ >>= _) = _
        rw [readMembers_succ, hread, hroom]
        show (afterMember _ _ _ >>= _) = _
        rw [afterMember_following hlast hadmits.tail]
        rfl

theorem readDocument_object (t : ObjectText) :
    readDocument t.symbols = .ok (putAll {} (settings t.members), t.trail.1) := by
  by_cases hne : t.members = []
  · rw [ObjectText.symbols, ObjectStart.upTo, readDocument, skipBlanks_blanks,
      skipBlanks_cons (by decide)]
    simp only [hne, List.map_nil, joined, skipBlanks_closes (.inr rfl)]
    rfl
  · obtain ⟨room, -, hread⟩ := readDocument_upTo t.toObjectStart hne
      (endsNumber_blanks t.inner (endsNumber_closes (.inr rfl) t.trail.1))
    rw [ObjectText.symbols, hread, afterMember, skipBlanks_closes (.inr rfl)]
    simp only [bind, Except.bind, Draft.config_addAll]

/-- A field that comes again is refused, whatever stands after its key. -/
theorem readDocument_repeated (o : ObjectStart) {f : Field}
    (hf : f ∈ (settings o.members).map Setting.field) {key : Symbols} (hkey : Quotes key f.name)
    (b : Blanks) (tail : Symbols) :
    readDocument (o.upTo (some ',' :: (b.1 ++ (key ++ tail))))
      = .error (.unfit (.duplicateField f.name)) := by
  have hne : o.members ≠ [] := by
    intro hnil
    rw [hnil] at hf
    cases hf
  have hcomma : EndsNumber (some ',' :: (b.1 ++ (key ++ tail))) :=
    ⟨by decide, by decide, by decide, by decide⟩
  obtain ⟨room, hroom, hread⟩ := readDocument_upTo o hne hcomma
  cases room with
  | zero => cases hroom
  | succ room =>
      -- the key is looked up before anything of its value is read
      have hseen : f ∈ (Draft.addAll {} o.members).seen :=
        (Draft.mem_seen_addAll {} o.members f).2 (.inr (List.mem_map.1 hf))
      rw [hread, afterMember, skipBlanks_cons (by decide)]
      show (readMembers (room + 1) _ _ >>= _) = _
      rw [readMembers_succ, readMember_repeated hseen hkey]
      rfl

/-! ## Arrays -/

theorem readFields_following (inner trail : Blanks) {items : List Item} {fields : List Field}
    (hfields : items.map (fun i => i.setting.field) <+: fields) (c : Config) (b : Blanks) :
    readFields c fields
        (b.1 ++ following (items.map Item.text) (inner.1 ++ some ']' :: trail.1))
      = .ok (c.putAll (items.map Item.setting), trail.1) := by
  induction items generalizing fields c b with
  | nil =>
      cases fields <;>
      · simp only [readFields, skipBlanks_blanks, List.map_nil, following,
          skipBlanks_closes (.inl rfl)]
        rfl
  | cons i items ih =>
      cases fields with
      | nil => cases List.prefix_nil.1 hfields
      | cons f fields =>
          rw [List.map_cons, List.cons_prefix_cons] at hfields
          obtain ⟨rfl, hfields⟩ := hfields
          have hread := read_written i.written c i.text.before
            (endsNumber_afterItem (.inl rfl) i.text.after (items.map Item.text) inner trail.1)
          rw [readFields, skipBlanks_blanks, List.map_cons, following,
            skipBlanks_cons (by decide)]
          simp only [hread, bind, Except.bind]
          exact ih hfields (i.setting.put c) i.text.after

theorem readDocument_array (t : ArrayText) :
    readDocument t.symbols = .ok (putAll {} (t.items.map Item.setting), t.trail.1) := by
  obtain ⟨lead, items, inner, trail, inOrder⟩ := t
  rw [ArrayText.symbols, readDocument, skipBlanks_blanks, skipBlanks_cons (by decide)]
  cases items with
  | nil =>
      simp only [List.map_nil, joined, skipBlanks_closes (.inl rfl)]
      rfl
  | cons i items =>
      rw [List.map_cons, Field.all, List.cons_prefix_cons] at inOrder
      obtain ⟨hfirst, hfields⟩ := inOrder
      obtain ⟨c, s, hbody, hbegins⟩ := startsItem_of_written i.written
      have hread := read_written i.written {} noBlanks
        (endsNumber_afterItem (.inl rfl) i.text.after (items.map Item.text) inner trail.1)
      rw [hfirst, hbody, noBlanks_append, List.cons_append] at hread
      -- the first field is read before the loop over the others, and no bracket may stand there
      simp only [List.map_cons, joined, skipBlanks_blanks, hbody, List.cons_append,
        skipBlanks_cons hbegins.1]
      split
      · next heq => exact absurd (Option.some.inj (List.cons.inj heq).1) hbegins.2.1
      · simp only [hread, bind, Except.bind]
        exact readFields_following inner trail hfields _ i.text.after

/-! ## Documents -/

theorem finish_ok {α : Type} (a : α) (trail : Blanks) :
    finish (.ok (a, trail.1)) = .ok a := by
  have hblank : skipBlanks trail.1 = [] := by
    rw [← List.append_nil trail.1, skipBlanks_blanks]
    rfl
  simp only [finish, hblank, if_true]

theorem ofSymbols_of_ne_nil {s : Symbols} (hs : s ≠ []) :
    ofSymbols s = finish (readDocument s) := by
  rw [ofSymbols, if_neg (by simpa using hs)]

/-- A document is read as the defaults with its settings put in. -/
theorem ofSymbols_document (d : Document) : ofSymbols d.symbols = .ok (putAll {} d.settings) := by
  cases d with
  | object t =>
      rw [Document.symbols, ofSymbols_of_ne_nil (by simp [ObjectText.symbols, ObjectStart.upTo]),
        readDocument_object, finish_ok]
      rfl
  | array t =>
      rw [Document.symbols, ofSymbols_of_ne_nil (by simp [ArrayText.symbols]),
        readDocument_array, finish_ok]
      rfl

/-- An object in which a field comes again is refused, whatever stands after the key. -/
theorem ofSymbols_repeated (o : ObjectStart) {f : Field}
    (hf : f ∈ (settings o.members).map Setting.field) {key : Symbols} (hkey : Quotes key f.name)
    (b : Blanks) (tail : Symbols) :
    ofSymbols (o.upTo (some ',' :: (b.1 ++ (key ++ tail))))
      = .error (.unfit (.duplicateField f.name)) := by
  rw [ofSymbols_of_ne_nil (by simp [ObjectStart.upTo]), readDocument_repeated o hf hkey]
  rfl

/-- Reading depends on the fields alone. A document gives each field its value, and the default to
a field that it leaves out. Two documents with the same settings in any order give the same result,
so neither blanks, nor the spelling of strings, nor members with other keys, nor the choice between
an object and an array matter. A field that comes a second time is refused, whatever follows. -/
theorem known_fields_decide :
    (∀ (d : Document) (bytes : ByteArray), Symbols.ofBytes bytes = d.symbols →
      ∃ c, ofBytes bytes = .ok c ∧ (∀ x ∈ d.settings, c.setting x.field = x) ∧
        ∀ f, (∀ x ∈ d.settings, x.field ≠ f) → c.setting f = setting {} f) ∧
    (∀ (d d' : Document) (bytes bytes' : ByteArray), Symbols.ofBytes bytes = d.symbols →
      Symbols.ofBytes bytes' = d'.symbols → d.settings.Perm d'.settings →
      ofBytes bytes = ofBytes bytes') ∧
    ∀ (o : ObjectStart) (f : Field) (key tail : Symbols) (b : Blanks) (bytes : ByteArray),
      f ∈ (settings o.members).map Setting.field → Quotes key f.name →
      Symbols.ofBytes bytes = o.upTo (some ',' :: (b.1 ++ (key ++ tail))) →
      ofBytes bytes = .error (.unfit (.duplicateField f.name)) := by
  refine ⟨fun d bytes hbytes => ?_, fun d d' bytes bytes' hbytes hbytes' hperm => ?_,
    fun o f key tail b bytes hf hkey hbytes => ?_⟩
  · refine ⟨putAll {} d.settings, ?_, fun x hx => setting_putAll_mem {} d.nodup_fields hx,
      fun f hf => setting_putAll_absent {} hf⟩
    rw [ofBytes, hbytes, ofSymbols_document]
  · rw [ofBytes, hbytes, ofSymbols_document, ofBytes, hbytes', ofSymbols_document,
      putAll_perm {} d.nodup_fields hperm]
  · rw [ofBytes, hbytes, ofSymbols_repeated o hf hkey]

/-- The names `["a"]`. -/
def oneName : Item where
  text := bare (some '[' :: joined [bare (Symbols.ofChars (quoted "a"))] (noBlanks.1 ++ [some ']']))
  setting := .remoteFunctions ["a"]
  written := .remoteFunctions [⟨bare _, "a", quotes_quoted "a"⟩] noBlanks

/-- The member `"remote_functions":["a"]`. -/
def oneNameMember : Member where
  text := ⟨bare (Symbols.ofChars (quoted "remote_functions")), oneName.text⟩
  setting := some oneName.setting
  conveys := .known (quotes_quoted _) oneName.written

theorem isNumber_huge : IsNumber (Symbols.ofChars ['1', 'e', '9', '9', '9']) :=
  ⟨[], [some '1'], [], [some 'e', some '9', some '9', some '9'], rfl, .inl rfl,
    .inr ⟨by simp [Digits, isDigit, digitValue], by simp⟩, .inl rfl,
    .inr ⟨'e', [], [some '9', some '9', some '9'], rfl, .inl rfl, .inl rfl,
      by simp [Digits, isDigit, digitValue]⟩⟩

/-- The member `"x":[1e999]`, with a number that is out of range. -/
def otherMember : Member where
  text := ⟨bare (Symbols.ofChars (quoted "x")), bare (some '[' ::
    joined [bare (Symbols.ofChars ['1', 'e', '9', '9', '9'])] (noBlanks.1 ++ [some ']']))⟩
  setting := none
  conveys := .unknown (quotes_quoted "x") (fun f => by cases f <;> decide)
    (.array [bare _] noBlanks (by simpa [bare] using IsValue.number isNumber_huge))

/-- The object `{"x":[1e999],"remote_functions":["a"]}`. -/
def oneNameObject : ObjectText where
  lead := noBlanks
  members := [otherMember, oneNameMember]
  once := by decide
  inner := noBlanks
  trail := noBlanks

/-- The array `[["a"]]`. -/
def oneNameArray : ArrayText where
  lead := noBlanks
  items := [oneName]
  inner := noBlanks
  trail := noBlanks
  inOrder := by decide

theorem known_fields_decide_one_name :
    (∃ c, ofBytes "\x7b\"x\":[1e999],\"remote_functions\":[\"a\"]\x7d".toUTF8 = .ok c ∧
      c.setting .remoteFunctions = .remoteFunctions ["a"] ∧
      c.setting .logLevel = .logLevel "info") ∧
    ofBytes "\x7b\"x\":[1e999],\"remote_functions\":[\"a\"]\x7d".toUTF8
      = ofBytes "[[\"a\"]]".toUTF8 ∧
    ofBytes "\x7b\"remote_functions\":[\"a\"],\"remote_functions\"]".toUTF8
      = .error (.unfit (.duplicateField "remote_functions")) := by
  have hobject := Symbols.ofBytes_toUTF8 "\x7b\"x\":[1e999],\"remote_functions\":[\"a\"]\x7d"
  have harray := Symbols.ofBytes_toUTF8 "[[\"a\"]]"
  have hstart := Symbols.ofBytes_toUTF8 "\x7b\"remote_functions\":[\"a\"],\"remote_functions\"]"
  obtain ⟨hfields, hsame, hrepeated⟩ := known_fields_decide
  obtain ⟨c, hread, hgiven, hdefault⟩ := hfields (.object oneNameObject) _ hobject
  refine ⟨⟨c, hread, hgiven oneName.setting List.mem_cons_self, hdefault .logLevel ?_⟩,
    hsame (.object oneNameObject) (.array oneNameArray) _ _ hobject harray (.refl _),
    hrepeated ⟨noBlanks, [oneNameMember], by decide⟩ .remoteFunctions
      (Symbols.ofChars (quoted "remote_functions")) [some ']'] noBlanks _ List.mem_cons_self
      (quotes_quoted _) hstart⟩
  intro x hx
  obtain rfl := List.mem_singleton.1 hx
  decide

end CallBridge.Config
