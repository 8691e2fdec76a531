import CallBridge.Proofs.Config.Skip

/-!
# Settings and their texts

A setting is a field with a value for it. `Written` says which texts stand for a setting, with any
blanks and any escapes in its strings, and `read_written` that reading the field takes such a text
up to its end. A configuration is known by its five settings, so putting settings for different
fields into one gives the same in any order.
-/

namespace CallBridge.Config

open Json Scan

/-! ## Settings -/

inductive Setting where
  | remoteFunctions (names : List String)
  | callTimeout (ms : Option UInt64)
  | dispatchErrors (policy : DispatchPolicy)
  | logLevel (text : String)
  | prettyJson (pretty : Bool)

def Setting.field : Setting → Field
  | .remoteFunctions _ => .remoteFunctions
  | .callTimeout _ => .callTimeout
  | .dispatchErrors _ => .dispatchErrors
  | .logLevel _ => .logLevel
  | .prettyJson _ => .prettyJson

def Setting.put : Setting → Config → Config
  | .remoteFunctions names, c => { c with remoteFunctions := names }
  | .callTimeout ms, c => { c with timeoutMs := ms }
  | .dispatchErrors policy, c => { c with dispatchErrors := policy }
  | .logLevel text, c => { c with logLevel := text }
  | .prettyJson pretty, c => { c with prettyJson := pretty }

/-- What a configuration says in a field. -/
def setting (c : Config) : Field → Setting
  | .remoteFunctions => .remoteFunctions c.remoteFunctions
  | .callTimeout => .callTimeout c.timeoutMs
  | .dispatchErrors => .dispatchErrors c.dispatchErrors
  | .logLevel => .logLevel c.logLevel
  | .prettyJson => .prettyJson c.prettyJson

/-- The settings put in one after the other. -/
def putAll (c : Config) (xs : List Setting) : Config := xs.foldl (fun c x => x.put c) c

@[simp] theorem field_setting (c : Config) (f : Field) : (c.setting f).field = f := by
  cases f <;> rfl

theorem setting_put_same (c : Config) (x : Setting) : (x.put c).setting x.field = x := by
  cases x <;> rfl

theorem setting_put_other (c : Config) {x : Setting} {f : Field} (hf : x.field ≠ f) :
    (x.put c).setting f = c.setting f := by
  cases x <;> cases f <;> first | rfl | exact absurd rfl hf

theorem eq_of_setting {c c' : Config} (h : ∀ f, c.setting f = c'.setting f) : c = c' := by
  obtain ⟨names, ms, policy, text, pretty⟩ := c
  obtain rfl := Setting.remoteFunctions.inj (h .remoteFunctions)
  obtain rfl := Setting.callTimeout.inj (h .callTimeout)
  obtain rfl := Setting.dispatchErrors.inj (h .dispatchErrors)
  obtain rfl := Setting.logLevel.inj (h .logLevel)
  obtain rfl := Setting.prettyJson.inj (h .prettyJson)
  rfl

theorem setting_putAll_absent (c : Config) {xs : List Setting} {f : Field}
    (hf : ∀ x ∈ xs, x.field ≠ f) : (c.putAll xs).setting f = c.setting f := by
  induction xs generalizing c with
  | nil => rfl
  | cons x xs ih =>
      rw [putAll, List.foldl_cons, ← putAll, ih _ fun y hy => hf y (List.mem_cons_of_mem x hy)]
      exact setting_put_other c (hf x List.mem_cons_self)

theorem setting_putAll_mem (c : Config) {xs : List Setting} (hxs : (xs.map Setting.field).Nodup)
    {x : Setting} (hx : x ∈ xs) : (c.putAll xs).setting x.field = x := by
  induction xs generalizing c with
  | nil => cases hx
  | cons y ys ih =>
      rw [List.map_cons, List.nodup_cons] at hxs
      rw [putAll, List.foldl_cons, ← putAll]
      rcases List.mem_cons.1 hx with rfl | hx
      · rw [setting_putAll_absent, setting_put_same]
        exact fun y hy hfield => hxs.1 (List.mem_map.2 ⟨y, hy, hfield⟩)
      · exact ih _ hxs.2 hx

/-- The order of settings for different fields does not matter. -/
theorem putAll_perm (c : Config) {xs ys : List Setting} (hxs : (xs.map Setting.field).Nodup)
    (hperm : xs.Perm ys) : c.putAll xs = c.putAll ys := by
  have hys : (ys.map Setting.field).Nodup := (hperm.map Setting.field).nodup_iff.1 hxs
  refine eq_of_setting fun f => ?_
  by_cases hf : ∃ x ∈ xs, x.field = f
  · obtain ⟨x, hx, rfl⟩ := hf
    rw [setting_putAll_mem c hxs hx, setting_putAll_mem c hys (hperm.mem_iff.1 hx)]
  · have habsent : ∀ x ∈ xs, x.field ≠ f := fun x hx hfield => hf ⟨x, hx, hfield⟩
    rw [setting_putAll_absent c habsent,
      setting_putAll_absent c fun y hy => habsent y (hperm.mem_iff.2 hy)]

theorem putAll_setting (c : Config) : putAll {} (Field.all.map c.setting) = c := rfl

/-! ## Their texts -/

/-- A name of a list, in quotes. -/
structure QuotedItem where
  text : Padded
  name : String
  quotes : Quotes text.body name

/-- The text stands for the value of the setting. -/
inductive Written : Setting → Symbols → Prop
  | remoteFunctions (items : List QuotedItem) (inner : Blanks) :
      Written (.remoteFunctions (items.map QuotedItem.name))
        (some '[' :: joined (items.map QuotedItem.text) (inner.1 ++ [some ']']))
  | noTimeout : Written (.callTimeout none) (Symbols.ofChars ['n', 'u', 'l', 'l'])
  | timeout (ms : UInt64) :
      Written (.callTimeout (some ms)) (Symbols.ofChars (Nat.toDigits 10 ms.toNat))
  | policy {p : DispatchPolicy} {s : Symbols} (hs : Quotes s p.name) :
      Written (.dispatchErrors p) s
  | policyObject {p : DispatchPolicy} (m : MemberText) (hkey : Quotes m.key.body p.name)
      (hvalue : m.value.body = Symbols.ofChars ['n', 'u', 'l', 'l']) :
      Written (.dispatchErrors p) (some '{' :: joined [m.toPadded] [some '}'])
  | logLevel {text : String} {s : Symbols} (hs : Quotes s text) : Written (.logLevel text) s
  | pretty : Written (.prettyJson true) (Symbols.ofChars ['t', 'r', 'u', 'e'])
  | plain : Written (.prettyJson false) (Symbols.ofChars ['f', 'a', 'l', 's', 'e'])

theorem startsItem_of_quotes {s : Symbols} {text : String} (hs : Quotes s text) :
    StartsItem s := by
  obtain ⟨t, rfl, -⟩ := hs
  exact ⟨'"', _, rfl, by decide, by decide, by decide⟩

theorem readString_quotes {s : Symbols} {text : String} (hs : Quotes s text) (expected : String)
    (b : Blanks) (rest : Symbols) :
    readString expected (b.1 ++ (s ++ rest)) = .ok (text, rest) := by
  obtain ⟨t, rfl, ht⟩ := hs
  rw [readString, skipBlanks_blanks, List.cons_append, skipBlanks_cons (by decide),
    List.append_assoc]
  exact stringRest_of_spells ht rest

theorem startsItem_of_written {x : Setting} {w : Symbols} (hw : Written x w) : StartsItem w := by
  cases hw with
  | remoteFunctions | policyObject => exact ⟨_, _, rfl, by decide, by decide, by decide⟩
  | noTimeout | pretty | plain => exact ⟨_, _, rfl, by decide, by decide, by decide⟩
  | policy hs | logLevel hs => exact startsItem_of_quotes hs
  | timeout ms =>
      obtain ⟨c, cs, hcs, hbegins, -⟩ := intText_head (Int.ofNat ms.toNat)
      rw [intText] at hcs
      exact ⟨c, Symbols.ofChars cs, by rw [hcs, ofChars_cons], hbegins⟩

/-! ## Lists of names -/

/-- What may follow a name: a comma and further names, or the closing bracket. -/
def textsTail (room : Nat) (s : Symbols) : Except Fault (Piece (List String)) :=
  match skipBlanks s with
  | some ',' :: rest => readTexts room rest
  | some ']' :: rest => .ok ([], rest)
  | other => .error (unexpected other)

theorem readTexts_succ (room : Nat) (s : Symbols) :
    readTexts (room + 1) s = (do
      let (text, s) ← readString "a string" s
      let (texts, rest) ← textsTail room s
      .ok (text :: texts, rest)) := by
  rw [readTexts]
  cases readString "a string" s with
  | error e => rfl
  | ok p =>
      obtain ⟨text, s⟩ := p
      simp only [textsTail, bind, Except.bind]
      generalize skipBlanks s = t
      split <;> simp_all

theorem textsTail_following (inner : Blanks) (rest : Symbols) {items : List QuotedItem}
    (b : Blanks) {room : Nat} (hroom : items.length ≤ room) :
    textsTail room
        (b.1 ++ following (items.map QuotedItem.text) (inner.1 ++ some ']' :: rest))
      = .ok (items.map QuotedItem.name, rest) := by
  induction items generalizing b room with
  | nil =>
      rw [textsTail, skipBlanks_blanks, List.map_nil, following, skipBlanks_closes (.inl rfl)]
      rfl
  | cons i items ih =>
      cases room with
      | zero => cases hroom
      | succ room =>
          have hrest := ih i.text.after (Nat.le_of_succ_le_succ hroom)
          rw [textsTail, skipBlanks_blanks, List.map_cons, following, skipBlanks_cons (by decide)]
          show readTexts (room + 1) _ = _
          rw [readTexts_succ, readString_quotes i.quotes]
          simp only [bind, Except.bind, hrest]
          rfl

theorem readNames_joined (items : List QuotedItem) (b inner : Blanks) (rest : Symbols) :
    readNames (b.1 ++ some '[' ::
        joined (items.map QuotedItem.text) (inner.1 ++ some ']' :: rest))
      = .ok (items.map QuotedItem.name, rest) := by
  rw [readNames, skipBlanks_blanks, skipBlanks_cons (by decide)]
  cases items with
  | nil =>
      simp only [List.map_nil, joined, skipBlanks_closes (.inl rfl)]
  | cons i items =>
      obtain ⟨t, hbody, -⟩ := i.quotes
      have hread := readString_quotes i.quotes "a string" noBlanks
        (i.text.after.1 ++ following (items.map QuotedItem.text) (inner.1 ++ some ']' :: rest))
      have hlength := length_le_following (items.map QuotedItem.text)
        (inner.1 ++ some ']' :: rest)
      rw [List.length_map] at hlength
      rw [hbody, noBlanks_append, List.cons_append] at hread
      simp only [List.map_cons, joined, skipBlanks_blanks, hbody, List.cons_append,
        skipBlanks_cons (show isBlank (some '"') = false by decide)]
      show readTexts (_ + 1) _ = _
      rw [readTexts_succ, hread]
      simp only [bind, Except.bind]
      rw [textsTail_following]
      simp only [List.length_append]
      omega

/-! ## Reading a setting -/

theorem readTimeout_some (ms : UInt64) (b : Blanks) {rest : Symbols} (hrest : EndsNumber rest) :
    readTimeout (b.1 ++ (Symbols.ofChars (Nat.toDigits 10 ms.toNat) ++ rest))
      = .ok (some ms, rest) := by
  have hread : number (Symbols.ofChars (Nat.toDigits 10 ms.toNat) ++ rest) = _ :=
    number_intText (.ofUInt64 ms) hrest
  rw [readTimeout, skipBlanks_blanks]
  cases hcs : Nat.toDigits 10 ms.toNat with
  | nil => simp at hcs
  | cons c cs =>
      have hdigit : isDigit (some c) = true :=
        isDigit_of_isDigit (isDigit_of_mem_toDigits (n := ms.toNat) (by simp [hcs]))
      have hblank := skipBlanks_cons (begins_number (.inr hdigit)).1
        (Symbols.ofChars cs ++ rest)
      have hcount : readCount (some c :: (Symbols.ofChars cs ++ rest)) = .ok (ms, rest) := by
        rw [hcs, ofChars_cons, List.cons_append] at hread
        rw [readCount, hblank]
        simp [hdigit, hread, bind, Except.bind, Integer.ofUInt64]
      rw [ofChars_cons, List.cons_append, hblank]
      split
      · next heq =>
          exact absurd (Option.some.inj (List.cons.inj heq).1) (starts_number (.inr hdigit)).2.1
      · rw [hcount]
        rfl

theorem policyNamed_name (p : DispatchPolicy) : policyNamed p.name = .ok p := by
  cases p <;> rfl

theorem readPolicy_quotes {p : DispatchPolicy} {s : Symbols} (hs : Quotes s p.name) (b : Blanks)
    (rest : Symbols) : readPolicy (b.1 ++ (s ++ rest)) = .ok (p, rest) := by
  obtain ⟨t, rfl, ht⟩ := hs
  rw [readPolicy, skipBlanks_blanks, List.cons_append, skipBlanks_cons (by decide),
    List.append_assoc]
  simp only [List.singleton_append, stringRest_of_spells ht, bind, Except.bind, policyNamed_name]

theorem readPolicy_object {p : DispatchPolicy} (m : MemberText) (hkey : Quotes m.key.body p.name)
    (hvalue : m.value.body = Symbols.ofChars ['n', 'u', 'l', 'l']) (b : Blanks) (rest : Symbols) :
    readPolicy (b.1 ++ (some '{' :: joined [m.toPadded] [some '}'] ++ rest)) = .ok (p, rest) := by
  have htext : joined [m.toPadded] [some '}'] ++ rest
      = m.key.before.1 ++ (m.key.body ++ (m.key.after.1 ++ some ':' :: (m.value.before.1 ++
        (Symbols.ofChars ['n', 'u', 'l', 'l'] ++ (m.value.after.1 ++ some '}' :: rest))))) := by
    simp [joined, following, MemberText.toPadded, hvalue]
  have hnull : readNull (m.value.before.1 ++ (Symbols.ofChars ['n', 'u', 'l', 'l'] ++
      (m.value.after.1 ++ some '}' :: rest))) = .ok (m.value.after.1 ++ some '}' :: rest) := by
    rw [readNull, skipBlanks_blanks]
    rfl
  rw [readPolicy, skipBlanks_blanks, List.cons_append, skipBlanks_cons (by decide), htext]
  simp only [readString_quotes hkey, bind, Except.bind, policyNamed_name,
    mark_blanks (show isBlank (some ':') = false by decide), hnull,
    mark_blanks (show isBlank (some '}') = false by decide)]

/-- A field takes the text of its value up to the end. -/
theorem read_written {x : Setting} {w : Symbols} (hw : Written x w) (c : Config) (b : Blanks)
    {rest : Symbols} (hrest : EndsNumber rest) :
    x.field.read c (b.1 ++ (w ++ rest)) = .ok (x.put c, rest) := by
  cases hw with
  | remoteFunctions items inner =>
      rw [List.cons_append, joined_append, List.append_assoc]
      simp only [Setting.field, Field.read, List.singleton_append, readNames_joined, bind,
        Except.bind]
      rfl
  | noTimeout =>
      have hread : readTimeout (b.1 ++ (Symbols.ofChars ['n', 'u', 'l', 'l'] ++ rest))
          = .ok (none, rest) := by
        rw [readTimeout, skipBlanks_blanks]
        rfl
      simp only [Setting.field, Field.read, hread, bind, Except.bind]
      rfl
  | timeout ms =>
      simp only [Setting.field, Field.read, readTimeout_some ms b hrest, bind, Except.bind]
      rfl
  | policy hs =>
      simp only [Setting.field, Field.read, readPolicy_quotes hs, bind, Except.bind]
      rfl
  | policyObject m hkey hvalue =>
      simp only [Setting.field, Field.read, readPolicy_object m hkey hvalue, bind, Except.bind]
      rfl
  | logLevel hs =>
      simp only [Setting.field, Field.read, readString_quotes hs, bind, Except.bind]
      rfl
  | pretty | plain =>
      simp only [Setting.field, Field.read, readBool, skipBlanks_blanks]
      rfl

end CallBridge.Config
