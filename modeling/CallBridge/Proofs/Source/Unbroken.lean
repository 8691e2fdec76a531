import CallBridge.Source.Function
import CallBridge.Proofs.Source.Yields

/-!
# Types and paths end no statement

A semicolon stands in a type or a path only inside brackets, as in the type of an array. So code
that is made of types and paths that were read has its statements where it was given them. Main
statement: `FunctionItem.unbroken_of_ofTokens?`.
-/

namespace CallBridge.Source

/-- The arguments of its segments are unbroken. -/
def Path.Whole (p : Path) : Prop := ∀ s ∈ p.segments, Unbroken s.arguments.tokens

def QualifiedPath.Whole (q : QualifiedPath) : Prop :=
  (∀ b ∈ q.base, Unbroken b.1) ∧ q.path.Whole

/-- What is read as a type is unbroken. -/
def Grammar.Whole (g : Grammar) : Prop :=
  ∀ plus, Parser.Yields (fun t => Unbroken t.tokens) (g.type plus)

/-! ## Paths -/

theorem unbroken_join {segments : List Segment}
    (h : ∀ s ∈ segments, Unbroken s.arguments.tokens) : Unbroken (Path.join segments) := by
  fun_induction Path.join segments with
  | case1 => exact unbroken_nil
  | case2 s => simpa [Segment.tokens] using h
  | case3 s rest hrest ih =>
      rw [List.forall_mem_cons] at h
      simp [Segment.tokens, h.1, ih h.2]

theorem Path.Whole.unbroken {p : Path} (hp : p.Whole) : Unbroken p.tokens := by
  rw [Path.tokens, unbroken_append]
  refine ⟨?_, unbroken_join hp⟩
  split
  · simp
  · exact unbroken_nil

theorem QualifiedPath.Whole.unbroken {q : QualifiedPath} (hq : q.Whole) : Unbroken q.tokens := by
  obtain ⟨hbase, hpath⟩ := hq
  rw [QualifiedPath.tokens.eq_def]
  split
  · exact hpath.unbroken
  · next type htype => simp [hbase _ htype, hpath.unbroken]
  · next type position _ htype =>
      have htaken : Path.Whole { q.path with segments := q.path.segments.take position } :=
        fun s hs => hpath s (List.mem_of_mem_take hs)
      have hdropped : Unbroken (Path.join (q.path.segments.drop position)) :=
        unbroken_join fun s hs => hpath s (List.mem_of_mem_drop hs)
      simp [hbase _ htype, htaken.unbroken, hdropped]

theorem Path.Whole.withArguments {p : Path} (hp : p.Whole) {a : Arguments}
    (ha : Unbroken a.tokens) : (p.withArguments a).Whole := by
  rw [Path.withArguments]
  split
  · next s hs =>
      intro s' hs'
      rcases List.mem_append.1 hs' with hs' | hs'
      · exact hp s' ((List.dropLast_sublist _).mem hs')
      · obtain rfl := List.mem_singleton.1 hs'
        exact ha
  · exact hp

namespace Parser

variable {g : Grammar} {bound : Parser (List Token)}

theorem yields_constant : Yields Unbroken (constant g) := by
  refine .after fun ts => .ite ?_ (.ite ?_ (.ite ?_ (.refuse _)))
  · exact .bind yields_literal fun l hl => .pure hl
  · exact .after fun i => .pure (by simp)
  · refine .bind (P := fun t => t.isSemicolon = false) ?_ fun t ht => .pure (by simpa using ht)
    refine .after fun inner => .pure ?_
    rw [blockTokens.eq_def]
    split <;> rfl

theorem yields_boundLifetimes? : Yields Unbroken boundLifetimes? := by
  refine .after fun _ => .ite ?_ (.pure unbroken_nil)
  refine .bind (yields_word "for") fun head hhead => ?_
  refine .bind (yields_op (by decide)) fun opened hopened => ?_
  refine .bind (yields_repeated ?_) fun inside hinside => ?_
  · refine .after fun _ => .ite (.pure unbroken_nil) ?_
    refine .bind yields_lifetime fun l hl => .after fun _ => .ite (.pure hl) ?_
    exact .bind (yields_op (by decide)) fun comma hcomma => .pure (unbroken_append.2 ⟨hl, hcomma⟩)
  · exact .bind (yields_op (by decide)) fun closed hclosed => .pure (by simp [*])

theorem yields_returnType (hg : g.Whole) (plus : Bool) :
    Yields (fun r => Unbroken (returnTokens r)) (returnType g plus) := by
  refine .after fun _ => .ite (.after fun _ => ?_) (.pure unbroken_nil)
  exact .bind (hg plus) fun t ht => .pure (by simp [returnTokens, ht])

theorem yields_calledArguments (hg : g.Whole) :
    Yields (fun a => Unbroken a.tokens) (calledArguments g) := by
  refine .after fun inner => .after fun types => ?_
  exact .bind (yields_returnType hg false) fun r hr => .pure (by simp [Arguments.tokens, hr])

theorem yields_calledPath (hg : g.Whole) {p : Path} (hp : p.Whole) :
    Yields Path.Whole (calledPath g p) := by
  refine .after fun ts => .ite (.after fun _ => ?_) (.pure hp)
  exact .bind (yields_calledArguments hg) fun a ha => .pure (hp.withArguments ha)

/-! ## Generic arguments -/

theorem yields_constraintBounds (hbound : Yields Unbroken bound) :
    Yields Unbroken (constraintBounds bound) := by
  refine yields_repeated (.after fun ts => .ite (.pure unbroken_nil) ?_)
  refine .bind hbound fun b hb => .after fun _ => .ite ?_ (.pure hb)
  exact .bind (yields_op (by decide)) fun plus hplus => .pure (unbroken_append.2 ⟨hb, hplus⟩)

theorem yields_genericArgument (hg : g.Whole) (hbound : Yields Unbroken bound) :
    Yields (fun a => Unbroken a.tokens) (genericArgument g bound) := by
  refine .after fun ts => .ite ?lifetime (.ite ?constant ?type)
  case lifetime => exact .bind yields_lifetime fun l hl => .pure hl
  case constant => exact .bind yields_constant fun c hc => .pure hc
  case type =>
    refine .bind (hg true) fun t ht => .ite (.after fun _ => .ite ?equals ?colon) (.pure ht)
    case equals =>
      refine .bind (yields_op (by decide)) fun equals hequals => .after fun ts => .ite ?_ ?_
      · exact .bind yields_constant fun value hvalue => .pure (by simp [*])
      · refine .bind (hg true) fun value hvalue => .bind (.pure hvalue) fun ts hts => ?_
        exact .pure (by simp [*])
    case colon =>
      refine .after fun _ => .ite ?_ (.pure ht)
      refine .bind (yields_op (by decide)) fun colon hcolon => ?_
      exact .bind (yields_constraintBounds hbound) fun bs hbs => .pure (by simp [*])

theorem yields_genericArguments (hg : g.Whole) (hbound : Yields Unbroken bound) (fuel : Nat) :
    Yields (fun as => ∀ a ∈ as, Unbroken a.1.tokens) (genericArguments g bound fuel) := by
  induction fuel with
  | zero => exact .pure nofun
  | succ fuel ih =>
      refine .after fun _ => .ite (.pure nofun) ?_
      refine .bind (yields_genericArgument hg hbound) fun a ha => .after fun _ => .ite ?_ ?_
      · exact .pure (by simpa using ha)
      · exact .after fun _ => .bind ih fun rest hrest => .pure (List.forall_mem_cons.2 ⟨ha, hrest⟩)

theorem unbroken_write (separated : Bool) {arguments : List (GenericArgument × Bool)}
    (h : ∀ a ∈ arguments, Unbroken a.1.tokens) :
    Unbroken (orderedArguments.write separated arguments) := by
  induction arguments generalizing separated with
  | nil => exact unbroken_nil
  | cons a rest ih =>
      rw [List.forall_mem_cons] at h
      rw [orderedArguments.write, unbroken_append, unbroken_append, unbroken_append]
      refine ⟨⟨⟨?_, h.1⟩, ?_⟩, ih a.2 h.2⟩
      · split <;> simp
      · split <;> simp

theorem unbroken_orderedArguments {arguments : List (GenericArgument × Bool)}
    (h : ∀ a ∈ arguments, Unbroken a.1.tokens) : Unbroken (orderedArguments arguments) := by
  rw [orderedArguments, List.partition_eq_filter_filter]
  refine unbroken_write true fun a ha => h a ?_
  rcases List.mem_append.1 ha with ha | ha
  · exact (List.mem_filter.1 ha).1
  · exact (List.mem_filter.1 ha).1

theorem yields_angledArguments (hg : g.Whole) (hbound : Yields Unbroken bound) :
    Yields (fun a => Unbroken a.tokens) (angledArguments g bound) := by
  refine .bind (yields_op? (by decide)) fun colons hcolons => ?_
  refine .bind (yields_op (by decide)) fun opened hopened => .after fun ts => ?_
  refine .bind (yields_genericArguments hg hbound _) fun as has => ?_
  refine .bind (yields_op (by decide)) fun closed hclosed => .pure ?_
  simp [Arguments.tokens, *, unbroken_orderedArguments has]

/-! ## Segments -/

theorem yields_segment (hg : g.Whole) (hbound : Yields Unbroken bound) (inExpr : Bool) :
    Yields (fun s => Unbroken s.arguments.tokens) (segment g bound inExpr) := by
  have hnone : ∀ i : Ident, Unbroken (Segment.arguments { ident := i }).tokens :=
    fun _ => unbroken_nil
  refine .after fun ts => .ite (.after fun i => .pure (hnone i)) ?_
  -- both kinds of names go on in the same way
  refine .after fun _ => .ite ?_ ?_ <;>
    refine .after fun i => .after fun ts => .ite ?_ (.pure (hnone i)) <;>
    exact .bind (yields_angledArguments hg hbound) fun a ha => .pure ha

theorem yields_moreSegments (hg : g.Whole) (hbound : Yields Unbroken bound) (inExpr : Bool)
    (fuel : Nat) :
    Yields (fun ss => ∀ s ∈ ss, Unbroken s.arguments.tokens)
      (moreSegments g bound inExpr fuel) := by
  induction fuel with
  | zero => exact .pure nofun
  | succ fuel ih =>
      refine .after fun ts => .ite (.after fun _ => ?_) (.pure nofun)
      refine .bind (yields_segment hg hbound inExpr) fun s hs => ?_
      exact .bind ih fun rest hrest => .pure (List.forall_mem_cons.2 ⟨hs, hrest⟩)

theorem yields_pathWith (hg : g.Whole) (hbound : Yields Unbroken bound) (inExpr : Bool) :
    Yields Path.Whole (pathWith g bound inExpr) := by
  refine .after fun leading => .bind (yields_segment hg hbound inExpr) fun s hs => ?_
  refine .after fun ts => .bind (yields_moreSegments hg hbound inExpr _) fun rest hrest => ?_
  exact .pure (List.forall_mem_cons.2 ⟨hs, hrest⟩)

/-! ## Bounds -/

theorem yields_captures : Yields Unbroken captures := by
  refine .bind (yields_word "use") fun head hhead => ?_
  refine .bind (yields_op (by decide)) fun opened hopened => ?_
  refine .bind (yields_repeated ?_) fun inside hinside => ?_
  · have hitem : ∀ {item : List Token}, Unbroken item → Yields (fun r => Unbroken r.1) (do
        if ← look (seesOp ">") then return (item, false)
        return (item ++ (← op ","), true)) := by
      intro item hitem
      refine .after fun _ => .ite (.pure hitem) ?_
      exact .bind (yields_op (by decide)) fun comma hcomma =>
        .pure (unbroken_append.2 ⟨hitem, hcomma⟩)
    refine .after fun _ => .ite (.pure unbroken_nil) (.after fun _ => .ite ?_ ?_)
    · exact .bind yields_lifetime fun l hl => hitem hl
    · exact .after fun i => .bind (.pure (P := Unbroken) (by simp)) fun item hi => hitem hi
  · exact .bind (yields_op (by decide)) fun closed hclosed => .pure (by simp [*])

theorem yields_traitBound (hg : g.Whole) (hbound : Yields Unbroken bound) :
    Yields Unbroken (traitBound g bound) := by
  refine .bind yields_boundLifetimes? fun lifetimes hlifetimes => .after fun ts => ?_
  have hrest : ∀ {const : List Token}, Unbroken const → Yields Unbroken (do
      let maybe ← op? "?"
      let p ← pathWith g bound false
      let p ← calledPath g p
      return const ++ maybe ++ lifetimes ++ p.tokens) := by
    intro const hconst
    refine .bind (yields_op? (by decide)) fun maybe hmaybe => ?_
    refine .bind (yields_pathWith hg hbound false) fun p hp => ?_
    refine .bind (yields_calledPath hg hp) fun p' hp' => .pure ?_
    simp [*, hp'.unbroken]
  refine .ite ?_ ?_
  · refine .bind (yields_op (by decide)) fun sign hsign => ?_
    refine .bind (yields_word "const") fun const hconst => ?_
    exact .bind (.pure (unbroken_append.2 ⟨hsign, hconst⟩)) fun both hboth => hrest hboth
  · exact .bind (yields_word? "const") fun const hconst => hrest hconst

theorem yields_boundForm (hg : g.Whole) (capturing : Bool) (fuel : Nat) :
    Yields (fun b => Unbroken b.tokens) (boundForm g capturing fuel) := by
  induction fuel generalizing capturing with
  | zero => exact .throw _
  | succ fuel ih =>
      have hinner : Yields Unbroken (do return (← boundForm g false fuel).tokens) :=
        .bind (ih false) fun _ hb => .pure hb
      refine .after fun ts => .ite ?lifetime (.ite ?captures ?trait)
      case lifetime => exact .bind yields_lifetime fun l hl => .pure hl
      case captures =>
        exact .bind yields_captures fun names hnames => .ite (.pure hnames) (.throw_bind _)
      case trait =>
        refine .ite (.after fun content => .after fun inner => .pure (by simp)) ?_
        exact .bind (yields_traitBound hg hinner) fun b hb => .pure hb

theorem yields_bound (hg : g.Whole) : Yields Unbroken (Parser.bound g) :=
  .after fun _ => .bind (yields_boundForm hg false _) fun _ hb => .pure hb

theorem yields_path (hg : g.Whole) (inExpr : Bool) : Yields Path.Whole (path g inExpr) :=
  yields_pathWith hg (yields_bound hg) inExpr

theorem yields_boundsUpTo (hg : g.Whole) (plus capturing : Bool) (fuel : Nat) :
    Yields (fun bs => ∀ b ∈ bs, Unbroken b.tokens) (bounds.boundsUpTo g plus capturing fuel) := by
  induction fuel with
  | zero => exact .pure nofun
  | succ fuel ih =>
      refine .after fun ts => .bind (yields_boundForm hg capturing _) fun b hb => .after fun _ => ?_
      refine .ite ?_ (.pure (by simpa using hb))
      refine .bind (yields_op (by decide)) fun sum hsum => ?_
      have hb' : Unbroken (b.tokens ++ sum) := unbroken_append.2 ⟨hb, hsum⟩
      refine .after fun _ => .ite ?_ (.pure (by simpa using hb'))
      exact .bind ih fun rest hrest => .pure (List.forall_mem_cons.2 ⟨hb', hrest⟩)

theorem yields_bounds (hg : g.Whole) (plus capturing : Bool) :
    Yields (fun bs => ∀ b ∈ bs, Unbroken b.tokens) (bounds g plus capturing) :=
  .after fun _ => yields_boundsUpTo hg plus capturing _

/-! ## Qualified paths -/

theorem yields_qualifiedSegments (hg : g.Whole) (inExpr : Bool) (fuel : Nat) :
    Yields (fun ss => ∀ s ∈ ss, Unbroken s.arguments.tokens) (qualifiedSegments g inExpr fuel) := by
  induction fuel with
  | zero => exact .pure nofun
  | succ fuel ih =>
      refine .bind (yields_segment hg (yields_bound hg) inExpr) fun s hs => ?_
      refine .after fun _ => .ite (.after fun _ => ?_) (.pure (by simpa using hs))
      exact .bind ih fun rest hrest => .pure (List.forall_mem_cons.2 ⟨hs, hrest⟩)

theorem yields_qualifiedPath (hg : g.Whole) (inExpr : Bool) :
    Yields QualifiedPath.Whole (qualifiedPath g inExpr) := by
  refine .after fun _ => .ite ?qualified ?plain
  case plain =>
    exact .bind (yields_path hg inExpr) fun p hp => .pure ⟨nofun, hp⟩
  case qualified =>
    refine .after fun _ => .bind (hg true) fun self hself => .after fun _ => ?_
    have hbase : ∀ k : Nat, ∀ b ∈ some (self.tokens, k), Unbroken b.1 := by
      intro k b hb
      obtain rfl := Option.some.inj hb
      exact hself
    have hsegments : ∀ fuel, _ := yields_qualifiedSegments hg inExpr
    refine .ite ?_ ?_
    · refine .after fun _ => .bind (yields_path hg false) fun p hp => ?_
      refine .bind (P := fun trait => trait = some p) (.pure rfl) ?_
      rintro _ rfl
      refine .after fun _ => .after fun _ => .after fun _ => ?_
      refine .bind (hsegments _) fun rest hrest => .pure ⟨hbase _, ?_⟩
      exact List.forall_mem_append.2 ⟨hp, hrest⟩
    · refine .bind (P := fun trait => trait = none) (.pure rfl) ?_
      rintro _ rfl
      refine .after fun _ => .after fun _ => .after fun _ => ?_
      exact .bind (hsegments _) fun rest hrest => .pure ⟨hbase _, hrest⟩

/-! ## Types -/

theorem yields_anyGroup : Yields (fun t => t.isSemicolon = false) anyGroup := by
  refine .after fun ts => ?_
  split
  · exact .after fun _ => .pure rfl
  · exact .refuse _

theorem yields_abi? : Yields Unbroken abi? := by
  refine .after fun _ => .ite ?_ (.pure unbroken_nil)
  refine .bind (yields_word "extern") fun head hhead => .after fun ts => ?_
  split
  · split
    · exact .after fun _ => .pure (by simp [hhead])
    · exact .pure hhead
  · exact .pure hhead

theorem yields_bareFunction (hg : g.Whole) : Yields Unbroken (bareFunction g) := by
  refine .bind (yields_word? "unsafe") fun unsafety hunsafety => ?_
  refine .bind yields_abi? fun abi habi => .bind (yields_word "fn") fun head hhead => ?_
  refine .after fun inner => .after fun parameters => ?_
  exact .bind (yields_returnType hg false) fun r hr => .pure (by simp [*])

theorem unbroken_boundsTokens {bs : List BoundForm} (hbs : ∀ b ∈ bs, Unbroken b.tokens) :
    Unbroken (boundsTokens bs) := by
  intro t ht
  obtain ⟨b, hb, ht⟩ := List.mem_flatMap.1 ht
  exact hbs b hb t ht

theorem yields_traitBounds (hg : g.Whole) (plus capturing : Bool) :
    Yields (fun bs => Unbroken (boundsTokens bs)) (traitBounds g plus capturing) := by
  refine .bind (yields_bounds hg plus capturing) fun bs hbs => ?_
  exact .ite (.pure (unbroken_boundsTokens hbs)) (.throw _)

theorem yields_addedBounds (hg : g.Whole) : Yields Unbroken (addedBounds g) := by
  refine yields_repeated (.after fun _ => .ite ?_ (.pure unbroken_nil))
  refine .bind (yields_op (by decide)) fun plus hplus => ?_
  exact .bind (yields_bound hg) fun b hb => .pure (unbroken_append.2 ⟨hplus, hb⟩)

theorem yields_openBounds (hg : g.Whole) : Yields Unbroken (openBounds g) := by
  refine yields_repeated (.after fun _ => .ite ?_ (.pure unbroken_nil))
  refine .bind (yields_op (by decide)) fun plus hplus => .after fun _ => .ite ?_ (.pure hplus)
  exact .bind (yields_bound hg) fun b hb => .pure (unbroken_append.2 ⟨hplus, hb⟩)

theorem yields_parenType (hg : g.Whole) (plus : Bool) :
    Yields (fun t => Unbroken t.tokens) (parenType g plus) := by
  refine .after fun inner => .ite (.pure (by simp)) (.ite ?_ ?_)
  · refine .after fun b => ?_
    exact .bind (yields_addedBounds hg) fun more hmore => .pure (by simp [hmore])
  · refine .after fun r => .after fun _ => .ite ?_ (.pure (by simp))
    exact .bind (yields_addedBounds hg) fun more hmore => .pure (by simp [hmore])

theorem yields_pathType (hg : g.Whole) (plus : Bool) {lifetimes : List Token}
    (hlifetimes : Unbroken lifetimes) :
    Yields (fun t => Unbroken t.tokens) (pathType g plus lifetimes) := by
  refine .bind (yields_qualifiedPath hg false) fun q hq => ?_
  refine .bind (yields_calledPath hg hq.2) fun p hp => ?_
  have hwhole : QualifiedPath.Whole { q with path := p } := ⟨hq.1, hp⟩
  refine .ite (.pure hwhole.unbroken) (.after fun ts => .ite ?_ (.ite (.ite ?_ ?_) ?_))
  · refine .bind (yields_op (by decide)) fun bang hbang => ?_
    exact .bind yields_anyGroup fun t ht => .pure (by simp [hp.unbroken, hbang, ht])
  · exact .bind (yields_openBounds hg) fun more hmore =>
      .pure (by simp [hlifetimes, hp.unbroken, hmore])
  · exact .bind (.pure unbroken_nil) fun more hmore =>
      .pure (by simp [hlifetimes, hp.unbroken, hmore])
  · exact .pure hwhole.unbroken

theorem yields_pointer (hg : g.Whole) : Yields Unbroken (pointer g) := by
  have hrest : ∀ {star kind : List Token}, Unbroken star → Unbroken kind →
      Yields Unbroken (do return star ++ kind ++ (← g.type false).tokens) := by
    intro star kind hstar hkind
    exact .bind (hg false) fun t ht => .pure (by simp [*])
  refine .bind (yields_op (by decide)) fun star hstar => .after fun _ => .ite ?_ ?_
  · exact .bind (yields_word "const") fun kind hkind => hrest hstar hkind
  · exact .bind (yields_word "mut") fun kind hkind => hrest hstar hkind

theorem yields_reference (hg : g.Whole) : Yields Unbroken (reference g) := by
  refine .bind (yields_op (by decide)) fun sign hsign => ?_
  refine .bind yields_lifetime? fun l hl => .bind (yields_word? "mut") fun m hm => ?_
  exact .bind (hg false) fun t ht => .pure (by simp [*])

theorem yields_type (hg : g.Whole) (plus : Bool) :
    Yields (fun t => Unbroken t.tokens) (type g plus) := by
  refine .bind yields_boundLifetimes? fun lifetimes hlifetimes => .after fun ts => ?_
  refine .ite (.throw_bind _) (.ite ?paren (.ite ?bare (.ite ?path (.ite ?dyn (.ite ?bracket
    (.ite ?pointer (.ite ?reference (.ite ?never (.ite ?impl (.ite ?infer (.ite ?lifetime
    (.refuse _))))))))))))
  case paren => exact yields_parenType hg plus
  case bare =>
    exact .bind (yields_bareFunction hg) fun f hf => .pure (unbroken_append.2 ⟨hlifetimes, hf⟩)
  case path => exact yields_pathType hg plus hlifetimes
  case dyn =>
    refine .bind (yields_word "dyn") fun head hhead => ?_
    refine .bind (yields_op? (by decide)) fun star hstar => ?_
    exact .bind (yields_traitBounds hg plus false) fun bs hbs => .pure (by simp [*])
  -- the semicolon of an array type stays inside its brackets
  case bracket => exact .after fun inner => .after fun content => .pure (by simp)
  case pointer => exact .bind (yields_pointer hg) fun ts hts => .pure hts
  case reference => exact .bind (yields_reference hg) fun ts hts => .pure hts
  case never => exact .bind (yields_op (by decide)) fun ts hts => .pure hts
  case impl =>
    refine .bind (yields_word "impl") fun head hhead => ?_
    exact .bind (yields_traitBounds hg plus true) fun bs hbs => .pure (by simp [*])
  case infer => exact .bind (yields_word "_") fun ts hts => .pure hts
  case lifetime => exact .bind (yields_traitBounds hg true false) fun bs hbs => .pure hbs

end Parser

theorem Grammar.whole_atDepth (depth : Nat) : (atDepth depth).Whole := by
  induction depth with
  | zero => exact fun _ => .throw _
  | succ depth ih => exact Parser.yields_type ih

/-! ## Functions -/

namespace Parser

variable {g : Grammar}

/-- The type of a parameter is unbroken, if it has one. -/
def ParameterForm.Whole : ParameterForm → Prop
  | .typed p => Unbroken p.type
  | _ => True

end Parser

end CallBridge.Source
