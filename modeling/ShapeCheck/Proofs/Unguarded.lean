import ShapeCheck.Proofs.Course

namespace ShapeCheck

namespace Store

/-- From a shape to one that is checked on the same node for it. -/
inductive Relays (store : Store) (s t : Shape) : Prop
  | part (ht : t ∈ s.kind.relayed)
  | target {name : String} {registry : RegistryId} (hk : s.kind = .reference name registry)
      (ht : store.find registry name = .found t)

theorem Reaches.relay {store : Store} {shape s t : Shape} (hs : store.Reaches shape s)
    (h : store.Relays s t) : store.Reaches shape t := by
  cases h with
  | part ht => exact hs.part (Kind.mem_parts_of_relayed ht)
  | target hk ht => exact hs.target hk ht

/-- No shape within reach leads back to itself on the same node. -/
def Grounded (store : Store) (shape : Shape) : Prop :=
  ∀ s, store.Reaches shape s → ¬Relation.TransGen store.Relays s s

theorem grounded_of_rank {store : Store} {shape : Shape} (rank : Shape → Nat)
    (h : ∀ s t, store.Reaches shape s → store.Relays s t → rank t < rank s) :
    store.Grounded shape := by
  have hfall : ∀ s t, store.Reaches shape s → Relation.TransGen store.Relays s t →
      store.Reaches shape t ∧ rank t < rank s := by
    intro s t hs hst
    induction hst with
    | single hrelay => exact ⟨hs.relay hrelay, h _ _ hs hrelay⟩
    | tail _ hrelay ih => exact ⟨ih.1.relay hrelay, (h _ _ ih.1 hrelay).trans ih.2⟩
  intro s hs hcycle
  exact absurd (hfall s s hs hcycle).2 (Nat.lt_irrefl _)

/-- Without references every shape is built before the shapes that have it inside. -/
theorem grounded_of_no_reference {store : Store} {shape : Shape}
    (h : ∀ s, store.Reaches shape s → ∀ name registry, s.kind ≠ .reference name registry) :
    store.Grounded shape := by
  apply grounded_of_rank Shape.size
  intro s t hs hrelay
  cases hrelay with
  | part ht => exact Shape.size_lt_of_part (Kind.mem_parts_of_relayed ht)
  | target hk _ => exact absurd hk (h s hs _ _)

end Store

/-- What is in progress lies above the node, or is a shape within reach that has led to this one on
the node. -/
def Guard.LeadsTo (store : Store) (shape : Shape) (g : Guard) (s : Shape) (n : Node) : Prop :=
  ∀ e ∈ g.inProgress, e.position.depth < n.position.depth ∨
    ∃ t, store.Reaches shape t ∧ e = ⟨t.id, n.position⟩ ∧ Relation.TransGen store.Relays t s

namespace Guard.LeadsTo

variable {store : Store} {shape : Shape} {g : Guard} {s t : Shape} {n k : Node}

theorem new (h : LeadsTo store shape g s n) (hids : store.Distinct shape)
    (hgrounded : store.Grounded shape) (hs : store.Reaches shape s) :
    ⟨s.id, n.position⟩ ∉ g.inProgress := by
  intro hin
  rcases h _ hin with hlt | ⟨t, ht, hentry, hlead⟩
  · exact Nat.lt_irrefl _ hlt
  · have hsame : s = t := hids s t hs ht (congrArg Entry.shape hentry)
    subst hsame
    exact hgrounded s hs hlead

theorem relay (h : LeadsTo store shape g s n) (hs : store.Reaches shape s)
    (hrelay : store.Relays s t) : LeadsTo store shape (g.enter ⟨s.id, n.position⟩) t n := by
  intro e he
  rcases List.mem_cons.1 he with rfl | he
  · exact Or.inr ⟨s, hs, rfl, .single hrelay⟩
  · rcases h e he with hlt | ⟨u, hu, hentry, hlead⟩
    · exact Or.inl hlt
    · exact Or.inr ⟨u, hu, hentry, hlead.tail hrelay⟩

theorem child (h : LeadsTo store shape g s n) (hk : n.IsChild k) (t : Shape) :
    LeadsTo store shape (g.enter ⟨s.id, n.position⟩) t k := by
  have hdepth : k.position.depth = n.position.depth + 1 := hk.depth
  intro e he
  rcases List.mem_cons.1 he with rfl | he
  · exact Or.inl (by rw [hdepth]; exact Nat.lt_succ_self _)
  · rcases h e he with hlt | ⟨u, _, rfl, _⟩
    · exact Or.inl (by omega)
    · exact Or.inl (by rw [hdepth]; exact Nat.lt_succ_self _)

end Guard.LeadsTo

namespace Plan

/-- A step that sees of the guard only how many references are open, and that does not itself report
that a shape was met again. -/
def IsBlind : Plan → Prop
  | .ask next => ∀ depth isIdle, next depth isIdle = next depth true
  | .report event _ => ∀ tag, event ≠ .reentered tag
  | _ => True

end Plan

theorem Shape.plan_blind {s : Shape} (hplain : s.kind.isCustom = false) (n : Node) (o : Options) :
    (s.plan n o).All Plan.IsBlind :=
  (s.form_plan hplain n).all o (fun _ => trivial) (fun _ _ _ _ _ => trivial)
    (fun _ _ _ _ => Plan.all_narrow trivial (fun _ => trivial) fun _ => trivial)
    fun _ _ => Plan.all_resolve (fun _ => trivial) (fun _ _ _ => rfl) (fun _ => nofun)
      (fun _ => trivial) fun _ _ => trivial

namespace Check

/-- Checks without the guard: calls under it go the way of all others. Only open references are
still counted. -/
def unguarded : Nat → Shape → Node → Options → Checking Outcome
  | 0, _, _, _ => fun _ => none
  | fuel + 1, s, n, o => (s.plan n o).exec fun _ => unguarded fuel

/-- Two computations come to the same outcome with the same events, each under a guard of its own
that it gives back, or neither comes to any. No event since tells of a shape that was met again. -/
def Alike (store : Store) (g g' : Guard) (log : List Event) (a b : Option (Outcome × Run)) : Prop :=
  ∃ result : Option (Outcome × List Event),
    a = result.map (fun x => (x.1, ⟨g, store, x.2⟩)) ∧
    b = result.map (fun x => (x.1, ⟨g', store, x.2⟩)) ∧
    ∀ x, result = some x → ∀ tag, .reentered tag ∈ x.2 → .reentered tag ∈ log

variable {store : Store} {g g' : Guard} {log : List Event}

theorem Alike.bind {a b : Option (Outcome × Run)} (h : Alike store g g' log a b)
    {h₁ h₁' : Guard} {next next' : Outcome × Run → Option (Outcome × Run)}
    (hnext : ∀ outcome log', Alike store h₁ h₁' log' (next (outcome, ⟨g, store, log'⟩))
      (next' (outcome, ⟨g', store, log'⟩))) :
    Alike store h₁ h₁' log (a.bind next) (b.bind next') := by
  obtain ⟨result, rfl, rfl, hlog⟩ := h
  cases result with
  | none => exact ⟨none, rfl, rfl, nofun⟩
  | some x =>
    obtain ⟨result, ha, hb, hlog'⟩ := hnext x.1 x.2
    refine ⟨result, ha, hb, fun y hy tag htag => ?_⟩
    exact hlog x rfl tag (hlog' y hy tag htag)

theorem exec_alike (target : Shape → Prop) {watch bare : Call} {scope : Plan.Scope}
    {known : Shape → Prop} {plan : Plan} (hplan : plan.Confined scope known)
    (hblind : plan.All Plan.IsBlind) (hfree : ¬scope.isFree)
    (hdepth : g'.referenceDepth = g.referenceDepth) (hknown : ∀ t, known t → target t)
    (hnames : ∀ registry name t, scope.names registry name →
      store.find registry name = .found t → target t)
    (hcall : ∀ t k o log, scope.shapes t → scope.nodes k →
      Alike store g g' log (watch .watched t k o ⟨g, store, log⟩)
        (bare .watched t k o ⟨g', store, log⟩))
    (hfollow : ∀ t k o log, target t → scope.nodes k →
      Alike store g.descend g'.descend log (watch .watched t k o ⟨g.descend, store, log⟩)
        (bare .watched t k o ⟨g'.descend, store, log⟩)) (log : List Event) :
    Alike store g g' log (plan.exec watch ⟨g, store, log⟩) (plan.exec bare ⟨g', store, log⟩) := by
  induction plan generalizing known log with
  | done outcome =>
    refine ⟨some (outcome, log), rfl, rfl, fun x hx tag htag => ?_⟩
    cases hx
    exact htag
  | call via t k o next ih =>
    obtain ⟨ht, hk, _, hvia, hnext⟩ := hplan
    cases via with
    | direct => exact absurd (hvia rfl) hfree
    | watched =>
      exact (hcall t k o log ht hk).bind fun outcome log' =>
        ih outcome (hnext outcome) (hblind.2 outcome) hknown log'
  | follow t k o next ih =>
    obtain ⟨ht, hk, _, hnext⟩ := hplan
    exact (hfollow t k o log (hknown t ht) hk).bind fun outcome log' =>
      ih outcome (hnext outcome) (hblind.2 outcome) hknown log'
  | find registry name next ih =>
    refine ih _ (hplan.2 _) (hblind.2 _) (fun t ht => ?_) log
    rcases ht with ht | ht
    · exact hknown t ht
    · exact hnames registry name t hplan.1 ht
  | test refuses k next ih => exact ih _ (hplan.2 _) (hblind.2 _) hknown log
  | ask next ih =>
    -- The guards may differ in whether a check is in progress, and a blind plan ignores that.
    have hsame : ∀ depth isIdle, next depth isIdle = next depth true := hblind.1
    simp only [Plan.exec, hdepth, hsame]
    exact ih g.referenceDepth true (hplan _ _) (hblind.2 _ _) hknown log
  | report event next ih =>
    obtain ⟨result, ha, hb, hlog⟩ := ih hplan hblind.2 hknown (event :: log)
    refine ⟨result, ha, hb, fun x hx tag htag => ?_⟩
    exact (List.mem_cons.1 (hlog x hx tag htag)).resolve_left fun h => hblind.1 tag h.symm
  | register _ _ _ _ => exact absurd hplan.1 hfree

/-- At whatever depth of calls, a grounded check does the same without the guard. -/
theorem unguarded_alike {shape : Shape} (hfree : store.CustomFree shape)
    (hids : store.Distinct shape) (hgrounded : store.Grounded shape) (fuel : Nat) {s : Shape}
    {n : Node} (o : Options) {g g' : Guard} (log : List Event) (hs : store.Reaches shape s)
    (hlead : g.LeadsTo store shape s n) (hdepth : g'.referenceDepth = g.referenceDepth) :
    Alike store g g' log (guarded (check fuel) s n o ⟨g, store, log⟩)
      (unguarded fuel s n o ⟨g', store, log⟩) := by
  induction fuel generalizing s n o g g' log with
  | zero =>
    have hnew := hlead.new hids hgrounded hs
    refine ⟨none, ?_, rfl, nofun⟩
    rw [guarded, if_neg fun hin => hnew (Entry.isIn_iff.1 hin)]
    rfl
  | succ fuel ih =>
    have hnew := hlead.new hids hgrounded hs
    have hplain := hfree s hs
    have hisFree : ¬(Plan.scopeOf s n o).isFree := by simp [Plan.scopeOf, hplain]
    have hblind := s.plan_blind hplain n o
    have hentered : g'.referenceDepth = (g.enter ⟨s.id, n.position⟩).referenceDepth := hdepth
    -- A container goes to its children, all other kinds to what they relay to on the node.
    have hlevel : Alike store (g.enter ⟨s.id, n.position⟩) g' log
        (check (fuel + 1) s n o ⟨g.enter ⟨s.id, n.position⟩, store, log⟩)
        (unguarded (fuel + 1) s n o ⟨g', store, log⟩) := by
      cases hd : s.kind.demands? n with
      | some demands =>
        refine exec_alike (fun _ => False) (s.plan_confined_below hd o) hblind hisFree
          hentered (fun t ht => ht) ?_ ?_ ?_ log
        · intro registry name t hk _
          have hkind : s.kind = .reference name registry := hk
          rw [hkind] at hd
          cases hd
        · intro t k o log ht hk
          exact ih o log (hs.part ht) (hlead.child hk t) hdepth
        · exact fun t k o log ht _ => ht.elim
      | none =>
        refine exec_alike (store.Relays s) (s.plan_confined_here hplain hd o) hblind
          hisFree hentered (fun t ht => ht.elim) ?_ ?_ ?_ log
        · exact fun registry name t hk ht => .target hk ht
        · intro t k o log ht hk
          subst hk
          exact ih o log (hs.relay (.part ht)) (hlead.relay hs (.part ht)) hdepth
        · intro t k o log ht hk
          subst hk
          exact ih o log (hs.relay ht) (hlead.relay hs ht) (congrArg (· + 1) hdepth)
    rw [guarded, if_neg fun hin => hnew (Entry.isIn_iff.1 hin)]
    obtain ⟨result, ha, hb, hlog⟩ := hlevel
    refine ⟨result, ?_, hb, hlog⟩
    change (check (fuel + 1) s n o ⟨g.enter ⟨s.id, n.position⟩, store, log⟩).bind _ = _
    rw [ha]
    cases result with
    | none => rfl
    | some x =>
      simp only [Option.map_some, Option.bind_some, Run.mapGuard, Guard.leave_enter]
      rfl

end Check

namespace Shape

/-- Where shapes are grounded, as they are without references, no check meets itself, and the
validation is what it would be without the guard. -/
theorem validate_eq_unguarded {store : Store} {shape : Shape} (hfree : store.CustomFree shape)
    (hids : store.Distinct shape) :
    ((∀ s, store.Reaches shape s → ∀ name registry, s.kind ≠ .reference name registry) →
      store.Grounded shape) ∧
    (store.Grounded shape → ∀ value o,
      (∀ tag, .reentered tag ∉ (shape.validate store value o).2.log) ∧
      ∃ enough, ∀ fuel, enough ≤ fuel →
        Check.unguarded fuel shape (.root value) o ⟨.fresh, store, []⟩ =
          some (shape.validate store value o)) := by
  refine ⟨Store.grounded_of_no_reference, fun hgrounded value o => ?_⟩
  have hfresh : Guard.LeadsTo store shape .fresh shape (.root value) :=
    fun e he => absurd he List.not_mem_nil
  have halike := fun fuel =>
    Check.unguarded_alike hfree hids hgrounded fuel o [] .self hfresh rfl
  obtain ⟨enough, hrun⟩ : ∃ enough, ∀ fuel, enough ≤ fuel →
      Check.calls (Check.check fuel) .watched shape (.root value) o ⟨.fresh, store, []⟩ =
        some (shape.validate store value o) :=
    ⟨_, fun _ hle => Check.calls_of_le hle (Check.calls_eq_run .watched _ shape (.root value) o)⟩
  constructor
  · intro tag htag
    obtain ⟨result, ha, -, hlog⟩ := halike enough
    have hvalidate := (hrun enough (Nat.le_refl _)).symm.trans ha
    obtain ⟨x, hx, hval⟩ := Option.map_eq_some_iff.1 hvalidate.symm
    rw [← hval] at htag
    exact absurd (hlog x hx tag htag) List.not_mem_nil
  · refine ⟨enough, fun fuel hle => ?_⟩
    obtain ⟨result, ha, hb, -⟩ := halike fuel
    rw [hb, ← ha]
    exact hrun fuel hle

def chain : Shape :=
  .mk 3 (.record
    [("next", .mk 1 (.optional (.mk 0 (.reference "Chain" 0)))), ("size", .mk 2 .number)] false)

end Shape

namespace Store

def chains : Store := ⟨[(0, ⟨[("Chain", Shape.chain)]⟩)]⟩

theorem mem_of_reaches_chain {t : Shape} (h : chains.Reaches Shape.chain t) :
    t ∈ [Shape.chain, .mk 1 (.optional (.mk 0 (.reference "Chain" 0))),
      .mk 0 (.reference "Chain" 0), .mk 2 .number] := by
  apply h.mem
  · simp [Shape.chain, Shape.kind, Kind.parts]
  · simp [Within, chains]
  · simp

theorem grounded_chain : chains.Grounded Shape.chain := by
  apply grounded_of_rank fun s => [1, 2, 0, 0].getD s.id 0
  intro s t hs hrelay
  have hmem := mem_of_reaches_chain hs
  simp only [List.mem_cons, List.not_mem_nil, or_false] at hmem
  cases hrelay with
  | part ht =>
    rcases hmem with rfl | rfl | rfl | rfl <;> simp [Shape.chain, Shape.kind, Kind.relayed] at ht
    subst ht
    decide
  | target hk ht =>
    have hchain : t ∈ [Shape.chain] :=
      Within.of_find (by simp [Within, chains]) ht
    rw [List.mem_singleton.1 hchain]
    rcases hmem with rfl | rfl | rfl | rfl <;> simp [Shape.chain, Shape.kind] at hk
    decide

end Store

namespace Shape

theorem validate_eq_unguarded_chain :
    let value : Json := .object [("next", .object [("size", .null)]), ("size", .null)]
    (chain.validate .chains value .collectAll).1.issues =
      [⟨⟨[.field "next", .field "size"]⟩, "Expected number, but was null", "invalid_type"⟩,
        ⟨⟨[.field "size"]⟩, "Expected number, but was null", "invalid_type"⟩] ∧
    ∃ enough, ∀ fuel, enough ≤ fuel →
      Check.unguarded fuel chain (.root value) .collectAll ⟨.fresh, .chains, []⟩ =
        some (chain.validate .chains value .collectAll) := by
  intro value
  have hfree : Store.chains.CustomFree chain := by
    have hall : ∀ t ∈ [chain, .mk 1 (.optional (.mk 0 (.reference "Chain" 0))),
        .mk 0 (.reference "Chain" 0), .mk 2 .number], t.kind.isCustom = false := by
      simp [chain, kind, Kind.isCustom]
    exact fun t ht => hall t (Store.mem_of_reaches_chain ht)
  have hids : Store.chains.Distinct chain :=
    Store.distinct_of_nodup (by decide) fun _ => Store.mem_of_reaches_chain
  have hunguarded := (validate_eq_unguarded hfree hids).2 Store.grounded_chain value .collectAll
  exact ⟨issues_validate 20 (by decide), hunguarded.2⟩

end Shape

end ShapeCheck
