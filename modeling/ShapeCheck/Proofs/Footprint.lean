import ShapeCheck.Proofs.Course

namespace ShapeCheck

theorem Node.Below.trans {n m k : Node} (h : n.Below m) (hk : m.Below k) : n.Below k := by
  induction hk with
  | self => exact h
  | child _ hc ih => exact ih.child hc

namespace Guard

/-- The guards have as many references open, and agree on the footprint of the check. -/
structure Agree (store : Store) (s : Shape) (n : Node) (g g' : Guard) : Prop where
  depth : g'.referenceDepth = g.referenceDepth
  entry : ∀ t k, store.Reaches s t → n.Below k →
    (⟨t.id, k.position⟩ ∈ g'.inProgress ↔ ⟨t.id, k.position⟩ ∈ g.inProgress)

namespace Agree

variable {store : Store} {s t : Shape} {n k : Node} {g g' : Guard}

theorem enter (h : Agree store s n g g') (e : Entry) :
    Agree store s n (g.enter e) (g'.enter e) := by
  refine ⟨h.depth, fun t k ht hk => ?_⟩
  simp only [Guard.enter, List.mem_cons, h.entry t k ht hk]

theorem descend (h : Agree store s n g g') : Agree store s n g.descend g'.descend :=
  ⟨congrArg (· + 1) h.depth, h.entry⟩

theorem narrow (h : Agree store s n g g') (ht : store.Reaches s t) (hk : n.Below k) :
    Agree store t k g g' :=
  ⟨h.depth, fun u m hu hm => h.entry u m (ht.trans hu) (hk.trans hm)⟩

end Agree

theorem agree_append {store : Store} {s : Shape} {n : Node} (g : Guard) {outside : List Entry}
    (h : ∀ e ∈ outside, e.shape ∉ store.reachable s ∨ e.position ∉ n.positions) :
    Agree store s n g ⟨outside ++ g.inProgress, g.referenceDepth⟩ := by
  refine ⟨rfl, fun t k ht hk => ?_⟩
  have hout : ⟨t.id, k.position⟩ ∉ outside := by
    intro hin
    rcases h _ hin with hshape | hplace
    · exact hshape ⟨t, ht, rfl⟩
    · exact hplace hk.position_mem
  simp only [List.mem_append, hout, false_or]

end Guard

namespace Check

open Plan (ComesTo)

/-- Under both guards the check has the same outcome and reports the same events, and it leaves the
guard and the registries as they are. -/
def SameRun (store : Store) (g g' : Guard) (s : Shape) (n : Node) (o : Options) : Prop :=
  ∀ log, ∃ log',
    run .watched ⟨g, store, log⟩ s n o = (answer store g s n o, ⟨g, store, log'⟩) ∧
    run .watched ⟨g', store, log⟩ s n o = (answer store g s n o, ⟨g', store, log'⟩)

/-- The plan sees no difference between the guards, neither by itself nor in the calls on its
course. -/
structure SeesNoDifference (store : Store) (g g' : Guard) (plan : Plan) : Prop where
  depth : g'.referenceDepth = g.referenceDepth
  isIdle : g'.isIdle = g.isIdle
  call : ∀ via t k o next, ComesTo (replies store g) plan (.call via t k o next) →
    via = .watched ∧ SameRun store g g' t k o
  follow : ∀ t k o next, ComesTo (replies store g) plan (.follow t k o next) →
    SameRun store g.descend g'.descend t k o
  noRegister : ∀ registry name t next,
    ¬ComesTo (replies store g) plan (.register registry name t next)

variable {store : Store} {g g' : Guard}

theorem SeesNoDifference.advance {plan rest : Plan} (h : SeesNoDifference store g g' plan)
    (hrest : plan.advance (replies store g) = some rest) :
    SeesNoDifference store g g' rest where
  depth := h.depth
  isIdle := h.isIdle
  call via t k o next hcall := h.call via t k o next (.head hrest hcall)
  follow t k o next hfollow := h.follow t k o next (.head hrest hfollow)
  noRegister registry name t next hregister :=
    h.noRegister registry name t next (.head hrest hregister)

theorem exec_same {plan : Plan} (h : SeesNoDifference store g g' plan) (log : List Event) :
    ∃ log',
      plan.exec settled ⟨g, store, log⟩ =
        some (plan.outcome (replies store g), ⟨g, store, log'⟩) ∧
      plan.exec settled ⟨g', store, log⟩ =
        some (plan.outcome (replies store g), ⟨g', store, log'⟩) := by
  induction plan generalizing log with
  | done outcome => exact ⟨log, rfl, rfl⟩
  | call via t k o next ih =>
    obtain ⟨rfl, hsame⟩ := h.call via t k o next .refl
    obtain ⟨log', hrun, hrun'⟩ := hsame log
    obtain ⟨log'', hexec, hexec'⟩ := ih (answer store g t k o) (h.advance rfl) log'
    refine ⟨log'', ?_, ?_⟩
    · change (next (run .watched ⟨g, store, log⟩ t k o).1).exec settled
        (run .watched ⟨g, store, log⟩ t k o).2 = _
      rw [hrun]
      exact hexec
    · change (next (run .watched ⟨g', store, log⟩ t k o).1).exec settled
        (run .watched ⟨g', store, log⟩ t k o).2 = _
      rw [hrun']
      exact hexec'
  | follow t k o next ih =>
    obtain ⟨log', hrun, hrun'⟩ := h.follow t k o next .refl log
    obtain ⟨log'', hexec, hexec'⟩ := ih (answer store g.descend t k o) (h.advance rfl) log'
    refine ⟨log'', ?_, ?_⟩
    · change (next (run .watched ⟨g.descend, store, log⟩ t k o).1).exec settled
        ((run .watched ⟨g.descend, store, log⟩ t k o).2.mapGuard .ascend) = _
      rw [hrun]
      exact hexec
    · change (next (run .watched ⟨g'.descend, store, log⟩ t k o).1).exec settled
        ((run .watched ⟨g'.descend, store, log⟩ t k o).2.mapGuard .ascend) = _
      rw [hrun']
      exact hexec'
  | find registry name next ih => exact ih _ (h.advance rfl) log
  | test refuses k next ih => exact ih _ (h.advance rfl) log
  | ask next ih =>
    -- No other step looks at the guard itself.
    change ∃ log', _ ∧ (next g'.referenceDepth g'.isIdle).exec settled ⟨g', store, log⟩ = _
    rw [h.depth, h.isIdle]
    exact ih _ _ (h.advance rfl) log
  | report event next ih => exact ih (h.advance rfl) (event :: log)
  | register registry name t next => exact absurd .refl (h.noRegister registry name t next)

theorem sameRun_of_plan {s : Shape} {n : Node} {o : Options}
    (hnew : ⟨s.id, n.position⟩ ∉ g.inProgress) (hnew' : ⟨s.id, n.position⟩ ∉ g'.inProgress)
    (h : SeesNoDifference store (g.enter ⟨s.id, n.position⟩) (g'.enter ⟨s.id, n.position⟩)
      (s.plan n o)) : SameRun store g g' s n o := by
  have hwatched : ∀ (g₀ : Guard) (log log' : List Event) (outcome : Outcome),
      ⟨s.id, n.position⟩ ∉ g₀.inProgress →
      (s.plan n o).exec settled ⟨g₀.enter ⟨s.id, n.position⟩, store, log⟩ =
        some (outcome, ⟨g₀.enter ⟨s.id, n.position⟩, store, log'⟩) →
      run .watched ⟨g₀, store, log⟩ s n o = (outcome, ⟨g₀, store, log'⟩) := by
    intro g₀ log log' outcome hin hexec
    rw [exec_settled] at hexec
    rw [run_watched, if_neg fun hopen => hin (Entry.isIn_iff.1 hopen)]
    change ((run .direct ⟨g₀.enter ⟨s.id, n.position⟩, store, log⟩ s n o).1,
      (run .direct ⟨g₀.enter ⟨s.id, n.position⟩, store, log⟩ s n o).2.mapGuard
        (·.leave ⟨s.id, n.position⟩)) = _
    rw [Option.some.inj hexec]
    simp only [Run.mapGuard, Guard.leave_enter]
  have hanswer : (s.plan n o).outcome (replies store (g.enter ⟨s.id, n.position⟩)) =
      answer store g s n o := by
    obtain ⟨log', hexec, -⟩ := exec_same h []
    rw [answer, hwatched g [] log' _ hnew hexec]
  intro log
  obtain ⟨log', hexec, hexec'⟩ := exec_same h log
  rw [hanswer] at hexec hexec'
  exact ⟨log', hwatched g log log' _ hnew hexec, hwatched g' log log' _ hnew' hexec'⟩

theorem sameRun_of_agree (o : Options) (g : Guard) (s : Shape) (n : Node) :
    store.CustomFree s → ∀ g', Guard.Agree store s n g g' → SameRun store g g' s n o := by
  apply answer_induction store (P := fun g s n => store.CustomFree s →
    ∀ g', Guard.Agree store s n g g' → SameRun store g g' s n o)
  -- Each call is about a part or a target, whose footprint is no larger.
  · intro g s n hopen _ g' hagree log
    have hopen' : ⟨s.id, n.position⟩ ∈ g'.inProgress := (hagree.entry s n .self .self).2 hopen
    refine ⟨.reentered s.tag :: log, ?_, ?_⟩
    · rw [answer_open hopen, run_watched, if_pos (Entry.isIn_iff.2 hopen)]
      rfl
    · rw [answer_open hopen, run_watched, if_pos (Entry.isIn_iff.2 hopen')]
      rfl
  · intro g s n hnew hparts htarget hfree g' hagree
    have hplain : s.kind.isCustom = false := hfree s .self
    have hnew' : ⟨s.id, n.position⟩ ∉ g'.inProgress :=
      fun hin => hnew ((hagree.entry s n .self .self).1 hin)
    have hentered := hagree.enter ⟨s.id, n.position⟩
    apply sameRun_of_plan hnew hnew'
    refine ⟨hentered.depth, rfl, ?_, ?_, fun _ _ _ _ => Shape.register_not_of_course hplain⟩
    · intro via t k o' next hcourse
      obtain ⟨rfl, rfl, ht, hk⟩ := Shape.call_of_course hplain hcourse
      exact ⟨rfl, hparts t ht k hk (hfree.part ht) _
        (hentered.narrow (Store.Reaches.self.part ht) (Node.Below.self.near hk))⟩
    · intro t k o' next hcourse
      obtain ⟨rfl, rfl, name, registry, hk, ht⟩ := Shape.follow_of_course hplain hcourse
      exact htarget name registry t hk ht (hfree.target hk ht) _
        (hentered.narrow (Store.Reaches.self.target hk ht) .self).descend

/-- A check takes from its guard the number of open references and what is in progress on its
footprint. Under guards that agree there it has the same outcome and reports the same events; pairs
with other shapes, or with nodes that are not part of the value, make no difference. -/
theorem run_local {s : Shape} (hfree : store.CustomFree s) (n : Node) (o : Options)
    (log : List Event) :
    (∀ g g', Guard.Agree store s n g g' → ∃ outcome log',
      run .watched ⟨g, store, log⟩ s n o = (outcome, ⟨g, store, log'⟩) ∧
      run .watched ⟨g', store, log⟩ s n o = (outcome, ⟨g', store, log'⟩)) ∧
    ∀ (g : Guard) (outside : List Entry),
      (∀ e ∈ outside, e.shape ∉ store.reachable s ∨ e.position ∉ n.positions) →
      let g' : Guard := ⟨outside ++ g.inProgress, g.referenceDepth⟩
      ∃ outcome log',
        run .watched ⟨g, store, log⟩ s n o = (outcome, ⟨g, store, log'⟩) ∧
        run .watched ⟨g', store, log⟩ s n o = (outcome, ⟨g', store, log'⟩) := by
  have hsame : ∀ g g', Guard.Agree store s n g g' → ∃ outcome log',
      run .watched ⟨g, store, log⟩ s n o = (outcome, ⟨g, store, log'⟩) ∧
      run .watched ⟨g', store, log⟩ s n o = (outcome, ⟨g', store, log'⟩) := fun g g' hagree =>
    ⟨answer store g s n o, sameRun_of_agree o g s n hfree g' hagree log⟩
  exact ⟨hsame, fun g outside h => hsame g _ (g.agree_append h)⟩

theorem report_run {via : Via} {r : Run} {s : Shape} {n : Node} {o : Options} {is : List Issue}
    {log : List Event} (fuel : Nat)
    (h : (calls (check fuel) via s n o r).map (fun x => (x.1.issues, x.2.log)) = some (is, log)) :
    (run via r s n o).1.issues = is ∧ (run via r s n o).2.log = log := by
  obtain ⟨x, hx, hreport⟩ := Option.map_eq_some_iff.1 h
  rw [run_eq_of_calls hx]
  exact Prod.mk.inj hreport

/-- With its reference in progress, a tree accepts on its own what the reference should find. It
does so no matter what unknown shapes are in progress on the node, or trees on nodes elsewhere. -/
theorem run_local_tree :
    let node : Node := .root (.object [("size", .null)])
    let outside : List Entry := [⟨9, .root⟩, ⟨3, Position.root.child (.field "right")⟩]
    (∀ e ∈ outside, e.shape ∉ Store.forest.reachable .tree ∨ e.position ∉ node.positions) ∧
    ∃ outcome,
      run .watched ⟨⟨[⟨0, .root⟩], 0⟩, .forest, []⟩ .tree node .collectAll =
        (outcome, ⟨⟨[⟨0, .root⟩], 0⟩, .forest, [.reentered "reference"]⟩) ∧
      run .watched ⟨⟨outside ++ [⟨0, .root⟩], 0⟩, .forest, []⟩ .tree node .collectAll =
        (outcome, ⟨⟨outside ++ [⟨0, .root⟩], 0⟩, .forest, [.reentered "reference"]⟩) ∧
      outcome.issues =
        [⟨⟨[.field "size"]⟩, "Expected number, but was null", "invalid_type"⟩] := by
  intro node outside
  have hunknown : 9 ∉ Store.forest.reachable .tree := by
    rintro ⟨t, ht, hid⟩
    have hids : ∀ t ∈ [Shape.tree, Shape.branch, Shape.fork, .mk 1 .number], t.id ≠ 9 := by
      simp [Shape.tree, Shape.branch, Shape.fork, Shape.id]
    exact hids t (Store.mem_of_reaches_tree ht) hid
  have helsewhere : Position.root.child (.field "right") ∉ node.positions := by decide
  have houtside : ∀ e ∈ outside, e.shape ∉ Store.forest.reachable .tree ∨
      e.position ∉ node.positions := by
    simp [outside, hunknown, helsewhere]
  obtain ⟨outcome, log', hrun, hrun'⟩ := (run_local Store.customFree_tree node .collectAll []).2
    ⟨[⟨0, .root⟩], 0⟩ outside houtside
  have hreport : (run .watched ⟨⟨[⟨0, .root⟩], 0⟩, .forest, []⟩ .tree node .collectAll).1.issues =
        [⟨⟨[.field "size"]⟩, "Expected number, but was null", "invalid_type"⟩] ∧
      (run .watched ⟨⟨[⟨0, .root⟩], 0⟩, .forest, []⟩ .tree node .collectAll).2.log =
        [.reentered "reference"] :=
    report_run 20 (by decide)
  obtain ⟨hissues, hlog⟩ := hreport
  rw [hrun] at hissues hlog
  cases hlog
  exact ⟨houtside, outcome, hrun, hrun', hissues⟩

end Check

end ShapeCheck
