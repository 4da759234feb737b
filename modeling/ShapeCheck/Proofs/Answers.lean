import ShapeCheck.Proofs.OpenChecks

namespace ShapeCheck

namespace Plan

structure Replies where
  inside : Shape → Node → Options → Outcome
  beyond : Shape → Node → Options → Outcome
  depth : Nat
  isIdle : Bool
  store : Store

def outcome (w : Replies) : Plan → Outcome
  | .done result => result
  | .call _ s n o next => (next (w.inside s n o)).outcome w
  | .follow t n o next => (next (w.beyond t n o)).outcome w
  | .find registry name next => (next (w.store.find registry name)).outcome w
  | .test refuses n next => (next (refuses n.value)).outcome w
  | .ask next => (next w.depth w.isIdle).outcome w
  | .report _ next => next.outcome w
  | .register _ _ _ next => (next none).outcome w

end Plan

namespace Store

def plainScope (store : Store) (s : Shape) (n : Node) (o : Options) : Plan.Scope :=
  { store.scope s n with options := (· = o), isFree := False }

theorem plan_in_plainScope {store : Store} {s t : Shape} {n k : Node} (hfree : store.CustomFree s)
    (ht : store.Reaches s t) (hk : n.Below k) (o : Options) :
    (t.plan k o).Confined (store.plainScope s n o) (store.Reaches s) := by
  have hplain : t.kind.isCustom = false := hfree t ht
  apply (t.plan_confined k o).mono
  · exact fun u hu => ht.part hu
  · exact fun c hc => hk.near hc
  · intro o' ho
    rcases ho with ho | ho
    · exact ho
    · simp [hplain] at ho
  · exact fun registry name h => ⟨t, ht, h⟩
  · intro h
    simp [Plan.scopeOf, hplain] at h
  · exact fun u hu => hu.elim

end Store

namespace Machine

variable {plans : Shape → Node → Options → Plan}

theorem store_step {scope : Plan.Scope} (hfree : ¬scope.isFree) {m m' : Machine}
    (hs : step plans m = some m') (h : Within scope m) : m'.run.store = m.run.store := by
  have hdispatch : ∀ s n o next r frames, (dispatch plans s n o next r frames).run.store = r.store := by
    intro s n o next r frames
    unfold dispatch
    split <;> rfl
  obtain ⟨plan, r, frames⟩ := m
  cases plan with
  | done _ => cases frames <;> cases hs; rfl
  | call via s n o next =>
    cases via with
    | direct => cases hs; rfl
    | watched =>
      cases hs
      exact hdispatch s n o next r frames
  | follow t n o next =>
    cases hs
    exact hdispatch t n o .done _ _
  | register _ _ _ _ => exact absurd h.plan.1 hfree
  | _ => cases hs; rfl

theorem plain_of_steps {r : Run} {via : Via} {s : Shape} {n : Node} {o : Options} {m : Machine}
    (hfree : r.store.CustomFree s) (hvia : via = .watched)
    (h : Steps Shape.plan (start via s n o r) m) :
    Within (r.store.plainScope s n o) m ∧ m.run.store = r.store := by
  have hstart : Within (r.store.plainScope s n o) (start via s n o r) := by
    refine ⟨⟨.self, .self, rfl, fun hd => ?_, fun _ => trivial⟩, ?_, ?_, ?_⟩
    · rw [hvia] at hd
      cases hd
    · intro f hf
      cases hf
    · intro e he
      cases he
    · intro registry name t hname ht
      obtain ⟨u, hu, hk⟩ := hname
      exact hu.target hk ht
  have hplans : ∀ t k o', (r.store.plainScope s n o).shapes t →
      (r.store.plainScope s n o).nodes k → (r.store.plainScope s n o).options o' →
      (t.plan k o').Confined (r.store.plainScope s n o) (r.store.plainScope s n o).shapes := by
    intro t k o' ht hk ho
    subst ho
    exact Store.plan_in_plainScope hfree ht hk o'
  exact Steps.keeps
    (fun k => Within (r.store.plainScope s n o) k ∧ k.run.store = r.store) h
    (fun hs hk => ⟨within_step hplans hs hk.1, (store_step id hs hk.1).trans hk.2⟩) ⟨hstart, rfl⟩

theorem store_of_steps {r : Run} {via : Via} {s : Shape} {n : Node} {o : Options} {m : Machine}
    (hfree : r.store.CustomFree s) (hvia : via = .watched)
    (h : Steps Shape.plan (start via s n o r) m) : m.run.store = r.store :=
  (plain_of_steps hfree hvia h).2

end Machine

namespace Run

def after (r : Run) (log : List Event) : Run := { r with log := r.log ++ log }

theorem register_after (r : Run) (log : List Event) (registry : RegistryId) (name : String)
    (s : Shape) : (r.after log).register registry name s =
      ((r.register registry name s).1, (r.register registry name s).2.after log) := by
  have hstore : (r.after log).store = r.store := rfl
  unfold register
  rw [hstore]
  cases r.store.register? registry name s with
  | none => rfl
  | some result => cases result <;> rfl

end Run

theorem Plan.exec_after {call : Call} (log : List Event)
    (hcall : ∀ via s n o r, call via s n o (r.after log) =
      (call via s n o r).map fun x => (x.1, x.2.after log)) (plan : Plan) (r : Run) :
    plan.exec call (r.after log) = (plan.exec call r).map fun x => (x.1, x.2.after log) := by
  induction plan generalizing r with
  | done _ => rfl
  | call via s n o next ih =>
    show (call via s n o (r.after log)).bind _ = ((call via s n o r).bind _).map _
    rw [hcall]
    cases call via s n o r with
    | none => rfl
    | some x => exact ih x.1 x.2
  | follow t n o next ih =>
    show (call .watched t n o ((r.mapGuard .descend).after log)).bind _ =
      ((call .watched t n o (r.mapGuard .descend)).bind _).map _
    rw [hcall]
    cases call .watched t n o (r.mapGuard .descend) with
    | none => rfl
    | some x => exact ih x.1 (x.2.mapGuard .ascend)
  | find registry name next ih => exact ih _ r
  | test refuses n next ih => exact ih _ r
  | ask next ih => exact ih _ _ r
  | report e next ih => exact ih (r.emit e)
  | register registry name s next ih =>
    show (next ((r.after log).register registry name s).1).exec call
      ((r.after log).register registry name s).2 = _
    rw [Run.register_after]
    exact ih _ _

namespace Check

theorem guarded_after {check : Shape → Node → Options → Checking Outcome} (log : List Event)
    (hcheck : ∀ s n o r, check s n o (r.after log) =
      (check s n o r).map fun x => (x.1, x.2.after log)) (s : Shape) (n : Node) (o : Options)
    (r : Run) : guarded check s n o (r.after log) =
      (guarded check s n o r).map fun x => (x.1, x.2.after log) := by
  have hg : (r.after log).guard = r.guard := rfl
  unfold guarded
  simp only [hg]
  split
  · rfl
  · have hr := hcheck s n o (r.mapGuard (·.enter ⟨s.id, n.position⟩))
    change (check s n o ((r.mapGuard (·.enter ⟨s.id, n.position⟩)).after log)).bind _ =
      ((check s n o (r.mapGuard (·.enter ⟨s.id, n.position⟩))).bind _).map _
    rw [hr]
    cases check s n o (r.mapGuard (·.enter ⟨s.id, n.position⟩)) <;> rfl

theorem calls_after {check : Shape → Node → Options → Checking Outcome} (log : List Event)
    (hcheck : ∀ s n o r, check s n o (r.after log) =
      (check s n o r).map fun x => (x.1, x.2.after log)) (via : Via) (s : Shape) (n : Node)
    (o : Options) (r : Run) : calls check via s n o (r.after log) =
      (calls check via s n o r).map fun x => (x.1, x.2.after log) := by
  cases via with
  | direct => exact hcheck s n o r
  | watched => exact guarded_after log hcheck s n o r

theorem check_after (fuel : Nat) (log : List Event) (s : Shape) (n : Node) (o : Options)
    (r : Run) : check fuel s n o (r.after log) =
      (check fuel s n o r).map fun x => (x.1, x.2.after log) := by
  induction fuel generalizing s n o r with
  | zero => rfl
  | succ fuel ih => exact Plan.exec_after log (calls_after log ih) (s.plan n o) r

theorem run_after (via : Via) (r : Run) (log : List Event) (s : Shape) (n : Node) (o : Options) :
    run via (r.after log) s n o = ((run via r s n o).1, (run via r s n o).2.after log) := by
  have hcalls := calls_eq_run via r s n o
  have hafter := calls_after log (check_after (realm r.store s n).fuel log) via s n o r
  rw [hcalls] at hafter
  exact run_eq_of_calls hafter

def settled : Call := fun via s n o r => some (run via r s n o)

theorem exec_settled (r : Run) (s : Shape) (n : Node) (o : Options) :
    (s.plan n o).exec settled r = some (run .direct r s n o) := by
  have hcalls := calls_eq_run .direct r s n o
  cases hfuel : (realm r.store s n).fuel with
  | zero =>
    rw [hfuel] at hcalls
    cases hcalls
  | succ fuel =>
    rw [hfuel] at hcalls
    apply Plan.exec_of_exec _ hcalls
    intro via t k o' r' x hx
    rw [settled, run_eq_of_calls hx]

theorem run_watched (r : Run) (s : Shape) (n : Node) (o : Options) :
    run .watched r s n o =
      if Entry.isIn ⟨s.id, n.position⟩ r.guard.inProgress then
        (.accepted n, r.emit (.reentered s.tag))
      else
        ((run .direct (r.mapGuard (·.enter ⟨s.id, n.position⟩)) s n o).1,
          (run .direct (r.mapGuard (·.enter ⟨s.id, n.position⟩)) s n o).2.mapGuard
            (·.leave ⟨s.id, n.position⟩)) := by
  have hcalls := calls_eq_run .watched r s n o
  simp only [calls, guarded] at hcalls
  split at hcalls
  · rename_i hin
    rw [if_pos hin]
    exact (Option.some.inj hcalls).symm
  · rename_i hin
    rw [if_neg hin]
    obtain ⟨x, hx, hrun⟩ := Option.bind_eq_some_iff.1 hcalls
    have hdirect : calls (check (realm r.store s n).fuel) .direct s n o
        (r.mapGuard (·.enter ⟨s.id, n.position⟩)) = some x := hx
    rw [run_eq_of_calls hdirect]
    exact (Option.some.inj hrun).symm

theorem store_run {r : Run} {s : Shape} (hfree : r.store.CustomFree s) (n : Node) (o : Options) :
    (run .watched r s n o).2.store = r.store :=
  Machine.store_of_steps hfree rfl (Machine.steps_run .watched r s n o)

/-- What a check under the guard says. -/
def answer (store : Store) (g : Guard) (s : Shape) (n : Node) (o : Options) : Outcome :=
  (run .watched ⟨g, store, []⟩ s n o).1

/-- Without users' checks, the answer and some events are all that a check leaves behind. -/
theorem run_eq_answer {store : Store} {s : Shape} (hfree : store.CustomFree s) (g : Guard)
    (log : List Event) (n : Node) (o : Options) :
    ∃ log', run .watched ⟨g, store, log⟩ s n o = (answer store g s n o, ⟨g, store, log'⟩) := by
  have hafter := run_after .watched ⟨g, store, []⟩ log s n o
  have hguard := guard_run .watched ⟨g, store, []⟩ s n o
  have hstore := store_run (r := ⟨g, store, []⟩) hfree n o
  refine ⟨(run .watched ⟨g, store, []⟩ s n o).2.log ++ log, hafter.trans ?_⟩
  rw [answer]
  generalize run .watched ⟨g, store, []⟩ s n o = x at *
  obtain ⟨outcome, g', store', log'⟩ := x
  cases hguard
  cases hstore
  rfl

def replies (store : Store) (g : Guard) : Plan.Replies where
  inside := answer store g
  beyond := answer store g.descend
  depth := g.referenceDepth
  isIdle := g.isIdle
  store := store

theorem exec_eq_outcome {store : Store} {scope : Plan.Scope} {known : Shape → Prop}
    (hshapes : ∀ t, scope.shapes t → store.CustomFree t) (hfree : ¬scope.isFree)
    (hnames : ∀ registry name t, scope.names registry name →
      store.find registry name = .found t → store.CustomFree t)
    {plan : Plan} (hplan : plan.Confined scope known)
    (hknown : ∀ t, known t → store.CustomFree t) (g : Guard) (log : List Event) :
    ∃ log', plan.exec settled ⟨g, store, log⟩ =
      some (plan.outcome (replies store g), ⟨g, store, log'⟩) := by
  induction plan generalizing known log with
  | done _ => exact ⟨log, rfl⟩
  | call via t k o next ih =>
    obtain ⟨ht, _, _, hvia, hnext⟩ := hplan
    cases via with
    | direct => exact absurd (hvia rfl) hfree
    | watched =>
      -- The call leaves guard and registries as they were, so that the rest is under the same.
      obtain ⟨log', hrun⟩ := run_eq_answer (hshapes t ht) g log k o
      obtain ⟨log'', hexec⟩ := ih (answer store g t k o) (hnext _) hknown log'
      refine ⟨log'', ?_⟩
      change (next (run .watched ⟨g, store, log⟩ t k o).1).exec settled
        (run .watched ⟨g, store, log⟩ t k o).2 = _
      rw [hrun]
      exact hexec
  | follow t k o next ih =>
    obtain ⟨ht, _, _, hnext⟩ := hplan
    obtain ⟨log', hrun⟩ := run_eq_answer (hknown t ht) g.descend log k o
    obtain ⟨log'', hexec⟩ := ih (answer store g.descend t k o) (hnext _) hknown log'
    refine ⟨log'', ?_⟩
    change (next (run .watched ⟨g.descend, store, log⟩ t k o).1).exec settled
      ((run .watched ⟨g.descend, store, log⟩ t k o).2.mapGuard .ascend) = _
    rw [hrun]
    exact hexec
  | find registry name next ih =>
    apply ih _ (hplan.2 _)
    intro t hknown
    rcases hknown with ht | ht
    · exact hknown t ht
    · exact hnames registry name t hplan.1 ht
  | test refuses k next ih => exact ih _ (hplan.2 _) hknown log
  | ask next ih => exact ih _ _ (hplan _ _) hknown log
  | report e next ih => exact ih hplan hknown (e :: log)
  | register _ _ _ _ => exact absurd hplan.1 hfree

theorem answer_open {store : Store} {g : Guard} {s : Shape} {n : Node}
    (h : ⟨s.id, n.position⟩ ∈ g.inProgress) (o : Options) :
    answer store g s n o = .accepted n := by
  rw [answer, run_watched, if_pos (Entry.isIn_iff.2 h)]

/-- A pair that is not in progress is answered by the plan, while it is in progress. -/
theorem answer_new {store : Store} {g : Guard} {s : Shape} {n : Node}
    (hfree : store.CustomFree s) (h : ⟨s.id, n.position⟩ ∉ g.inProgress) (o : Options) :
    answer store g s n o =
      (s.plan n o).outcome (replies store (g.enter ⟨s.id, n.position⟩)) := by
  rw [answer, run_watched, if_neg fun hin => h (Entry.isIn_iff.1 hin)]
  have hplain : s.kind.isCustom = false := hfree s .self
  have hisFree : ¬(Plan.scopeOf s n o).isFree := by simp [Plan.scopeOf, hplain]
  obtain ⟨log, hexec⟩ := exec_eq_outcome (fun t ht => hfree.part ht) hisFree
    (fun registry name t hk ht => hfree.target hk ht) (s.plan_confined n o) (fun t ht => ht.elim)
    (g.enter ⟨s.id, n.position⟩) []
  have hrun := exec_settled ⟨g.enter ⟨s.id, n.position⟩, store, []⟩ s n o
  rw [hexec] at hrun
  change (run .direct ⟨g.enter ⟨s.id, n.position⟩, store, []⟩ s n o).1 = _
  rw [← Option.some.inj hrun]

/-- Induction along the calls of a check: each puts one more entry in progress. -/
theorem answer_induction (store : Store) {P : Guard → Shape → Node → Prop}
    (isOpen : ∀ g s n, ⟨s.id, n.position⟩ ∈ g.inProgress → P g s n)
    (isNew : ∀ g s n, ⟨s.id, n.position⟩ ∉ g.inProgress →
      (∀ t ∈ s.kind.parts, ∀ k, Plan.Near n k → P (g.enter ⟨s.id, n.position⟩) t k) →
      (∀ name registry t, s.kind = .reference name registry →
        store.find registry name = .found t → P (g.enter ⟨s.id, n.position⟩).descend t n) →
      P g s n) (g : Guard) (s : Shape) (n : Node) : P g s n := by
  suffices h : ∀ (m : Realm), store.Within m.shapes → ∀ count g s n, s ∈ m.shapes →
      (∀ p ∈ n.positions, p ∈ m.places) → pending (entries m.shapes m.places) g = count →
      P g s n from
    h (realm store s n) (within_realm store s n) _ g s n (mem_realm store s n) (fun p hp => hp) rfl
  intro m hm count
  induction count using Nat.strongRecOn with
  | ind count ih =>
    intro g s n hs hn hcount
    by_cases hin : ⟨s.id, n.position⟩ ∈ g.inProgress
    · exact isOpen g s n hin
    · have hlt : pending (entries m.shapes m.places) (g.enter ⟨s.id, n.position⟩) < count := by
        rw [← hcount]
        apply pending_enter_lt (mem_entries hs (hn _ n.position_mem_positions))
        rw [← Bool.not_eq_true, Entry.isIn_iff]
        exact hin
      apply isNew g s n hin
      · intro t ht k hk
        refine ih _ hlt _ t k (m.closed s hs t ht) ?_ rfl
        intro p hp
        rcases hk with rfl | hk
        · exact hn p hp
        · exact hn p (hk.positions_subset hp)
      · intro name registry t _ ht
        exact ih _ hlt _ t n (hm.of_find ht) hn rfl

end Check

end ShapeCheck
