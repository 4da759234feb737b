import ShapeCheck.Proofs.Locality

namespace ShapeCheck

open Check (answer replies)
open Plan (ComesTo)

namespace Machine

def meets? (m : Machine) : Option Entry :=
  match m.plan with
  | .call .watched s n _ _ => some ⟨s.id, n.position⟩
  | .follow t n _ _ => some ⟨t.id, n.position⟩
  | _ => none

variable {store : Store} {g : Guard} {s t : Shape} {n : Node} {o : Options} {m : Machine}

theorem steps_dispatch (s : Shape) (n : Node) (o : Options) (next : Outcome → Plan) (r : Run)
    (fs : List Frame) : Steps Shape.plan (dispatch Shape.plan s n o next r fs)
      ⟨next (Check.run .watched r s n o).1, (Check.run .watched r s n o).2, fs⟩ := by
  have hcalls := Check.calls_eq_run .watched r s n o
  rw [← Check.checkBy_plan] at hcalls
  exact steps_watched (fun k _ _ _ _ fs => steps_exec k fs) hcalls next fs

theorem steps_enter (h : ⟨s.id, n.position⟩ ∉ g.inProgress) (o : Options) (next : Outcome → Plan)
    (log : List Event) (fs : List Frame) :
    Steps Shape.plan ⟨.call .watched s n o next, ⟨g, store, log⟩, fs⟩
      ⟨s.plan n o, ⟨g.enter ⟨s.id, n.position⟩, store, log⟩,
        .dispatch ⟨s.id, n.position⟩ next :: fs⟩ := by
  have hstep : step Shape.plan ⟨.call .watched s n o next, ⟨g, store, log⟩, fs⟩ =
      some ⟨s.plan n o, ⟨g.enter ⟨s.id, n.position⟩, store, log⟩,
        .dispatch ⟨s.id, n.position⟩ next :: fs⟩ := by
    rw [step, dispatch, if_neg fun hin => h (Entry.isIn_iff.1 hin)]
    rfl
  exact .head hstep .refl

theorem steps_cases {plans : Shape → Node → Options → Plan} {m k m' : Machine}
    (hk : step plans m = some k) (h : Steps plans m m') : m' = m ∨ Steps plans k m' := by
  rcases Relation.ReflTransGen.cases_head h with h | ⟨l, hl, hm⟩
  · exact Or.inl h.symm
  · cases hk.symm.trans hl
    exact Or.inr hm

theorem steps_follow {next : Outcome → Plan} {r : Run} {fs : List Frame}
    (h : Steps Shape.plan
      ⟨.call .watched t n o .done, r.mapGuard .descend, .resolution next :: fs⟩ m) :
    m = ⟨.call .watched t n o .done, r.mapGuard .descend, .resolution next :: fs⟩ ∨
      Steps Shape.plan ⟨.follow t n o next, r, fs⟩ m :=
  (steps_cases rfl h).imp_right (.head rfl)

theorem steps_of_course (hfree : store.CustomFree s) {q : Plan}
    (h : ComesTo (replies store g) (s.plan n o) q) (log : List Event) (fs : List Frame) :
    ∃ log', Steps Shape.plan ⟨s.plan n o, ⟨g, store, log⟩, fs⟩ ⟨q, ⟨g, store, log'⟩, fs⟩ := by
  have hplain : s.kind.isCustom = false := hfree s .self
  induction h with
  | refl => exact ⟨log, .refl⟩
  | @tail p q hp hstep ih =>
    obtain ⟨log', hsteps⟩ := ih
    cases p with
    | done _ => cases hstep
    | call via t k o' next =>
      obtain ⟨rfl, -, ht, -⟩ := Shape.call_of_course hplain hp
      obtain ⟨log'', hrun⟩ := Check.run_eq_answer (hfree.part ht) g log' k o'
      have hcall := steps_dispatch t k o' next ⟨g, store, log'⟩ fs
      rw [hrun] at hcall
      cases hstep
      exact ⟨log'', hsteps.trans (.head rfl hcall)⟩
    | follow t k o' next =>
      obtain ⟨-, -, name, registry, hk, ht⟩ := Shape.follow_of_course hplain hp
      obtain ⟨log'', hrun⟩ := Check.run_eq_answer (hfree.target hk ht) g.descend log' k o'
      have hcall := steps_dispatch t k o' .done ⟨g.descend, store, log'⟩ (.resolution next :: fs)
      rw [hrun] at hcall
      cases hstep
      exact ⟨log'', hsteps.trans (.head rfl (hcall.tail rfl))⟩
    | find registry name next => cases hstep; exact ⟨log', hsteps.tail rfl⟩
    | test refuses k next => cases hstep; exact ⟨log', hsteps.tail rfl⟩
    | ask next => cases hstep; exact ⟨log', hsteps.tail rfl⟩
    | report event next => cases hstep; exact ⟨event :: log', hsteps.tail rfl⟩
    | register _ _ _ _ => exact absurd hp (Shape.register_not_of_course hplain)

/-- Past a new pair the machine comes to whatever lies on the course of the check. -/
theorem steps_of_call (hfree : store.CustomFree s) (hnew : ⟨s.id, n.position⟩ ∉ g.inProgress)
    {q : Plan} (h : ComesTo (replies store (g.enter ⟨s.id, n.position⟩)) (s.plan n o) q)
    (next : Outcome → Plan) (log : List Event) (fs : List Frame) :
    ∃ log', Steps Shape.plan ⟨.call .watched s n o next, ⟨g, store, log⟩, fs⟩
      ⟨q, ⟨g.enter ⟨s.id, n.position⟩, store, log'⟩, .dispatch ⟨s.id, n.position⟩ next :: fs⟩ := by
  obtain ⟨log', hsteps⟩ := steps_of_course hfree h log (.dispatch ⟨s.id, n.position⟩ next :: fs)
  exact ⟨log', (steps_enter hnew o next log fs).trans hsteps⟩

/-- The machine meets every pair that its check meets. -/
theorem steps_of_meets {e : Entry} (h : Check.Meets store o g s n e) (hfree : store.CustomFree s)
    (next : Outcome → Plan) (log : List Event) (fs : List Frame) :
    ∃ m, Steps Shape.plan ⟨.call .watched s n o next, ⟨g, store, log⟩, fs⟩ m ∧
      m.meets? = some e := by
  induction h generalizing next log fs with
  | self => exact ⟨_, .refl, rfl⟩
  | @call g s t n k next' e hnew hcourse _ ih =>
    have hplain : s.kind.isCustom = false := hfree s .self
    obtain ⟨-, -, ht, -⟩ := Shape.call_of_course hplain hcourse
    obtain ⟨log', hsteps⟩ := steps_of_call hfree hnew hcourse next log fs
    obtain ⟨m, hm, hmeets⟩ := ih (hfree.part ht) next' log' _
    exact ⟨m, hsteps.trans hm, hmeets⟩
  | @follow g s t n next' e hnew hcourse _ ih =>
    have hplain : s.kind.isCustom = false := hfree s .self
    obtain ⟨-, -, name, registry, hk, ht⟩ := Shape.follow_of_course hplain hcourse
    obtain ⟨log', hsteps⟩ := steps_of_call hfree hnew hcourse next log fs
    obtain ⟨m, hm, hmeets⟩ := ih (hfree.target hk ht) .done log'
      (.resolution next' :: .dispatch ⟨s.id, n.position⟩ next :: fs)
    rcases steps_follow (r := ⟨g.enter ⟨s.id, n.position⟩, store, log'⟩) hm with rfl | hm
    · exact ⟨_, hsteps, hmeets⟩
    · exact ⟨m, hsteps.trans hm, hmeets⟩

/-- The plan, the guard and the open calls fit together: each open call is on its course, and what
waits for it will go on with its answer. Last comes the plan with which the machine has started. -/
def OnCourse (store : Store) (shape : Shape) (o : Options) (base : Plan) :
    List Frame → Guard → Plan → Prop
  | [], g, plan => ComesTo (replies store g) base plan
  | .dispatch e next :: fs, g, plan => ∃ s n g₀, store.Reaches shape s ∧ e = ⟨s.id, n.position⟩ ∧
      e ∉ g₀.inProgress ∧ g = g₀.enter e ∧ ComesTo (replies store g) (s.plan n o) plan ∧
      OnCourse store shape o base fs g₀ (next (answer store g₀ s n o))
  | .resolution next :: fs, g, plan => ∃ outcome g₀, g = g₀.descend ∧ plan = .done outcome ∧
      OnCourse store shape o base fs g₀ (next outcome)
  | .direct _ :: _, _, _ => False

variable {shape : Shape} {base : Plan}

theorem OnCourse.advance {fs : List Frame} {plan plan' : Plan}
    (h : OnCourse store shape o base fs g plan)
    (hstep : plan.advance (replies store g) = some plan') :
    OnCourse store shape o base fs g plan' := by
  cases fs with
  | nil => exact h.tail hstep
  | cons f fs =>
    cases f with
    | direct _ => exact h.elim
    | dispatch e next =>
      obtain ⟨s, n, g₀, hs, he, hnew, hg, hcourse, hrest⟩ := h
      exact ⟨s, n, g₀, hs, he, hnew, hg, hcourse.tail hstep, hrest⟩
    | resolution next =>
      obtain ⟨outcome, g₀, hg, rfl, hrest⟩ := h
      cases hstep

theorem OnCourse.dispatch {fs : List Frame} {r : Run} {next : Outcome → Plan}
    (hs : store.Reaches shape s)
    (h : OnCourse store shape o base fs r.guard (next (answer store r.guard s n o))) :
    OnCourse store shape o base (dispatch Shape.plan s n o next r fs).frames
      (dispatch Shape.plan s n o next r fs).run.guard (dispatch Shape.plan s n o next r fs).plan := by
  unfold Machine.dispatch
  split
  · rename_i hin
    rw [Check.answer_open (Entry.isIn_iff.1 hin)] at h
    exact h
  · rename_i hin
    have hnew : ⟨s.id, n.position⟩ ∉ r.guard.inProgress := fun hm => hin (Entry.isIn_iff.2 hm)
    exact ⟨s, n, r.guard, hs, rfl, hnew, rfl, .refl, h⟩

theorem onCourse_step (hfree : store.CustomFree shape) {m m' : Machine}
    (hs : step Shape.plan m = some m') (hwithin : Within (store.plainScope shape n o) m)
    (hstore : m.run.store = store) (h : OnCourse store shape o base m.frames m.run.guard m.plan) :
    OnCourse store shape o base m'.frames m'.run.guard m'.plan := by
  obtain ⟨plan, r, frames⟩ := m
  change OnCourse store shape o base frames r.guard plan at h
  cases plan with
  | done outcome =>
    cases frames with
    | nil => cases hs
    | cons f fs =>
      cases hs
      cases f with
      | direct _ => exact h.elim
      | dispatch e next =>
        obtain ⟨s, n, g₀, hs, rfl, hnew, hg, hcourse, hrest⟩ := h
        -- What a call returns when its plan is done is its answer.
        have hanswer : answer store g₀ s n o = outcome := by
          rw [Check.answer_new (hfree.of_reaches hs) hnew, ← hg]
          exact hcourse.outcome_eq.symm
        rw [hanswer] at hrest
        change OnCourse store shape o base fs (r.guard.leave _) (next outcome)
        rwa [hg, Guard.leave_enter]
      | resolution next =>
        obtain ⟨_, g₀, hg, heq, hrest⟩ := h
        cases heq
        change OnCourse store shape o base fs r.guard.ascend (next outcome)
        rwa [hg, Guard.ascend_descend]
  | call via s n o' next =>
    obtain ⟨hs', _, ho, hvia, _⟩ := hwithin.plan
    cases ho
    cases via with
    | direct => exact (hvia rfl).elim
    | watched =>
      cases hs
      exact OnCourse.dispatch hs' (h.advance rfl)
  | follow t n o' next =>
    obtain ⟨ht, _, ho, _⟩ := hwithin.plan
    cases ho
    cases hs
    have hrest : OnCourse store shape o base (.resolution next :: frames) r.guard.descend
        (.done (answer store r.guard.descend t n o)) := ⟨_, r.guard, rfl, rfl, h.advance rfl⟩
    exact OnCourse.dispatch (r := r.mapGuard .descend) ht hrest
  | find registry name next =>
    cases hs
    have hfind : r.store = store := hstore
    change OnCourse store shape o base frames r.guard (next (r.store.find registry name))
    rw [hfind]
    exact h.advance rfl
  | test refuses n next => cases hs; exact h.advance rfl
  | ask next => cases hs; exact h.advance rfl
  | report event next => cases hs; exact h.advance rfl
  | register _ _ _ _ => exact hwithin.plan.1.elim

theorem onCourse_of_steps {r : Run} (hfree : r.store.CustomFree s)
    (h : Steps Shape.plan (start .watched s n o r) m) :
    OnCourse r.store s o (.call .watched s n o .done) m.frames m.run.guard m.plan := by
  induction h with
  | refl => exact .refl
  | tail hk hstep ih =>
    obtain ⟨hwithin, hstore⟩ := plain_of_steps hfree rfl hk
    exact onCourse_step hfree hstep hwithin hstore ih

end Machine

end ShapeCheck
