import ShapeCheck.Proofs.Machine
import ShapeCheck.Proofs.Reach

namespace ShapeCheck

namespace Plan

/-- With so many references open, the plan follows another one only below the limit. -/
def Heeds (depth : Nat) : Plan → Prop
  | .done _ => True
  | .call _ _ _ _ next => ∀ outcome, (next outcome).Heeds depth
  | .follow _ _ options next =>
    depth < options.depthLimit ∧ ∀ outcome, (next outcome).Heeds depth
  | .find _ _ next => ∀ l, (next l).Heeds depth
  | .test _ _ next => ∀ reason, (next reason).Heeds depth
  | .ask next => ∀ isIdle, (next depth isIdle).Heeds depth
  | .report _ next => next.Heeds depth
  | .register _ _ _ next => ∀ e, (next e).Heeds depth

theorem NeverFollows.heeds {plan : Plan} (h : plan.NeverFollows) (depth : Nat) :
    plan.Heeds depth := by
  induction plan with
  | done _ => trivial
  | call _ _ _ _ next ih => exact fun outcome => ih outcome (h outcome)
  | follow _ _ _ _ => exact h.elim
  | find _ _ next ih => exact fun l => ih l (h l)
  | test _ _ next ih => exact fun reason => ih reason (h reason)
  | ask next ih => exact fun isIdle => ih depth isIdle (h depth isIdle)
  | report _ _ ih => exact ih h
  | register _ _ _ next ih => exact fun e => ih e (h e)

theorem heeds_resolve (o : Options) (n : Node) (name : String) (registry : RegistryId)
    (depth : Nat) : (resolve o n name registry).Heeds depth := by
  intro isIdle
  dsimp only
  by_cases hlimit : o.depthLimit ≤ depth
  · rw [if_pos hlimit]
    trivial
  · rw [if_neg hlimit]
    intro l
    cases l with
    | found t => exact ⟨by omega, fun _ => trivial⟩
    | _ => trivial

end Plan

theorem Shape.plan_heeds (s : Shape) (n : Node) (o : Options) (depth : Nat) :
    (s.plan n o).Heeds depth := by
  cases hk : s.kind with
  | reference name registry =>
    have hplan : s.plan n o = .resolve o n name registry := by simp [Shape.plan, hk]
    rw [hplan]
    exact Plan.heeds_resolve o n name registry depth
  | _ => exact (s.plan_neverFollows n o (by simp [hk])).heeds depth

theorem Shape.planBy_heeds (user : Shape → Node → Options → UserPlan) (s : Shape) (n : Node)
    (o : Options) (depth : Nat) : (s.planBy user n o).Heeds depth := by
  unfold Shape.planBy
  split
  · exact (user s n o).2.heeds depth
  · exact s.plan_heeds n o depth

namespace Machine

variable {plans : Shape → Node → Options → Plan}

/-- The guard holds what `g` holds and what the open calls account for. -/
structure Disciplined (g : Guard) (m : Machine) : Prop where
  inProgress : m.run.guard.inProgress = m.openEntries ++ g.inProgress
  nodup : m.openEntries.Nodup
  new : ∀ e ∈ m.openEntries, e ∉ g.inProgress
  depth : m.run.guard.referenceDepth = m.openResolutions + g.referenceDepth

theorem disciplined_start (via : Via) (s : Shape) (n : Node) (o : Options) (r : Run) :
    Disciplined r.guard (start via s n o r) :=
  ⟨rfl, List.nodup_nil, by simp [start, openEntries], by simp [start, openResolutions]⟩

theorem Disciplined.congr {g : Guard} {m m' : Machine} (h : Disciplined g m)
    (hg : m'.run.guard = m.run.guard) (hf : m'.frames = m.frames) : Disciplined g m' := by
  obtain ⟨hp, hd, hn, hr⟩ := h
  simp only [openEntries, openResolutions] at hp hd hn hr
  constructor <;> simp only [openEntries, openResolutions, hg, hf] <;> assumption

theorem Disciplined.dispatch {g : Guard} {plan : Plan} {r : Run} {frames : List Frame}
    (h : Disciplined g ⟨plan, r, frames⟩) (s : Shape) (n : Node) (o : Options)
    (next : Outcome → Plan) : Disciplined g (dispatch plans s n o next r frames) := by
  unfold Machine.dispatch
  split
  · exact h.congr rfl rfl
  · rename_i hin
    have hnew : (⟨s.id, n.position⟩ : Entry) ∉ r.guard.inProgress :=
      fun hm => hin (Entry.isIn_iff.2 hm)
    rw [h.inProgress, List.mem_append, not_or] at hnew
    constructor
    · show _ :: r.guard.inProgress = _
      rw [h.inProgress]
      rfl
    · exact List.nodup_cons.2 ⟨hnew.1, h.nodup⟩
    · intro e he
      rcases List.mem_cons.1 he with rfl | he
      · exact hnew.2
      · exact h.new e he
    · exact h.depth

theorem Disciplined.direct {g : Guard} {plan : Plan} {r : Run} {frames : List Frame}
    (h : Disciplined g ⟨plan, r, frames⟩) (plan' : Plan) (next : Outcome → Plan) :
    Disciplined g ⟨plan', r, .direct next :: frames⟩ :=
  ⟨h.inProgress, h.nodup, h.new, h.depth⟩

theorem Disciplined.resolution {g : Guard} {plan : Plan} {r : Run} {frames : List Frame}
    (h : Disciplined g ⟨plan, r, frames⟩) (next : Outcome → Plan) :
    Disciplined g ⟨plan, r.mapGuard .descend, .resolution next :: frames⟩ := by
  refine ⟨h.inProgress, h.nodup, h.new, ?_⟩
  have hd := h.depth
  simp only [openResolutions, Run.mapGuard, Guard.descend, List.countP_cons,
    Frame.isResolution] at hd ⊢
  simp only [if_true]
  omega

theorem Disciplined.close {g : Guard} {plan : Plan} {r : Run} {f : Frame} {frames : List Frame}
    (h : Disciplined g ⟨plan, r, f :: frames⟩) (plan' : Plan) :
    Disciplined g ⟨plan', r.mapGuard f.close, frames⟩ := by
  obtain ⟨hp, hd, hn, hr⟩ := h
  cases f with
  | direct next => exact ⟨hp, hd, hn, hr⟩
  | dispatch entry next =>
    have hd' := List.nodup_cons.1 hd
    refine ⟨?_, hd'.2, fun e he => hn e (List.mem_cons_of_mem _ he), hr⟩
    show r.guard.inProgress.erase entry = _
    have hp' : r.guard.inProgress = entry :: (frames.filterMap Frame.entry? ++ g.inProgress) := hp
    rw [hp', List.erase_cons_head]
    rfl
  | resolution next =>
    refine ⟨hp, hd, hn, ?_⟩
    simp only [openResolutions, Run.mapGuard, Frame.close, Guard.ascend, List.countP_cons,
      Frame.isResolution, if_true] at hr ⊢
    omega

theorem disciplined_step {g : Guard} {m m' : Machine} (hs : step plans m = some m')
    (h : Disciplined g m) : Disciplined g m' := by
  obtain ⟨plan, r, frames⟩ := m
  cases plan with
  | done outcome =>
    cases frames with
    | nil => cases hs
    | cons f frames =>
      cases hs
      exact h.close _
  | call via s n o next =>
    cases via with
    | watched =>
      cases hs
      exact h.dispatch s n o next
    | direct =>
      cases hs
      exact h.direct _ next
  | follow t n o next =>
    cases hs
    exact (h.resolution next).dispatch t n o .done
  | register registry name s next =>
    cases hs
    exact h.congr (r.guard_register registry name s) rfl
  | _ =>
    cases hs
    exact h.congr rfl rfl

/-- Whoever waits for an outcome will heed the limit too, at the depth that is left then. -/
def FramesHeed (depth : Nat) : List Frame → Prop
  | [] => True
  | f :: frames =>
    (∀ outcome, (f.next outcome).Heeds (frames.countP Frame.isResolution + depth)) ∧
      FramesHeed depth frames

structure Heeding (g : Guard) (m : Machine) : Prop where
  plan : m.plan.Heeds (m.openResolutions + g.referenceDepth)
  frames : FramesHeed g.referenceDepth m.frames

theorem Heeding.dispatch {g : Guard} {r : Run} {frames : List Frame}
    (hplans : ∀ s n o depth, (plans s n o).Heeds depth) {next : Outcome → Plan}
    (hnext : ∀ outcome,
      (next outcome).Heeds (frames.countP Frame.isResolution + g.referenceDepth))
    (hframes : FramesHeed g.referenceDepth frames) (s : Shape) (n : Node) (o : Options) :
    Heeding g (dispatch plans s n o next r frames) := by
  unfold Machine.dispatch
  split
  · exact ⟨hnext _, hframes⟩
  · exact ⟨hplans s n o _, hnext, hframes⟩

theorem heeding_step {g : Guard} {m m' : Machine}
    (hplans : ∀ s n o depth, (plans s n o).Heeds depth) (hs : step plans m = some m')
    (hd : Disciplined g m) (h : Heeding g m) : Heeding g m' := by
  obtain ⟨plan, r, frames⟩ := m
  obtain ⟨hplan, hframes⟩ := h
  cases plan with
  | done outcome =>
    cases frames with
    | nil => cases hs
    | cons f frames =>
      cases hs
      exact ⟨hframes.1 outcome, hframes.2⟩
  | call via s n o next =>
    cases via with
    | watched =>
      cases hs
      exact Heeding.dispatch hplans hplan hframes s n o
    | direct =>
      cases hs
      exact ⟨hplans s n o _, hplan, hframes⟩
  | follow t n o next =>
    cases hs
    have hframes' : FramesHeed g.referenceDepth (.resolution next :: frames) := ⟨hplan.2, hframes⟩
    refine Heeding.dispatch hplans ?_ hframes' t n o
    exact fun _ => trivial
  | ask next =>
    cases hs
    refine ⟨?_, hframes⟩
    -- The plan heeds the depth that it is told, and it is told the true one.
    have hdepth : r.guard.referenceDepth = _ := hd.depth
    rw [hdepth]
    exact hplan _
  | find _ _ next =>
    cases hs
    exact ⟨hplan _, hframes⟩
  | test _ _ next =>
    cases hs
    exact ⟨hplan _, hframes⟩
  | report _ next =>
    cases hs
    exact ⟨hplan, hframes⟩
  | register _ _ _ next =>
    cases hs
    exact ⟨hplan _, hframes⟩

theorem disciplined_of_steps {r : Run} {via : Via} {s : Shape} {n : Node} {o : Options}
    {m : Machine} (h : Steps plans (start via s n o r) m) : Disciplined r.guard m :=
  Steps.keeps (Disciplined r.guard) h disciplined_step (disciplined_start via s n o r)

theorem heeding_of_steps {r : Run} {via : Via} {s : Shape} {n : Node} {o : Options} {m : Machine}
    (hplans : ∀ s n o depth, (plans s n o).Heeds depth)
    (h : Steps plans (start via s n o r) m) : Heeding r.guard m := by
  have hstart : Heeding r.guard (start via s n o r) := ⟨fun _ => trivial, trivial⟩
  have hboth := Steps.keeps (fun k => Disciplined r.guard k ∧ Heeding r.guard k) h
    (fun hs hk => ⟨disciplined_step hs hk.1, heeding_step hplans hs hk.1 hk.2⟩)
    ⟨disciplined_start via s n o r, hstart⟩
  exact hboth.2

theorem Disciplined.guard_eq {g : Guard} {m : Machine} (h : Disciplined g m)
    (hf : m.frames = []) : m.run.guard = g := by
  ext1
  · simpa [openEntries, hf] using h.inProgress
  · simpa [openResolutions, hf] using h.depth

theorem guard_of_calls {fuel : Nat} {via : Via} {s : Shape} {n : Node} {o : Options} {r : Run}
    {x : Outcome × Run} (h : Check.calls (Check.checkBy plans fuel) via s n o r = some x) :
    x.2.guard = r.guard :=
  (disciplined_of_steps (steps_of_calls h)).guard_eq rfl

end Machine

namespace Check

/-- Calls under the guard one after another, each with the guard that `prepare` makes of the guard
that the one before has left. -/
def inTurn (call : Call) (prepare : Guard → Guard) :
    List (Shape × Node × Options) → Checking (List Outcome)
  | [], r => some ([], r)
  | (s, n, o) :: rest, r => do
    let (outcome, r) ← call .watched s n o (r.mapGuard prepare)
    let (outcomes, r) ← inTurn call prepare rest r
    return (outcome :: outcomes, r)

theorem inTurn_id {call : Call}
    (h : ∀ s n o r x, call .watched s n o r = some x → x.2.guard = r.guard)
    (requests : List (Shape × Node × Options)) (r : Run) :
    inTurn call id requests r = inTurn call (fun _ => r.guard) requests r := by
  induction requests generalizing r with
  | nil => rfl
  | cons request rest ih =>
    obtain ⟨s, n, o⟩ := request
    unfold inTurn
    show (call .watched s n o r).bind _ = (call .watched s n o r).bind _
    cases hx : call .watched s n o r with
    | none => rfl
    | some x =>
      simp only [Option.bind_some]
      rw [ih, h s n o r x hx]

open Machine (Steps start halted)

/-- The guard works as a stack, whatever plans users' checks have. A call that returns gives it back
as it was. In a run from a fresh guard, what is in progress are the entries of the open calls, each
once, and the depth is the number of references being resolved; so the depth passes no limit when
it goes up, and there is something to take away when it goes down. Calls that share a guard have
the results that they have with the first one's guard each. The checks of the library are those in
which users' checks are scripts. -/
theorem guard_discipline (user : Shape → Node → Options → UserPlan) :
    (∀ fuel via s n o r x, calls (checkBy (Shape.planBy user) fuel) via s n o r = some x →
      x.2.guard = r.guard ∧ Steps (Shape.planBy user) (start via s n o r) (halted x)) ∧
    (∀ via s n o store log m,
      Steps (Shape.planBy user) (start via s n o ⟨.fresh, store, log⟩) m →
      m.run.guard.inProgress = m.openEntries ∧ m.openEntries.Nodup ∧
      m.run.guard.referenceDepth = m.openResolutions ∧
      (∀ t k o' next, m.plan = .follow t k o' next →
        m.run.guard.referenceDepth + 1 ≤ o'.depthLimit) ∧
      (∀ outcome next frames, m.plan = .done outcome → m.frames = .resolution next :: frames →
        1 ≤ m.run.guard.referenceDepth)) ∧
    (∀ fuel requests r, inTurn (calls (checkBy (Shape.planBy user) fuel)) id requests r =
      inTurn (calls (checkBy (Shape.planBy user) fuel)) (fun _ => r.guard) requests r) ∧
    checkBy (Shape.planBy Shape.scripted) = check := by
  refine ⟨?_, ?_, ?_, ?_⟩
  · intro fuel via s n o r x hx
    exact ⟨Machine.guard_of_calls hx, Machine.steps_of_calls hx⟩
  · intro via s n o store log m hm
    have hd := Machine.disciplined_of_steps hm
    have hh := Machine.heeding_of_steps (Shape.planBy_heeds user) hm
    have hin : m.run.guard.inProgress = m.openEntries := by simpa [Guard.fresh] using hd.inProgress
    have hdepth : m.run.guard.referenceDepth = m.openResolutions := by
      simpa [Guard.fresh] using hd.depth
    refine ⟨hin, hd.nodup, hdepth, ?_, ?_⟩
    · intro t k o' next hplan
      have hheed := hh.plan
      rw [hplan] at hheed
      have hlt : m.openResolutions < o'.depthLimit := by simpa [Guard.fresh] using hheed.1
      omega
    · intro outcome next frames _ hframes
      rw [hdepth, Machine.openResolutions, hframes, List.countP_cons]
      exact Nat.le_add_left _ _
  · intro fuel requests r
    exact inTurn_id (fun s n o r x hx => Machine.guard_of_calls hx) requests r
  · rw [Shape.planBy_scripted, checkBy_plan]

theorem guard_discipline_tree :
    ∃ m, Steps Shape.plan
        (start .watched .tree (.root .null) ⟨true, 1⟩ ⟨.fresh, .forest, []⟩) m ∧
      m.run.guard = ⟨[⟨0, .root⟩, ⟨3, .root⟩], 1⟩ ∧
      m.run.guard.inProgress = m.openEntries ∧ m.run.guard.referenceDepth = m.openResolutions := by
  obtain ⟨-, hopen, -⟩ := guard_discipline Shape.scripted
  rw [Shape.planBy_scripted] at hopen
  have hsteps : ∃ m, Steps Shape.plan
      (start .watched .tree (.root .null) ⟨true, 1⟩ ⟨.fresh, .forest, []⟩) m ∧
      m.run.guard = ⟨[⟨0, .root⟩, ⟨3, .root⟩], 1⟩ :=
    ⟨_, .head rfl (.head rfl (.head rfl (.head rfl (.head rfl .refl)))), rfl⟩
  obtain ⟨m, hm, hguard⟩ := hsteps
  obtain ⟨hin, -, hdepth, -⟩ := hopen _ _ _ _ _ _ m hm
  exact ⟨m, hm, hguard, hin, hdepth⟩

end Check

end ShapeCheck
