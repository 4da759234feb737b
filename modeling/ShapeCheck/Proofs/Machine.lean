import Mathlib.Logic.Relation
import ShapeCheck.Proofs.UserChecks

namespace ShapeCheck

/-- An open call and what waits for its outcome. -/
inductive Frame
  | direct (next : Outcome → Plan)
  /-- A call under the guard, which has put the entry in progress. -/
  | dispatch (entry : Entry) (next : Outcome → Plan)
  | resolution (next : Outcome → Plan)

namespace Frame

def next : Frame → Outcome → Plan
  | .direct next => next
  | .dispatch _ next => next
  | .resolution next => next

def entry? : Frame → Option Entry
  | .dispatch entry _ => some entry
  | _ => none

def isResolution : Frame → Bool
  | .resolution _ => true
  | _ => false

def close : Frame → Guard → Guard
  | .direct _ => id
  | .dispatch entry _ => (·.leave entry)
  | .resolution _ => .ascend

end Frame

/-- The rest of the plan that is carried out, and the open calls, the innermost first. -/
structure Machine where
  plan : Plan
  run : Run
  frames : List Frame

namespace Machine

def openEntries (m : Machine) : List Entry := m.frames.filterMap Frame.entry?

def openResolutions (m : Machine) : Nat := m.frames.countP Frame.isResolution

def start (via : Via) (s : Shape) (n : Node) (o : Options) (r : Run) : Machine :=
  ⟨.call via s n o .done, r, []⟩

def halted (x : Outcome × Run) : Machine := ⟨.done x.1, x.2, []⟩

section

variable (plans : Shape → Node → Options → Plan)

/-- A call under the guard: a new entry opens a frame, one in progress is accepted at once. -/
def dispatch (s : Shape) (n : Node) (o : Options) (next : Outcome → Plan) (r : Run)
    (frames : List Frame) : Machine :=
  if Entry.isIn ⟨s.id, n.position⟩ r.guard.inProgress then
    ⟨next (.accepted n), r.emit (.reentered s.tag), frames⟩
  else
    ⟨plans s n o, r.mapGuard (·.enter ⟨s.id, n.position⟩),
      .dispatch ⟨s.id, n.position⟩ next :: frames⟩

def step : Machine → Option Machine
  | ⟨.done _, _, []⟩ => none
  | ⟨.done outcome, r, f :: frames⟩ => some ⟨f.next outcome, r.mapGuard f.close, frames⟩
  | ⟨.call .direct s n o next, r, frames⟩ => some ⟨plans s n o, r, .direct next :: frames⟩
  | ⟨.call .watched s n o next, r, frames⟩ => some (dispatch plans s n o next r frames)
  | ⟨.follow t n o next, r, frames⟩ =>
    some (dispatch plans t n o .done (r.mapGuard .descend) (.resolution next :: frames))
  | ⟨.find registry name next, r, frames⟩ => some ⟨next (r.store.find registry name), r, frames⟩
  | ⟨.test refuses n next, r, frames⟩ => some ⟨next (refuses n.value), r, frames⟩
  | ⟨.ask next, r, frames⟩ => some ⟨next r.guard.referenceDepth r.guard.isIdle, r, frames⟩
  | ⟨.report event next, r, frames⟩ => some ⟨next, r.emit event, frames⟩
  | ⟨.register registry name s next, r, frames⟩ =>
    let (e, r) := r.register registry name s
    some ⟨next e, r, frames⟩

def Steps : Machine → Machine → Prop := Relation.ReflTransGen fun m m' => step plans m = some m'

end

variable {plans : Shape → Node → Options → Plan}

theorem Steps.keeps (P : Machine → Prop) {m m' : Machine} (h : Steps plans m m')
    (hstep : ∀ {k k'}, step plans k = some k' → P k → P k') (hm : P m) : P m' := by
  induction h with
  | refl => exact hm
  | tail _ hs ih => exact hstep hs ih

theorem step_halted (x : Outcome × Run) : step plans (halted x) = none := rfl

/-- A step does three things to the run at most: it changes the guard, and it may report an event; or
it registers a shape. -/
theorem run_step {m m' : Machine} (hs : step plans m = some m') :
    (∃ f, m'.run = m.run.mapGuard f) ∨ (∃ f event, m'.run = (m.run.mapGuard f).emit event) ∨
      ∃ registry name s, m'.run = (m.run.register registry name s).2 := by
  have hdispatch : ∀ s n o next (r : Run) frames,
      (∃ f, (dispatch plans s n o next r frames).run = r.mapGuard f) ∨
        ∃ f event, (dispatch plans s n o next r frames).run = (r.mapGuard f).emit event := by
    intro s n o next r frames
    unfold dispatch
    split
    · exact Or.inr ⟨id, _, rfl⟩
    · exact Or.inl ⟨(·.enter ⟨s.id, n.position⟩), rfl⟩
  obtain ⟨plan, r, frames⟩ := m
  cases plan with
  | done outcome =>
    cases frames with
    | nil => cases hs
    | cons f fs => cases hs; exact Or.inl ⟨f.close, rfl⟩
  | call via s n o next =>
    cases via with
    | direct => cases hs; exact Or.inl ⟨id, rfl⟩
    | watched =>
      cases hs
      exact (hdispatch s n o next r frames).imp_right Or.inl
  | follow t n o next =>
    cases hs
    rcases hdispatch t n o .done (r.mapGuard .descend) (.resolution next :: frames) with
      ⟨f, h⟩ | ⟨f, event, h⟩
    · exact Or.inl ⟨f ∘ .descend, h⟩
    · exact Or.inr (Or.inl ⟨f ∘ .descend, event, h⟩)
  | report event next => cases hs; exact Or.inr (Or.inl ⟨id, event, rfl⟩)
  | register registry name s next => cases hs; exact Or.inr (Or.inr ⟨registry, name, s, rfl⟩)
  | _ => cases hs; exact Or.inl ⟨id, rfl⟩

theorem Steps.head {m k m' : Machine} (h : step plans m = some k) (hk : Steps plans k m') :
    Steps plans m m' :=
  Relation.ReflTransGen.head h hk

/-- There is one way for the machine to go, so it goes to where it stops. -/
theorem steps_to_halted {m k : Machine} {x : Outcome × Run} (hx : Steps plans m (halted x))
    (hk : Steps plans m k) : Steps plans k (halted x) := by
  have hunique : Relator.RightUnique fun m m' => step plans m = some m' :=
    fun _ _ _ h1 h2 => Option.some.inj (h1.symm.trans h2)
  rcases Relation.ReflTransGen.total_of_right_unique hunique hk hx with h | h
  · exact h
  · rcases Relation.ReflTransGen.cases_head h with rfl | ⟨l, hl, _⟩
    · exact .refl
    · rw [step_halted] at hl
      cases hl

theorem steps_watched {fuel : Nat}
    (hexec : ∀ k < fuel, ∀ {plan : Plan} {r : Run} {x : Outcome × Run} (fs : List Frame),
      plan.exec (Check.calls (Check.checkBy plans k)) r = some x →
        Steps plans ⟨plan, r, fs⟩ ⟨.done x.1, x.2, fs⟩)
    {s : Shape} {n : Node} {o : Options} {r : Run} {x : Outcome × Run}
    (h : Check.calls (Check.checkBy plans fuel) .watched s n o r = some x)
    (next : Outcome → Plan) (fs : List Frame) :
    Steps plans (dispatch plans s n o next r fs) ⟨next x.1, x.2, fs⟩ := by
  simp only [Check.calls, Check.guarded] at h
  unfold dispatch
  split at h
  · rename_i hin
    rw [if_pos hin]
    cases h
    exact .refl
  · rename_i hin
    rw [if_neg hin]
    obtain ⟨y, hy, hx⟩ := Option.bind_eq_some_iff.1 h
    cases hx
    cases fuel with
    | zero => cases hy
    | succ k => exact (hexec k k.lt_succ_self _ hy).tail rfl

theorem steps_exec (fuel : Nat) {plan : Plan} {r : Run} {x : Outcome × Run} (fs : List Frame)
    (h : plan.exec (Check.calls (Check.checkBy plans fuel)) r = some x) :
    Steps plans ⟨plan, r, fs⟩ ⟨.done x.1, x.2, fs⟩ := by
  -- The outer induction is for the plans of calls, the inner one for the rest of this plan.
  induction fuel using Nat.strongRecOn generalizing plan r x fs with
  | ind fuel hfuel =>
    induction plan generalizing r x with
    | done _ =>
      cases h
      exact .refl
    | call via s n o next ih =>
      obtain ⟨y, hy, hx⟩ := Option.bind_eq_some_iff.1 h
      cases via with
      | watched => exact .head rfl ((steps_watched hfuel hy next fs).trans (ih _ hx))
      | direct =>
        cases fuel with
        | zero => cases hy
        | succ k =>
          have hcall := hfuel k k.lt_succ_self (.direct next :: fs) hy
          exact .head rfl ((hcall.tail rfl).trans (ih _ hx))
    | follow t n o next ih =>
      obtain ⟨y, hy, hx⟩ := Option.bind_eq_some_iff.1 h
      have hcall := steps_watched hfuel hy .done (.resolution next :: fs)
      exact .head rfl ((hcall.tail rfl).trans (ih _ hx))
    | find registry name next ih => exact .head rfl (ih _ h)
    | test refuses n next ih => exact .head rfl (ih _ h)
    | ask next ih => exact .head rfl (ih _ _ h)
    | report event next ih => exact .head rfl (ih h)
    | register registry name s next ih => exact .head rfl (ih _ h)

/-- When a call returns, the machine has come to its outcome and state. -/
theorem steps_of_calls {fuel : Nat} {via : Via} {s : Shape} {n : Node} {o : Options} {r : Run}
    {x : Outcome × Run} (h : Check.calls (Check.checkBy plans fuel) via s n o r = some x) :
    Steps plans (start via s n o r) (halted x) :=
  steps_exec fuel [] (Option.bind_eq_some_iff.2 ⟨x, h, rfl⟩)

end Machine

end ShapeCheck
