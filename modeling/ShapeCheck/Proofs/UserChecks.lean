import ShapeCheck.Check.Run
import ShapeCheck.Check.Confined

namespace ShapeCheck

namespace Plan

/-- The plan follows no reference itself; only a reference does so. -/
def NeverFollows : Plan → Prop
  | .done _ => True
  | .call _ _ _ _ next => ∀ outcome, (next outcome).NeverFollows
  | .follow .. => False
  | .find _ _ next => ∀ l, (next l).NeverFollows
  | .test _ _ next => ∀ reason, (next reason).NeverFollows
  | .ask next => ∀ depth isIdle, (next depth isIdle).NeverFollows
  | .report _ next => next.NeverFollows
  | .register _ _ _ next => ∀ e, (next e).NeverFollows

theorem Confined.neverFollows {scope : Scope} {known : Shape → Prop} {plan : Plan}
    (h : plan.Confined scope known) (hn : ∀ registry name, ¬scope.names registry name)
    (hk : ∀ t, ¬known t) : plan.NeverFollows := by
  induction plan with
  | done _ => trivial
  | call _ _ _ _ next ih => exact fun outcome => ih outcome (h.2.2.2.2 outcome)
  | follow t _ _ _ _ => exact hk t h.1
  | find registry name _ _ => exact absurd h.1 (hn registry name)
  | test _ _ next ih => exact fun reason => ih reason (h.2 reason)
  | ask next ih => exact fun depth isIdle => ih depth isIdle (h depth isIdle)
  | report _ _ ih => exact ih h
  | register _ _ _ next ih => exact fun e => ih e (h.2.2 e)

end Plan

/-- What a user's check may do: it reads the guard, and changes it only by calls. -/
abbrev UserPlan := {plan : Plan // plan.NeverFollows}

namespace Shape

theorem plan_neverFollows (s : Shape) (n : Node) (o : Options)
    (h : ∀ name registry, s.kind ≠ .reference name registry) : (s.plan n o).NeverFollows :=
  (s.plan_confined n o).neverFollows (fun registry name => h name registry) fun _ h => h

def planBy (user : Shape → Node → Options → UserPlan) (s : Shape) (n : Node) (o : Options) : Plan :=
  if s.kind.isCustom then (user s n o).1 else s.plan n o

def scripted (s : Shape) (n : Node) (o : Options) : UserPlan :=
  if h : s.kind.isCustom then
    ⟨s.plan n o, s.plan_neverFollows n o fun name registry hk => by simp [hk, Kind.isCustom] at h⟩
  else ⟨.done (.accepted n), trivial⟩

theorem planBy_scripted : planBy scripted = Shape.plan := by
  funext s n o
  unfold planBy scripted
  split <;> rfl

end Shape

namespace Check

def checkBy (plans : Shape → Node → Options → Plan) :
    Nat → Shape → Node → Options → Checking Outcome
  | 0, _, _, _ => fun _ => none
  | fuel + 1, s, n, o => (plans s n o).exec (calls (checkBy plans fuel))

theorem checkBy_plan : checkBy Shape.plan = check := by
  funext fuel
  induction fuel with
  | zero => rfl
  | succ fuel ih =>
    funext s n o
    rw [checkBy, ih, check]

/-- A user's check without any bounds. It gets the means to call other checks and does with the run
as it likes: it may put another guard in place of the one that it was given. -/
abbrev UserCheck := Call → Node → Options → Checking Outcome

/-- Checks with calls at most `fuel` levels deep, where users' checks are what `user` says. -/
def checkWith (user : Shape → UserCheck) : Nat → Shape → Node → Options → Checking Outcome
  | 0, _, _, _ => fun _ => none
  | fuel + 1, s, n, o =>
    if s.kind.isCustom then user s (calls (checkWith user fuel)) n o
    else (s.plan n o).exec (calls (checkWith user fuel))

theorem checkWith_custom {user : Shape → UserCheck} {fuel : Nat} {s : Shape} {n : Node}
    {o : Options} (h : s.kind.isCustom = true) :
    checkWith user (fuel + 1) s n o = user s (calls (checkWith user fuel)) n o :=
  if_pos h

theorem checkWith_plain {user : Shape → UserCheck} {fuel : Nat} {s : Shape} {n : Node}
    {o : Options} (h : s.kind.isCustom = false) :
    checkWith user (fuel + 1) s n o = (s.plan n o).exec (calls (checkWith user fuel)) :=
  if_neg (Bool.eq_false_iff.1 h)

theorem checkWith_plan : checkWith (fun s call n o => (s.plan n o).exec call) = check := by
  funext fuel
  induction fuel with
  | zero => rfl
  | succ fuel ih =>
    funext s n o
    rw [checkWith, ite_self, ih, check]

end Check

end ShapeCheck
