import Mathlib.Data.Option.Basic
import ShapeCheck.Proofs.Acceptance

namespace ShapeCheck

namespace Plan

/-- Plans that differ in their options alone, and make no use of these where they differ. -/
inductive Twin (o o' : Options) : Plan → Plan → Prop
  | done (outcome : Outcome) : Twin o o' (.done outcome) (.done outcome)
  | call (s : Shape) (n : Node) {next next' : Outcome → Plan}
      (h : ∀ outcome, Twin o o' (next outcome) (next' outcome)) :
      Twin o o' (.call .watched s n o next) (.call .watched s n o' next')
  | follow (t : Shape) (n : Node) {next next' : Outcome → Plan}
      (h : ∀ outcome, Twin o o' (next outcome) (next' outcome)) :
      Twin o o' (.follow t n o next) (.follow t n o' next')
  | find (registry : RegistryId) (name : String) {next next' : Lookup → Plan}
      (h : ∀ l, Twin o o' (next l) (next' l)) :
      Twin o o' (.find registry name next) (.find registry name next')
  | test (refuses : Json → Option String) (n : Node) {next next' : Option String → Plan}
      (h : ∀ reason, Twin o o' (next reason) (next' reason)) :
      Twin o o' (.test refuses n next) (.test refuses n next')
  | resolve (n : Node) (name : String) (registry : RegistryId) :
      Twin o o' (resolve o n name registry) (resolve o' n name registry)

def IsResolve (plan : Plan) : Prop := ∃ o n name registry, plan = .resolve o n name registry

variable {o o' : Options} {n : Node}

theorem Twin.of_isResolve {p q : Plan} (h : Twin o o' p q) (hp : p.IsResolve ∨ q.IsResolve) :
    ∃ n name registry, p = .resolve o n name registry ∧ q = .resolve o' n name registry := by
  cases h with
  | resolve n name registry => exact ⟨n, name, registry, rfl, rfl⟩
  | _ => rcases hp with ⟨_, _, _, _, h⟩ | ⟨_, _, _, _, h⟩ <;> cases h

theorem twin_gather (hfast : o'.failFast = o.failFast) (demands : List Demand)
    {next next' : List Issue → Plan} (h : ∀ is, Twin o o' (next is) (next' is)) :
    Twin o o' (gather o demands next) (gather o' demands next') := by
  induction demands generalizing next next' with
  | nil => exact h []
  | cons d rest ih =>
    cases d with
    | conforms place s k =>
      refine .call s k fun outcome => ?_
      cases outcome with
      | accepted _ => exact ih h
      | rejected f =>
        dsimp only
        rw [hfast]
        split
        · exact h _
        · exact ih fun _ => h _
    | missing place s =>
      unfold gather
      rw [hfast]
      split
      · exact h _
      · exact ih fun _ => h _

theorem twin_gatherMembers (hfast : o'.failFast = o.failFast) (members : List Shape)
    {next next' : List Issue → Plan} (h : ∀ is, Twin o o' (next is) (next' is)) :
    Twin o o' (gatherMembers o n members next) (gatherMembers o' n members next') := by
  induction members generalizing next next' with
  | nil => exact h []
  | cons s rest ih =>
    refine .call s n fun outcome => ?_
    cases outcome with
    | accepted _ => exact ih h
    | rejected f =>
      dsimp only
      rw [hfast]
      split
      · exact h _
      · exact ih fun _ => h _

theorem twin_firstAccepting (union : Shape) (alternatives : List Shape) :
    Twin o o' (firstAccepting o n union alternatives)
      (firstAccepting o' n union alternatives) := by
  induction alternatives with
  | nil => exact .done _
  | cons s rest ih =>
    refine .call s n fun outcome => ?_
    cases outcome with
    | accepted _ => exact .done _
    | rejected _ => exact ih

theorem twin_narrow (refuses : Json → Option String) (outcome : Outcome) :
    Twin o o' (narrow refuses n outcome) (narrow refuses n outcome) := by
  cases outcome with
  | rejected f => exact .done _
  | accepted _ =>
    refine .test refuses n fun reason => ?_
    cases reason <;> exact .done _

end Plan

open Plan in
theorem Shape.plan_twin {s : Shape} (hplain : s.kind.isCustom = false) (n : Node)
    {o o' : Options} (hfast : o'.failFast = o.failFast) :
    Twin o o' (s.plan n o) (s.plan n o') := by
  have hform := s.form_plan hplain n
  generalize s.plan n = plan at hform ⊢
  cases hform with
  | accept => exact .done _
  | refusal message code => exact .done _
  | children demands hd => exact twin_gather hfast demands fun _ => .done _
  | union alternatives hk => exact twin_firstAccepting s alternatives
  | intersect members hk => exact twin_gatherMembers hfast members fun _ => .done _
  | optional inner hk => exact .call inner n fun outcome => .done outcome
  | constraint underlying name refuses hk => exact .call underlying n (twin_narrow refuses)
  | reference name registry hk => exact .resolve n name registry

/-- It has been reported that a reference was as deep as the limit. -/
def Run.MeetsLimit (r : Run) : Prop := ∃ name limit, .depthLimitReached name limit ∈ r.log

theorem Run.meetsLimit_reentered {r : Run} {tag : String} :
    (r.emit (.reentered tag)).MeetsLimit ↔ r.MeetsLimit := by
  simp [MeetsLimit, emit]

inductive Frame.Twin (o o' : Options) : Frame → Frame → Prop
  | dispatch (entry : Entry) {next next' : Outcome → Plan}
      (h : ∀ outcome, Plan.Twin o o' (next outcome) (next' outcome)) :
      Twin o o' (.dispatch entry next) (.dispatch entry next')
  | resolution {next next' : Outcome → Plan}
      (h : ∀ outcome, Plan.Twin o o' (next outcome) (next' outcome)) :
      Twin o o' (.resolution next) (.resolution next')

namespace Machine

def ChecksReference (m : Machine) : Prop := m.plan.IsResolve

/-- Machines that have come the same way, and have met no limit on it. -/
structure Twin (o o' : Options) (m m' : Machine) : Prop where
  run : m'.run = m.run
  calm : ¬m.run.MeetsLimit
  plan : Plan.Twin o o' m.plan m'.plan
  frames : List.Forall₂ (Frame.Twin o o') m.frames m'.frames

variable {o o' : Options} {m m' : Machine}

theorem Twin.openResolutions (h : Twin o o' m m') : m'.openResolutions = m.openResolutions := by
  have hframes := h.frames
  unfold Machine.openResolutions
  generalize m.frames = fs, m'.frames = fs' at hframes ⊢
  induction hframes with
  | nil => rfl
  | cons hf _ ih =>
    rw [List.countP_cons, List.countP_cons, ih]
    cases hf <;> rfl

theorem Twin.checksReference_iff (h : Twin o o' m m') :
    m'.ChecksReference ↔ m.ChecksReference := by
  constructor
  · intro hm
    obtain ⟨n, name, registry, hp, -⟩ := h.plan.of_isResolve (Or.inr hm)
    exact ⟨o, n, name, registry, hp⟩
  · intro hm
    obtain ⟨n, name, registry, -, hq⟩ := h.plan.of_isResolve (Or.inl hm)
    exact ⟨o', n, name, registry, hq⟩

theorem twin_dispatch {s : Shape} {n : Node} {next next' : Outcome → Plan} {r : Run}
    {fs fs' : List Frame} (hplain : s.kind.isCustom = false) (hfast : o'.failFast = o.failFast)
    (hcalm : ¬r.MeetsLimit) (hnext : ∀ outcome, Plan.Twin o o' (next outcome) (next' outcome))
    (hframes : List.Forall₂ (Frame.Twin o o') fs fs') :
    Twin o o' (dispatch Shape.plan s n o next r fs) (dispatch Shape.plan s n o' next' r fs') := by
  unfold dispatch
  split
  · exact ⟨rfl, mt Run.meetsLimit_reentered.1 hcalm, hnext _, hframes⟩
  · exact ⟨rfl, hcalm, s.plan_twin hplain n hfast, .cons (.dispatch _ hnext) hframes⟩

theorem twin_resolve {n : Node} {name : String} {registry : RegistryId} {r : Run}
    {fs fs' : List Frame} (hlow : r.guard.referenceDepth < o.depthLimit)
    (hhigh : r.guard.referenceDepth < o'.depthLimit) (hcalm : ¬r.MeetsLimit)
    (hframes : List.Forall₂ (Frame.Twin o o') fs fs') :
    Option.Rel (Twin o o') (step Shape.plan ⟨.resolve o n name registry, r, fs⟩)
      (step Shape.plan ⟨.resolve o' n name registry, r, fs'⟩) := by
  simp only [Plan.resolve, step, if_neg (Nat.not_le_of_lt hlow), if_neg (Nat.not_le_of_lt hhigh)]
  refine .some ⟨rfl, hcalm, .find registry name fun l => ?_, hframes⟩
  cases l with
  | dropped => exact .done _
  | missing => exact .done _
  | found t => exact .follow t n .done

/-- Twins stay twins, unless the first is about to check a reference as deep as its limit. -/
theorem twin_step {store : Store} {shape : Shape} {n : Node} (hfree : store.CustomFree shape)
    (hfast : o'.failFast = o.failFast) (hlimit : o.depthLimit ≤ o'.depthLimit)
    (hwithin : Within (store.plainScope shape n o) m)
    (hbelow : m.ChecksReference → m.run.guard.referenceDepth < o.depthLimit)
    (h : Twin o o' m m') :
    Option.Rel (Twin o o') (step Shape.plan m) (step Shape.plan m') := by
  obtain ⟨plan, r, fs⟩ := m
  obtain ⟨plan', r', fs'⟩ := m'
  obtain ⟨hrun, hcalm, hplan, hframes⟩ := h
  cases hrun
  cases hplan with
  | done outcome =>
    cases hframes with
    | nil => exact .none
    | cons hf hrest =>
      cases hf with
      | dispatch entry h => exact .some ⟨rfl, hcalm, h outcome, hrest⟩
      | resolution h => exact .some ⟨rfl, hcalm, h outcome, hrest⟩
  | call s k h =>
    have hplain : s.kind.isCustom = false := hfree s hwithin.plan.1
    exact .some (twin_dispatch hplain hfast hcalm h hframes)
  | follow t k h =>
    have hplain : t.kind.isCustom = false := hfree t hwithin.plan.1
    exact .some (twin_dispatch hplain hfast hcalm .done (.cons (.resolution h) hframes))
  | find registry name h => exact .some ⟨rfl, hcalm, h _, hframes⟩
  | test refuses k h => exact .some ⟨rfl, hcalm, h _, hframes⟩
  | resolve k name registry =>
    -- Below the lower limit the reference is followed under either.
    have hlow : r.guard.referenceDepth < o.depthLimit := hbelow ⟨o, k, name, registry, rfl⟩
    exact twin_resolve hlow (hlow.trans_le hlimit) hcalm hframes

def validation (store : Store) (shape : Shape) (value : Json) (o : Options) : Machine :=
  start .watched shape (.root value) o ⟨.fresh, store, []⟩

variable {store : Store} {shape : Shape} {value : Json}

theorem steps_validate (store : Store) (shape : Shape) (value : Json) (o : Options) :
    Steps Shape.plan (validation store shape value o) (halted (shape.validate store value o)) :=
  steps_run .watched ⟨.fresh, store, []⟩ shape (.root value) o

theorem halted_inj {x y : Outcome × Run} (h : halted x = halted y) : x = y := by
  obtain ⟨outcome, r⟩ := x
  obtain ⟨outcome', r'⟩ := y
  cases h
  rfl

theorem referenceDepth_of_steps (h : Steps Shape.plan (validation store shape value o) m) :
    m.run.guard.referenceDepth = m.openResolutions := by
  simpa [Guard.fresh] using (disciplined_of_steps h).depth

/-- Validations with the two options can come to these twins. -/
structure Together (store : Store) (shape : Shape) (value : Json) (o o' : Options)
    (m m' : Machine) : Prop where
  low : Steps Shape.plan (validation store shape value o) m
  high : Steps Shape.plan (validation store shape value o') m'
  twin : Twin o o' m m'

/-- Together the validations come to a reference as deep as the lower limit. -/
def Parts (store : Store) (shape : Shape) (value : Json) (o o' : Options) : Prop :=
  ∃ m m', Together store shape value o o' m m' ∧ m.ChecksReference ∧
    o.depthLimit ≤ m.openResolutions

theorem together_start : Together store shape value o o' (validation store shape value o)
    (validation store shape value o') := by
  refine ⟨.refl, .refl, rfl, ?_, .call shape (.root value) .done, .nil⟩
  rintro ⟨name, limit, h⟩
  cases h

/-- Together the validations go on, or stop, or part. -/
theorem Together.step (hfree : store.CustomFree shape) (hfast : o'.failFast = o.failFast)
    (hlimit : o.depthLimit ≤ o'.depthLimit) (h : Together store shape value o o' m m') :
    Parts store shape value o o' ∨
      Option.Rel (Together store shape value o o') (step Shape.plan m) (step Shape.plan m') := by
  by_cases hparts : m.ChecksReference ∧ o.depthLimit ≤ m.openResolutions
  · exact Or.inl ⟨m, m', h, hparts⟩
  · have hbelow : m.ChecksReference → m.run.guard.referenceDepth < o.depthLimit := by
      intro hchecks
      rw [referenceDepth_of_steps h.low]
      exact Nat.lt_of_not_le fun hle => hparts ⟨hchecks, hle⟩
    have hrel := twin_step hfree hfast hlimit (plain_of_steps hfree rfl h.low).1 hbelow h.twin
    generalize hx : Machine.step Shape.plan m = x, hx' : Machine.step Shape.plan m' = x' at hrel
    cases hrel with
    | none => exact Or.inr .none
    | some htwin => exact Or.inr (.some ⟨h.low.tail hx, h.high.tail hx', htwin⟩)

/-- Where one machine comes, one that keeps in step with it comes along, unless `P` has come about
before. -/
theorem comes_along {plans : Shape → Node → Options → Plan} {P : Prop}
    {R : Machine → Machine → Prop} {a b : Machine} (hstart : R a b)
    (hstep : ∀ {m m'}, R m m' → P ∨ Option.Rel R (step plans m) (step plans m'))
    (h : Steps plans a m) : P ∨ ∃ m', R m m' := by
  induction h with
  | refl => exact Or.inr ⟨b, hstart⟩
  | tail _ hs ih =>
    rcases ih with hP | ⟨k', hk⟩
    · exact Or.inl hP
    · refine (hstep hk).imp_right fun hrel => ?_
      rw [hs] at hrel
      generalize step plans k' = x at hrel
      cases hrel with
      | some hR => exact ⟨_, hR⟩

theorem together_of_low (hfree : store.CustomFree shape) (hfast : o'.failFast = o.failFast)
    (hlimit : o.depthLimit ≤ o'.depthLimit)
    (h : Steps Shape.plan (validation store shape value o) m) :
    Parts store shape value o o' ∨ ∃ m', Together store shape value o o' m m' :=
  comes_along together_start (fun hk => hk.step hfree hfast hlimit) h

theorem together_of_high (hfree : store.CustomFree shape) (hfast : o'.failFast = o.failFast)
    (hlimit : o.depthLimit ≤ o'.depthLimit)
    (h : Steps Shape.plan (validation store shape value o') m') :
    Parts store shape value o o' ∨ ∃ m, Together store shape value o o' m m' := by
  apply comes_along (R := fun m' m => Together store shape value o o' m m') together_start _ h
  intro k' k hk
  refine (hk.step hfree hfast hlimit).imp_right fun hrel => ?_
  generalize step Shape.plan k = x, step Shape.plan k' = x' at hrel ⊢
  cases hrel with
  | none => exact .none
  | some htogether => exact .some htogether

theorem log_step {plans : Shape → Node → Options → Plan} (hs : step plans m = some m') {event : Event}
    (h : event ∈ m.run.log) : event ∈ m'.run.log := by
  rcases run_step hs with ⟨f, hrun⟩ | ⟨f, e, hrun⟩ | ⟨registry, name, s, hrun⟩
  · rw [hrun]
    exact h
  · rw [hrun]
    exact List.mem_cons_of_mem _ h
  · rw [hrun, Run.register]
    split
    · exact h
    · exact h
    · exact List.mem_cons_of_mem _ h

theorem Parts.meetsLimit (h : Parts store shape value o o') :
    (shape.validate store value o).2.MeetsLimit := by
  obtain ⟨m, m', htogether, hchecks, hdeep⟩ := h
  obtain ⟨n, name, registry, hplan, -⟩ := htogether.twin.plan.of_isResolve (Or.inl hchecks)
  rw [← referenceDepth_of_steps htogether.low] at hdeep
  have hlow := htogether.low
  obtain ⟨plan, r, fs⟩ := m
  cases hplan
  have hask : step Shape.plan ⟨.resolve o n name registry, r, fs⟩ = some
      ⟨.report (.depthLimitReached name o.depthLimit)
        (.refuse ("Maximum reference depth " ++ toString o.depthLimit ++
          " exceeded resolving '" ++ name ++ "'") "max_depth_exceeded"), r, fs⟩ := by
    simp only [Plan.resolve, step, if_pos hdeep]
  have hreported := (hlow.tail hask).tail rfl
  have hend := steps_to_halted (steps_validate store shape value o) hreported
  exact ⟨name, o.depthLimit,
    hend.keeps (fun k => .depthLimitReached name o.depthLimit ∈ k.run.log)
      (fun hs hk => log_step hs hk) List.mem_cons_self⟩

theorem parts_of_meetsLimit (hfree : store.CustomFree shape) (hfast : o'.failFast = o.failFast)
    (hlimit : o.depthLimit ≤ o'.depthLimit) (h : (shape.validate store value o).2.MeetsLimit) :
    Parts store shape value o o' := by
  rcases together_of_low hfree hfast hlimit (steps_validate store shape value o) with
    hparts | ⟨m', htogether⟩
  · exact hparts
  · exact absurd h htogether.twin.calm

theorem parts_of_checksReference (hfree : store.CustomFree shape)
    (hfast : o'.failFast = o.failFast) (hlimit : o.depthLimit ≤ o'.depthLimit)
    (h : Steps Shape.plan (validation store shape value o') m') (hchecks : m'.ChecksReference)
    (hdeep : o.depthLimit ≤ m'.openResolutions) : Parts store shape value o o' := by
  rcases together_of_high hfree hfast hlimit h with hparts | ⟨m, htogether⟩
  · exact hparts
  · rw [htogether.twin.openResolutions] at hdeep
    exact ⟨m, m', htogether, htogether.twin.checksReference_iff.1 hchecks, hdeep⟩

theorem validate_eq_of_not_meetsLimit (hfree : store.CustomFree shape)
    (hfast : o'.failFast = o.failFast) (hlimit : o.depthLimit ≤ o'.depthLimit)
    (h : ¬(shape.validate store value o).2.MeetsLimit) :
    shape.validate store value o' = shape.validate store value o := by
  rcases together_of_low hfree hfast hlimit (steps_validate store shape value o) with
    hparts | ⟨m', htogether⟩
  · exact absurd hparts.meetsLimit h
  -- The twin of a machine that has stopped has stopped as well, and that is where its run ends.
  · obtain ⟨-, hhigh, hrun, -, hplan, hframes⟩ := htogether
    obtain ⟨plan, r, fs⟩ := m'
    cases hrun
    cases hframes
    generalize hx : (halted (shape.validate store value o)).plan = p at hplan
    cases hplan <;> cases hx
    have hend := steps_to_halted (steps_validate store shape value o') hhigh
    rcases Relation.ReflTransGen.cases_head hend with heq | ⟨k, hk, -⟩
    · exact (halted_inj heq).symm
    · cases hk

theorem depth_le_of_steps (hfree : store.CustomFree shape)
    (h : Steps Shape.plan (validation store shape value o) m) :
    m.run.guard.referenceDepth ≤ o.depthLimit := by
  have hdispatch : ∀ s n o next (r : Run) fs,
      (dispatch Shape.plan s n o next r fs).run.guard.referenceDepth = r.guard.referenceDepth := by
    intro s n o next r fs
    unfold dispatch
    split <;> rfl
  induction h with
  | refl => exact Nat.zero_le _
  | @tail k m hk hstep ih =>
    have hwithin := (plain_of_steps hfree rfl hk).1
    have hheeds := (heeding_of_steps Shape.plan_heeds hk).plan
    have hdepth := referenceDepth_of_steps hk
    obtain ⟨plan, r, fs⟩ := k
    cases plan with
    | done outcome =>
      cases fs with
      | nil => cases hstep
      | cons f fs =>
        cases hstep
        cases f with
        | direct _ => exact ih
        | dispatch _ _ => exact ih
        | resolution _ => exact (Nat.sub_le _ _).trans ih
    | call via s n o' next =>
      cases via with
      | direct => cases hstep; exact ih
      | watched =>
        cases hstep
        rw [hdispatch]
        exact ih
    -- Nothing else goes deeper, and a reference has asked for the depth before.
    | follow t n o' next =>
      cases hstep
      rw [hdispatch]
      have hoptions : o' = o := hwithin.plan.2.2.1
      have hlt : openResolutions ⟨.follow t n o' next, r, fs⟩ < o'.depthLimit := hheeds.1
      rw [← hdepth, hoptions] at hlt
      exact hlt
    | register registry name s next => exact hwithin.plan.1.elim
    | _ => cases hstep; exact ih

end Machine

namespace Shape

open Machine (Steps validation)

/-- The limit is exact. What is accepted with one limit is accepted with every higher one. A
validation reports that it has met its limit if and only if the validation with a higher limit, as
high as you like, checks some reference inside at least as many open ones as the limit has. If it
does not report so, the higher limit makes no difference, neither to the outcome nor to the events.
And no limit is ever passed. -/
theorem depth_limit_exact {store : Store} {shape : Shape} (hfree : store.CustomFree shape)
    (value : Json) (failFast : Bool) {low high : Nat} (hle : low ≤ high) :
    ((shape.validate store value ⟨failFast, low⟩).1.isAccepted = true →
      (shape.validate store value ⟨failFast, high⟩).1.isAccepted = true) ∧
    ((shape.validate store value ⟨failFast, low⟩).2.MeetsLimit ↔
      ∃ m, Steps Shape.plan (validation store shape value ⟨failFast, high⟩) m ∧
        m.ChecksReference ∧ low ≤ m.openResolutions) ∧
    (¬(shape.validate store value ⟨failFast, low⟩).2.MeetsLimit →
      shape.validate store value ⟨failFast, high⟩ = shape.validate store value ⟨failFast, low⟩) ∧
    ∀ m, Steps Shape.plan (validation store shape value ⟨failFast, low⟩) m →
      m.run.guard.referenceDepth ≤ low := by
  refine ⟨?_, ⟨?_, ?_⟩, ?_, ?_⟩
  · intro haccepted
    have haccepts : Check.Accepts .fresh store shape (.root value) ⟨failFast, high⟩ :=
      Check.accepts_of_answer .fresh shape (.root value) hfree haccepted .fresh rfl hle
    exact haccepts ⟨.fresh, store, []⟩ ⟨rfl, .refl store⟩
  · intro hmeets
    have hparts : Machine.Parts store shape value ⟨failFast, low⟩ ⟨failFast, high⟩ :=
      Machine.parts_of_meetsLimit hfree rfl hle hmeets
    obtain ⟨m, m', htogether, hchecks, hdeep⟩ := hparts
    refine ⟨m', htogether.high, htogether.twin.checksReference_iff.2 hchecks, ?_⟩
    rw [htogether.twin.openResolutions]
    exact hdeep
  · intro hsome
    obtain ⟨m', hm', hchecks, hdeep⟩ := hsome
    have hparts : Machine.Parts store shape value ⟨failFast, low⟩ ⟨failFast, high⟩ :=
      Machine.parts_of_checksReference hfree rfl hle hm' hchecks hdeep
    exact hparts.meetsLimit
  · exact Machine.validate_eq_of_not_meetsLimit hfree rfl hle
  · exact fun m hm => Machine.depth_le_of_steps hfree hm

theorem log_validate {shape : Shape} {store : Store} {value : Json} {o : Options}
    {log : List Event} (fuel : Nat)
    (h : (Check.calls (Check.check fuel) .watched shape (.root value) o
      ⟨.fresh, store, []⟩).map (·.2.log) = some log) :
    (shape.validate store value o).2.log = log := by
  obtain ⟨x, hx, hlog⟩ := Option.map_eq_some_iff.1 h
  rw [validate, Check.run_eq_of_calls hx]
  exact hlog

/-- Three trees inside each other need two open references: a limit of one is met inside the first
of them, and a limit of two is as good as one of a hundred. -/
theorem depth_limit_exact_tree :
    let value : Json := .object [("left", .object [("left", .object [])])]
    (tree.validate .forest value ⟨false, 1⟩).1.issues =
      [⟨⟨[.field "left", .field "left"]⟩, "Maximum reference depth 1 exceeded resolving 'Tree'",
        "max_depth_exceeded"⟩] ∧
    (∃ m, Steps Shape.plan (validation .forest tree value ⟨false, 2⟩) m ∧
      m.ChecksReference ∧ 1 ≤ m.openResolutions) ∧
    tree.validate .forest value ⟨false, 100⟩ = tree.validate .forest value ⟨false, 2⟩ ∧
    (tree.validate .forest value ⟨false, 100⟩).1.isAccepted = true := by
  intro value
  have hlow : (tree.validate .forest value ⟨false, 1⟩).2.log =
      [.depthLimitReached "Tree" 1, .reentered "reference", .reentered "intersect"] :=
    log_validate 20 (by decide)
  have hmeets : (tree.validate .forest value ⟨false, 1⟩).2.MeetsLimit :=
    ⟨"Tree", 1, by rw [hlow]; exact List.mem_cons_self⟩
  have hhigh : (tree.validate .forest value ⟨false, 2⟩).2.log =
      [.reentered "reference", .reentered "reference", .reentered "intersect"] :=
    log_validate 20 (by decide)
  have hcalm : ¬(tree.validate .forest value ⟨false, 2⟩).2.MeetsLimit := by
    rw [Run.MeetsLimit, hhigh]
    simp
  have haccepted : (tree.validate .forest value ⟨false, 2⟩).1.isAccepted = true :=
    (Outcome.isAccepted_iff _).2 (issues_validate 20 (by decide))
  have hone := depth_limit_exact Store.customFree_tree value false (Nat.le_succ 1)
  have htwo := depth_limit_exact Store.customFree_tree value false (show 2 ≤ 100 by decide)
  exact ⟨issues_validate 20 (by decide), hone.2.1.1 hmeets, htwo.2.2.1 hcalm, htwo.1 haccepted⟩

end Shape

end ShapeCheck
