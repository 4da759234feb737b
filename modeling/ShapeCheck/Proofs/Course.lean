import ShapeCheck.Proofs.Containers

namespace ShapeCheck

namespace Plan

/-- The plan, and whatever may remain of it, is as `P` says. -/
def All (P : Plan → Prop) : Plan → Prop
  | .done outcome => P (.done outcome)
  | .call via s n o next => P (.call via s n o next) ∧ ∀ outcome, (next outcome).All P
  | .follow t n o next => P (.follow t n o next) ∧ ∀ outcome, (next outcome).All P
  | .find registry name next => P (.find registry name next) ∧ ∀ l, (next l).All P
  | .test refuses n next => P (.test refuses n next) ∧ ∀ reason, (next reason).All P
  | .ask next => P (.ask next) ∧ ∀ depth isIdle, (next depth isIdle).All P
  | .report event next => P (.report event next) ∧ next.All P
  | .register registry name s next => P (.register registry name s next) ∧ ∀ e, (next e).All P

variable {P : Plan → Prop}

theorem All.here {plan : Plan} (h : plan.All P) : P plan := by
  cases plan with
  | done _ => exact h
  | _ => exact h.1

theorem all_gather (hcall : ∀ via s n o next, P (.call via s n o next)) (o : Options)
    (demands : List Demand) {next : List Issue → Plan} (hn : ∀ is, (next is).All P) :
    (gather o demands next).All P := by
  induction demands generalizing next with
  | nil => exact hn []
  | cons d rest ih =>
    cases d with
    | conforms place s n =>
      refine ⟨hcall _ _ _ _ _, fun outcome => ?_⟩
      cases outcome with
      | accepted _ => exact ih hn
      | rejected f =>
        dsimp only
        split
        · exact hn _
        · exact ih fun _ => hn _
    | missing place s =>
      unfold gather
      split
      · exact hn _
      · exact ih fun _ => hn _

theorem all_gatherMembers (hcall : ∀ via s n o next, P (.call via s n o next)) (o : Options)
    (n : Node) (members : List Shape) {next : List Issue → Plan} (hn : ∀ is, (next is).All P) :
    (gatherMembers o n members next).All P := by
  induction members generalizing next with
  | nil => exact hn []
  | cons s rest ih =>
    refine ⟨hcall _ _ _ _ _, fun outcome => ?_⟩
    cases outcome with
    | accepted _ => exact ih hn
    | rejected f =>
      dsimp only
      split
      · exact hn _
      · exact ih fun _ => hn _

theorem all_firstAccepting {n : Node} (haccepted : P (.done (.accepted n)))
    (hrefused : ∀ message code, P (refuse message code))
    (hcall : ∀ via s n o next, P (.call via s n o next)) (o : Options) (union : Shape)
    (alternatives : List Shape) : (firstAccepting o n union alternatives).All P := by
  induction alternatives with
  | nil => exact hrefused _ _
  | cons s rest ih =>
    refine ⟨hcall _ _ _ _ _, fun outcome => ?_⟩
    cases outcome with
    | accepted _ => exact haccepted
    | rejected _ => exact ih

theorem all_narrow {refuses : Json → Option String} {n : Node}
    (haccepted : P (.done (.accepted n))) (hrejected : ∀ f, P (.done (.rejected f)))
    (htest : ∀ next, P (.test refuses n next)) (outcome : Outcome) :
    (narrow refuses n outcome).All P := by
  cases outcome with
  | rejected f => exact hrejected f
  | accepted k =>
    refine ⟨htest _, fun reason => ?_⟩
    cases reason with
    | none => exact haccepted
    | some message => exact hrejected _

theorem all_resolve {o : Options} {n : Node} {name : String} {registry : RegistryId}
    (hdone : ∀ outcome, P (.done outcome))
    (hask : ∀ plan : Nat → Plan, P (.ask fun depth _ => plan depth))
    (hreport : ∀ next, P (.report (.depthLimitReached name o.depthLimit) next))
    (hfind : ∀ next, P (.find registry name next)) (hfollow : ∀ t next, P (.follow t n o next)) :
    (resolve o n name registry).All P := by
  refine ⟨hask _, fun depth _ => ?_⟩
  dsimp only
  split
  · exact ⟨hreport _, hdone _⟩
  · refine ⟨hfind _, fun l => ?_⟩
    cases l with
    | found t => exact ⟨hfollow t _, hdone⟩
    | dropped => exact hdone _
    | missing => exact hdone _

theorem Form.all {s : Shape} {n : Node} {plan : Options → Plan} (h : Form s n plan) (o : Options)
    (hdone : ∀ outcome, P (.done outcome)) (hcall : ∀ via s n o next, P (.call via s n o next))
    (hnarrow : ∀ underlying name refuses, s.kind = .constraint underlying name refuses →
      ∀ outcome, (narrow refuses n outcome).All P)
    (hresolve : ∀ name registry, (resolve o n name registry).All P) : (plan o).All P := by
  cases h with
  | accept => exact hdone _
  | refusal => exact hdone _
  | children demands => exact all_gather hcall o demands fun _ => hdone _
  | union alternatives =>
    exact all_firstAccepting (hdone _) (fun _ _ => hdone _) hcall o s alternatives
  | intersect members => exact all_gatherMembers hcall o n members fun _ => hdone _
  | optional inner => exact ⟨hcall _ _ _ _ _, hdone⟩
  | constraint underlying name refuses hk =>
    exact ⟨hcall _ _ _ _ _, hnarrow underlying name refuses hk⟩
  | reference name registry => exact hresolve name registry

/-- What remains of a plan after its first step. -/
def advance (w : Replies) : Plan → Option Plan
  | .done _ => none
  | .call _ s n o next => some (next (w.inside s n o))
  | .follow t n o next => some (next (w.beyond t n o))
  | .find registry name next => some (next (w.store.find registry name))
  | .test refuses n next => some (next (refuses n.value))
  | .ask next => some (next w.depth w.isIdle)
  | .report _ next => some next
  | .register _ _ _ next => some (next none)

/-- With these replies the first plan comes to the second. -/
def ComesTo (w : Replies) : Plan → Plan → Prop :=
  Relation.ReflTransGen fun p q => p.advance w = some q

variable {w w' : Replies} {p q : Plan}

theorem All.of_advance (h : p.All P) (hq : p.advance w = some q) : q.All P := by
  cases p with
  | done _ => cases hq
  | ask next => cases hq; exact h.2 _ _
  | report _ next => cases hq; exact h.2
  | _ => cases hq; exact h.2 _

theorem All.of_comesTo (h : p.All P) (hq : ComesTo w p q) : q.All P := by
  induction hq with
  | refl => exact h
  | tail _ hstep ih => exact ih.of_advance hstep

theorem outcome_of_advance (hq : p.advance w = some q) : q.outcome w = p.outcome w := by
  cases p <;> cases hq <;> rfl

theorem ComesTo.outcome_eq (h : ComesTo w p q) : q.outcome w = p.outcome w := by
  induction h with
  | refl => rfl
  | tail _ hstep ih => exact (outcome_of_advance hstep).trans ih

theorem ComesTo.eq_or_advance (h : ComesTo w p q) :
    p = q ∨ ∃ k, p.advance w = some k ∧ ComesTo w k q := by
  rcases Relation.ReflTransGen.cases_head h with h | ⟨k, hk, hq⟩
  · exact Or.inl h
  · exact Or.inr ⟨k, hk, hq⟩

theorem ComesTo.eq_of_done {outcome : Outcome} (h : ComesTo w (.done outcome) q) :
    q = .done outcome := by
  rcases h.eq_or_advance with h | ⟨k, hk, _⟩
  · exact h.symm
  · cases hk

/-- The second replies are the same wherever the plan asks for one on its course. -/
structure Replies.SameFor (w w' : Replies) (p : Plan) : Prop where
  depth : w'.depth = w.depth
  isIdle : w'.isIdle = w.isIdle
  store : w'.store = w.store
  call : ∀ via s n o next, ComesTo w p (.call via s n o next) → w'.inside s n o = w.inside s n o
  follow : ∀ t n o next, ComesTo w p (.follow t n o next) → w'.beyond t n o = w.beyond t n o

theorem Replies.SameFor.advance (h : Replies.SameFor w w' p) (hq : p.advance w = some q) :
    Replies.SameFor w w' q where
  depth := h.depth
  isIdle := h.isIdle
  store := h.store
  call via s n o next hcall := h.call via s n o next (.head hq hcall)
  follow t n o next hfollow := h.follow t n o next (.head hq hfollow)

theorem outcome_congr (h : Replies.SameFor w w' p) : p.outcome w' = p.outcome w := by
  induction p with
  | done _ => rfl
  | call via s n o next ih =>
    rw [outcome, outcome, h.call via s n o next .refl]
    exact ih _ (h.advance rfl)
  | follow t n o next ih =>
    rw [outcome, outcome, h.follow t n o next .refl]
    exact ih _ (h.advance rfl)
  | find registry name next ih =>
    rw [outcome, outcome, h.store]
    exact ih _ (h.advance rfl)
  | test refuses n next ih => exact ih _ (h.advance rfl)
  | ask next ih =>
    rw [outcome, outcome, h.depth, h.isIdle]
    exact ih _ _ (h.advance rfl)
  | report _ next ih => exact ih (h.advance rfl)
  | register _ _ _ next ih => exact ih _ (h.advance rfl)

theorem Confined.of_comesTo {scope : Scope} {known target : Shape → Prop}
    (h : p.Confined scope known) (hknown : ∀ t, known t → target t)
    (hnames : ∀ registry name t, scope.names registry name →
      w.store.find registry name = .found t → target t) (hq : ComesTo w p q) :
    ∃ known' : Shape → Prop, q.Confined scope known' ∧ ∀ t, known' t → target t := by
  induction hq with
  | refl => exact ⟨known, h, hknown⟩
  | @tail k q _ hstep ih =>
    obtain ⟨known', hk, hknown'⟩ := ih
    cases k with
    | done _ => cases hstep
    | call _ _ _ _ next => cases hstep; exact ⟨known', hk.2.2.2.2 _, hknown'⟩
    | follow _ _ _ next => cases hstep; exact ⟨known', hk.2.2.2 _, hknown'⟩
    | find registry name next =>
      cases hstep
      refine ⟨_, hk.2 _, fun t ht => ?_⟩
      rcases ht with ht | ht
      · exact hknown' t ht
      · exact hnames registry name t hk.1 ht
    | test _ _ next => cases hstep; exact ⟨known', hk.2 _, hknown'⟩
    | ask next => cases hstep; exact ⟨known', hk _ _, hknown'⟩
    | report _ next => cases hstep; exact ⟨known', hk, hknown'⟩
    | register _ _ _ next => cases hstep; exact ⟨known', hk.2.2 _, hknown'⟩

end Plan

/-- The parts that a check goes on to without leaving the node. -/
def Kind.relayed : Kind → List Shape
  | .union alternatives => alternatives
  | .intersect members => members
  | .optional inner => [inner]
  | .constraint underlying _ _ => [underlying]
  | _ => []

theorem Kind.mem_parts_of_relayed {kind : Kind} {t : Shape} (h : t ∈ kind.relayed) :
    t ∈ kind.parts := by
  cases kind with
  | union => exact h
  | intersect => exact h
  | optional => exact h
  | constraint => exact h
  | _ => cases h

namespace Shape

open Plan

theorem plan_confined_below {s : Shape} {n : Node} {demands : List Demand}
    (h : s.kind.demands? n = some demands) (o : Options) :
    (s.plan n o).Confined { scopeOf s n o with nodes := n.IsChild } fun _ => False := by
  rw [plan_of_demands h]
  refine confined_gather (fun d hd => ?_) (Or.inl rfl) fun _ => trivial
  have hinward := Kind.inward_of_demands h d hd
  cases d with
  | conforms place t c => exact ⟨hinward.1, hinward.2.1⟩
  | missing place t => trivial

theorem plan_confined_here {s : Shape} {n : Node} (hplain : s.kind.isCustom = false)
    (h : s.kind.demands? n = none) (o : Options) :
    (s.plan n o).Confined
      { scopeOf s n o with shapes := (· ∈ s.kind.relayed), nodes := (· = n) } fun _ => False := by
  have hoptions : (scopeOf s n o).options o := Or.inl rfl
  have hshallow := shallow_plan hplain h
  generalize s.plan n = plan at hshallow ⊢
  cases hshallow with
  | accept => trivial
  | mismatch => trivial
  | literal => trivial
  | length => trivial
  | union alternatives hk =>
    exact confined_firstAccepting (fun t ht => by rwa [hk]) hoptions rfl
  | intersect members hk =>
    exact confined_gatherMembers (fun t ht => by rwa [hk]) hoptions rfl fun _ => trivial
  | optional inner hk =>
    exact ⟨by simp [hk, Kind.relayed], rfl, hoptions, nofun, fun _ => trivial⟩
  | constraint underlying name refuses hk =>
    refine ⟨by simp [hk, Kind.relayed], rfl, hoptions, nofun, fun outcome => ?_⟩
    cases outcome with
    | rejected f => trivial
    | accepted k => exact ⟨rfl, fun reason => by cases reason <;> trivial⟩
  | reference name registry hk => exact confined_resolve hoptions rfl hk

variable {w : Replies} {s t : Shape} {n k : Node} {o o' : Options} {via : Via}
  {next : Outcome → Plan}

theorem confined_of_course {q : Plan} (h : ComesTo w (s.plan n o) q) :
    ∃ known : Shape → Prop, q.Confined (scopeOf s n o) known := by
  have hnames : ∀ registry name t, (scopeOf s n o).names registry name →
      w.store.find registry name = .found t → True := fun _ _ _ _ _ => trivial
  obtain ⟨known, hq, -⟩ := (s.plan_confined n o).of_comesTo (fun _ _ => trivial) hnames h
  exact ⟨known, hq⟩

theorem call_of_course (hplain : s.kind.isCustom = false)
    (h : ComesTo w (s.plan n o) (.call via t k o' next)) :
    via = .watched ∧ o' = o ∧ t ∈ s.kind.parts ∧ Near n k := by
  obtain ⟨known, ht, hk, ho, hvia, -⟩ := confined_of_course h
  refine ⟨?_, ?_, ht, hk⟩
  · cases via with
    | watched => rfl
    | direct => simp [scopeOf, hplain] at hvia
  · rcases ho with ho | ho
    · exact ho
    · simp [hplain] at ho

theorem register_not_of_course (hplain : s.kind.isCustom = false) {registry : RegistryId}
    {name : String} {rest : Option RegistryError → Plan} :
    ¬ComesTo w (s.plan n o) (.register registry name t rest) := by
  intro h
  obtain ⟨known, hregister⟩ := confined_of_course h
  have hcustom : s.kind.isCustom = true := hregister.1
  rw [hplain] at hcustom
  cases hcustom

theorem follow_of_course (hplain : s.kind.isCustom = false)
    (h : ComesTo w (s.plan n o) (.follow t k o' next)) :
    k = n ∧ o' = o ∧
      ∃ name registry, s.kind = .reference name registry ∧ w.store.find registry name = .found t := by
  let target (t : Shape) : Prop :=
    ∃ name registry, s.kind = .reference name registry ∧ w.store.find registry name = .found t
  have hnames : ∀ registry name t, (scopeOf s n o).names registry name →
      w.store.find registry name = .found t → target t :=
    fun registry name t hk ht => ⟨name, registry, hk, ht⟩
  have hoptions : (scopeOf s n o).options o' → o' = o := by
    intro ho
    rcases ho with ho | ho
    · exact ho
    · simp [hplain] at ho
  cases hd : s.kind.demands? n with
  | some demands =>
    obtain ⟨known, hcall, hknown⟩ :=
      (s.plan_confined_below hd o).of_comesTo (fun _ ht => ht.elim) hnames h
    obtain ⟨name, registry, hk, -⟩ := hknown t hcall.1
    rw [hk] at hd
    cases hd
  | none =>
    obtain ⟨known, hcall, hknown⟩ :=
      (s.plan_confined_here hplain hd o).of_comesTo (fun _ ht => ht.elim) hnames h
    exact ⟨hcall.2.1, hoptions hcall.2.2.1, hknown t hcall.1⟩

end Shape

end ShapeCheck
