import ShapeCheck.Proofs.Course
import ShapeCheck.Proofs.Relocation
import ShapeCheck.Proofs.Acceptance

namespace ShapeCheck

namespace Check

/-- The pairs that a check under the guard meets, its own among them. What is in progress is met but
not looked into. -/
inductive Meets (store : Store) (o : Options) : Guard → Shape → Node → Entry → Prop
  | self {g : Guard} {s : Shape} {n : Node} : Meets store o g s n ⟨s.id, n.position⟩
  | call {g : Guard} {s t : Shape} {n k : Node} {next : Outcome → Plan} {e : Entry}
      (hnew : ⟨s.id, n.position⟩ ∉ g.inProgress)
      (hcourse : Plan.ComesTo (replies store (g.enter ⟨s.id, n.position⟩)) (s.plan n o)
        (.call .watched t k o next))
      (h : Meets store o (g.enter ⟨s.id, n.position⟩) t k e) : Meets store o g s n e
  | follow {g : Guard} {s t : Shape} {n : Node} {next : Outcome → Plan} {e : Entry}
      (hnew : ⟨s.id, n.position⟩ ∉ g.inProgress)
      (hcourse : Plan.ComesTo (replies store (g.enter ⟨s.id, n.position⟩)) (s.plan n o)
        (.follow t n o next))
      (h : Meets store o (g.enter ⟨s.id, n.position⟩).descend t n e) : Meets store o g s n e

/-- Guards that agree on the pairs that a check meets give it the same answer. -/
theorem answer_eq_of_meets {store : Store} (o : Options) (g : Guard) (s : Shape) (n : Node) :
    store.CustomFree s → ∀ g' : Guard, g'.referenceDepth = g.referenceDepth →
      (∀ e, Meets store o g s n e → (e ∈ g'.inProgress ↔ e ∈ g.inProgress)) →
      answer store g' s n o = answer store g s n o := by
  apply answer_induction store (P := fun g s n => store.CustomFree s → ∀ g' : Guard,
    g'.referenceDepth = g.referenceDepth →
    (∀ e, Meets store o g s n e → (e ∈ g'.inProgress ↔ e ∈ g.inProgress)) →
    answer store g' s n o = answer store g s n o)
  · intro g s n hopen _ g' _ hmeets
    rw [answer_open hopen, answer_open ((hmeets _ .self).2 hopen)]
  · intro g s n hnew hparts htarget hfree g' hdepth hmeets
    have hplain : s.kind.isCustom = false := hfree s .self
    have hnew' : ⟨s.id, n.position⟩ ∉ g'.inProgress := fun hin => hnew ((hmeets _ .self).1 hin)
    have hentered : ∀ {e}, (e ∈ g'.inProgress ↔ e ∈ g.inProgress) →
        (e ∈ (g'.enter ⟨s.id, n.position⟩).inProgress ↔
          e ∈ (g.enter ⟨s.id, n.position⟩).inProgress) := by
      intro e he
      simp only [Guard.enter, List.mem_cons, he]
    rw [answer_new hfree hnew, answer_new hfree hnew']
    apply Plan.outcome_congr
    refine ⟨hdepth, rfl, rfl, ?_, ?_⟩
    · intro via t k o' next hcourse
      obtain ⟨rfl, rfl, ht, hk⟩ := Shape.call_of_course hplain hcourse
      exact hparts t ht k hk (hfree.part ht) (g'.enter ⟨s.id, n.position⟩) hdepth fun e he =>
        hentered (hmeets e (.call hnew hcourse he))
    · intro t k o' next hcourse
      obtain ⟨rfl, rfl, name, registry, hk, ht⟩ := Shape.follow_of_course hplain hcourse
      exact htarget name registry t hk ht (hfree.target hk ht)
        (g'.enter ⟨s.id, k.position⟩).descend (congrArg (· + 1) hdepth) fun e he =>
          hentered (hmeets e (.follow hnew hcourse he))

end Check

namespace Check

theorem accepted_of_depth_le {store : Store} (o : Options) (g : Guard) (s : Shape) (n : Node)
    (hfree : store.CustomFree s) (g' : Guard) (hin : g'.inProgress = g.inProgress)
    (hdepth : g'.referenceDepth ≤ g.referenceDepth)
    (haccepted : (answer store g s n o).isAccepted = true) :
    (answer store g' s n o).isAccepted = true := by
  have haccepts : Accepts g' store s n o :=
    accepts_of_answer g s n hfree haccepted g' hin (Nat.add_le_add_left hdepth o.depthLimit)
  exact haccepts ⟨g', store, []⟩ ⟨rfl, .refl store⟩

end Check

/-- What is accepted without meeting any pair that is in progress is accepted on its own. -/
theorem Shape.validate_accepted_of_answer {store : Store} {s : Shape} (hfree : store.CustomFree s)
    {g : Guard} {n : Node} {o : Options}
    (hmeets : ∀ e, Check.Meets store o g s n e → e ∉ g.inProgress)
    (haccepted : (Check.answer store g s n o).isAccepted = true) :
    (s.validate store n.value o).1.isAccepted = true := by
  let empty : Guard := ⟨[], g.referenceDepth⟩
  have hempty : Check.answer store empty s n o = Check.answer store g s n o :=
    Check.answer_eq_of_meets o g s n hfree empty rfl fun e he =>
      iff_of_false List.not_mem_nil (hmeets e he)
  have hfresh : (Check.answer store .fresh s n o).isAccepted = true := by
    rw [← hempty] at haccepted
    exact Check.accepted_of_depth_le o empty s n hfree .fresh rfl (Nat.zero_le _) haccepted
  have hclear : ∀ i (p : Position), ⟨i, p.onto n.position⟩ ∉ Guard.fresh.inProgress :=
    fun _ _ => List.not_mem_nil
  rwa [Outcome.isAccepted_congr (issues_validate_eq_answer hfree rfl hclear n.value o)]

end ShapeCheck
