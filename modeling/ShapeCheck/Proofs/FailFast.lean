import ShapeCheck.Proofs.Rulings

namespace ShapeCheck

namespace Plan

variable {w : Replies} {limit : Nat} {s : Shape} {n : Node}

/-- The reply to a fast check has the first issue of the reply to a complete one. -/
def Agree (w : Replies) (limit : Nat) (s : Shape) (n : Node) : Prop :=
  (w.inside s n ⟨true, limit⟩).issues = (w.inside s n ⟨false, limit⟩).issues.take 1

theorem Agree.isAccepted (h : Agree w limit s n) :
    (w.inside s n ⟨true, limit⟩).isAccepted = (w.inside s n ⟨false, limit⟩).isAccepted := by
  rw [Bool.eq_iff_iff, Outcome.isAccepted_iff, Outcome.isAccepted_iff, h]
  simp

theorem demands_agree {scope : Scope} {demands : List Demand}
    (hd : ∀ d ∈ demands, d.Confined scope)
    (hcalls : ∀ t, scope.shapes t → ∀ k, scope.nodes k → Agree w limit t k) :
    demands.map (Demand.issues fun t k => w.inside t k ⟨true, limit⟩) =
      (demands.map (Demand.issues fun t k => w.inside t k ⟨false, limit⟩)).map (·.take 1) := by
  rw [List.map_map]
  apply List.map_congr_left
  intro d hmem
  have hconf := hd d hmem
  cases d with
  | conforms place t k =>
    have hagree := hcalls t hconf.1 k hconf.2
    simp only [Demand.issues, Function.comp_apply]
    rw [hagree, List.map_take]
  | missing place t => rfl

theorem gather_agree {scope : Scope} {demands : List Demand}
    (hd : ∀ d ∈ demands, d.Confined scope)
    (hcalls : ∀ t, scope.shapes t → ∀ k, scope.nodes k → Agree w limit t k) :
    ((gather ⟨true, limit⟩ demands (settle n)).outcome w).issues =
      ((gather ⟨false, limit⟩ demands (settle n)).outcome w).issues.take 1 := by
  rw [outcome_gather, outcome_gather]
  simp only [settle, outcome, Outcome.issues_ofIssues]
  rw [demands_agree hd hcalls, reported_take]

theorem gatherMembers_agree {members : List Shape}
    (hcalls : ∀ t ∈ members, Agree w limit t n) :
    ((gatherMembers ⟨true, limit⟩ n members (settle n)).outcome w).issues =
      ((gatherMembers ⟨false, limit⟩ n members (settle n)).outcome w).issues.take 1 := by
  have hmap : members.map (fun t => (w.inside t n ⟨true, limit⟩).issues) =
      (members.map fun t => (w.inside t n ⟨false, limit⟩).issues).map (·.take 1) := by
    rw [List.map_map]
    exact List.map_congr_left hcalls
  rw [outcome_gatherMembers, outcome_gatherMembers]
  simp only [settle, outcome, Outcome.issues_ofIssues]
  rw [hmap, reported_take]

theorem firstAccepting_agree {union : Shape} {alternatives : List Shape}
    (hcalls : ∀ t ∈ alternatives, Agree w limit t n) :
    ((firstAccepting ⟨true, limit⟩ n union alternatives).outcome w).issues =
      ((firstAccepting ⟨false, limit⟩ n union alternatives).outcome w).issues.take 1 := by
  have hany : (alternatives.any fun t => (w.inside t n ⟨true, limit⟩).isAccepted) =
      alternatives.any fun t => (w.inside t n ⟨false, limit⟩).isAccepted := by
    rw [Bool.eq_iff_iff, List.any_eq_true, List.any_eq_true]
    constructor
    · intro hany
      obtain ⟨t, ht, h⟩ := hany
      exact ⟨t, ht, (hcalls t ht).isAccepted ▸ h⟩
    · intro hany
      obtain ⟨t, ht, h⟩ := hany
      exact ⟨t, ht, (hcalls t ht).isAccepted ▸ h⟩
  rw [outcome_firstAccepting, outcome_firstAccepting, hany]
  split <;> rfl

end Plan

open Plan in
theorem Shape.plan_agree {w : Replies} {limit : Nat} {s : Shape} {n : Node}
    (hplain : s.kind.isCustom = false)
    (hparts : ∀ t ∈ s.kind.parts, ∀ k, Near n k → Agree w limit t k)
    (htarget : ∀ name registry t, s.kind = .reference name registry →
      w.store.find registry name = .found t →
      (w.beyond t n ⟨true, limit⟩).issues = (w.beyond t n ⟨false, limit⟩).issues.take 1) :
    ((s.plan n ⟨true, limit⟩).outcome w).issues =
      ((s.plan n ⟨false, limit⟩).outcome w).issues.take 1 := by
  have hhere : ∀ t ∈ s.kind.parts, Agree w limit t n := fun t ht => hparts t ht n (Or.inl rfl)
  have hform := Shape.form_plan hplain n
  generalize s.plan n = plan at hform ⊢
  cases hform with
  | accept => rfl
  | refusal message code => rfl
  | children demands hd => exact gather_agree (hd ⟨true, limit⟩) hparts
  | union alternatives hk => exact firstAccepting_agree fun t ht => hhere t (by rwa [hk])
  | intersect members hk => exact gatherMembers_agree fun t ht => hhere t (by rwa [hk])
  | optional inner hk => exact hhere inner (by simp [hk, Kind.parts])
  | constraint underlying name refuses hk =>
    have hagree : Agree w limit underlying n := hhere underlying (by simp [hk, Kind.parts])
    rw [issues_constraint, issues_constraint, hagree.isAccepted]
    split
    · cases refuses n.value <;> rfl
    · exact hagree
  | reference name registry hk =>
    by_cases hlimit : limit ≤ w.depth
    · simp only [resolve, outcome, if_pos hlimit]
      rfl
    · rw [outcome_resolve _ _ _ _ _ (Nat.lt_of_not_le hlimit),
        outcome_resolve _ _ _ _ _ (Nat.lt_of_not_le hlimit)]
      cases hfind : w.store.find registry name with
      | dropped => rfl
      | missing => rfl
      | found t => exact htarget name registry t hk hfind

namespace Check

theorem answer_agree {store : Store} (limit : Nat) (g : Guard) (s : Shape) (n : Node)
    (hfree : store.CustomFree s) :
    (answer store g s n ⟨true, limit⟩).issues =
      (answer store g s n ⟨false, limit⟩).issues.take 1 := by
  revert hfree
  apply answer_induction store (P := fun g s n => store.CustomFree s →
    (answer store g s n ⟨true, limit⟩).issues = (answer store g s n ⟨false, limit⟩).issues.take 1)
  · intro g s n hopen _
    rw [answer_open hopen, answer_open hopen]
    rfl
  · intro g s n hnew hparts htarget hfree
    rw [answer_new hfree hnew, answer_new hfree hnew]
    apply Shape.plan_agree (hfree s .self)
    · exact fun t ht k hk => hparts t ht k hk (hfree.part ht)
    · exact fun name registry t hk ht => htarget name registry t hk ht (hfree.target hk ht)

end Check

namespace Shape

theorem validate_agree {store : Store} {shape : Shape} (hfree : store.CustomFree shape)
    (value : Json) (limit : Nat) :
    (shape.validate store value ⟨true, limit⟩).1.issues =
      (shape.validate store value ⟨false, limit⟩).1.issues.take 1 :=
  Check.answer_agree limit .fresh shape (.root value) hfree

/-- Stopping at the first failure gives the same verdict as going on, and its only issue is the
first one that going on reports. -/
theorem first_failure_agrees {store : Store} {shape : Shape} (hfree : store.CustomFree shape)
    (value : Json) :
    (∀ limit,
      (shape.validate store value ⟨true, limit⟩).1.isAccepted =
        (shape.validate store value ⟨false, limit⟩).1.isAccepted ∧
      ∀ fast complete, (shape.validate store value ⟨true, limit⟩).1 = .rejected fast →
        (shape.validate store value ⟨false, limit⟩).1 = .rejected complete →
        fast.issues = [complete.first]) ∧
    (shape.conforms store value).1 = (shape.validate store value .collectAll).1.isAccepted := by
  have hverdict : ∀ limit, (shape.validate store value ⟨true, limit⟩).1.isAccepted =
      (shape.validate store value ⟨false, limit⟩).1.isAccepted := by
    intro limit
    rw [Bool.eq_iff_iff, Outcome.isAccepted_iff, Outcome.isAccepted_iff,
      validate_agree hfree value limit]
    simp
  refine ⟨fun limit => ⟨hverdict limit, ?_⟩, hverdict 100⟩
  intro fast complete hfast hcomplete
  have hissues := validate_agree hfree value limit
  rw [hfast, hcomplete] at hissues
  exact hissues

theorem first_failure_agrees_tree :
    let value : Json := .object
      [("left", .object [("size", .string "one")]), ("size", .string "two")]
    (tree.validate .forest value ⟨true, 100⟩).1.issues =
      [⟨⟨[.field "left", .field "size"]⟩, "Expected number, but was string", "invalid_type"⟩] ∧
    (tree.validate .forest value ⟨false, 100⟩).1.issues.length = 2 ∧
    (tree.conforms .forest value).1 = (tree.validate .forest value .collectAll).1.isAccepted ∧
    ∀ limit fast complete, (tree.validate .forest value ⟨true, limit⟩).1 = .rejected fast →
      (tree.validate .forest value ⟨false, limit⟩).1 = .rejected complete →
      fast.issues = [complete.first] := by
  intro value
  have hagrees := first_failure_agrees Store.customFree_tree value
  have hfast : (tree.validate .forest value ⟨true, 100⟩).1.issues =
      [⟨⟨[.field "left", .field "size"]⟩, "Expected number, but was string", "invalid_type"⟩] :=
    issues_validate 20 (by decide)
  have hcomplete : (tree.validate .forest value ⟨false, 100⟩).1.issues =
      [⟨⟨[.field "left", .field "size"]⟩, "Expected number, but was string", "invalid_type"⟩,
        ⟨⟨[.field "size"]⟩, "Expected number, but was string", "invalid_type"⟩] :=
    issues_validate 20 (by decide)
  refine ⟨hfast, ?_, hagrees.2, fun limit => (hagrees.1 limit).2⟩
  rw [hcomplete]
  rfl

end Shape

end ShapeCheck
