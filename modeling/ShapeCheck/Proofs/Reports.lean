import ShapeCheck.Proofs.Containers

namespace ShapeCheck

namespace Issue

def notRegistered (name : String) : String := "Runtype '" ++ name ++ "' is not registered"

/-- The codes of issues that a check has with a node by itself, but for a name that is missing. -/
def ownCodes : List String :=
  ["literal_mismatch", "tuple_length", "constraint", "max_depth_exceeded", "missing_registry"] ++
    mismatchCodes

end Issue

namespace Plan

/-- The issues that a check of the shape on the node may report, given the replies to its calls. -/
inductive Report (w : Replies) (o : Options) (s : Shape) (n : Node) : List Issue → Prop
  | nothing : Report w o s n []
  | own (message : String) {code : String} (hcode : code ∈ Issue.ownCodes) :
      Report w o s n [.atRoot message code]
  | missingName {name : String} {registry : RegistryId} (hk : s.kind = .reference name registry)
      (hmissing : w.store.find registry name = .missing) :
      Report w o s n [.atRoot (Issue.notRegistered name) "missing_reference"]
  | children {demands : List Demand} (hd : s.kind.demands? n = some demands) :
      Report w o s n
        (reported o.failFast (demands.map (Demand.issues fun t k => w.inside t k o)))
  | members {members : List Shape} (hk : s.kind = .intersect members) :
      Report w o s n (reported o.failFast (members.map fun t => (w.inside t n o).issues))
  | part {t : Shape} (ht : t ∈ s.kind.parts) : Report w o s n (w.inside t n o).issues
  | target {name : String} {registry : RegistryId} {t : Shape}
      (hk : s.kind = .reference name registry)
      (ht : w.store.find registry name = .found t) : Report w o s n (w.beyond t n o).issues

variable {w : Replies} {o : Options} {s : Shape} {n : Node}

theorem report_constraint {underlying : Shape} {refuses : Json → Option String}
    (ht : underlying ∈ s.kind.parts) :
    Report w o s n ((call .watched underlying n o (narrow refuses n)).outcome w).issues := by
  rw [issues_constraint]
  split
  · cases refuses n.value with
    | none => exact .nothing
    | some message => exact .own message (by decide)
  · exact .part ht

theorem report_resolve {name : String} {registry : RegistryId}
    (hk : s.kind = .reference name registry) :
    Report w o s n ((resolve o n name registry).outcome w).issues := by
  by_cases hlimit : o.depthLimit ≤ w.depth
  · simp only [resolve, outcome, if_pos hlimit]
    exact .own _ (by decide)
  · rw [outcome_resolve _ _ _ _ _ (Nat.lt_of_not_le hlimit)]
    cases hfind : w.store.find registry name with
    | dropped => exact .own _ (by decide)
    | missing => exact .missingName hk hfind
    | found t => exact .target hk hfind

end Plan

open Plan in
theorem Shape.report_plan {w : Replies} {o : Options} {s : Shape} {n : Node}
    (hplain : s.kind.isCustom = false) : Report w o s n ((s.plan n o).outcome w).issues := by
  cases hd : s.kind.demands? n with
  | some demands =>
    rw [plan_of_demands hd, outcome_gather, settle, outcome, Outcome.issues_ofIssues]
    exact .children hd
  | none =>
    have hshallow := shallow_plan hplain hd
    generalize s.plan n = plan at hshallow ⊢
    cases hshallow with
    | accept => exact .nothing
    | mismatch expected hcode => exact .own _ (List.mem_append_right _ hcode)
    | literal message => exact .own message (by decide)
    | length start hvalue => exact .own _ (by decide)
    | union alternatives hk =>
      rw [outcome_firstAccepting]
      split
      · exact .nothing
      · exact .own _ (by decide)
    | intersect members hk =>
      rw [outcome_gatherMembers, settle, outcome, Outcome.issues_ofIssues]
      exact .members hk
    | optional inner hk => exact .part (by simp [hk, Kind.parts])
    | constraint underlying label refuses hk => exact report_constraint (by simp [hk, Kind.parts])
    | reference name registry hk => exact report_resolve hk

end ShapeCheck
