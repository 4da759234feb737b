import ShapeCheck.Proofs.Answers

namespace ShapeCheck

theorem Outcome.isAccepted_iff (x : Outcome) : x.isAccepted = true ↔ x.issues = [] := by
  cases x with
  | accepted n => simp [isAccepted, issues]
  | rejected f => simp [isAccepted, issues, Failure.issues]

theorem Failure.issues_ne_nil (f : Failure) : f.issues ≠ [] := by simp [issues]

namespace Plan

/-- What is reported of the issues found place by place: all of them, or those of the first place
that has any. -/
def reported (failFast : Bool) : List (List Issue) → List Issue
  | [] => []
  | is :: rest =>
    if failFast && !is.isEmpty then is else is ++ reported failFast rest

theorem reported_eq_nil (failFast : Bool) (found : List (List Issue)) :
    reported failFast found = [] ↔ ∀ is ∈ found, is = [] := by
  induction found with
  | nil => simp [reported]
  | cons is rest ih =>
    cases is with
    | nil => simp [reported, ih]
    | cons i is => cases failFast <;> simp [reported]

theorem reported_nil (failFast : Bool) (rest : List (List Issue)) :
    reported failFast ([] :: rest) = reported failFast rest := by simp [reported]

theorem reported_cons (failFast : Bool) {is : List Issue} (h : is ≠ [])
    (rest : List (List Issue)) : reported failFast (is :: rest) =
      if failFast then is else is ++ reported failFast rest := by
  have hempty : is.isEmpty = false := by cases is <;> simp at h ⊢
  simp [reported, hempty]

theorem mem_reported_cons {failFast : Bool} {is : List Issue} {rest : List (List Issue)} {e : Issue}
    (h : e ∈ reported failFast (is :: rest)) :
    e ∈ is ∨ (failFast = false ∨ is = []) ∧ e ∈ reported failFast rest := by
  cases is with
  | nil => exact Or.inr ⟨Or.inr rfl, by simpa [reported_nil] using h⟩
  | cons i is =>
    cases failFast with
    | true => exact Or.inl (by simpa [reported] using h)
    | false =>
      rw [reported_cons false (List.cons_ne_nil i is)] at h
      exact (List.mem_append.1 h).imp_right fun h => ⟨Or.inl rfl, h⟩

theorem reported_take (found : List (List Issue)) :
    reported true (found.map (·.take 1)) = (reported false found).take 1 := by
  induction found with
  | nil => rfl
  | cons is rest ih =>
    cases is with
    | nil => simpa [reported] using ih
    | cons i is => simp [reported]

def Demand.issues (reply : Shape → Node → Outcome) : Demand → List Issue
  | .conforms place s n => (reply s n).issues.map (·.under place)
  | .missing place s => [missingField place s]

variable (w : Replies)

theorem outcome_gather (o : Options) (demands : List Demand) (next : List Issue → Plan) :
    (gather o demands next).outcome w =
      (next (reported o.failFast (demands.map (Demand.issues fun s n => w.inside s n o)))).outcome
        w := by
  induction demands generalizing next with
  | nil => rfl
  | cons d rest ih =>
    rw [List.map_cons]
    cases d with
    | conforms place s n =>
      rw [gather, outcome, Demand.issues]
      cases w.inside s n o with
      | accepted k =>
        rw [Outcome.issues, List.map_nil, reported_nil]
        exact ih next
      | rejected f =>
        have hne : f.issues.map (·.under place) ≠ [] := by simp [f.issues_ne_nil]
        rw [Outcome.issues, reported_cons _ hne]
        dsimp only
        split
        · rfl
        · exact ih _
    | missing place s =>
      have hne : [missingField place s] ≠ [] := by simp
      rw [gather, Demand.issues, reported_cons _ hne]
      split
      · rfl
      · exact ih _

theorem outcome_gatherMembers (o : Options) (n : Node) (members : List Shape)
    (next : List Issue → Plan) :
    (gatherMembers o n members next).outcome w =
      (next (reported o.failFast (members.map fun s => (w.inside s n o).issues))).outcome w := by
  induction members generalizing next with
  | nil => rfl
  | cons s rest ih =>
    rw [List.map_cons, gatherMembers, outcome]
    cases w.inside s n o with
    | accepted k =>
      rw [Outcome.issues, reported_nil]
      exact ih next
    | rejected f =>
      rw [Outcome.issues, reported_cons _ f.issues_ne_nil]
      dsimp only
      split
      · rfl
      · exact ih _

theorem outcome_firstAccepting (o : Options) (n : Node) (union : Shape)
    (alternatives : List Shape) :
    (firstAccepting o n union alternatives).outcome w =
      if alternatives.any fun s => (w.inside s n o).isAccepted then .accepted n
      else (mismatch union.text n "no_match").outcome w := by
  induction alternatives with
  | nil => rfl
  | cons s rest ih =>
    rw [firstAccepting, outcome, List.any_cons]
    cases w.inside s n o with
    | accepted k => rfl
    | rejected f => exact ih

theorem issues_constraint (o : Options) (n : Node) (underlying : Shape)
    (refuses : Json → Option String) :
    ((call .watched underlying n o (narrow refuses n)).outcome w).issues =
      if (w.inside underlying n o).isAccepted then
        (refuses n.value).toList.map (Issue.atRoot · "constraint")
      else (w.inside underlying n o).issues := by
  rw [outcome]
  cases w.inside underlying n o with
  | accepted k =>
    simp only [narrow, outcome, Outcome.isAccepted, if_true]
    cases refuses n.value <;> rfl
  | rejected f => rfl

theorem outcome_resolve (o : Options) (n : Node) (name : String) (registry : RegistryId)
    (hdepth : w.depth < o.depthLimit) :
    (resolve o n name registry).outcome w =
      match w.store.find registry name with
      | .dropped =>
        .refuse ("Reference to '" ++ name ++ "' outlived its registry") "missing_registry"
      | .missing => .refuse ("Runtype '" ++ name ++ "' is not registered") "missing_reference"
      | .found t => w.beyond t n o := by
  have hlimit : ¬o.depthLimit ≤ w.depth := by omega
  rw [resolve, outcome, if_neg hlimit, outcome]
  cases w.store.find registry name <;> rfl

theorem exec_resolve (call : Call) {r : Run} {o : Options} (n : Node) (name : String)
    (registry : RegistryId) (hdepth : r.guard.referenceDepth < o.depthLimit) :
    (resolve o n name registry).exec call r =
      match r.store.find registry name with
      | .dropped =>
        some (.refuse ("Reference to '" ++ name ++ "' outlived its registry") "missing_registry", r)
      | .missing =>
        some (.refuse ("Runtype '" ++ name ++ "' is not registered") "missing_reference", r)
      | .found t =>
        (call .watched t n o (r.mapGuard .descend)).map fun x => (x.1, x.2.mapGuard .ascend) := by
  have hlimit : ¬o.depthLimit ≤ r.guard.referenceDepth := Nat.not_le_of_lt hdepth
  rw [resolve, exec, if_neg hlimit, exec]
  cases r.store.find registry name with
  | dropped => rfl
  | missing => rfl
  | found t =>
    change (follow t n o .done).exec call r = _
    rw [exec]
    dsimp only
    cases call .watched t n o (r.mapGuard .descend) <;> rfl

/-- The plans that there are without users' checks. -/
inductive Form (s : Shape) (n : Node) : (Options → Plan) → Prop
  | accept : Form s n fun _ => .done (.accepted n)
  | refusal (message code : String) : Form s n fun _ => refuse message code
  | children (demands : List Demand)
      (hd : ∀ o, ∀ d ∈ demands, d.Confined (scopeOf s n o)) :
      Form s n fun o => gather o demands (settle n)
  | union (alternatives : List Shape) (hk : s.kind = .union alternatives) :
      Form s n fun o => firstAccepting o n s alternatives
  | intersect (members : List Shape) (hk : s.kind = .intersect members) :
      Form s n fun o => gatherMembers o n members (settle n)
  | optional (inner : Shape) (hk : s.kind = .optional inner) :
      Form s n fun o => .call .watched inner n o .done
  | constraint (underlying : Shape) (name : Option String) (refuses : Json → Option String)
      (hk : s.kind = .constraint underlying name refuses) :
      Form s n fun o => .call .watched underlying n o (narrow refuses n)
  | reference (name : String) (registry : RegistryId) (hk : s.kind = .reference name registry) :
      Form s n fun o => resolve o n name registry

end Plan

open Plan in
theorem Shape.form_plan {s : Shape} (hplain : s.kind.isCustom = false) (n : Node) :
    Form s n (s.plan n) := by
  have hpart : ∀ o, ∀ t ∈ s.kind.parts, (scopeOf s n o).shapes t := fun _ _ h => h
  have hchild : ∀ o c, n.IsChild c → (scopeOf s n o).nodes c := fun _ _ h => Or.inr h
  have hplan : s.plan n = fun o => s.plan n o := rfl
  rw [hplan]
  unfold Shape.plan
  cases hk : s.kind with
  | unknown => exact .accept
  | never => exact .refusal _ _
  | boolean =>
    dsimp only
    split
    · exact .accept
    · exact .refusal _ _
  | number =>
    dsimp only
    split
    · exact .accept
    · exact .refusal _ _
  | string =>
    dsimp only
    split
    · exact .accept
    · exact .refusal _ _
  | literal v =>
    dsimp only
    split
    · exact .accept
    · exact .refusal _ _
  | array element isReadonly =>
    cases hi : n.items? with
    | none => exact .refusal _ _
    | some items =>
      refine .children _ fun o => confined_itemDemands (hpart o _ ?_) fun p c h => ?_
      · simp [hk, Kind.parts]
      · exact hchild o c ((Node.isChild_iff_items hi).2 ⟨_, h⟩)
  | tuple elements =>
    cases hi : n.items? with
    | none => exact .refusal _ _
    | some items =>
      dsimp only
      split
      · refine .children _ fun o => confined_pairDemands (fun t ht => hpart o t ?_) fun p c h => ?_
        · rwa [hk]
        · exact hchild o c ((Node.isChild_iff_items hi).2 ⟨_, h⟩)
      · exact .refusal _ _
  | record fields isPartial =>
    cases hm : n.members? with
    | none => exact .refusal _ _
    | some members =>
      refine .children _ fun o => confined_fieldDemands (fun f hf => hpart o f.2 ?_) (hchild o)
      rw [hk]
      exact List.mem_map_of_mem hf
  | dictionary value =>
    cases hm : n.members? with
    | none => exact .refusal _ _
    | some members =>
      refine .children _ fun o => confined_itemDemands (hpart o _ ?_) fun p c h => ?_
      · simp [hk, Kind.parts]
      · exact hchild o c ((Node.isChild_iff_members hm).2 ⟨_, h⟩)
  | union alternatives => exact .union alternatives hk
  | intersect members => exact .intersect members hk
  | optional inner => exact .optional inner hk
  | constraint underlying name refuses => exact .constraint underlying name refuses hk
  | reference name registry => exact .reference name registry hk
  | custom _ _ _ _ => simp [hk, Kind.isCustom] at hplain

end ShapeCheck
