import ShapeCheck.Proofs.Conformance

namespace ShapeCheck

namespace Plan

def Demand.Met (inside : Shape → Node → Prop) : Demand → Prop
  | .conforms _ s n => inside s n
  | .missing _ _ => False

theorem Demand.Met.imp {inside inside' : Shape → Node → Prop} {d : Demand} (h : d.Met inside)
    (himp : ∀ place s n, d = .conforms place s n → inside s n → inside' s n) : d.Met inside' := by
  cases d with
  | conforms place s n => exact himp place s n rfl h
  | missing place s => exact h

theorem Demand.issues_eq_nil_iff {reply : Shape → Node → Outcome} (d : Demand) :
    d.issues reply = [] ↔ d.Met fun t k => (reply t k).isAccepted = true := by
  cases d with
  | conforms place s n =>
    rw [issues, List.map_eq_nil_iff, Met, Outcome.isAccepted_iff]
  | missing place s => simp [issues, Met]

theorem met_itemDemands {inside : Shape → Node → Prop} {element : Shape}
    {items : List (Segment × Node)} :
    (∀ d ∈ itemDemands element items, d.Met inside) ↔
      ∀ c, (∃ place, (place, c) ∈ items) → inside element c := by
  constructor
  · intro h c hplace
    obtain ⟨place, hc⟩ := hplace
    exact h (.conforms place element c) (List.mem_map.2 ⟨(place, c), hc, rfl⟩)
  · intro h d hd
    obtain ⟨⟨place, c⟩, hc, rfl⟩ := List.mem_map.1 hd
    exact h c ⟨place, hc⟩

theorem met_pairDemands {inside : Shape → Node → Prop} {elements : List Shape} {n : Node}
    {items : List (Segment × Node)} (hitems : n.items? = some items) :
    (∀ d ∈ pairDemands elements items, d.Met inside) ↔
      ∀ i e c, elements[i]? = some e → n.child? (.index i) = some c → inside e c := by
  constructor
  · intro h i e c he hc
    have hitem : items[i]? = some (.index i, c) := by rw [Node.getElem?_items hitems, hc]; rfl
    have hzip : (elements.zip items)[i]? = some (e, .index i, c) :=
      List.getElem?_zip_eq_some.2 ⟨he, hitem⟩
    exact h (.conforms (.index i) e c) (List.mem_map.2 ⟨_, List.mem_of_getElem? hzip, rfl⟩)
  · intro h d hd
    obtain ⟨⟨e, place, c⟩, hmem, rfl⟩ := List.mem_map.1 hd
    obtain ⟨i, hi⟩ := List.mem_iff_getElem?.1 hmem
    obtain ⟨he, hitem⟩ := List.getElem?_zip_eq_some.1 hi
    rw [Node.getElem?_items hitems] at hitem
    obtain ⟨k, hk, hpair⟩ := Option.map_eq_some_iff.1 hitem
    cases hpair
    exact h i e c he hk

theorem met_fieldDemands {inside : Shape → Node → Prop} {isPartial : Bool} {n : Node}
    {fields : List (String × Shape)} :
    (∀ d ∈ fieldDemands isPartial n fields, d.Met inside) ↔
      ∀ f ∈ fields, (∃ c, n.child? (.field f.1) = some c ∧ inside f.2 c) ∨
        n.child? (.field f.1) = none ∧ f.2.mayLack isPartial = true := by
  induction fields with
  | nil => simp [fieldDemands]
  | cons f rest ih =>
    obtain ⟨name, s⟩ := f
    rw [fieldDemands, List.forall_mem_cons]
    cases n.child? (.field name) with
    | some c =>
      rw [List.forall_mem_cons, ih]
      simp [Demand.Met]
    | none =>
      dsimp only
      split
      · rename_i hlack
        simp [hlack, ih]
      · rename_i hlack
        simp [hlack, Demand.Met]

variable {w : Replies} {o : Options} {n : Node}

@[simp] theorem accepted_isAccepted (k : Node) :
    ((done (.accepted k)).outcome w).isAccepted = true := rfl

@[simp] theorem refuse_isAccepted (message code : String) :
    ((refuse message code).outcome w).isAccepted = false := rfl

@[simp] theorem mismatch_isAccepted (expected : String) (code : String) :
    ((mismatch expected n code).outcome w).isAccepted = false := rfl

@[simp] theorem wrongType_isAccepted (expected : String) :
    ((wrongType expected n).outcome w).isAccepted = false := rfl

theorem gather_isAccepted_iff {demands : List Demand} :
    ((gather o demands (settle n)).outcome w).isAccepted = true ↔
      ∀ d ∈ demands, d.Met fun t k => (w.inside t k o).isAccepted = true := by
  rw [outcome_gather, Outcome.isAccepted_iff, settle, outcome, Outcome.issues_ofIssues,
    reported_eq_nil, List.forall_mem_map]
  simp only [Demand.issues_eq_nil_iff]

theorem gatherMembers_isAccepted_iff {members : List Shape} :
    ((gatherMembers o n members (settle n)).outcome w).isAccepted = true ↔
      ∀ t ∈ members, (w.inside t n o).isAccepted = true := by
  rw [outcome_gatherMembers, Outcome.isAccepted_iff, settle, outcome, Outcome.issues_ofIssues,
    reported_eq_nil, List.forall_mem_map]
  simp only [Outcome.isAccepted_iff]

theorem firstAccepting_isAccepted_iff {union : Shape} {alternatives : List Shape} :
    ((firstAccepting o n union alternatives).outcome w).isAccepted = true ↔
      ∃ t ∈ alternatives, (w.inside t n o).isAccepted = true := by
  rw [outcome_firstAccepting]
  split
  · rename_i hany
    simpa [Outcome.isAccepted] using hany
  · rename_i hany
    simpa using hany

theorem constraint_isAccepted_iff {underlying : Shape} {refuses : Json → Option String} :
    ((call .watched underlying n o (narrow refuses n)).outcome w).isAccepted = true ↔
      (w.inside underlying n o).isAccepted = true ∧ refuses n.value = none := by
  rw [Outcome.isAccepted_iff, issues_constraint]
  split
  · rename_i hin
    simp [hin]
  · rename_i hin
    have hissues : (w.inside underlying n o).issues ≠ [] :=
      fun h => hin ((Outcome.isAccepted_iff _).2 h)
    simp [hin, hissues]

theorem resolve_isAccepted_iff {name : String} {registry : RegistryId}
    (hdepth : w.depth < o.depthLimit) :
    ((resolve o n name registry).outcome w).isAccepted = true ↔
      ∃ t, w.store.find registry name = .found t ∧ (w.beyond t n o).isAccepted = true := by
  rw [outcome_resolve w o n name registry hdepth]
  cases w.store.find registry name with
  | dropped => simp [Outcome.refuse, Outcome.isAccepted]
  | missing => simp [Outcome.refuse, Outcome.isAccepted]
  | found t => simp

end Plan

open Plan in
/-- One level: a shape accepts a node if what it asks has the rule of its kind. -/
theorem Shape.plan_isAccepted_iff {w : Replies} {o : Options} {s : Shape} {n : Node}
    (hdepth : w.depth < o.depthLimit) (hplain : s.kind.isCustom = false) :
    ((s.plan n o).outcome w).isAccepted = true ↔
      w.store.Rule (fun t k => (w.inside t k o).isAccepted = true)
        (fun t k => (w.beyond t k o).isAccepted = true) s n := by
  unfold Shape.plan Store.Rule
  cases hk : s.kind with
  | unknown => simp
  | never => simp
  | boolean => cases n.value <;> simp
  | number => cases n.value <;> simp
  | string => cases n.value <;> simp
  | literal v => cases hsame : v.same n.value <;> simp [hsame]
  | array element isReadonly =>
    cases hitems : n.items? with
    | none => simp [Node.items?_eq_none_iff.1 hitems]
    | some items =>
      obtain ⟨values, hvalue, -⟩ := Node.items?_eq_some hitems
      have harray : ∃ values, n.value = .array values := ⟨values, hvalue⟩
      dsimp only
      rw [gather_isAccepted_iff, met_itemDemands]
      simp only [Node.isChild_iff_items hitems, harray, true_and]
  | tuple elements =>
    cases hitems : n.items? with
    | none =>
      have hvalue := Node.items?_eq_none_iff.1 hitems
      simp only [wrongType_isAccepted, Bool.false_eq_true, false_iff]
      intro hrule
      obtain ⟨values, h, -⟩ := hrule
      exact hvalue ⟨values, h⟩
    | some items =>
      obtain ⟨values, hvalue, heq⟩ := Node.items?_eq_some hitems
      have hlength : items.length = values.length := by rw [heq, Node.length_itemsFrom]
      dsimp only
      split
      · rename_i hsize
        rw [gather_isAccepted_iff, met_pairDemands hitems]
        have hvalues : values.length = elements.length := hlength.symm.trans hsize
        constructor
        · intro h
          exact ⟨values, hvalue, hvalues, h⟩
        · intro hrule
          obtain ⟨_, _, _, h⟩ := hrule
          exact h
      · rename_i hsize
        simp only [refuse_isAccepted, Bool.false_eq_true, false_iff]
        intro hrule
        obtain ⟨values', h, hsize', -⟩ := hrule
        rw [hvalue] at h
        cases h
        exact hsize (hlength.trans hsize')
  | record fields isPartial =>
    cases hmembers : n.members? with
    | none => simp [Node.members?_eq_none_iff.1 hmembers]
    | some members =>
      obtain ⟨values, hvalue, -⟩ := Node.members?_eq_some hmembers
      have hobject : ∃ values, n.value = .object values := ⟨values, hvalue⟩
      dsimp only
      rw [gather_isAccepted_iff, met_fieldDemands]
      simp only [hobject, true_and]
  | dictionary value =>
    cases hmembers : n.members? with
    | none => simp [Node.members?_eq_none_iff.1 hmembers]
    | some members =>
      obtain ⟨values, hvalue, -⟩ := Node.members?_eq_some hmembers
      have hobject : ∃ values, n.value = .object values := ⟨values, hvalue⟩
      dsimp only
      rw [gather_isAccepted_iff, met_itemDemands]
      simp only [Node.isChild_iff_members hmembers, hobject, true_and]
  | union alternatives => exact firstAccepting_isAccepted_iff
  | intersect members => exact gatherMembers_isAccepted_iff
  | optional inner => rfl
  | constraint underlying name refuses => exact constraint_isAccepted_iff
  | reference name registry => exact resolve_isAccepted_iff hdepth
  | custom _ _ _ _ => simp [hk, Kind.isCustom] at hplain

end ShapeCheck
