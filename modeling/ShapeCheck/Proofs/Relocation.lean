import ShapeCheck.Proofs.Containers

namespace ShapeCheck

/-- The place `p` of a part, when the value itself lies at `base`. -/
def Position.onto (p base : Position) : Position :=
  ⟨p.depth + base.depth, p.trail ++ base.trail, by simp [p.depth_eq, base.depth_eq]⟩

theorem Position.root_onto (base : Position) : Position.root.onto base = base :=
  ext_trail rfl

theorem Position.child_onto (p base : Position) (s : Segment) :
    (p.child s).onto base = (p.onto base).child s :=
  ext_trail rfl

theorem Position.onto_inj {p q base : Position} : p.onto base = q.onto base ↔ p = q := by
  constructor
  · intro h
    exact ext_trail (List.append_cancel_right (congrArg Position.trail h))
  · intro h
    rw [h]

namespace Node

def onto (n : Node) (base : Position) : Node := ⟨n.position.onto base, n.value⟩

theorem root_onto (value : Json) (base : Position) : (root value).onto base = ⟨base, value⟩ := by
  rw [onto, root, Position.root_onto]

theorem down_onto (n : Node) (base : Position) (s : Segment) (value : Json) :
    (n.onto base).down s value = (n.down s value).onto base := by
  rw [down, down, onto, onto, Position.child_onto]

theorem itemsFrom_onto (n : Node) (base : Position) (i : Nat) (values : List Json) :
    (n.onto base).itemsFrom i values =
      (n.itemsFrom i values).map fun item => (item.1, item.2.onto base) := by
  induction values generalizing i with
  | nil => rfl
  | cons v rest ih => rw [itemsFrom, itemsFrom, List.map_cons, ih, down_onto]

theorem items?_onto (n : Node) (base : Position) :
    (n.onto base).items? = n.items?.map (·.map fun item => (item.1, item.2.onto base)) := by
  have hvalue : (n.onto base).value = n.value := rfl
  unfold items?
  rw [hvalue]
  cases n.value with
  | array values => exact congrArg some (n.itemsFrom_onto base 0 values)
  | _ => rfl

theorem members?_onto (n : Node) (base : Position) :
    (n.onto base).members? = n.members?.map (·.map fun item => (item.1, item.2.onto base)) := by
  have hvalue : (n.onto base).value = n.value := rfl
  unfold members?
  rw [hvalue]
  cases n.value with
  | object values =>
    simp only [Option.map_some, List.map_map, down_onto]
    rfl
  | _ => rfl

theorem child?_onto (n : Node) (base : Position) (s : Segment) :
    (n.onto base).child? s = (n.child? s).map (·.onto base) := by
  have hdown : (n.onto base).down s = (·.onto base) ∘ n.down s := funext (n.down_onto base s)
  cases s <;> simp only [child?, Option.map_map, hdown] <;> rfl

end Node

theorem Outcome.isAccepted_congr {x y : Outcome} (h : x.issues = y.issues) :
    x.isAccepted = y.isAccepted := by
  rw [Bool.eq_iff_iff, isAccepted_iff, isAccepted_iff, h]

namespace Plan

def Demand.onto (base : Position) : Demand → Demand
  | .conforms place s n => .conforms place s (n.onto base)
  | .missing place s => .missing place s

theorem itemDemands_onto (base : Position) (element : Shape) (items : List (Segment × Node)) :
    itemDemands element (items.map fun item => (item.1, item.2.onto base)) =
      (itemDemands element items).map (·.onto base) := by
  rw [itemDemands, itemDemands, List.map_map, List.map_map]
  rfl

theorem pairDemands_onto (base : Position) (elements : List Shape) (items : List (Segment × Node)) :
    pairDemands elements (items.map fun item => (item.1, item.2.onto base)) =
      (pairDemands elements items).map (·.onto base) := by
  rw [pairDemands, pairDemands, List.zip_map_right, List.map_map, List.map_map]
  rfl

theorem fieldDemands_onto (base : Position) (isPartial : Bool) (n : Node)
    (fields : List (String × Shape)) :
    fieldDemands isPartial (n.onto base) fields =
      (fieldDemands isPartial n fields).map (·.onto base) := by
  induction fields with
  | nil => rfl
  | cons f rest ih =>
    obtain ⟨name, s⟩ := f
    rw [fieldDemands, fieldDemands, Node.child?_onto]
    cases n.child? (.field name) with
    | some c => rw [Option.map_some, List.map_cons, ih]; rfl
    | none =>
      dsimp only [Option.map_none]
      split
      · exact ih
      · rw [List.map_cons, ih]; rfl

theorem demands?_onto (base : Position) (kind : Kind) (n : Node) :
    kind.demands? (n.onto base) = (kind.demands? n).map (·.map (·.onto base)) := by
  cases kind with
  | array element isReadonly =>
    simp only [Kind.demands?, Node.items?_onto, Option.map_map]
    congr 1
    exact funext (itemDemands_onto base element)
  | tuple elements =>
    simp only [Kind.demands?, Node.items?_onto, Option.filter_map, Option.map_map]
    simp only [Function.comp_def, List.length_map, pairDemands_onto]
  | record fields isPartial =>
    simp only [Kind.demands?, Node.members?_onto, Option.map_map]
    simp only [Function.comp_def, fieldDemands_onto]
  | dictionary value =>
    simp only [Kind.demands?, Node.members?_onto, Option.map_map]
    congr 1
    exact funext (itemDemands_onto base value)
  | _ => rfl

/-- The replies to the same questions about the place below `base`: the same issues. -/
structure Replies.Relocated (base : Position) (o : Options) (s : Shape) (n : Node)
    (w w' : Replies) : Prop where
  depth : w'.depth = w.depth
  store : w'.store = w.store
  parts : ∀ t ∈ s.kind.parts, ∀ k, Near n k →
    (w'.inside t (k.onto base) o).issues = (w.inside t k o).issues
  target : ∀ name registry t, s.kind = .reference name registry →
    w.store.find registry name = .found t →
    (w'.beyond t (n.onto base) o).issues = (w.beyond t n o).issues

variable {base : Position} {o : Options} {s : Shape} {n : Node} {w w' : Replies}

theorem gather_onto {demands : List Demand} (hd : ∀ d ∈ demands, d.Confined (scopeOf s n o))
    (h : Replies.Relocated base o s n w w') :
    ((gather o (demands.map (·.onto base)) (settle (n.onto base))).outcome w').issues =
      ((gather o demands (settle n)).outcome w).issues := by
  have hissues : (demands.map (·.onto base)).map (Demand.issues fun t k => w'.inside t k o) =
      demands.map (Demand.issues fun t k => w.inside t k o) := by
    rw [List.map_map]
    apply List.map_congr_left
    intro d hmem
    cases d with
    | conforms place t k =>
      have hconf := hd _ hmem
      simp only [Function.comp_apply, Demand.onto, Demand.issues]
      rw [h.parts t hconf.1 k hconf.2]
    | missing place t => rfl
  rw [outcome_gather, outcome_gather, hissues]
  simp only [settle, outcome, Outcome.issues_ofIssues]

theorem gatherMembers_onto {members : List Shape}
    (hcalls : ∀ t ∈ members, (w'.inside t (n.onto base) o).issues = (w.inside t n o).issues) :
    ((gatherMembers o (n.onto base) members (settle (n.onto base))).outcome w').issues =
      ((gatherMembers o n members (settle n)).outcome w).issues := by
  rw [outcome_gatherMembers, outcome_gatherMembers, List.map_congr_left hcalls]
  simp only [settle, outcome, Outcome.issues_ofIssues]

theorem firstAccepting_onto {union : Shape} {alternatives : List Shape}
    (hcalls : ∀ t ∈ alternatives, (w'.inside t (n.onto base) o).issues = (w.inside t n o).issues) :
    ((firstAccepting o (n.onto base) union alternatives).outcome w').issues =
      ((firstAccepting o n union alternatives).outcome w).issues := by
  have hany : (alternatives.any fun t => (w'.inside t (n.onto base) o).isAccepted) =
      alternatives.any fun t => (w.inside t n o).isAccepted := by
    rw [Bool.eq_iff_iff, List.any_eq_true, List.any_eq_true]
    exact exists_congr fun t => and_congr_right fun ht => by
      rw [Outcome.isAccepted_congr (hcalls t ht)]
  rw [outcome_firstAccepting, outcome_firstAccepting, hany]
  split <;> rfl

end Plan

open Plan in
theorem Shape.plan_onto {base : Position} {o : Options} {s : Shape} {n : Node} {w w' : Replies}
    (hplain : s.kind.isCustom = false) (h : Replies.Relocated base o s n w w') :
    ((s.plan (n.onto base) o).outcome w').issues = ((s.plan n o).outcome w).issues := by
  have hhere : ∀ t ∈ s.kind.parts, (w'.inside t (n.onto base) o).issues = (w.inside t n o).issues :=
    fun t ht => h.parts t ht n (Or.inl rfl)
  have hvalue : (n.onto base).value = n.value := rfl
  cases hd : s.kind.demands? n with
  | some demands =>
    have hmoved : s.kind.demands? (n.onto base) = some (demands.map (·.onto base)) := by
      rw [demands?_onto, hd]
      rfl
    rw [plan_of_demands hd, plan_of_demands hmoved]
    exact gather_onto (fun d hmem => (Kind.inward_of_demands hd d hmem).confined o) h
  | none =>
    unfold Shape.plan
    rw [hvalue]
    cases hk : s.kind with
    | unknown => rfl
    | never => rfl
    | boolean => cases n.value <;> rfl
    | number => cases n.value <;> rfl
    | string => cases n.value <;> rfl
    | literal v => dsimp only; split <;> rfl
    | array element isReadonly =>
      have hitems : n.items? = none := by simpa [hk, Kind.demands?] using hd
      rw [Node.items?_onto, hitems]
      rfl
    | tuple elements =>
      rw [Node.items?_onto]
      cases hitems : n.items? with
      | none => rfl
      | some items =>
        have hlength : items.length ≠ elements.length := by
          simpa [hk, Kind.demands?, hitems] using hd
        simp only [Option.map_some, List.length_map, if_neg hlength]
        rfl
    | record fields isPartial =>
      have hmembers : n.members? = none := by simpa [hk, Kind.demands?] using hd
      rw [Node.members?_onto, hmembers]
      rfl
    | dictionary value =>
      have hmembers : n.members? = none := by simpa [hk, Kind.demands?] using hd
      rw [Node.members?_onto, hmembers]
      rfl
    | union alternatives => exact firstAccepting_onto fun t ht => hhere t (by rwa [hk])
    | intersect members => exact gatherMembers_onto fun t ht => hhere t (by rwa [hk])
    | optional inner => exact hhere inner (by simp [hk, Kind.parts])
    | constraint underlying name refuses =>
      have hin := hhere underlying (by simp [hk, Kind.parts])
      dsimp only
      rw [issues_constraint, issues_constraint, Outcome.isAccepted_congr hin, hin]
      rfl
    | reference name registry =>
      by_cases hlimit : o.depthLimit ≤ w.depth
      · simp only [resolve, outcome, h.depth, if_pos hlimit]
        rfl
      · dsimp only
        rw [outcome_resolve _ _ _ _ _ (Nat.lt_of_not_le hlimit),
          outcome_resolve _ _ _ _ _ (h.depth ▸ Nat.lt_of_not_le hlimit), h.store]
        cases hfind : w.store.find registry name with
        | dropped => rfl
        | missing => rfl
        | found t => exact h.target name registry t hk hfind
    | custom _ _ _ _ => simp [hk, Kind.isCustom] at hplain

/-- The second guard has at the places below `base` what the first has at the places below the
root. -/
structure Guard.Relocated (base : Position) (g g' : Guard) : Prop where
  depth : g'.referenceDepth = g.referenceDepth
  entry : ∀ i p, ⟨i, p.onto base⟩ ∈ g'.inProgress ↔ ⟨i, p⟩ ∈ g.inProgress

namespace Guard.Relocated

variable {base : Position} {g g' : Guard}

theorem enter (h : Relocated base g g') (i : Identity) (p : Position) :
    Relocated base (g.enter ⟨i, p⟩) (g'.enter ⟨i, p.onto base⟩) := by
  refine ⟨h.depth, fun j q => ?_⟩
  simp only [Guard.enter, List.mem_cons, h.entry, Entry.mk.injEq, Position.onto_inj]

theorem descend (h : Relocated base g g') : Relocated base g.descend g'.descend :=
  ⟨congrArg (· + 1) h.depth, h.entry⟩

end Guard.Relocated

namespace Check

/-- The issues of a node do not depend on its place, nor on what is in progress elsewhere. -/
theorem issues_answer_onto {store : Store} {base : Position} (o : Options) (g : Guard) (s : Shape)
    (n : Node) : store.CustomFree s → ∀ g', Guard.Relocated base g g' →
      (answer store g' s (n.onto base) o).issues = (answer store g s n o).issues := by
  apply answer_induction store (P := fun g s n => store.CustomFree s → ∀ g',
    Guard.Relocated base g g' →
      (answer store g' s (n.onto base) o).issues = (answer store g s n o).issues)
  · intro g s n hopen _ g' h
    rw [answer_open hopen, answer_open ((h.entry s.id n.position).2 hopen)]
    rfl
  · intro g s n hnew hparts htarget hfree g' h
    have hnew' : ⟨s.id, (n.onto base).position⟩ ∉ g'.inProgress :=
      fun hin => hnew ((h.entry s.id n.position).1 hin)
    have hentered := h.enter s.id n.position
    rw [answer_new hfree hnew, answer_new hfree hnew']
    apply Shape.plan_onto (hfree s .self)
    exact {
      depth := hentered.depth
      store := rfl
      parts := fun t ht k hk => hparts t ht k hk (hfree.part ht) _ hentered
      target := fun name registry t hk ht =>
        htarget name registry t hk ht (hfree.target hk ht) _ hentered.descend }

end Check

/-- A node on which nothing is in progress, and nothing further down either, has the issues that its
value has on its own. -/
theorem Shape.issues_validate_eq_answer {store : Store} {s : Shape} (hfree : store.CustomFree s)
    {g : Guard} {base : Position} (hdepth : g.referenceDepth = 0)
    (hclear : ∀ i (p : Position), ⟨i, p.onto base⟩ ∉ g.inProgress) (value : Json) (o : Options) :
    (s.validate store value o).1.issues = (Check.answer store g s ⟨base, value⟩ o).issues := by
  have hmoved : Guard.Relocated base .fresh g :=
    ⟨hdepth, fun i p => iff_of_false (hclear i p) List.not_mem_nil⟩
  have hissues := Check.issues_answer_onto o .fresh s (.root value) hfree g hmoved
  rw [Node.root_onto] at hissues
  exact hissues.symm

end ShapeCheck
