import ShapeCheck.Proofs.Verdict

namespace ShapeCheck

namespace Store

/-- The identities of what is registered in the registries that references within reach name. -/
def registered (store : Store) (s : Shape) : Set Identity :=
  {i | ∃ t name registry, store.Reaches s t ∧ t.kind = .reference name registry ∧
    ∃ key u, store.find registry key = .found u ∧ u.id = i}

theorem finite_registered (store : Store) (s : Shape) : (store.registered s).Finite := by
  have hfin := ((Check.realm store s (.root .null)).shapes.map Shape.id).finite_toSet
  apply hfin.subset
  intro i hi
  obtain ⟨_, _, _, _, _, key, u, hu, rfl⟩ := hi
  exact List.mem_map_of_mem ((Check.within_realm store s (.root .null)).of_find hu)

end Store

noncomputable def Guard.openOf (g : Guard) (counted : Set Entry) : Nat :=
  {e | e ∈ g.inProgress ∧ e ∈ counted}.ncard

namespace Guard

theorem finite_openOf (g : Guard) (counted : Set Entry) :
    {e | e ∈ g.inProgress ∧ e ∈ counted}.Finite :=
  g.inProgress.finite_toSet.subset fun _ he => he.1

theorem openOf_enter_le (g : Guard) (counted : Set Entry) (e : Entry) :
    g.openOf counted ≤ (g.enter e).openOf counted := by
  apply Set.ncard_le_ncard _ ((g.enter e).finite_openOf counted)
  intro a ha
  exact ⟨List.mem_cons_of_mem _ ha.1, ha.2⟩

theorem openOf_enter_new (g : Guard) {counted : Set Entry} {e : Entry} (he : e ∈ counted)
    (hnew : e ∉ g.inProgress) : (g.enter e).openOf counted = g.openOf counted + 1 := by
  have hinsert : {a | a ∈ (g.enter e).inProgress ∧ a ∈ counted} =
      insert e {a | a ∈ g.inProgress ∧ a ∈ counted} := by
    ext a
    constructor
    · intro hmem
      obtain ⟨hin, ha⟩ := hmem
      rcases List.mem_cons.1 hin with rfl | hin
      · exact Or.inl rfl
      · exact Or.inr ⟨hin, ha⟩
    · intro hmem
      rcases hmem with rfl | ⟨hin, ha⟩
      · exact ⟨List.mem_cons_self, he⟩
      · exact ⟨List.mem_cons_of_mem _ hin, ha⟩
  rw [openOf, hinsert, Set.ncard_insert_of_notMem (fun h => hnew h.1) (g.finite_openOf counted),
    openOf]

theorem openOf_le (g : Guard) {counted : Set Entry} (hfin : counted.Finite) :
    g.openOf counted ≤ counted.ncard :=
  Set.ncard_le_ncard (fun _ he => he.2) hfin

end Guard

/-- A call that a check of the shape on the value comes to. Each open reference has put an entry of
its target in progress, but for the one that makes this call, whose target enters now. -/
structure Arrives (store : Store) (shape : Shape) (value : Json) (g : Guard) (s : Shape)
    (n : Node) : Prop where
  reached : store.Reaches shape s
  below : (Node.root value).Below n
  depth : ⟨s.id, n.position⟩ ∉ g.inProgress → g.referenceDepth ≤
    (g.enter ⟨s.id, n.position⟩).openOf
      (Entry.among (store.registered shape) (Node.root value).positions)

namespace Arrives

variable {store : Store} {shape : Shape} {value : Json} {g : Guard} {s t : Shape} {n k : Node}

theorem start (store : Store) (shape : Shape) (value : Json) :
    Arrives store shape value .fresh shape (.root value) :=
  ⟨.self, .self, fun _ => Nat.zero_le _⟩

theorem part (h : Arrives store shape value g s n) (hnew : ⟨s.id, n.position⟩ ∉ g.inProgress)
    (ht : t ∈ s.kind.parts) (hk : Plan.Near n k) :
    Arrives store shape value (g.enter ⟨s.id, n.position⟩) t k := by
  refine ⟨h.reached.part ht, h.below.near hk, fun _ => ?_⟩
  exact (h.depth hnew).trans (Guard.openOf_enter_le _ _ _)

theorem target (h : Arrives store shape value g s n) (hnew : ⟨s.id, n.position⟩ ∉ g.inProgress)
    {name : String} {registry : RegistryId} (hk : s.kind = .reference name registry)
    (ht : store.find registry name = .found t) :
    Arrives store shape value (g.enter ⟨s.id, n.position⟩).descend t n := by
  refine ⟨h.reached.target hk ht, h.below, fun hentry => ?_⟩
  have hcounted : (⟨t.id, n.position⟩ : Entry) ∈
      Entry.among (store.registered shape) (Node.root value).positions :=
    ⟨⟨s, name, registry, h.reached, hk, name, t, ht, rfl⟩, h.below.position_mem⟩
  -- The unit of depth that the reference adds is paid for by the entry of its target.
  have hopen := Guard.openOf_enter_new (g.enter ⟨s.id, n.position⟩) hcounted hentry
  change g.referenceDepth + 1 ≤ ((g.enter ⟨s.id, n.position⟩).enter ⟨t.id, n.position⟩).openOf _
  rw [hopen]
  exact Nat.succ_le_succ (h.depth hnew)

theorem depth_lt (h : Arrives store shape value g s n) (hnew : ⟨s.id, n.position⟩ ∉ g.inProgress)
    {limit : Nat} (hlimit : (Node.root value).count * (store.registered shape).ncard < limit) :
    g.referenceDepth < limit := by
  have hfin := store.finite_registered shape
  calc
    g.referenceDepth ≤ _ := h.depth hnew
    _ ≤ (Entry.among (store.registered shape) (Node.root value).positions).ncard :=
      Guard.openOf_le _ (Entry.finite_among hfin _)
    _ ≤ (Node.root value).count * (store.registered shape).ncard := Entry.ncard_among_le hfin _
    _ < limit := hlimit

end Arrives

/-- The pairs in progress on the node are assumed, and none is in progress further down. -/
structure Assumes (store : Store) (shape : Shape) (assumed : Shape → Node → Prop) (g : Guard)
    (n : Node) : Prop where
  level : ∀ e ∈ g.inProgress, e.position.depth ≤ n.position.depth
  pair : ∀ t, store.Reaches shape t → ⟨t.id, n.position⟩ ∈ g.inProgress → assumed t n

namespace Assumes

variable {store : Store} {shape : Shape} {assumed : Shape → Node → Prop} {g : Guard} {s : Shape}
  {n : Node}

theorem enter (h : Assumes store shape assumed g n) (hids : store.Distinct shape)
    (hs : store.Reaches shape s) :
    Assumes store shape (fun t k => assumed t k ∨ t = s ∧ k = n)
      (g.enter ⟨s.id, n.position⟩) n := by
  refine ⟨fun e he => ?_, fun t ht he => ?_⟩
  · rcases List.mem_cons.1 he with rfl | he
    · exact Nat.le_refl _
    · exact h.level e he
  · rcases List.mem_cons.1 he with heq | he
    · have hid : t.id = s.id := congrArg Entry.shape heq
      exact Or.inr ⟨hids t s ht hs hid, rfl⟩
    · exact Or.inl (h.pair t ht he)

theorem near (h : Assumes store shape assumed g n) {k : Node} (hk : Plan.Near n k) :
    Assumes store shape assumed g k := by
  rcases hk with rfl | hk
  · exact h
  · -- No pair below the node has been entered yet, so there is nothing to assume there.
    have hdepth : k.position.depth = n.position.depth + 1 := hk.depth
    refine ⟨fun e he => ?_, fun t ht he => ?_⟩
    · have hlevel := h.level e he
      omega
    · have hlevel : k.position.depth ≤ n.position.depth := h.level _ he
      omega

end Assumes

namespace Check

variable {store : Store} {shape : Shape} {value : Json} {o : Options}

theorem answer_new_isAccepted_iff (hfree : store.CustomFree shape)
    (hlimit : (Node.root value).count * (store.registered shape).ncard < o.depthLimit)
    {g : Guard} {s : Shape} {n : Node} (h : Arrives store shape value g s n)
    (hnew : ⟨s.id, n.position⟩ ∉ g.inProgress) :
    (answer store g s n o).isAccepted = true ↔
      store.Rule
        (fun t k => (answer store (g.enter ⟨s.id, n.position⟩) t k o).isAccepted = true)
        (fun t k => (answer store (g.enter ⟨s.id, n.position⟩).descend t k o).isAccepted = true)
        s n := by
  rw [answer_new (hfree.of_reaches h.reached) hnew]
  exact Shape.plan_isAccepted_iff (h.depth_lt hnew hlimit) (hfree s h.reached)

theorem conformsIf_of_answer (hfree : store.CustomFree shape) (hids : store.Distinct shape)
    (hlimit : (Node.root value).count * (store.registered shape).ncard < o.depthLimit)
    (g : Guard) (s : Shape) (n : Node) : Arrives store shape value g s n →
      ∀ assumed, Assumes store shape assumed g n →
        (answer store g s n o).isAccepted = true → store.ConformsIf value assumed s n := by
  apply answer_induction store (P := fun g s n => Arrives store shape value g s n →
    ∀ assumed, Assumes store shape assumed g n →
      (answer store g s n o).isAccepted = true → store.ConformsIf value assumed s n)
  · intro g s n hopen h assumed hassumed _
    exact .of_assumed (hassumed.pair s h.reached hopen)
  · intro g s n hnew hparts htarget h assumed hassumed haccepted
    -- The pair itself is in progress while its calls are answered, so it joins what is assumed.
    have hentered := hassumed.enter hids h.reached
    have hrule := (answer_new_isAccepted_iff hfree hlimit h hnew).1 haccepted
    apply Store.ConformsIf.of_rule h.below
    apply hrule.imp
    · intro t ht k hk hin
      exact hparts t ht k hk (h.part hnew ht hk) _ (hentered.near hk) hin
    · intro name registry t hk ht hbeyond
      exact htarget name registry t hk ht (h.target hnew hk ht) _ ⟨hentered.level, hentered.pair⟩
        hbeyond

/-- What is consistently related is accepted, whatever is in progress. -/
theorem answer_of_consistent (hfree : store.CustomFree shape)
    (hlimit : (Node.root value).count * (store.registered shape).ncard < o.depthLimit)
    {S : Shape → Node → Prop} (hS : store.Consistent value S) (g : Guard) (s : Shape) (n : Node) :
    Arrives store shape value g s n → S s n → (answer store g s n o).isAccepted = true := by
  apply answer_induction store (P := fun g s n => Arrives store shape value g s n → S s n →
    (answer store g s n o).isAccepted = true)
  · intro g s n hopen _ _
    rw [answer_open hopen]
    rfl
  · intro g s n hnew hparts htarget h hpair
    apply (answer_new_isAccepted_iff hfree hlimit h hnew).2
    apply (hS.rule s n hpair).imp
    · exact fun t ht k hk hin => hparts t ht k hk (h.part hnew ht hk) hin
    · exact fun name registry t hk ht hin => htarget name registry t hk ht (h.target hnew hk ht) hin

end Check

namespace Shape

/-- A value is accepted if and only if it conforms, in either mode, if the limit on references is
above the number of pairs of a node of the value and a shape in a registry that is referred to. -/
theorem isAccepted_iff_conforms {store : Store} {shape : Shape} {value : Json} {options : Options}
    (hfree : store.CustomFree shape) (hids : store.Distinct shape)
    (hlimit : (Node.root value).count * (store.registered shape).ncard < options.depthLimit) :
    IsGreatest {S | store.Consistent value S} (store.Conforms value) ∧
    ((shape.validate store value options).1.isAccepted = true ↔
      store.Conforms value shape (.root value)) := by
  have hstart := Arrives.start store shape value
  have hnothing : Assumes store shape (fun _ _ => False) .fresh (.root value) :=
    ⟨fun e he => absurd he List.not_mem_nil, fun t _ he => absurd he List.not_mem_nil⟩
  refine ⟨store.isGreatest_conforms value, fun haccepted => ?_, ?_⟩
  · exact (Check.conformsIf_of_answer hfree hids hlimit .fresh shape (.root value) hstart _ hnothing
      haccepted).conforms
  · intro hconforms
    obtain ⟨S, hS, hpair⟩ := hconforms
    exact Check.answer_of_consistent hfree hlimit hS .fresh shape (.root value) hstart hpair

theorem isAccepted_iff_conforms_tree :
    let sound : Json := .object
      [("left", .object [("size", .number (.integer 1))]), ("size", .number (.integer 2))]
    let faulty : Json := .object [("left", .object [("size", .string "one")])]
    Store.forest.Conforms sound tree (.root sound) ∧
      ¬Store.forest.Conforms faulty tree (.root faulty) := by
  intro sound faulty
  have hregistered : (Store.forest.registered tree).ncard ≤ 1 := by
    have hsub : Store.forest.registered tree ⊆ {tree.id} := by
      intro i hi
      obtain ⟨_, _, _, _, _, key, u, hu, rfl⟩ := hi
      have hwithin : Store.forest.Within [tree] := by simp [Store.Within, Store.forest]
      rw [List.mem_singleton.1 (hwithin.of_find hu)]
      rfl
    exact (Set.ncard_le_ncard hsub).trans (Set.ncard_singleton _).le
  have hiff : ∀ value : Json, (Node.root value).count < 100 →
      ((tree.validate .forest value .collectAll).1.isAccepted = true ↔
        Store.forest.Conforms value tree (.root value)) := by
    intro value hcount
    have hlimit : (Node.root value).count * (Store.forest.registered tree).ncard <
        Options.collectAll.depthLimit := by
      have hle := Nat.mul_le_mul_left (Node.root value).count hregistered
      change _ < 100
      omega
    exact (isAccepted_iff_conforms Store.customFree_tree Store.distinct_tree hlimit).2
  constructor
  · have hsound : (tree.validate .forest sound .collectAll).1.issues = [] :=
      issues_validate 20 (by decide)
    exact (hiff sound (by decide)).1 ((Outcome.isAccepted_iff _).2 hsound)
  · intro hconforms
    have haccepted := (hiff faulty (by decide)).2 hconforms
    have hfaulty : (tree.validate .forest faulty .collectAll).1.issues =
        [⟨⟨[.field "left", .field "size"]⟩, "Expected number, but was string", "invalid_type"⟩] :=
      issues_validate 20 (by decide)
    rw [Outcome.isAccepted_iff, hfaulty] at haccepted
    cases haccepted

end Shape

end ShapeCheck
