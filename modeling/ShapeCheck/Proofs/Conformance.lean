import Mathlib.Order.Bounds.Defs
import ShapeCheck.Proofs.Rulings

namespace ShapeCheck

namespace Store

/-- The rule of each kind: what must hold of the parts of the shape and of the target of a
reference. A user's check has no rule. -/
def Rule (store : Store) (inside beyond : Shape → Node → Prop) (s : Shape) (n : Node) : Prop :=
  match s.kind with
  | .unknown => True
  | .never => False
  | .boolean => ∃ b, n.value = .boolean b
  | .number => ∃ x, n.value = .number x
  | .string => ∃ x, n.value = .string x
  | .literal v => v.same n.value = true
  | .array element _ => (∃ items, n.value = .array items) ∧ ∀ c, n.IsChild c → inside element c
  | .tuple elements => ∃ items, n.value = .array items ∧ items.length = elements.length ∧
      ∀ i e c, elements[i]? = some e → n.child? (.index i) = some c → inside e c
  | .record fields isPartial => (∃ members, n.value = .object members) ∧
      ∀ f ∈ fields, (∃ c, n.child? (.field f.1) = some c ∧ inside f.2 c) ∨
        n.child? (.field f.1) = none ∧ f.2.mayLack isPartial = true
  | .dictionary value =>
      (∃ members, n.value = .object members) ∧ ∀ c, n.IsChild c → inside value c
  | .union alternatives => ∃ t ∈ alternatives, inside t n
  | .intersect members => ∀ t ∈ members, inside t n
  | .optional inner => inside inner n
  | .constraint underlying _ refuses => inside underlying n ∧ refuses n.value = none
  | .reference name registry => ∃ t, store.find registry name = .found t ∧ beyond t n
  | .custom .. => False

/-- A rule looks at the parts of its shape, on the node and its children, and at the target of its
reference on the node; it is kept where more of these hold. -/
theorem Rule.imp {store : Store} {inside beyond inside' beyond' : Shape → Node → Prop} {s : Shape}
    {n : Node} (h : store.Rule inside beyond s n)
    (hparts : ∀ t ∈ s.kind.parts, ∀ k, Plan.Near n k → inside t k → inside' t k)
    (htarget : ∀ name registry t, s.kind = .reference name registry →
      store.find registry name = .found t → beyond t n → beyond' t n) :
    store.Rule inside' beyond' s n := by
  have hhere : ∀ t ∈ s.kind.parts, inside t n → inside' t n := fun t ht => hparts t ht n (Or.inl rfl)
  have hchild : ∀ t ∈ s.kind.parts, ∀ c, n.IsChild c → inside t c → inside' t c :=
    fun t ht c hc => hparts t ht c (Or.inr hc)
  unfold Rule at h ⊢
  cases hk : s.kind with
  | array element isReadonly =>
    rw [hk] at h
    exact ⟨h.1, fun c hc => hchild element (by simp [hk, Kind.parts]) c hc (h.2 c hc)⟩
  | tuple elements =>
    rw [hk] at h
    obtain ⟨items, hitems, hlength, hall⟩ := h
    refine ⟨items, hitems, hlength, fun i e c he hc => ?_⟩
    have hpart : e ∈ s.kind.parts := by
      rw [hk]
      exact List.mem_of_getElem? he
    exact hchild e hpart c (Node.isChild_of_child? hc) (hall i e c he hc)
  | record fields isPartial =>
    rw [hk] at h
    refine ⟨h.1, fun f hf => ?_⟩
    have hpart : f.2 ∈ s.kind.parts := by
      rw [hk]
      exact List.mem_map_of_mem hf
    rcases h.2 f hf with ⟨c, hc, hin⟩ | hlack
    · exact Or.inl ⟨c, hc, hchild f.2 hpart c (Node.isChild_of_child? hc) hin⟩
    · exact Or.inr hlack
  | dictionary value =>
    rw [hk] at h
    exact ⟨h.1, fun c hc => hchild value (by simp [hk, Kind.parts]) c hc (h.2 c hc)⟩
  | union alternatives =>
    rw [hk] at h
    obtain ⟨t, ht, hin⟩ := h
    exact ⟨t, ht, hhere t (by rwa [hk]) hin⟩
  | intersect members =>
    rw [hk] at h
    exact fun t ht => hhere t (by rwa [hk]) (h t ht)
  | optional inner =>
    rw [hk] at h
    exact hhere inner (by simp [hk, Kind.parts]) h
  | constraint underlying name refuses =>
    rw [hk] at h
    exact ⟨hhere underlying (by simp [hk, Kind.parts]) h.1, h.2⟩
  | reference name registry =>
    rw [hk] at h
    obtain ⟨t, ht, hbeyond⟩ := h
    exact ⟨t, ht, htarget name registry t hk ht hbeyond⟩
  | _ =>
    rw [hk] at h
    exact h

theorem Rule.mono {store : Store} {S S' : Shape → Node → Prop} {s : Shape} {n : Node}
    (h : store.Rule S S s n) (hle : S ≤ S') : store.Rule S' S' s n :=
  h.imp (fun t _ k _ => hle t k) fun _ _ t _ _ => hle t n

/-- A relation between shapes and the nodes of a value that has the rule at each of its pairs. -/
structure Consistent (store : Store) (value : Json) (S : Shape → Node → Prop) : Prop where
  node : ∀ s n, S s n → (Node.root value).Below n
  rule : ∀ s n, S s n → store.Rule S S s n

/-- The greatest of these relations. A shape may refer to itself, so it is found from above. -/
def Conforms (store : Store) (value : Json) (s : Shape) (n : Node) : Prop :=
  ∃ S, store.Consistent value S ∧ S s n

theorem isGreatest_conforms (store : Store) (value : Json) :
    IsGreatest {S | store.Consistent value S} (store.Conforms value) := by
  have hupper : ∀ S, store.Consistent value S → S ≤ store.Conforms value :=
    fun S hS s n h => ⟨S, hS, h⟩
  refine ⟨⟨?_, ?_⟩, hupper⟩
  · intro s n hpair
    obtain ⟨S, hS, h⟩ := hpair
    exact hS.node s n h
  · intro s n hpair
    obtain ⟨S, hS, h⟩ := hpair
    exact (hS.rule s n h).mono (hupper S hS)

/-- Whether the pair conforms if the assumed pairs do. -/
def ConformsIf (store : Store) (value : Json) (assumed : Shape → Node → Prop) (s : Shape)
    (n : Node) : Prop :=
  ∃ S : Shape → Node → Prop, S s n ∧
    ∀ t k, S t k → assumed t k ∨ (Node.root value).Below k ∧ store.Rule S S t k

theorem ConformsIf.of_assumed {store : Store} {value : Json} {assumed : Shape → Node → Prop}
    {s : Shape} {n : Node} (h : assumed s n) : store.ConformsIf value assumed s n :=
  ⟨assumed, h, fun _ _ ht => Or.inl ht⟩

theorem ConformsIf.of_rule {store : Store} {value : Json} {assumed : Shape → Node → Prop}
    {s : Shape} {n : Node} (hn : (Node.root value).Below n)
    (h : store.Rule (store.ConformsIf value fun t k => assumed t k ∨ t = s ∧ k = n)
      (store.ConformsIf value fun t k => assumed t k ∨ t = s ∧ k = n) s n) :
    store.ConformsIf value assumed s n := by
  refine ⟨store.ConformsIf value fun t k => assumed t k ∨ t = s ∧ k = n,
    .of_assumed (Or.inr ⟨rfl, rfl⟩), ?_⟩
  intro t k hpair
  obtain ⟨S, hS, hall⟩ := hpair
  -- The pair that was assumed in addition has the rule by `h`, and is discharged by it.
  rcases hall t k hS with (ht | ⟨rfl, rfl⟩) | ⟨hk, hrule⟩
  · exact Or.inl ht
  · exact Or.inr ⟨hn, h⟩
  · exact Or.inr ⟨hk, hrule.mono fun u m hu => ⟨S, hu, hall⟩⟩

theorem ConformsIf.conforms {store : Store} {value : Json} {s : Shape} {n : Node}
    (h : store.ConformsIf value (fun _ _ => False) s n) : store.Conforms value s n := by
  obtain ⟨S, hS, hall⟩ := h
  have hpair : ∀ t k, S t k → (Node.root value).Below k ∧ store.Rule S S t k :=
    fun t k ht => (hall t k ht).resolve_left id
  exact ⟨S, ⟨fun t k ht => (hpair t k ht).1, fun t k ht => (hpair t k ht).2⟩, hS⟩

end Store

end ShapeCheck
