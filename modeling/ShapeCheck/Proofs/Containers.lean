import ShapeCheck.Proofs.Rulings

namespace ShapeCheck

open Plan (Demand itemDemands pairDemands fieldDemands)

def Kind.demands? : Kind → Node → Option (List Demand)
  | .array element _, n => n.items?.map (itemDemands element)
  | .tuple elements, n =>
    (n.items?.filter (·.length = elements.length)).map (pairDemands elements)
  | .record fields isPartial, n => n.members?.map fun _ => fieldDemands isPartial n fields
  | .dictionary value, n => n.members?.map (itemDemands value)
  | _, _ => none

theorem Shape.plan_of_demands {s : Shape} {n : Node} {demands : List Demand}
    (h : s.kind.demands? n = some demands) (o : Options) :
    s.plan n o = .gather o demands (.settle n) := by
  unfold Shape.plan
  cases hk : s.kind with
  | array element isReadonly =>
    rw [hk] at h
    obtain ⟨items, hitems, rfl⟩ := Option.map_eq_some_iff.1 h
    simp only [hitems]
  | tuple elements =>
    rw [hk] at h
    obtain ⟨items, hitems, rfl⟩ := Option.map_eq_some_iff.1 h
    obtain ⟨hitems, hlength⟩ := Option.filter_eq_some_iff.1 hitems
    simp only [hitems, if_pos (of_decide_eq_true hlength)]
  | record fields isPartial =>
    rw [hk] at h
    obtain ⟨members, hmembers, rfl⟩ := Option.map_eq_some_iff.1 h
    simp only [hmembers]
  | dictionary value =>
    rw [hk] at h
    obtain ⟨members, hmembers, rfl⟩ := Option.map_eq_some_iff.1 h
    simp only [hmembers]
  | _ =>
    rw [hk] at h
    cases h

theorem Node.down_of_mem_items {n c : Node} {items : List (Segment × Node)} {place : Segment}
    (h : n.items? = some items) (hc : (place, c) ∈ items) : ∃ v, c = n.down place v := by
  obtain ⟨values, -, rfl⟩ := items?_eq_some h
  obtain ⟨i, hi⟩ := List.mem_iff_getElem?.1 hc
  rw [getElem?_itemsFrom, Nat.zero_add] at hi
  obtain ⟨v, -, hv⟩ := Option.map_eq_some_iff.1 hi
  cases hv
  exact ⟨v, rfl⟩

theorem Node.down_of_mem_members {n c : Node} {members : List (Segment × Node)} {place : Segment}
    (h : n.members? = some members) (hc : (place, c) ∈ members) : ∃ v, c = n.down place v := by
  obtain ⟨values, -, rfl⟩ := members?_eq_some h
  obtain ⟨⟨key, v⟩, -, hv⟩ := List.mem_map.1 hc
  cases hv
  exact ⟨v, rfl⟩

namespace Plan.Demand

/-- A demand that a container of this kind may make of the node: about a part of its own and a child
of the node, or about a member that the object lacks. -/
def Inward (kind : Kind) (n : Node) : Demand → Prop
  | .conforms place t c => t ∈ kind.parts ∧ n.IsChild c ∧ ∃ v, c = n.down place v
  | .missing place _ => ∃ name members,
      place = .field name ∧ n.value = .object members ∧ members.lookup name = none

theorem Inward.confined {s : Shape} {n : Node} {d : Demand} (h : d.Inward s.kind n) (o : Options) :
    d.Confined (scopeOf s n o) := by
  cases d with
  | conforms place t c => exact ⟨h.1, Or.inr h.2.1⟩
  | missing place t => trivial

theorem inward_items {kind : Kind} {n : Node} {element : Shape} {items : List (Segment × Node)}
    (ht : element ∈ kind.parts)
    (hitems : ∀ place c, (place, c) ∈ items → n.IsChild c ∧ ∃ v, c = n.down place v) :
    ∀ d ∈ itemDemands element items, d.Inward kind n := by
  intro d hd
  obtain ⟨⟨place, c⟩, hc, rfl⟩ := List.mem_map.1 hd
  exact ⟨ht, hitems place c hc⟩

theorem inward_pairs {kind : Kind} {n : Node} {elements : List Shape}
    {items : List (Segment × Node)} (ht : ∀ t ∈ elements, t ∈ kind.parts)
    (hitems : ∀ place c, (place, c) ∈ items → n.IsChild c ∧ ∃ v, c = n.down place v) :
    ∀ d ∈ pairDemands elements items, d.Inward kind n := by
  intro d hd
  obtain ⟨⟨t, place, c⟩, hc, rfl⟩ := List.mem_map.1 hd
  obtain ⟨helement, hitem⟩ := List.of_mem_zip hc
  exact ⟨ht t helement, hitems place c hitem⟩

theorem inward_fields {kind : Kind} {n : Node} {values : List (String × Json)} {isPartial : Bool}
    {fields : List (String × Shape)} (hn : n.value = .object values)
    (ht : ∀ f ∈ fields, f.2 ∈ kind.parts) :
    ∀ d ∈ fieldDemands isPartial n fields, d.Inward kind n := by
  induction fields with
  | nil => intro d hd; simp [fieldDemands] at hd
  | cons f rest ih =>
    obtain ⟨name, t⟩ := f
    have hrest := ih fun f hf => ht f (List.mem_cons_of_mem _ hf)
    unfold fieldDemands
    split
    · rename_i c hc
      obtain ⟨v, -, hv⟩ := Option.map_eq_some_iff.1 hc
      refine List.forall_mem_cons.2 ⟨⟨ht _ List.mem_cons_self, ?_, v, hv.symm⟩, hrest⟩
      exact Node.isChild_of_child? hc
    · rename_i hnone
      have hlack : values.lookup name = none := by
        have hfield := Option.map_eq_none_iff.1 hnone
        rwa [hn] at hfield
      split
      · exact hrest
      · exact List.forall_mem_cons.2 ⟨⟨name, values, rfl, hn, hlack⟩, hrest⟩

end Plan.Demand

open Plan.Demand in
theorem Kind.inward_of_demands {kind : Kind} {n : Node} {demands : List Demand}
    (h : kind.demands? n = some demands) : ∀ d ∈ demands, d.Inward kind n := by
  have hitem : ∀ {items}, n.items? = some items → ∀ place c, (place, c) ∈ items →
      n.IsChild c ∧ ∃ v, c = n.down place v := fun hitems place c hc =>
    ⟨(Node.isChild_iff_items hitems).2 ⟨place, hc⟩, Node.down_of_mem_items hitems hc⟩
  have hmember : ∀ {members}, n.members? = some members → ∀ place c, (place, c) ∈ members →
      n.IsChild c ∧ ∃ v, c = n.down place v := fun hmembers place c hc =>
    ⟨(Node.isChild_iff_members hmembers).2 ⟨place, hc⟩, Node.down_of_mem_members hmembers hc⟩
  cases kind with
  | array element isReadonly =>
    obtain ⟨items, hitems, rfl⟩ := Option.map_eq_some_iff.1 h
    exact inward_items (by simp [parts]) (hitem hitems)
  | tuple elements =>
    obtain ⟨items, hitems, rfl⟩ := Option.map_eq_some_iff.1 h
    exact inward_pairs (fun t ht => ht) (hitem (Option.filter_eq_some_iff.1 hitems).1)
  | record fields isPartial =>
    obtain ⟨members, hmembers, rfl⟩ := Option.map_eq_some_iff.1 h
    obtain ⟨values, hn, -⟩ := Node.members?_eq_some hmembers
    exact inward_fields hn fun f hf => List.mem_map_of_mem hf
  | dictionary value =>
    obtain ⟨members, hmembers, rfl⟩ := Option.map_eq_some_iff.1 h
    exact inward_items (by simp [parts]) (hmember hmembers)
  | _ => cases h

/-- The codes of issues whose message ends in the kind of the value that was found. -/
def Issue.mismatchCodes : List String := ["invalid_type", "never", "no_match"]

namespace Plan

/-- The plans of checks that do not look into their node: those that see from its value alone what
they have to say, and those that leave it to other shapes. -/
inductive Shallow (s : Shape) (n : Node) : (Options → Plan) → Prop
  | accept : Shallow s n fun _ => .done (.accepted n)
  | mismatch (expected : String) {code : String} (hcode : code ∈ Issue.mismatchCodes) :
      Shallow s n fun _ => mismatch expected n code
  | literal (message : String) : Shallow s n fun _ => refuse message "literal_mismatch"
  | length (start : String) {items : List Json} (hvalue : n.value = .array items) :
      Shallow s n fun _ => refuse (start ++ ", but was " ++ toString items.length) "tuple_length"
  | union (alternatives : List Shape) (hk : s.kind = .union alternatives) :
      Shallow s n fun o => firstAccepting o n s alternatives
  | intersect (members : List Shape) (hk : s.kind = .intersect members) :
      Shallow s n fun o => gatherMembers o n members (settle n)
  | optional (inner : Shape) (hk : s.kind = .optional inner) :
      Shallow s n fun o => .call .watched inner n o .done
  | constraint (underlying : Shape) (name : Option String) (refuses : Json → Option String)
      (hk : s.kind = .constraint underlying name refuses) :
      Shallow s n fun o => .call .watched underlying n o (narrow refuses n)
  | reference (name : String) (registry : RegistryId) (hk : s.kind = .reference name registry) :
      Shallow s n fun o => resolve o n name registry

theorem Shallow.wrongType (s : Shape) (n : Node) (expected : String) :
    Shallow s n fun _ => .wrongType expected n :=
  .mismatch expected (by decide)

end Plan

open Plan in
theorem Shape.shallow_plan {s : Shape} {n : Node} (hplain : s.kind.isCustom = false)
    (h : s.kind.demands? n = none) : Shallow s n (s.plan n) := by
  have hplan : s.plan n = fun o => s.plan n o := rfl
  rw [hplan]
  unfold Shape.plan
  cases hk : s.kind with
  | unknown => exact .accept
  | never => exact .mismatch "never" (by decide)
  | boolean =>
    dsimp only
    split
    · exact .accept
    · exact .wrongType s n _
  | number =>
    dsimp only
    split
    · exact .accept
    · exact .wrongType s n _
  | string =>
    dsimp only
    split
    · exact .accept
    · exact .wrongType s n _
  | literal v =>
    dsimp only
    split
    · exact .accept
    · exact .literal _
  | array element isReadonly =>
    have hitems : n.items? = none := by simpa [hk, Kind.demands?] using h
    rw [hitems]
    exact .wrongType s n _
  | tuple elements =>
    cases hitems : n.items? with
    | none => exact .wrongType s n _
    | some items =>
      obtain ⟨values, hvalue, rfl⟩ := Node.items?_eq_some hitems
      have hlength : values.length ≠ elements.length := by
        simpa [hk, Kind.demands?, hitems] using h
      simp only [Node.length_itemsFrom, if_neg hlength]
      exact .length _ hvalue
  | record fields isPartial =>
    have hmembers : n.members? = none := by simpa [hk, Kind.demands?] using h
    rw [hmembers]
    exact .wrongType s n _
  | dictionary value =>
    have hmembers : n.members? = none := by simpa [hk, Kind.demands?] using h
    rw [hmembers]
    exact .wrongType s n _
  | union alternatives => exact .union alternatives hk
  | intersect members => exact .intersect members hk
  | optional inner => exact .optional inner hk
  | constraint underlying name refuses => exact .constraint underlying name refuses hk
  | reference name registry => exact .reference name registry hk
  | custom _ _ _ _ => simp [hk, Kind.isCustom] at hplain

end ShapeCheck
