import ShapeCheck.Proofs.Ordered
import ShapeCheck.Proofs.Relocation

namespace ShapeCheck

/-- The issues with a container, one row for each of its places, given those that a value has on its
own: the rows of a dictionary follow the bytes of its keys, those of a record the order of its
fields. -/
def Kind.blocks? (issues : Shape → Json → List Issue) : Kind → Json → Option (List (List Issue))
  | .array element _, .array items =>
    some (items.mapIdx fun i item => (issues element item).map (·.under (.index i)))
  | .tuple elements, .array items =>
    if items.length = elements.length then
      some ((elements.zip items).mapIdx fun i (t, item) => (issues t item).map (·.under (.index i)))
    else none
  | .record fields isPartial, .object members =>
    some (fields.map fun (name, t) =>
      match members.lookup name with
      | some child => (issues t child).map (·.under (.field name))
      | none => if t.mayLack isPartial then [] else [Plan.missingField (.field name) t])
  | .dictionary t, .object members =>
    some ((members.mergeSort fun a b => Json.keyBytes a.1 ≤ Json.keyBytes b.1).map
      fun (key, child) => (issues t child).map (·.under (.field key)))
  | _, _ => none

namespace Plan

theorem reported_false (found : List (List Issue)) : reported false found = found.flatten := by
  induction found with
  | nil => rfl
  | cons is rest ih => simp [reported, ih]

theorem reported_true (found : List (List Issue)) :
    reported true found = (found.find? (!·.isEmpty)).getD [] := by
  induction found with
  | nil => rfl
  | cons is rest ih =>
    cases is with
    | nil => simpa [reported] using ih
    | cons i is => simp [reported]

theorem reported_eq (failFast : Bool) (found : List (List Issue)) :
    reported failFast found =
      if failFast then (found.find? (!·.isEmpty)).getD [] else found.flatten := by
  cases failFast with
  | false => exact reported_false found
  | true => exact reported_true found

variable {reply : Shape → Node → Outcome} {issues : Shape → Json → List Issue} {n : Node}

theorem blocks_items {element : Shape} {values : List Json} (hn : n.value = .array values)
    (h : ∀ place v, n.IsChild (n.down place v) →
      (reply element (n.down place v)).issues = issues element v) :
    (itemDemands element (n.itemsFrom 0 values)).map (Demand.issues reply) =
      values.mapIdx fun i item => (issues element item).map (·.under (.index i)) := by
  apply List.ext_getElem?
  intro i
  simp only [itemDemands, List.getElem?_map, Node.getElem?_itemsFrom, List.getElem?_mapIdx,
    Nat.zero_add]
  cases hi : values[i]? with
  | none => rfl
  | some v =>
    have hchild : n.IsChild (n.down (.index i) v) := by
      rw [Node.IsChild, hn]
      exact ⟨i, v, hi, rfl⟩
    simp only [Option.map_some, Demand.issues, h _ _ hchild]

theorem blocks_pairs {elements : List Shape} {values : List Json} (hn : n.value = .array values)
    (h : ∀ t ∈ elements, ∀ place v, n.IsChild (n.down place v) →
      (reply t (n.down place v)).issues = issues t v) :
    (pairDemands elements (n.itemsFrom 0 values)).map (Demand.issues reply) =
      (elements.zip values).mapIdx fun i (t, item) => (issues t item).map (·.under (.index i)) := by
  apply List.ext_getElem?
  intro i
  simp only [pairDemands, List.getElem?_map, List.getElem?_mapIdx, List.zip_eq_zipWith,
    List.getElem?_zipWith, Node.getElem?_itemsFrom, Nat.zero_add]
  cases ht : elements[i]? with
  | none => rfl
  | some t =>
    cases hi : values[i]? with
    | none => rfl
    | some v =>
      have hchild : n.IsChild (n.down (.index i) v) := by
        rw [Node.IsChild, hn]
        exact ⟨i, v, hi, rfl⟩
      simp only [Option.map_some, Demand.issues, h t (List.mem_of_getElem? ht) _ _ hchild]

theorem blocks_members {element : Shape} {members : List (String × Json)}
    (hn : n.value = .object members)
    (h : ∀ place v, n.IsChild (n.down place v) →
      (reply element (n.down place v)).issues = issues element v) :
    (itemDemands element (members.map fun (key, v) => (.field key, n.down (.field key) v))).map
      (Demand.issues reply) =
        members.map fun (key, v) => (issues element v).map (·.under (.field key)) := by
  rw [itemDemands, List.map_map, List.map_map]
  apply List.map_congr_left
  intro m hm
  have hchild : n.IsChild (n.down (.field m.1) m.2) := by
    rw [Node.IsChild, hn]
    exact ⟨m.1, m.2, hm, rfl⟩
  simp only [Function.comp_apply, Demand.issues, h _ _ hchild]

theorem blocks_fields {isPartial : Bool} {members : List (String × Json)}
    (hn : n.value = .object members) {fields : List (String × Shape)}
    (h : ∀ f ∈ fields, ∀ place v, n.IsChild (n.down place v) →
      (reply f.2 (n.down place v)).issues = issues f.2 v) (failFast : Bool) :
    reported failFast ((fieldDemands isPartial n fields).map (Demand.issues reply)) =
      reported failFast (fields.map fun (name, t) =>
        match members.lookup name with
        | some child => (issues t child).map (·.under (.field name))
        | none => if t.mayLack isPartial then [] else [missingField (.field name) t]) := by
  induction fields with
  | nil => rfl
  | cons f rest ih =>
    obtain ⟨name, t⟩ := f
    have hrest := ih fun f hf => h f (List.mem_cons_of_mem _ hf)
    have hchild : n.child? (.field name) = (members.lookup name).map (n.down (.field name)) := by
      rw [Node.child?, hn]
      rfl
    rw [fieldDemands, hchild, List.map_cons]
    dsimp only
    cases hv : members.lookup name with
    | some v =>
      have hbelow : n.IsChild (n.down (.field name) v) := by
        rw [Node.IsChild, hn]
        exact ⟨name, v, Named.mem_of_lookup hv, rfl⟩
      have hissues := h (name, t) List.mem_cons_self (.field name) v hbelow
      simp only [Option.map_some, List.map_cons, Demand.issues, reported, hissues, hrest]
    | none =>
      simp only [Option.map_none]
      split
      · rw [reported_nil, hrest]
      · simp only [List.map_cons, Demand.issues, reported, hrest]

end Plan

open Plan in
theorem Kind.reported_blocks (reply : Shape → Node → Outcome) {kind : Kind} {n : Node}
    {issues : Shape → Json → List Issue} {blocks : List (List Issue)}
    (hn : ∀ t, kind = .dictionary t → n.value.IsOrdered)
    (hblocks : kind.blocks? issues n.value = some blocks)
    (h : ∀ t ∈ kind.parts, ∀ place v, n.IsChild (n.down place v) →
      (reply t (n.down place v)).issues = issues t v) :
    ∃ demands, kind.demands? n = some demands ∧ ∀ failFast,
      reported failFast (demands.map (Demand.issues reply)) = reported failFast blocks := by
  unfold Kind.blocks? at hblocks
  split at hblocks
  · rename_i element isReadonly values hvalue
    have hitems : n.items? = some (n.itemsFrom 0 values) := by rw [Node.items?, hvalue]
    cases hblocks
    refine ⟨itemDemands element (n.itemsFrom 0 values), by simp [demands?, hitems], fun _ => ?_⟩
    rw [blocks_items hvalue (h element (by simp [parts]))]
  · rename_i elements values hvalue
    have hitems : n.items? = some (n.itemsFrom 0 values) := by rw [Node.items?, hvalue]
    split at hblocks
    · rename_i hlength
      have hpairs := blocks_pairs hvalue fun t (ht : t ∈ elements) => h t ht
      cases hblocks
      refine ⟨pairDemands elements (n.itemsFrom 0 values), ?_, fun _ => by rw [hpairs]⟩
      simp [demands?, hitems, Option.filter, hlength]
    · cases hblocks
  · rename_i fields isPartial members hvalue
    have hmembers : ∃ rows, n.members? = some rows := by
      rw [Node.members?, hvalue]
      exact ⟨_, rfl⟩
    obtain ⟨rows, hrows⟩ := hmembers
    cases hblocks
    refine ⟨fieldDemands isPartial n fields, by simp [demands?, hrows], fun failFast => ?_⟩
    exact blocks_fields hvalue (fun f hf => h f.2 (List.mem_map_of_mem hf)) failFast
  · rename_i element members hvalue
    have hmembers : n.members? = some
        (members.map fun (key, v) => (.field key, n.down (.field key) v)) := by
      rw [Node.members?, hvalue]
    cases hblocks
    refine ⟨_, by rw [demands?, hmembers, Option.map_some], fun _ => ?_⟩
    -- The blocks are sorted by key, and the members of an object stand in that order already.
    have hordered : (Json.object members).IsOrdered := hvalue ▸ hn element rfl
    rw [blocks_members hvalue (h element (by simp [parts])), Json.mergeSort_of_isOrdered hordered]
  · cases hblocks

theorem Kind.plain_of_blocks {kind : Kind} {issues : Shape → Json → List Issue} {value : Json}
    {blocks : List (List Issue)} (h : kind.blocks? issues value = some blocks) :
    kind.isCustom = false ∧ ∀ name registry, kind ≠ .reference name registry := by
  cases kind with
  | custom => cases h
  | reference => cases h
  | _ => exact ⟨rfl, fun _ _ hk => by cases hk⟩

namespace Shape

/-- A container reports the blocks of its places. It does not matter that the children are checked
under the guard of the container, nor that they may refer back to it. -/
theorem validate_eq_reported {store : Store} {shape : Shape} {value : Json} {o : Options}
    {blocks : List (List Issue)} (hfree : ∀ t ∈ shape.kind.parts, store.CustomFree t)
    (hvalue : ∀ t, shape.kind = .dictionary t → value.IsOrdered)
    (hblocks : shape.kind.blocks? (fun t child => (t.validate store child o).1.issues) value =
      some blocks) :
    (shape.validate store value o).1 =
      .ofIssues (.root value) (Plan.reported o.failFast blocks) := by
  obtain ⟨hplain, href⟩ := Kind.plain_of_blocks hblocks
  have hshape : store.CustomFree shape := .of_parts hplain href hfree
  let reply (t : Shape) (k : Node) : Outcome :=
    Check.answer store (Guard.fresh.enter ⟨shape.id, .root⟩) t k o
  -- Only the container is in progress when its children are checked, and it lies above them.
  have hchild : ∀ t ∈ shape.kind.parts, ∀ place child,
      (Node.root value).IsChild ((Node.root value).down place child) →
      (reply t ((Node.root value).down place child)).issues =
        (t.validate store child o).1.issues := by
    intro t ht place child _
    refine (issues_validate_eq_answer (hfree t ht) rfl (fun i p hin => ?_) child o).symm
    have hdepth := congrArg (·.position.depth) (List.mem_singleton.1 hin)
    simp [Position.onto, Node.root, Position.child, Position.root] at hdepth
  obtain ⟨demands, hdemands, hreported⟩ := Kind.reported_blocks reply hvalue hblocks hchild
  have hnew : ⟨shape.id, (Node.root value).position⟩ ∉ Guard.fresh.inProgress := List.not_mem_nil
  change Check.answer store .fresh shape (.root value) o = _
  rw [Check.answer_new hshape hnew, plan_of_demands hdemands, Plan.outcome_gather, ← hreported]
  rfl

/-- The issues that a container has with a value are the blocks of its places: all in a row, or the
first block with an issue in it. -/
theorem validate_of_blocks {store : Store} {shape : Shape} {value : Json} {o : Options}
    {blocks : List (List Issue)} (hfree : ∀ t ∈ shape.kind.parts, store.CustomFree t)
    (hvalue : value.IsOrdered)
    (hblocks : shape.kind.blocks? (fun t child => (t.validate store child o).1.issues) value =
      some blocks) :
    (shape.validate store value o).1 = .ofIssues (.root value)
      (if o.failFast then (blocks.find? (!·.isEmpty)).getD [] else blocks.flatten) ∧
    ((shape.validate store value o).1.isAccepted = true ↔ blocks.flatten = []) := by
  have hverdict := validate_eq_reported hfree (fun _ _ => hvalue) hblocks
  constructor
  · rw [hverdict, Plan.reported_eq]
  · rw [hverdict, Outcome.isAccepted_iff, Outcome.issues_ofIssues, Plan.reported_eq_nil,
      List.flatten_eq_nil_iff]

theorem validate_of_blocks_fork :
    let branchIssue : Issue :=
      ⟨⟨[.field "left", .field "size"]⟩, "Expected number, but was string", "invalid_type"⟩
    let sizeIssue : Issue := ⟨⟨[.field "size"]⟩, "Expected number, but was null", "invalid_type"⟩
    let value : Json := .object [("left", .object [("size", .string "one")]), ("size", .null)]
    (fork.validate .forest value ⟨false, 100⟩).1 =
        .ofIssues (.root value) [branchIssue, sizeIssue] ∧
      (fork.validate .forest value ⟨true, 100⟩).1 = .ofIssues (.root value) [branchIssue] := by
  intro branchIssue sizeIssue value
  have hfree : ∀ t ∈ fork.kind.parts, Store.forest.CustomFree t := by
    intro t ht
    have hfork : fork ∈ tree.kind.parts := by simp [tree, kind, Kind.parts]
    exact (Store.customFree_tree.part hfork).part ht
  have hvalue : value.IsOrdered := by decide
  have hblocks : ∀ failFast, fork.kind.blocks?
      (fun t child => (t.validate .forest child ⟨failFast, 100⟩).1.issues) value =
        some [[branchIssue], [sizeIssue]] := by
    intro failFast
    have hbranch : (branch.validate .forest (.object [("size", .string "one")])
        ⟨failFast, 100⟩).1.issues =
          [⟨⟨[.field "size"]⟩, "Expected number, but was string", "invalid_type"⟩] := by
      cases failFast <;> exact issues_validate 20 (by decide)
    have hsize : ((mk 1 .number).validate .forest .null ⟨failFast, 100⟩).1.issues =
        [⟨.root, "Expected number, but was null", "invalid_type"⟩] := by
      cases failFast <;> exact issues_validate 20 (by decide)
    simp [fork, kind, Kind.blocks?, value, List.lookup_cons, hbranch, hsize, Issue.under, Path.under,
      Path.root, branchIssue, sizeIssue]
  exact ⟨(validate_of_blocks hfree hvalue (hblocks false)).1,
    (validate_of_blocks hfree hvalue (hblocks true)).1⟩

end Shape

end ShapeCheck
