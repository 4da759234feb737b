import ShapeCheck.Proofs.Combinators

namespace ShapeCheck

abbrev Verdict := Json → Bool

namespace Verdict

def boolean : Verdict
  | .boolean _ => true
  | _ => false

def number : Verdict
  | .number _ => true
  | _ => false

def string : Verdict
  | .string _ => true
  | _ => false

def array (element : Verdict) : Verdict
  | .array items => items.all element
  | _ => false

def tuple (elements : List Verdict) : Verdict
  | .array items => items.length == elements.length && (elements.zip items).all fun (m, v) => m v
  | _ => false

end Verdict

theorem Store.Distinct.part {store : Store} {s t : Shape} (h : store.Distinct s)
    (ht : t ∈ s.kind.parts) : store.Distinct t :=
  fun u v hu hv => h u v ((Reaches.self.part ht).trans hu) ((Reaches.self.part ht).trans hv)

namespace Shape

/-- Arrays, tuples, unions and intersections of the simple types, to any depth; a union or an
intersection has more than one member. -/
inductive Basic : Shape → Prop
  | boolean (i : Identity) : Basic (.mk i .boolean)
  | number (i : Identity) : Basic (.mk i .number)
  | string (i : Identity) : Basic (.mk i .string)
  | array (i : Identity) {element : Shape} (isReadonly : Bool) (h : Basic element) :
      Basic (.mk i (.array element isReadonly))
  | tuple (i : Identity) {elements : List Shape} (h : ∀ t ∈ elements, Basic t) :
      Basic (.mk i (.tuple elements))
  | union (i : Identity) {alternatives : List Shape} (hlength : 1 < alternatives.length)
      (h : ∀ t ∈ alternatives, Basic t) : Basic (.mk i (.union alternatives))
  | intersect (i : Identity) {members : List Shape} (hlength : 1 < members.length)
      (h : ∀ t ∈ members, Basic t) : Basic (.mk i (.intersect members))

def accepts (store : Store) (o : Options) (s : Shape) : Verdict :=
  fun value => (s.validate store value o).1.isAccepted

namespace Basic

variable {store : Store} {s t : Shape} {o : Options}

theorem part (h : Basic s) (ht : t ∈ s.kind.parts) : Basic t := by
  cases h with
  | boolean i => cases ht
  | number i => cases ht
  | string i => cases ht
  | array i isReadonly h =>
    cases List.mem_singleton.1 ht
    exact h
  | tuple i h => exact h t ht
  | union i _ h => exact h t ht
  | intersect i _ h => exact h t ht

theorem kind_ne_reference (h : Basic s) (name : String) (registry : RegistryId) :
    s.kind ≠ .reference name registry := by
  cases h <;> exact nofun

theorem isCustom_eq_false (h : Basic s) : s.kind.isCustom = false := by
  cases h <;> rfl

theorem of_reaches (h : Basic s) (ht : store.Reaches s t) : Basic t ∧ t ∈ s.family := by
  induction ht with
  | self => exact ⟨h, s.mem_family⟩
  | part _ hu ih => exact ⟨ih.1.part hu, part_mem_family ih.2 hu⟩
  | target _ hk _ ih => exact absurd hk (ih.1.kind_ne_reference _ _)

theorem customFree (h : Basic s) : store.CustomFree s :=
  fun _ ht => (h.of_reaches ht).1.isCustom_eq_false

theorem distinct (h : Basic s) (hids : (s.family.map Shape.id).Nodup) : store.Distinct s :=
  Store.distinct_of_nodup hids fun _ ht => (h.of_reaches ht).2

theorem not_reachable (h : Basic s) (hids : store.Distinct s) (ht : t ∈ s.kind.parts) :
    s.id ∉ store.reachable t := by
  rintro ⟨u, hu, hid⟩
  have hsame : u = s := hids u s ((Store.Reaches.self.part ht).trans hu) .self hid
  have hsize : u.size ≤ t.size := size_le_of_mem_family ((h.part ht).of_reaches hu).2
  rw [hsame] at hsize
  exact Nat.not_lt.2 hsize (size_lt_of_part ht)

end Basic

section

variable {store : Store} {o : Options} {i : Identity}

theorem accepts_eq_outcome {s : Shape} (h : s.Basic) (value : Json) :
    s.accepts store o value = ((s.plan (.root value) o).outcome
      (Check.replies store (Guard.fresh.enter ⟨s.id, .root⟩))).isAccepted := by
  rw [accepts, validate_eq_outcome h.customFree]

theorem accepts_eq_isEmpty (s : Shape) (value : Json) :
    s.accepts store o value = (s.validate store value o).1.issues.isEmpty := by
  rw [accepts]
  cases (s.validate store value o).1 with
  | accepted k => rfl
  | rejected f => rfl

theorem accepts_boolean : (mk i .boolean).accepts store o = .boolean := by
  funext value
  rw [accepts_eq_outcome (.boolean i)]
  cases value <;> rfl

theorem accepts_number : (mk i .number).accepts store o = .number := by
  funext value
  rw [accepts_eq_outcome (.number i)]
  cases value <;> rfl

theorem accepts_string : (mk i .string).accepts store o = .string := by
  funext value
  rw [accepts_eq_outcome (.string i)]
  cases value <;> rfl

theorem accepts_of_blocks {s : Shape} (h : s.Basic) {value : Json} {blocks : List (List Issue)}
    (hblocks : s.kind.blocks? (fun t child => (t.validate store child o).1.issues) value =
      some blocks) : s.accepts store o value = blocks.all (·.isEmpty) := by
  have hdictionary : ∀ t, s.kind = .dictionary t → value.IsOrdered := by
    cases h <;> exact nofun
  have hverdict := validate_eq_reported (fun t ht => (h.part ht).customFree) hdictionary hblocks
  rw [accepts, hverdict, Bool.eq_iff_iff, Outcome.isAccepted_iff, Outcome.issues_ofIssues,
    Plan.reported_eq_nil, List.all_eq_true]
  simp only [List.isEmpty_iff]

theorem all_isEmpty_mapIdx {α : Type} (l : List α) (issues : α → List Issue)
    (move : Nat → Issue → Issue) :
    (l.mapIdx fun i a => (issues a).map (move i)).all (·.isEmpty) =
      l.all fun a => (issues a).isEmpty := by
  induction l generalizing move with
  | nil => rfl
  | cons a rest ih => simp [List.mapIdx_cons, ih fun i => move (i + 1)]

theorem accepts_array {element : Shape} {isReadonly : Bool} (h : element.Basic) :
    (mk i (.array element isReadonly)).accepts store o = .array (element.accepts store o) := by
  have hbasic : Basic (mk i (.array element isReadonly)) := .array i isReadonly h
  funext value
  cases value with
  | array items =>
    refine (accepts_of_blocks hbasic rfl).trans ?_
    rw [all_isEmpty_mapIdx, Verdict.array]
    congr 1
    funext item
    exact (accepts_eq_isEmpty element item).symm
  | _ =>
    rw [accepts_eq_outcome hbasic]
    rfl

theorem accepts_tuple {elements : List Shape} (h : ∀ t ∈ elements, t.Basic) :
    (mk i (.tuple elements)).accepts store o = .tuple (elements.map (accepts store o)) := by
  have hbasic : Basic (mk i (.tuple elements)) := .tuple i h
  funext value
  cases value with
  | array items =>
    rw [Verdict.tuple, List.length_map]
    by_cases hlength : items.length = elements.length
    · have hblocks : (mk i (.tuple elements)).kind.blocks?
          (fun t child => (t.validate store child o).1.issues) (.array items) = some _ :=
        if_pos hlength
      rw [accepts_of_blocks hbasic hblocks, all_isEmpty_mapIdx, hlength, beq_self_eq_true,
        Bool.true_and, List.zip_map_left, List.all_map]
      congr 1
      funext pair
      exact (accepts_eq_isEmpty pair.1 pair.2).symm
    · have hplan : (mk i (.tuple elements)).plan (.root (.array items)) o =
          .refuse ("Expected an array of length " ++ toString elements.length ++ ", but was " ++
            toString items.length) "tuple_length" := by
        have hitems : ((Node.root (.array items)).itemsFrom 0 items).length = items.length :=
          Node.length_itemsFrom _ 0 items
        change (if ((Node.root (.array items)).itemsFrom 0 items).length = elements.length then _
          else Plan.refuse _ _) = _
        rw [hitems, if_neg hlength]
      rw [accepts_eq_outcome hbasic, hplan, beq_false_of_ne hlength]
      rfl
  | _ =>
    rw [accepts_eq_outcome hbasic]
    rfl

theorem accepts_union {alternatives : List Shape} (h : Basic (mk i (.union alternatives)))
    (hids : store.Distinct (mk i (.union alternatives))) (value : Json) :
    (mk i (.union alternatives)).accepts store o value =
      alternatives.any (accepts store o · value) :=
  isAccepted_union (fun _ hm => (h.part hm).customFree) (fun _ hm => h.not_reachable hids hm)
    value o

theorem accepts_intersect {members : List Shape} (h : Basic (mk i (.intersect members)))
    (hids : store.Distinct (mk i (.intersect members))) (value : Json) :
    (mk i (.intersect members)).accepts store o value =
      members.all (accepts store o · value) :=
  isAccepted_intersect (fun _ hm => (h.part hm).customFree) (fun _ hm => h.not_reachable hids hm)
    value o

end

end Shape

end ShapeCheck
