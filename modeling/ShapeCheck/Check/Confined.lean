import ShapeCheck.Check.Plan

namespace ShapeCheck

namespace Plan

structure Scope where
  shapes : Shape → Prop
  nodes : Node → Prop
  options : Options → Prop
  names : RegistryId → String → Prop
  /-- Whether it may pass the guard by and register shapes. -/
  isFree : Prop

/-- The steps of a plan stay in the scope, and it follows only what it has found. -/
def Confined (scope : Scope) (known : Shape → Prop) : Plan → Prop
  | .done _ => True
  | .call via shape node options next =>
    scope.shapes shape ∧ scope.nodes node ∧ scope.options options ∧
      (via = .direct → scope.isFree) ∧ ∀ outcome, (next outcome).Confined scope known
  | .follow target node options next =>
    known target ∧ scope.nodes node ∧ scope.options options ∧
      ∀ outcome, (next outcome).Confined scope known
  | .find registry name next =>
    scope.names registry name ∧ ∀ l, (next l).Confined scope fun t => known t ∨ l = .found t
  | .test _ node next => scope.nodes node ∧ ∀ reason, (next reason).Confined scope known
  | .ask next => ∀ depth isIdle, (next depth isIdle).Confined scope known
  | .report _ next => next.Confined scope known
  | .register _ _ shape next =>
    scope.isFree ∧ scope.shapes shape ∧ ∀ e, (next e).Confined scope known

theorem Confined.mono {scope scope' : Scope} {known known' : Shape → Prop} {plan : Plan}
    (h : plan.Confined scope known) (hs : ∀ s, scope.shapes s → scope'.shapes s)
    (hn : ∀ n, scope.nodes n → scope'.nodes n) (ho : ∀ o, scope.options o → scope'.options o)
    (hf : ∀ r name, scope.names r name → scope'.names r name)
    (hu : scope.isFree → scope'.isFree) (hk : ∀ t, known t → known' t) :
    plan.Confined scope' known' := by
  induction plan generalizing known known' with
  | done _ => trivial
  | call via s n o next ih =>
    obtain ⟨h1, h2, h3, h4, h5⟩ := h
    exact ⟨hs s h1, hn n h2, ho o h3, fun e => hu (h4 e), fun outcome => ih outcome (h5 outcome) hk⟩
  | follow t n o next ih =>
    obtain ⟨h1, h2, h3, h4⟩ := h
    exact ⟨hk t h1, hn n h2, ho o h3, fun outcome => ih outcome (h4 outcome) hk⟩
  | find r name next ih =>
    exact ⟨hf r name h.1, fun l => ih l (h.2 l) fun t ht => ht.imp_left (hk t)⟩
  | test _ n next ih => exact ⟨hn n h.1, fun reason => ih reason (h.2 reason) hk⟩
  | ask next ih => exact fun depth isIdle => ih depth isIdle (h depth isIdle) hk
  | report _ next ih => exact ih h hk
  | register _ _ s next ih =>
    exact ⟨hu h.1, hs s h.2.1, fun e => ih e (h.2.2 e) hk⟩

def Near (node : Node) (n : Node) : Prop := n = node ∨ node.IsChild n

/-- What a check of the shape on the node has to do with at first hand. -/
def scopeOf (shape : Shape) (node : Node) (options : Options) : Scope where
  shapes s := s ∈ shape.kind.parts
  nodes := Near node
  options o := o = options ∨ shape.kind.isCustom
  names registry name := shape.kind = .reference name registry
  isFree := shape.kind.isCustom

def Demand.Confined (scope : Scope) : Demand → Prop
  | .conforms _ shape node => scope.shapes shape ∧ scope.nodes node
  | .missing _ _ => True

section

variable {scope : Scope} {known : Shape → Prop}

theorem confined_gather {options : Options} {demands : List Demand} {next : List Issue → Plan}
    (hd : ∀ d ∈ demands, d.Confined scope) (ho : scope.options options)
    (hn : ∀ is, (next is).Confined scope known) :
    (gather options demands next).Confined scope known := by
  induction demands generalizing next with
  | nil => exact hn []
  | cons d rest ih =>
    have hrest : ∀ {next : List Issue → Plan}, (∀ is, (next is).Confined scope known) →
        (gather options rest next).Confined scope known :=
      fun hn => ih (fun d h => hd d (List.mem_cons_of_mem _ h)) hn
    cases d with
    | conforms place shape node =>
      obtain ⟨hs, hnode⟩ := hd _ List.mem_cons_self
      refine ⟨hs, hnode, ho, nofun, fun outcome => ?_⟩
      cases outcome with
      | accepted _ => exact hrest hn
      | rejected f =>
        dsimp only
        split
        · exact hn _
        · exact hrest fun _ => hn _
    | missing place shape =>
      unfold gather
      split
      · exact hn _
      · exact hrest fun _ => hn _

theorem confined_firstAccepting {options : Options} {node : Node} {union : Shape}
    {alternatives : List Shape} (hs : ∀ s ∈ alternatives, scope.shapes s)
    (ho : scope.options options) (hnode : scope.nodes node) :
    (firstAccepting options node union alternatives).Confined scope known := by
  induction alternatives with
  | nil => trivial
  | cons s rest ih =>
    refine ⟨hs s List.mem_cons_self, hnode, ho, nofun, fun outcome => ?_⟩
    cases outcome with
    | accepted _ => trivial
    | rejected _ => exact ih fun s h => hs s (List.mem_cons_of_mem _ h)

theorem confined_gatherMembers {options : Options} {node : Node} {members : List Shape}
    {next : List Issue → Plan} (hs : ∀ s ∈ members, scope.shapes s) (ho : scope.options options)
    (hnode : scope.nodes node) (hn : ∀ is, (next is).Confined scope known) :
    (gatherMembers options node members next).Confined scope known := by
  induction members generalizing next with
  | nil => exact hn []
  | cons s rest ih =>
    have hrest : ∀ {next : List Issue → Plan}, (∀ is, (next is).Confined scope known) →
        (gatherMembers options node rest next).Confined scope known :=
      fun hn => ih (fun s h => hs s (List.mem_cons_of_mem _ h)) hn
    refine ⟨hs s List.mem_cons_self, hnode, ho, nofun, fun outcome => ?_⟩
    cases outcome with
    | accepted _ => exact hrest hn
    | rejected f =>
      dsimp only
      split
      · exact hn _
      · exact hrest fun _ => hn _

theorem confined_resolve {options : Options} {node : Node} {name : String}
    {registry : RegistryId} (ho : scope.options options) (hnode : scope.nodes node)
    (hname : scope.names registry name) :
    (resolve options node name registry).Confined scope known := by
  intro depth _
  dsimp only
  split
  · trivial
  · refine ⟨hname, fun l => ?_⟩
    cases l with
    | found target => exact ⟨Or.inr rfl, hnode, ho, fun _ => trivial⟩
    | _ => trivial

theorem confined_ofScript {slots : List Shape} {node : Node} (script : Script)
    (hs : ∀ s ∈ slots, scope.shapes s) (hnode : ∀ n, Near node n → scope.nodes n)
    (ho : ∀ o, scope.options o) (hu : scope.isFree) :
    (ofScript slots node script).Confined scope known := by
  induction script with
  | done _ => trivial
  | inspect _ ih => exact fun depth isIdle => ih depth isIdle
  | call via slot focus options next ih =>
    unfold ofScript
    split
    · rename_i shape target hshape htarget
      refine ⟨hs _ (List.mem_of_getElem? hshape), hnode _ ?_, ho _, fun _ => hu,
        fun outcome => ih _⟩
      cases focus with
      | here => exact Or.inl (Option.some.inj htarget).symm
      | child s => exact Or.inr (Node.isChild_of_child? htarget)
    · exact ih _
  | register registry name slot next ih =>
    unfold ofScript
    split
    · rename_i shape hshape
      exact ⟨hu, hs _ (List.mem_of_getElem? hshape), fun e => ih _⟩
    · exact ih _

theorem confined_itemDemands {element : Shape} {items : List (Segment × Node)}
    (hs : scope.shapes element) (hi : ∀ s c, (s, c) ∈ items → scope.nodes c) :
    ∀ d ∈ itemDemands element items, d.Confined scope := by
  intro d hd
  obtain ⟨⟨s, c⟩, hc, rfl⟩ := List.mem_map.1 hd
  exact ⟨hs, hi s c hc⟩

theorem confined_pairDemands {elements : List Shape} {items : List (Segment × Node)}
    (hs : ∀ s ∈ elements, scope.shapes s) (hi : ∀ s c, (s, c) ∈ items → scope.nodes c) :
    ∀ d ∈ pairDemands elements items, d.Confined scope := by
  intro d hd
  obtain ⟨⟨e, s, c⟩, hc, rfl⟩ := List.mem_map.1 hd
  exact ⟨hs e (List.of_mem_zip hc).1, hi s c (List.of_mem_zip hc).2⟩

theorem confined_fieldDemands {node : Node} {isPartial : Bool} {fields : List (String × Shape)}
    (hs : ∀ f ∈ fields, scope.shapes f.2) (hi : ∀ c, node.IsChild c → scope.nodes c) :
    ∀ d ∈ fieldDemands isPartial node fields, d.Confined scope := by
  induction fields with
  | nil => intro d hd; simp [fieldDemands] at hd
  | cons f rest ih =>
    obtain ⟨name, shape⟩ := f
    have hrest := ih fun f h => hs f (List.mem_cons_of_mem _ h)
    unfold fieldDemands
    split
    · rename_i child hchild
      intro d hd
      rcases List.mem_cons.1 hd with rfl | hd
      · exact ⟨hs _ List.mem_cons_self, hi _ (Node.isChild_of_child? hchild)⟩
      · exact hrest d hd
    · split
      · exact hrest
      · intro d hd
        rcases List.mem_cons.1 hd with rfl | hd
        · trivial
        · exact hrest d hd

end

end Plan

theorem Shape.plan_confined (shape : Shape) (node : Node) (options : Options) :
    (shape.plan node options).Confined (Plan.scopeOf shape node options) fun _ => False := by
  have here : Plan.Near node node := Or.inl rfl
  have same : (Plan.scopeOf shape node options).options options := Or.inl rfl
  have below : ∀ c, node.IsChild c → (Plan.scopeOf shape node options).nodes c := fun c h => Or.inr h
  have part : ∀ s ∈ shape.kind.parts, (Plan.scopeOf shape node options).shapes s := fun s h => h
  have watched : Via.watched = .direct → (Plan.scopeOf shape node options).isFree := by
    intro h
    cases h
  unfold Shape.plan
  cases hk : shape.kind with
  | array element isReadonly =>
    dsimp only
    split
    · trivial
    · rename_i items hi
      exact Plan.confined_gather
        (Plan.confined_itemDemands (part _ (by simp [hk, Kind.parts]))
          fun s c h => below c ((Node.isChild_iff_items hi).2 ⟨_, h⟩)) same fun _ => trivial
  | tuple elements =>
    dsimp only
    split
    · trivial
    · rename_i items hi
      split
      · exact Plan.confined_gather
          (Plan.confined_pairDemands (fun s h => part s (by rwa [hk]))
            fun s c h => below c ((Node.isChild_iff_items hi).2 ⟨_, h⟩)) same fun _ => trivial
      · trivial
  | record fields isPartial =>
    dsimp only
    split
    · trivial
    · exact Plan.confined_gather
        (Plan.confined_fieldDemands
          (fun f h => part f.2 (by rw [hk]; exact List.mem_map.2 ⟨f, h, rfl⟩)) below)
        same fun _ => trivial
  | dictionary value =>
    dsimp only
    split
    · trivial
    · rename_i members hm
      exact Plan.confined_gather
        (Plan.confined_itemDemands (part _ (by simp [hk, Kind.parts]))
          fun s c h => below c ((Node.isChild_iff_members hm).2 ⟨_, h⟩)) same fun _ => trivial
  | union alternatives =>
    exact Plan.confined_firstAccepting (fun s h => part s (by rwa [hk])) same here
  | intersect members =>
    exact Plan.confined_gatherMembers (fun s h => part s (by rwa [hk])) same here fun _ => trivial
  | optional inner =>
    exact ⟨part _ (by simp [hk, Kind.parts]), here, same, watched, fun _ => trivial⟩
  | constraint underlying name refuses =>
    refine ⟨part _ (by simp [hk, Kind.parts]), here, same, watched, fun outcome => ?_⟩
    cases outcome with
    | rejected f => trivial
    | accepted _ => exact ⟨here, fun reason => by cases reason <;> trivial⟩
  | reference name registry => exact Plan.confined_resolve same here hk
  | custom tag slots registries body =>
    have hu : shape.kind.isCustom := by simp [hk, Kind.isCustom]
    exact Plan.confined_ofScript _ (fun s h => part s (by rwa [hk])) (fun n h => h)
      (fun o => Or.inr hu) hu
  | literal value => dsimp only; split <;> trivial
  | boolean => dsimp only; split <;> trivial
  | number => dsimp only; split <;> trivial
  | string => dsimp only; split <;> trivial
  | unknown => trivial
  | never => trivial

end ShapeCheck
