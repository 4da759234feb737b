import Mathlib.Data.List.Forall2
import ShapeCheck.Proofs.Combinators
import ShapeCheck.Proofs.Dangling
import ShapeCheck.Proofs.RegistryHistory

namespace ShapeCheck

namespace Issue

def limitReached (limit : Nat) (name : String) : String :=
  "Maximum reference depth " ++ toString limit ++ " exceeded resolving '" ++ name ++ "'"

/-- The same issue, but that the second names the limit `high` where the first names `low`. -/
inductive Relimited (low high : Nat) : Issue → Issue → Prop
  | same {e : Issue} (hcode : e.code ≠ "max_depth_exceeded") : Relimited low high e e
  | limit (path : Path) (name : String) :
      Relimited low high ⟨path, limitReached low name, "max_depth_exceeded"⟩
        ⟨path, limitReached high name, "max_depth_exceeded"⟩

theorem Relimited.under {low high : Nat} {e e' : Issue} (h : Relimited low high e e')
    (place : Segment) : Relimited low high (e.under place) (e'.under place) := by
  cases h with
  | same hcode => exact .same hcode
  | limit path name => exact .limit (path.under place) name

end Issue

def Outcome.Relimited (low high : Nat) (x y : Outcome) : Prop :=
  List.Forall₂ (Issue.Relimited low high) x.issues y.issues

namespace Outcome.Relimited

variable {low high : Nat} {x y : Outcome}

theorem isAccepted_eq (h : Relimited low high x y) : x.isAccepted = y.isAccepted := by
  have hnil : x.issues = [] ↔ y.issues = [] := by
    rw [← List.length_eq_zero_iff, ← List.length_eq_zero_iff, h.length_eq]
  rw [Bool.eq_iff_iff, Outcome.isAccepted_iff, Outcome.isAccepted_iff, hnil]

theorem accepted (n k : Node) : Relimited low high (.accepted n) (.accepted k) := .nil

theorem refuse (message : String) {code : String} (h : code ≠ "max_depth_exceeded") :
    Relimited low high (.refuse message code) (.refuse message code) :=
  .cons (.same h) .nil

end Outcome.Relimited

namespace Plan

/-- Reports of related rows are related: where the one stops at a first row with issues, so does the
other. -/
theorem forall₂_reported {R : Issue → Issue → Prop} (failFast : Bool)
    {found found' : List (List Issue)} (h : List.Forall₂ (List.Forall₂ R) found found') :
    List.Forall₂ R (reported failFast found) (reported failFast found') := by
  induction h with
  | nil => exact .nil
  | @cons is is' rest rest' his _ ih =>
    have hempty : is'.isEmpty = is.isEmpty := by cases his <;> rfl
    rw [reported, reported, hempty]
    split
    · exact his
    · exact List.rel_append his ih

/-- The replies to checks with one limit and with the other, where both have references left to open
or neither has. -/
structure Replies.Relimited (o o' : Options) (s : Shape) (n : Node) (w w' : Replies) : Prop where
  failFast : o'.failFast = o.failFast
  left : w'.depth < o'.depthLimit ↔ w.depth < o.depthLimit
  store : w'.store = w.store
  parts : ∀ t ∈ s.kind.parts, ∀ k, Near n k →
    (w.inside t k o).Relimited o.depthLimit o'.depthLimit (w'.inside t k o')
  target : ∀ name registry t, s.kind = .reference name registry →
    w.store.find registry name = .found t →
    (w.beyond t n o).Relimited o.depthLimit o'.depthLimit (w'.beyond t n o')

variable {o o' : Options} {s : Shape} {n : Node} {w w' : Replies}

namespace Replies.Relimited

theorem gather {demands : List Demand} (h : Replies.Relimited o o' s n w w')
    (hd : s.kind.demands? n = some demands) :
    ((gather o demands (settle n)).outcome w).Relimited o.depthLimit o'.depthLimit
      ((Plan.gather o' demands (settle n)).outcome w') := by
  rw [outcome_gather, outcome_gather, Outcome.Relimited, settle, settle, outcome, outcome,
    Outcome.issues_ofIssues, Outcome.issues_ofIssues, h.failFast]
  apply forall₂_reported
  rw [List.forall₂_map_left_iff, List.forall₂_map_right_iff, List.forall₂_same]
  intro d hmem
  have hinward := Kind.inward_of_demands hd d hmem
  cases d with
  | conforms place t c =>
    rw [Demand.issues, Demand.issues, List.forall₂_map_left_iff, List.forall₂_map_right_iff]
    exact (h.parts t hinward.1 c (Or.inr hinward.2.1)).imp fun _ _ he => he.under place
  | missing place t =>
    exact .cons (.same (show "missing_field" ≠ "max_depth_exceeded" by decide)) .nil

theorem gatherMembers {members : List Shape} (h : Replies.Relimited o o' s n w w')
    (hk : s.kind = .intersect members) :
    ((gatherMembers o n members (settle n)).outcome w).Relimited o.depthLimit o'.depthLimit
      ((Plan.gatherMembers o' n members (settle n)).outcome w') := by
  rw [outcome_gatherMembers, outcome_gatherMembers, Outcome.Relimited, settle, settle, outcome,
    outcome, Outcome.issues_ofIssues, Outcome.issues_ofIssues, h.failFast]
  apply forall₂_reported
  rw [List.forall₂_map_left_iff, List.forall₂_map_right_iff, List.forall₂_same]
  exact fun t ht => h.parts t (by rwa [hk]) n (Or.inl rfl)

theorem firstAccepting {alternatives : List Shape} (h : Replies.Relimited o o' s n w w')
    (hk : s.kind = .union alternatives) :
    ((firstAccepting o n s alternatives).outcome w).Relimited o.depthLimit o'.depthLimit
      ((Plan.firstAccepting o' n s alternatives).outcome w') := by
  have hany : (alternatives.any fun t => (w'.inside t n o').isAccepted) =
      alternatives.any fun t => (w.inside t n o).isAccepted := by
    rw [Bool.eq_iff_iff, List.any_eq_true, List.any_eq_true]
    refine exists_congr fun t => and_congr_right fun ht => ?_
    rw [(h.parts t (by rwa [hk]) n (Or.inl rfl)).isAccepted_eq]
  rw [outcome_firstAccepting, outcome_firstAccepting, hany]
  split
  · exact .accepted n n
  · exact .refuse _ (by decide)

theorem constraint {underlying : Shape} {refuses : Json → Option String}
    (h : Replies.Relimited o o' s n w w') (ht : underlying ∈ s.kind.parts) :
    ((call .watched underlying n o (narrow refuses n)).outcome w).Relimited
      o.depthLimit o'.depthLimit
      ((call .watched underlying n o' (narrow refuses n)).outcome w') := by
  have hcall := h.parts underlying ht n (Or.inl rfl)
  rw [Outcome.Relimited, issues_constraint, issues_constraint, hcall.isAccepted_eq]
  split
  · rw [List.forall₂_same]
    intro e he
    obtain ⟨message, -, rfl⟩ := List.mem_map.1 he
    exact .same (show "constraint" ≠ "max_depth_exceeded" by decide)
  · exact hcall

theorem resolve {name : String} {registry : RegistryId} (h : Replies.Relimited o o' s n w w')
    (hk : s.kind = .reference name registry) :
    ((resolve o n name registry).outcome w).Relimited o.depthLimit o'.depthLimit
      ((Plan.resolve o' n name registry).outcome w') := by
  by_cases hleft : w.depth < o.depthLimit
  · rw [outcome_resolve _ _ _ _ _ hleft, outcome_resolve _ _ _ _ _ (h.left.2 hleft), h.store]
    cases hfind : w.store.find registry name with
    | dropped => exact .refuse _ (by decide)
    | missing => exact .refuse _ (by decide)
    | found t => exact h.target name registry t hk hfind
  · have hleft' : ¬w'.depth < o'.depthLimit := fun hlt => hleft (h.left.1 hlt)
    simp only [Plan.resolve, outcome, if_pos (Nat.le_of_not_lt hleft),
      if_pos (Nat.le_of_not_lt hleft')]
    exact .cons (.limit .root name) .nil

end Replies.Relimited

end Plan

open Plan in
theorem Shape.plan_relimited {o o' : Options} {s : Shape} {n : Node} {w w' : Replies}
    (hplain : s.kind.isCustom = false) (h : Replies.Relimited o o' s n w w') :
    ((s.plan n o).outcome w).Relimited o.depthLimit o'.depthLimit ((s.plan n o').outcome w') := by
  cases hd : s.kind.demands? n with
  | some demands =>
    rw [plan_of_demands hd, plan_of_demands hd]
    exact h.gather hd
  | none =>
    have hshallow := shallow_plan hplain hd
    generalize s.plan n = plan at hshallow ⊢
    cases hshallow with
    | accept => exact .accepted n n
    | @mismatch expected code hcode =>
      refine .refuse _ ?_
      rintro rfl
      exact absurd hcode (by decide)
    | literal message => exact .refuse message (by decide)
    | length start hvalue => exact .refuse _ (by decide)
    | union alternatives hk => exact h.firstAccepting hk
    | intersect members hk => exact h.gatherMembers hk
    | optional inner hk => exact h.parts inner (by simp [hk, Kind.parts]) n (Or.inl rfl)
    | constraint underlying name refuses hk => exact h.constraint (by simp [hk, Kind.parts])
    | reference name registry hk => exact h.resolve hk

namespace Check

/-- Checks that have as many references left to open report the same, but for the limit. -/
theorem relimited_answer {store : Store} {o o' : Options} (hfast : o'.failFast = o.failFast)
    (g : Guard) (s : Shape) (n : Node) : store.CustomFree s → ∀ g' : Guard,
      g'.inProgress = g.inProgress →
      o.depthLimit + g'.referenceDepth = o'.depthLimit + g.referenceDepth →
      (answer store g s n o).Relimited o.depthLimit o'.depthLimit (answer store g' s n o') := by
  apply answer_induction store (P := fun g s n => store.CustomFree s → ∀ g' : Guard,
    g'.inProgress = g.inProgress →
    o.depthLimit + g'.referenceDepth = o'.depthLimit + g.referenceDepth →
    (answer store g s n o).Relimited o.depthLimit o'.depthLimit (answer store g' s n o'))
  · intro g s n hopen _ g' hsame _
    rw [answer_open hopen, answer_open (hsame ▸ hopen)]
    exact .accepted n n
  · intro g s n hnew hparts htarget hfree g' hsame hleft
    have hentered : (g'.enter ⟨s.id, n.position⟩).inProgress =
        (g.enter ⟨s.id, n.position⟩).inProgress := congrArg (_ :: ·) hsame
    rw [answer_new hfree hnew, answer_new hfree (hsame ▸ hnew)]
    apply Shape.plan_relimited (hfree s .self)
    refine ⟨hfast, ?_, rfl, ?_, ?_⟩
    · change g'.referenceDepth < o'.depthLimit ↔ g.referenceDepth < o.depthLimit
      omega
    · exact fun t ht k hk => hparts t ht k hk (hfree.part ht) _ hentered hleft
    · exact fun name registry t hk ht => htarget name registry t hk ht (hfree.target hk ht)
        (g'.enter ⟨s.id, n.position⟩).descend hentered (congrArg (· + 1) hleft)

end Check

theorem Store.CustomFree.of_target {store : Store} {i : Identity} {name : String}
    {registry : RegistryId}
    (h : ∀ t, store.find registry name = .found t → store.CustomFree t) :
    store.CustomFree (.mk i (.reference name registry)) := by
  have hreach : ∀ u, store.Reaches (.mk i (.reference name registry)) u →
      u = .mk i (.reference name registry) ∨
        ∃ t, store.find registry name = .found t ∧ store.Reaches t u := by
    intro u hu
    induction hu with
    | self => exact Or.inl rfl
    | part _ hpart ih =>
      rcases ih with rfl | ⟨t, ht, hu⟩
      · cases hpart
      · exact Or.inr ⟨t, ht, hu.part hpart⟩
    | target _ hk hfound ih =>
      rcases ih with rfl | ⟨t, ht, hu⟩
      · cases hk
        exact Or.inr ⟨_, hfound, .self⟩
      · exact Or.inr ⟨t, ht, hu.target hk hfound⟩
  intro u hu
  rcases hreach u hu with rfl | ⟨t, ht, hu⟩
  · rfl
  · exact h t ht u hu

namespace Shape

variable {store : Store} {i : Identity} {name : String} {registry : RegistryId}

theorem validate_reference_eq
    (hfree : ∀ t, store.find registry name = .found t → store.CustomFree t) (value : Json)
    {o : Options} (hlimit : 0 < o.depthLimit) :
    ((mk i (.reference name registry)).validate store value o).1 =
      match store.find registry name with
      | .dropped =>
        .refuse ("Reference to '" ++ name ++ "' outlived its registry") "missing_registry"
      | .missing => .refuse (Issue.notRegistered name) "missing_reference"
      | .found t =>
        Check.answer store (Guard.fresh.descend.enter ⟨i, .root⟩) t (.root value) o := by
  rw [validate_eq_outcome (.of_target hfree)]
  exact Plan.outcome_resolve _ o (.root value) name registry hlimit

/-- A reference that its target does not come back to costs one reference and adds nothing. -/
theorem relimited_reference {t : Shape} (hfound : store.find registry name = .found t)
    (hfree : store.CustomFree t) (hnew : i ∉ store.reachable t) (value : Json) (failFast : Bool)
    (limit : Nat) :
    (t.validate store value ⟨failFast, limit⟩).1.Relimited limit (limit + 1)
      ((mk i (.reference name registry)).validate store value ⟨failFast, limit + 1⟩).1 := by
  have htarget : ∀ u, store.find registry name = .found u → store.CustomFree u := by
    intro u hu
    rw [hfound] at hu
    cases hu
    exact hfree
  rw [validate_reference_eq htarget value (Nat.succ_pos limit), hfound]
  have hfast : (Options.mk failFast (limit + 1)).failFast = (Options.mk failFast limit).failFast :=
    rfl
  have hanswer : (Check.answer store .fresh t (.root value) ⟨failFast, limit⟩).Relimited limit
      (limit + 1) (Check.answer store Guard.fresh.descend t (.root value) ⟨failFast, limit + 1⟩) :=
    Check.relimited_answer hfast .fresh t (.root value) hfree Guard.fresh.descend rfl rfl
  change Outcome.Relimited limit (limit + 1) _
    (Check.answer store (Guard.fresh.descend.enter ⟨i, .root⟩) t (.root value) _)
  rw [Check.answer_enter hfree hnew]
  exact hanswer

end Shape

namespace Session

variable {s : Session} {shapes : List Shape} {registry : RegistryId} {t : Table} {name : String}

/-- A new reference to a registered name says of every value what the validation by that name says,
if it may open one more reference: it has the same verdict and the same issues, which name the
higher limit. Where the name is not registered, the reference misses it and the validation by name
finds nothing. -/
theorem reference_as_named (hmade : s.Made shapes) (hlive : s.store.table? registry = some t)
    (hfree : ∀ shape, t.get? name = some shape → s.store.CustomFree shape) (value : Json)
    (failFast : Bool) (limit : Nat) :
    let issued := s.mint (.reference name registry)
    let through := (issued.2.validate issued.1 value ⟨failFast, limit + 1⟩).1
    let named := s.validateNamed registry name value ⟨failFast, limit⟩
    (∀ shape, t.get? name = some shape → ∃ outcome s'', named = .ok (outcome, s'') ∧
      (through.isAccepted = true ↔ outcome.isAccepted = true) ∧
      List.Forall₂ (Issue.Relimited limit (limit + 1)) outcome.issues through.issues) ∧
    (t.get? name = none → named = .error (.notFound name) ∧
      through.issues = [.atRoot (Issue.notRegistered name) "missing_reference"]) := by
  intro issued through named
  have htable : s.table registry = t := by rw [Session.table, hlive]; rfl
  have hfind : s.store.find registry name = (t.get? name).elim .missing .found :=
    Store.find_of_table hlive name
  constructor
  · intro shape hget
    rw [hget] at hfind
    have hmem : shape ∈ shapes := hmade.sound.store.of_find hfind
    -- No shape within reach has the identity of the new reference, so it is not met again.
    have hthrough : (shape.validate s.store value ⟨failFast, limit⟩).1.Relimited limit (limit + 1)
        through :=
      Shape.relimited_reference hfind (hfree shape hget) (hmade.next_not_reachable hmem) value
        failFast limit
    have hnamed : named = .ok (s.validate shape value ⟨failFast, limit⟩) := by
      change s.validateNamed registry name value _ = _
      rw [validateNamed, htable, hget]
    refine ⟨_, _, hnamed, ?_, hthrough⟩
    rw [← hthrough.isAccepted_eq]
    rfl
  · intro hget
    rw [hget] at hfind
    have hnone : ∀ u, s.store.find registry name = .found u → s.store.CustomFree u := by
      intro u hu
      rw [hfind] at hu
      cases hu
    constructor
    · change s.validateNamed registry name value _ = _
      rw [validateNamed, htable, hget]
    · change ((Shape.mk s.nextIdentity (.reference name registry)).validate s.store value
        ⟨failFast, limit + 1⟩).1.issues = _
      rw [Shape.validate_reference_eq hnone value (Nat.succ_pos limit), hfind]
      rfl

def orchard : Session := { start with
  nextIdentity := 4
  store := .forest
  log := [.registered "Tree" "intersect"] }

theorem made_orchard : orchard.Made [.tree, .fork, .mk 1 .number, Shape.branch] := by
  have hstart : start.store = ⟨[(0, .empty)]⟩ := by
    refine Store.dropUnheld_of_held (fun entry hentry => ?_) 1
    rw [List.mem_singleton.1 hentry]
    exact @mem_holdings start "main" 0 (List.mem_singleton.2 rfl)
  let one := (start.mint (.reference "Tree" 0)).2
  let two := (one.mint .number).2
  let three := (two.mint Shape.fork.kind).2
  let four := (three.mint Shape.tree.kind).2
  have hbranch : one.Made [Shape.branch] :=
    .mint (.openRegistry .empty "main") (by simp [Kind.parts])
  have hnumber : two.Made [.mk 1 .number, Shape.branch] := hbranch.mint (by simp [Kind.parts])
  have hfork : three.Made [.fork, .mk 1 .number, Shape.branch] :=
    hnumber.mint (by simp [Shape.fork, Shape.kind, Kind.parts])
  have htree : four.Made [.tree, .fork, .mk 1 .number, Shape.branch] :=
    hfork.mint (by simp [Shape.tree, Shape.kind, Kind.parts])
  have htable : four.store.table? 0 = some .empty := table?_openRegistry .empty "main"
  have hforest : start.store.replaceTable 0 (Table.empty.insert "Tree" .tree) = .forest := by
    rw [hstart]
    rfl
  have hregister : four.register 0 "Tree" .tree = .ok orchard := by
    refine (register_new htable Bool.false_ne_true .tree).trans ?_
    change Except.ok { four with
      store := start.store.replaceTable 0 _
      log := [.registered "Tree" "intersect"] } = _
    rw [hforest]
    rfl
  exact htree.register List.mem_cons_self hregister

/-- Three trees inside each other pass a limit of one by name, and a limit of two through a
reference; and no leaf is registered. -/
theorem reference_as_named_tree :
    let value : Json := .object [("left", .object [("left", .object [])])]
    let place : Path := ⟨[.field "left", .field "left"]⟩
    let through (name : String) : Outcome :=
      (orchard.validate (.mk 4 (.reference name 0)) value ⟨false, 2⟩).1
    (∃ outcome s', orchard.validateNamed 0 "Tree" value ⟨false, 1⟩ = .ok (outcome, s') ∧
      outcome.issues = [⟨place, Issue.limitReached 1 "Tree", "max_depth_exceeded"⟩] ∧
      (through "Tree").issues = [⟨place, Issue.limitReached 2 "Tree", "max_depth_exceeded"⟩] ∧
      List.Forall₂ (Issue.Relimited 1 2) outcome.issues (through "Tree").issues) ∧
    orchard.validateNamed 0 "Leaf" value ⟨false, 1⟩ = .error (.notFound "Leaf") ∧
    (through "Leaf").issues = [.atRoot (Issue.notRegistered "Leaf") "missing_reference"] := by
  intro value place through
  have hlive : orchard.store.table? 0 = some ⟨[("Tree", .tree)]⟩ := rfl
  have hfree : ∀ shape, (Table.mk [("Tree", .tree)]).get? "Tree" = some shape →
      orchard.store.CustomFree shape := by
    intro shape hget
    cases hget
    exact Store.customFree_tree
  have hleaf : ∀ shape, (Table.mk [("Tree", .tree)]).get? "Leaf" = some shape →
      orchard.store.CustomFree shape := nofun
  have hlow : (Shape.tree.validate .forest value ⟨false, 1⟩).1.issues =
      [⟨place, Issue.limitReached 1 "Tree", "max_depth_exceeded"⟩] :=
    Shape.issues_validate 20 (by decide)
  have hhigh : (through "Tree").issues =
      [⟨place, Issue.limitReached 2 "Tree", "max_depth_exceeded"⟩] :=
    Shape.issues_validate 20 (by decide)
  obtain ⟨outcome, s', hnamed, -, hthrough⟩ :=
    (reference_as_named made_orchard hlive hfree value false 1).1 .tree rfl
  have hleast := (reference_as_named made_orchard hlive hleaf value false 1).2 rfl
  refine ⟨⟨outcome, s', hnamed, ?_, hhigh, hthrough⟩, hleast⟩
  have htree : orchard.validateNamed 0 "Tree" value ⟨false, 1⟩ =
      .ok (orchard.validate .tree value ⟨false, 1⟩) := rfl
  rw [htree] at hnamed
  cases hnamed
  exact hlow

end Session

end ShapeCheck
