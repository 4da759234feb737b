import ShapeCheck.Proofs.Composition
import ShapeCheck.Proofs.Identities
import ShapeCheck.Proofs.Locality

namespace ShapeCheck

namespace Check

theorem Meets.reachable {store : Store} {o : Options} {g : Guard} {s : Shape} {n : Node} {e : Entry}
    (h : Meets store o g s n e) (hfree : store.CustomFree s) : e.shape ∈ store.reachable s := by
  induction h with
  | @self g s n => exact ⟨s, .self, rfl⟩
  | @call g s t n k next e _ hcourse _ ih =>
    obtain ⟨_, _, ht, _⟩ := Shape.call_of_course (hfree s .self) hcourse
    obtain ⟨u, hu, hid⟩ := ih (hfree.part ht)
    exact ⟨u, (Store.Reaches.self.part ht).trans hu, hid⟩
  | @follow g s t n next e _ hcourse _ ih =>
    obtain ⟨_, _, name, registry, hk, ht⟩ := Shape.follow_of_course (hfree s .self) hcourse
    obtain ⟨u, hu, hid⟩ := ih (hfree.target hk ht)
    exact ⟨u, (Store.Reaches.self.target hk ht).trans hu, hid⟩

/-- An entry whose shape is out of reach may as well be absent from the guard. -/
theorem answer_enter {store : Store} {s : Shape} {e : Entry} (hfree : store.CustomFree s)
    (he : e.shape ∉ store.reachable s) (g : Guard) (n : Node) (o : Options) :
    answer store (g.enter e) s n o = answer store g s n o := by
  refine answer_eq_of_meets o g s n hfree (g.enter e) rfl fun e' he' => ?_
  have hne : e' ≠ e := by
    rintro rfl
    exact he (he'.reachable hfree)
  simp [Guard.enter, hne]

end Check

namespace Plan

theorem outcome_narrow (w : Replies) (refuses : Json → Option String) (n : Node) (x : Outcome) :
    (narrow refuses n x).outcome w =
      match x, refuses n.value with
      | .rejected f, _ => .rejected f
      | .accepted _, none => .accepted n
      | .accepted _, some message => .refuse message "constraint" := by
  cases x with
  | rejected f => rfl
  | accepted k =>
    rw [narrow, outcome]
    cases refuses n.value <;> rfl

end Plan

namespace Shape

variable {store : Store} {i : Identity} {members : List Shape} {m : Shape}

theorem validate_eq_outcome {s : Shape} (hfree : store.CustomFree s) (value : Json) (o : Options) :
    (s.validate store value o).1 =
      (s.plan (.root value) o).outcome (Check.replies store (Guard.fresh.enter ⟨s.id, .root⟩)) := by
  have hnew : ⟨s.id, (Node.root value).position⟩ ∉ Guard.fresh.inProgress := List.not_mem_nil
  exact Check.answer_new hfree hnew o

theorem answer_member (hfree : store.CustomFree m) (hfresh : i ∉ store.reachable m) (value : Json)
    (o : Options) :
    Check.answer store (Guard.fresh.enter ⟨i, .root⟩) m (.root value) o =
      (m.validate store value o).1 :=
  Check.answer_enter hfree hfresh .fresh (.root value) o

theorem validate_union (hfree : ∀ m ∈ members, store.CustomFree m)
    (hfresh : ∀ m ∈ members, i ∉ store.reachable m) (value : Json) (o : Options) :
    ((mk i (.union members)).validate store value o).1 =
      if members.any fun m => (m.validate store value o).1.isAccepted then .accepted (.root value)
      else .refuse ("Expected " ++ (Kind.union members).text ++ ", but was " ++ value.kindName)
        "no_match" := by
  have hany : (members.any fun m => (Check.answer store (Guard.fresh.enter ⟨i, .root⟩) m
        (.root value) o).isAccepted) =
      members.any fun m => (m.validate store value o).1.isAccepted := by
    rw [Bool.eq_iff_iff, List.any_eq_true, List.any_eq_true]
    apply exists_congr
    intro m
    apply and_congr_right
    intro hm
    rw [answer_member (hfree m hm) (hfresh m hm)]
  have hshape : store.CustomFree (mk i (.union members)) := .of_parts rfl nofun hfree
  rw [validate_eq_outcome hshape, ← hany]
  exact Plan.outcome_firstAccepting _ o (.root value) (mk i (.union members)) members

theorem validate_intersect (hfree : ∀ m ∈ members, store.CustomFree m)
    (hfresh : ∀ m ∈ members, i ∉ store.reachable m) (value : Json) (o : Options) :
    ((mk i (.intersect members)).validate store value o).1 =
      .ofIssues (.root value)
        (Plan.reported o.failFast (members.map fun m => (m.validate store value o).1.issues)) := by
  have hissues : (members.map fun m => (Check.answer store (Guard.fresh.enter ⟨i, .root⟩) m
      (.root value) o).issues) = members.map fun m => (m.validate store value o).1.issues := by
    apply List.map_congr_left
    intro m hm
    rw [answer_member (hfree m hm) (hfresh m hm)]
  have hshape : store.CustomFree (mk i (.intersect members)) := .of_parts rfl nofun hfree
  rw [validate_eq_outcome hshape, ← hissues]
  exact Plan.outcome_gatherMembers _ o (.root value) members (.settle (.root value))

theorem validate_optional (hfree : store.CustomFree m) (hfresh : i ∉ store.reachable m)
    (value : Json) (o : Options) :
    ((mk i (.optional m)).validate store value o).1 = (m.validate store value o).1 := by
  have hshape : store.CustomFree (mk i (.optional m)) :=
    .of_parts rfl nofun (by simpa [kind, Kind.parts] using hfree)
  rw [validate_eq_outcome hshape]
  exact answer_member hfree hfresh value o

theorem validate_constraint (hfree : store.CustomFree m) (hfresh : i ∉ store.reachable m)
    (name : Option String) (refuses : Json → Option String) (value : Json) (o : Options) :
    ((mk i (.constraint m name refuses)).validate store value o).1 =
      match (m.validate store value o).1, refuses value with
      | .rejected f, _ => .rejected f
      | .accepted _, none => .accepted (.root value)
      | .accepted _, some message => .refuse message "constraint" := by
  have hshape : store.CustomFree (mk i (.constraint m name refuses)) :=
    .of_parts rfl nofun (by simpa [kind, Kind.parts] using hfree)
  rw [validate_eq_outcome hshape]
  change (Plan.narrow refuses (.root value)
    (Check.answer store (Guard.fresh.enter ⟨i, .root⟩) m (.root value) o)).outcome _ = _
  rw [answer_member hfree hfresh, Plan.outcome_narrow]
  rfl

theorem isAccepted_union (hfree : ∀ m ∈ members, store.CustomFree m)
    (hfresh : ∀ m ∈ members, i ∉ store.reachable m) (value : Json) (o : Options) :
    ((mk i (.union members)).validate store value o).1.isAccepted =
      members.any fun m => (m.validate store value o).1.isAccepted := by
  rw [validate_union hfree hfresh]
  cases members.any fun m => (m.validate store value o).1.isAccepted <;> rfl

theorem isAccepted_intersect (hfree : ∀ m ∈ members, store.CustomFree m)
    (hfresh : ∀ m ∈ members, i ∉ store.reachable m) (value : Json) (o : Options) :
    ((mk i (.intersect members)).validate store value o).1.isAccepted =
      members.all fun m => (m.validate store value o).1.isAccepted := by
  rw [validate_intersect hfree hfresh, Bool.eq_iff_iff, Outcome.isAccepted_iff,
    Outcome.issues_ofIssues, Plan.reported_eq_nil, List.forall_mem_map, List.all_eq_true]
  simp only [Outcome.isAccepted_iff]

end Shape

theorem Session.Made.next_not_reachable {s : Session} {shapes : List Shape} {m : Shape}
    (h : s.Made shapes) (hm : m ∈ shapes) : s.nextIdentity ∉ s.store.reachable m := by
  rintro ⟨t, ht, hid⟩
  have hmade : t ∈ shapes := ht.mem h.sound.closed h.sound.store hm
  exact Nat.ne_of_lt (h.sound.bound t hmade) hid

/-- What is combined of shapes by "or" and "and", up to the identities of what is built for it. -/
inductive Combination
  | member (s : Shape)
  | or (a b : Combination)
  | and (a b : Combination)
  | nothing
  | anything

namespace Combination

def holds (accepts : Shape → Bool) : Combination → Bool
  | .member s => accepts s
  | .or a b => a.holds accepts || b.holds accepts
  | .and a b => a.holds accepts && b.holds accepts
  | .nothing => false
  | .anything => true

/-- The laws of a distributive lattice with a least and a greatest element, at any place of a
combination. -/
inductive Same : Combination → Combination → Prop
  | refl (a : Combination) : Same a a
  | symm {a b : Combination} (h : Same a b) : Same b a
  | trans {a b c : Combination} (hab : Same a b) (hbc : Same b c) : Same a c
  | or {a a' b b' : Combination} (ha : Same a a') (hb : Same b b') : Same (.or a b) (.or a' b')
  | and {a a' b b' : Combination} (ha : Same a a') (hb : Same b b') : Same (.and a b) (.and a' b')
  | orComm (a b : Combination) : Same (.or a b) (.or b a)
  | andComm (a b : Combination) : Same (.and a b) (.and b a)
  | orAssoc (a b c : Combination) : Same (.or (.or a b) c) (.or a (.or b c))
  | andAssoc (a b c : Combination) : Same (.and (.and a b) c) (.and a (.and b c))
  | orIdem (a : Combination) : Same (.or a a) a
  | andIdem (a : Combination) : Same (.and a a) a
  | orAbsorb (a b : Combination) : Same (.or a (.and a b)) a
  | andAbsorb (a b : Combination) : Same (.and a (.or a b)) a
  | orDistrib (a b c : Combination) : Same (.or a (.and b c)) (.and (.or a b) (.or a c))
  | andDistrib (a b c : Combination) : Same (.and a (.or b c)) (.or (.and a b) (.and a c))
  | orNothing (a : Combination) : Same (.or a .nothing) a
  | andAnything (a : Combination) : Same (.and a .anything) a

theorem Same.holds_eq {a b : Combination} (h : Same a b) (accepts : Shape → Bool) :
    a.holds accepts = b.holds accepts := by
  induction h with
  | refl => rfl
  | symm _ ih => exact ih.symm
  | trans _ _ ihab ihbc => exact ihab.trans ihbc
  | or _ _ iha ihb => rw [holds, holds, iha, ihb]
  | and _ _ iha ihb => rw [holds, holds, iha, ihb]
  | orComm => exact Bool.or_comm _ _
  | andComm => exact Bool.and_comm _ _
  | orAssoc => exact Bool.or_assoc _ _ _
  | andAssoc => exact Bool.and_assoc _ _ _
  | orIdem => exact Bool.or_self _
  | andIdem => exact Bool.and_self _
  | orAbsorb a b =>
    rw [holds, holds]
    cases a.holds accepts <;> rfl
  | andAbsorb a b =>
    rw [holds, holds]
    cases a.holds accepts <;> rfl
  | orDistrib => exact Bool.or_and_distrib_left _ _ _
  | andDistrib => exact Bool.and_or_distrib_left _ _ _
  | orNothing => exact Bool.or_false _
  | andAnything => exact Bool.and_true _

/-- The shape is built as the combination says, of members that come to no user's check. Each
union and each intersection is new: what it is built over does not come to it. -/
inductive Builds (store : Store) : Combination → Shape → Prop
  | member {s : Shape} (hfree : store.CustomFree s) : Builds store (.member s) s
  | or {a b : Combination} {s t : Shape} {i : Identity} (ha : Builds store a s)
      (hb : Builds store b t) (hs : i ∉ store.reachable s) (ht : i ∉ store.reachable t) :
      Builds store (.or a b) (.mk i (.or s t))
  | and {a b : Combination} {s t : Shape} {i : Identity} (ha : Builds store a s)
      (hb : Builds store b t) (hs : i ∉ store.reachable s) (ht : i ∉ store.reachable t) :
      Builds store (.and a b) (.mk i (.and s t))
  | never (i : Identity) : Builds store .nothing (.mk i .never)
  | emptyUnion (i : Identity) : Builds store .nothing (.mk i (.union []))
  | unknown (i : Identity) : Builds store .anything (.mk i .unknown)
  | emptyIntersect (i : Identity) : Builds store .anything (.mk i (.intersect []))

variable {store : Store} {e : Combination} {s : Shape}

theorem Builds.customFree (h : Builds store e s) : store.CustomFree s := by
  have hleaf : ∀ (i : Identity) (kind : Kind), kind.isCustom = false →
      (∀ name registry, kind ≠ .reference name registry) → kind.parts = [] →
      store.CustomFree (.mk i kind) := by
    intro i kind hplain href hparts
    exact .of_parts hplain href fun t ht => absurd (hparts ▸ ht) List.not_mem_nil
  induction h with
  | member hfree => exact hfree
  | or _ _ _ _ iha ihb =>
    refine .of_parts rfl (fun _ _ hk => by cases hk) ?_
    simp [Shape.kind, Kind.parts, Kind.or, iha, ihb]
  | and _ _ _ _ iha ihb =>
    refine .of_parts rfl (fun _ _ hk => by cases hk) ?_
    simp [Shape.kind, Kind.parts, Kind.and, iha, ihb]
  | never i => exact hleaf i _ rfl (fun _ _ hk => by cases hk) rfl
  | emptyUnion i => exact hleaf i _ rfl (fun _ _ hk => by cases hk) rfl
  | unknown i => exact hleaf i _ rfl (fun _ _ hk => by cases hk) rfl
  | emptyIntersect i => exact hleaf i _ rfl (fun _ _ hk => by cases hk) rfl

theorem Builds.isAccepted_eq (h : Builds store e s) (value : Json) (o : Options) :
    (s.validate store value o).1.isAccepted =
      e.holds fun m => (m.validate store value o).1.isAccepted := by
  induction h with
  | member => rfl
  | @or a b s t i ha hb hs ht iha ihb =>
    have hfree : ∀ m ∈ [s, t], store.CustomFree m := by simp [ha.customFree, hb.customFree]
    have hnew : ∀ m ∈ [s, t], i ∉ store.reachable m := by simp [hs, ht]
    rw [Kind.or, Shape.isAccepted_union hfree hnew, holds, ← iha, ← ihb]
    simp
  | @and a b s t i ha hb hs ht iha ihb =>
    have hfree : ∀ m ∈ [s, t], store.CustomFree m := by simp [ha.customFree, hb.customFree]
    have hnew : ∀ m ∈ [s, t], i ∉ store.reachable m := by simp [hs, ht]
    rw [Kind.and, Shape.isAccepted_intersect hfree hnew, holds, ← iha, ← ihb]
    simp
  | never i =>
    rw [Shape.validate_eq_outcome (Builds.never i).customFree]
    rfl
  | unknown i =>
    rw [Shape.validate_eq_outcome (Builds.unknown i).customFree]
    rfl
  | emptyUnion i => exact Shape.isAccepted_union (by simp) (by simp) value o
  | emptyIntersect i => exact Shape.isAccepted_intersect (by simp) (by simp) value o

end Combination

namespace Shape

/-- What a new combinator says of a value is composed of what its members say of it when each is
validated on its own; and combinations that are the same by the laws of a lattice have the same
verdict, however they are built. -/
theorem validate_combinators {store : Store} {i : Identity} {members : List Shape}
    (hfree : ∀ m ∈ members, store.CustomFree m) (hnew : ∀ m ∈ members, i ∉ store.reachable m)
    (value : Json) (o : Options) :
    let alone (m : Shape) : Outcome := (m.validate store value o).1
    let combined (kind : Kind) : Outcome := ((mk i kind).validate store value o).1
    (((combined (.union members)).isAccepted = true ↔ ∃ m ∈ members, (alone m).isAccepted = true) ∧
      ((combined (.union members)).isAccepted = false → (combined (.union members)).issues =
        [.atRoot ("Expected " ++ (Kind.union members).text ++ ", but was " ++ value.kindName)
          "no_match"])) ∧
    (((combined (.intersect members)).isAccepted = true ↔
        ∀ m ∈ members, (alone m).isAccepted = true) ∧
      (combined (.intersect members)).issues =
        if o.failFast then ((members.map fun m => (alone m).issues).find? (!·.isEmpty)).getD []
        else members.flatMap fun m => (alone m).issues) ∧
    (∀ m ∈ members, combined (.optional m) = alone m) ∧
    (∀ m ∈ members, ∀ name refuses, combined (.constraint m name refuses) =
      match alone m, refuses value with
      | .rejected f, _ => .rejected f
      | .accepted _, none => .accepted (.root value)
      | .accepted _, some message => .refuse message "constraint") ∧
    ∀ a b s t, Combination.Same a b → Combination.Builds store a s → Combination.Builds store b t →
      (alone s).isAccepted = (alone t).isAccepted := by
  intro alone combined
  refine ⟨⟨?_, ?_⟩, ⟨?_, ?_⟩, ?_, ?_, ?_⟩
  · change ((mk i (.union members)).validate store value o).1.isAccepted = true ↔ _
    rw [isAccepted_union hfree hnew, List.any_eq_true]
  · intro hrejected
    change ((mk i (.union members)).validate store value o).1.issues = _
    have hnone := hrejected
    change ((mk i (.union members)).validate store value o).1.isAccepted = false at hnone
    rw [isAccepted_union hfree hnew] at hnone
    rw [validate_union hfree hnew, hnone]
    rfl
  · change ((mk i (.intersect members)).validate store value o).1.isAccepted = true ↔ _
    rw [isAccepted_intersect hfree hnew, List.all_eq_true]
  · change ((mk i (.intersect members)).validate store value o).1.issues = _
    rw [validate_intersect hfree hnew, Outcome.issues_ofIssues, Plan.reported_eq, List.flatMap_def]
  · exact fun m hm => validate_optional (hfree m hm) (hnew m hm) value o
  · exact fun m hm name refuses => validate_constraint (hfree m hm) (hnew m hm) name refuses value o
  · intro a b s t hsame hs ht
    change (s.validate store value o).1.isAccepted = (t.validate store value o).1.isAccepted
    rw [hs.isAccepted_eq, ht.isAccepted_eq, hsame.holds_eq]

theorem validate_combinators_tree :
    let text : Shape := .mk 8 .string
    let both : Shape := .mk 9 (.and tree text)
    let value : Json := .object [("size", .null)]
    (both.validate .forest value .collectAll).1.issues =
        [⟨⟨[.field "size"]⟩, "Expected number, but was null", "invalid_type"⟩,
          .atRoot "Expected string, but was object" "invalid_type"] ∧
      ∀ value, ((mk 10 (.or tree both)).validate .forest value .collectAll).1.isAccepted =
        (tree.validate .forest value .collectAll).1.isAccepted := by
  intro text both value
  let known : List Shape := [tree, branch, fork, .mk 1 .number, text]
  have hstore : Store.forest.Within known := by simp [Store.Within, Store.forest, known]
  have hclosed : ∀ s ∈ known, ∀ t ∈ s.kind.parts, t ∈ known := by
    simp [known, text, tree, branch, fork, kind, Kind.parts]
  have hmembers : ∀ m ∈ [tree, text], m ∈ known := by simp [known]
  have hplain : ∀ t ∈ known, t.kind.isCustom = false := by
    simp [known, text, tree, branch, fork, kind, Kind.isCustom]
  have hsmall : ∀ t ∈ known, t.id < 9 := by simp [known, text, tree, branch, fork, id]
  have hfree : ∀ m ∈ [tree, text], Store.forest.CustomFree m :=
    fun m hm t ht => hplain t (ht.mem hclosed hstore (hmembers m hm))
  have hnew : ∀ m ∈ [tree, text], 9 ∉ Store.forest.reachable m := by
    rintro m hm ⟨t, ht, hid⟩
    exact Nat.ne_of_lt (hsmall t (ht.mem hclosed hstore (hmembers m hm))) hid
  have habove : 10 ∉ Store.forest.reachable tree ∧ 10 ∉ Store.forest.reachable both := by
    have hwide : ∀ s ∈ both :: known, ∀ t ∈ s.kind.parts, t ∈ both :: known := by
      simp [both, known, text, tree, branch, fork, kind, Kind.and, Kind.parts]
    have hwideStore : Store.forest.Within (both :: known) :=
      fun entry hentry e he => List.mem_cons_of_mem _ (hstore entry hentry e he)
    have hids : ∀ t ∈ both :: known, t.id ≠ 10 := by
      simp [both, known, text, tree, branch, fork, id]
    constructor
    · rintro ⟨t, ht, hid⟩
      exact hids t (ht.mem hwide hwideStore (by simp [known])) hid
    · rintro ⟨t, ht, hid⟩
      exact hids t (ht.mem hwide hwideStore List.mem_cons_self) hid
  have htree : (tree.validate .forest value .collectAll).1.issues =
      [⟨⟨[.field "size"]⟩, "Expected number, but was null", "invalid_type"⟩] :=
    issues_validate 20 (by decide)
  have htext : (text.validate .forest value .collectAll).1.issues =
      [.atRoot "Expected string, but was object" "invalid_type"] := issues_validate 20 (by decide)
  constructor
  · have hissues : (both.validate .forest value .collectAll).1.issues =
        [tree, text].flatMap fun m => (m.validate .forest value .collectAll).1.issues :=
      (validate_combinators hfree hnew value .collectAll).2.1.2
    rw [hissues, List.flatMap_cons, List.flatMap_singleton, htree, htext]
    rfl
  · intro value
    have hlaws := (validate_combinators hfree hnew value .collectAll).2.2.2.2
    have hleft : Combination.Builds .forest (.member tree) tree := .member (hfree tree (by simp))
    have hright : Combination.Builds .forest (.member text) text := .member (hfree text (by simp))
    have hboth := hleft.and hright (hnew tree (by simp)) (hnew text (by simp))
    exact hlaws _ _ _ _ (.orAbsorb _ _) (hleft.or hboth habove.1 habove.2) hleft

end Shape

end ShapeCheck
