import ShapeCheck.Session
import ShapeCheck.Proofs.Acceptance
import ShapeCheck.Proofs.Course

namespace ShapeCheck

structure Registration where
  registry : RegistryId
  name : String
  shape : Shape

namespace Store

/-- The registries after a request; one that is refused leaves them as they are. -/
def attempt (store : Store) (q : Registration) : Store :=
  match store.register? q.registry q.name q.shape with
  | some (.ok store') => store'
  | _ => store

def attempts (store : Store) (requests : List Registration) : Store := requests.foldl attempt store

theorem growsInto_attempt (store : Store) (q : Registration) :
    store.GrowsInto (store.attempt q) := by
  unfold attempt
  split
  · rename_i store' hregister
    exact growsInto_register hregister
  · exact .refl store

theorem growsInto_attempts (store : Store) (requests : List Registration) :
    store.GrowsInto (store.attempts requests) := by
  induction requests generalizing store with
  | nil => exact .refl store
  | cons q rest ih => exact (store.growsInto_attempt q).trans (ih (store.attempt q))

end Store

/-- A registration that succeeds in a session does to its registries what the request does. -/
theorem Session.store_register {s s' : Session} {q : Registration}
    (h : s.register q.registry q.name q.shape = .ok s') : s'.store = s.store.attempt q := by
  unfold Session.register at h
  unfold Store.attempt
  split at h
  · cases h
  · cases h
  · rename_i store hstore
    cases h
    rw [hstore]

namespace Store

/-- No check of the shape comes to a reference that finds nothing. -/
def Resolves (store : Store) (shape : Shape) : Prop :=
  ∀ s name registry, store.Reaches shape s → s.kind = .reference name registry →
    ∃ t, store.find registry name = .found t

variable {store store' : Store} {shape s : Shape}

theorem GrowsInto.find_eq (h : store.GrowsInto store') (hresolves : store.Resolves shape)
    (hs : store.Reaches shape s) {name : String} {registry : RegistryId}
    (hk : s.kind = .reference name registry) :
    store'.find registry name = store.find registry name := by
  obtain ⟨t, ht⟩ := hresolves s name registry hs hk
  rw [ht, h registry name t ht]

theorem GrowsInto.reaches (h : store.GrowsInto store') (hresolves : store.Resolves shape)
    (hs : store'.Reaches shape s) : store.Reaches shape s := by
  induction hs with
  | self => exact .self
  | part _ hu ih => exact ih.part hu
  | target _ hk hu ih =>
    rw [h.find_eq hresolves ih hk] at hu
    exact ih.target hk hu

end Store

theorem Plan.outcome_eq_of_confined {scope : Scope} {known : Shape → Prop} {plan : Plan}
    {w w' : Replies} (hplan : plan.Confined scope known)
    (hknown : ∀ t, known t → ∃ registry name,
      scope.names registry name ∧ w.store.find registry name = .found t)
    (hdepth : w'.depth = w.depth) (hidle : w'.isIdle = w.isIdle)
    (hfind : ∀ registry name, scope.names registry name →
      w'.store.find registry name = w.store.find registry name)
    (hinside : ∀ t k o, scope.shapes t → scope.nodes k → scope.options o →
      w'.inside t k o = w.inside t k o)
    (hbeyond : ∀ registry name t k o, scope.names registry name →
      w.store.find registry name = .found t → scope.nodes k → scope.options o →
      w'.beyond t k o = w.beyond t k o) : plan.outcome w' = plan.outcome w := by
  induction plan generalizing known with
  | done _ => rfl
  | call via t k o next ih =>
    obtain ⟨ht, hk, ho, -, hnext⟩ := hplan
    rw [outcome, outcome, hinside t k o ht hk ho]
    exact ih _ (hnext _) hknown
  | follow t k o next ih =>
    obtain ⟨ht, hk, ho, hnext⟩ := hplan
    -- What is followed has been found under a name, where both replies agree.
    obtain ⟨registry, name, hname, hfound⟩ := hknown t ht
    rw [outcome, outcome, hbeyond registry name t k o hname hfound hk ho]
    exact ih _ (hnext _) hknown
  | find registry name next ih =>
    rw [outcome, outcome, hfind registry name hplan.1]
    refine ih _ (hplan.2 _) fun t ht => ?_
    rcases ht with ht | ht
    · exact hknown t ht
    · exact ⟨registry, name, hplan.1, ht⟩
  | test refuses k next ih => exact ih _ (hplan.2 _) hknown
  | ask next ih =>
    rw [outcome, outcome, hdepth, hidle]
    exact ih _ _ (hplan _ _) hknown
  | report _ next ih => exact ih hplan hknown
  | register _ _ _ next ih => exact ih none (hplan.2.2 none) hknown

open Plan in
theorem Shape.plan_outcome_eq {w w' : Replies} {o : Options} {s : Shape} {n : Node}
    (hplain : s.kind.isCustom = false) (hdepth : w'.depth = w.depth) (hidle : w'.isIdle = w.isIdle)
    (hfind : ∀ name registry, s.kind = .reference name registry →
      w'.store.find registry name = w.store.find registry name)
    (hparts : ∀ t ∈ s.kind.parts, ∀ k, Near n k → w'.inside t k o = w.inside t k o)
    (htarget : ∀ name registry t, s.kind = .reference name registry →
      w.store.find registry name = .found t → w'.beyond t n o = w.beyond t n o) :
    (s.plan n o).outcome w' = (s.plan n o).outcome w := by
  have hoptions : ∀ o', (scopeOf s n o).options o' → o' = o := by
    intro o' ho
    rcases ho with ho | ho
    · exact ho
    · simp [hplain] at ho
  cases hd : s.kind.demands? n with
  | some demands =>
    refine outcome_eq_of_confined (s.plan_confined_below hd o) (fun _ ht => ht.elim) hdepth hidle
      (fun registry name hk => hfind name registry hk) ?_ ?_
    · intro t k o' ht hk ho
      rw [hoptions o' ho]
      exact hparts t ht k (Or.inr hk)
    · intro registry name t k o' hk _ _ _
      have hkind : s.kind = .reference name registry := hk
      rw [hkind] at hd
      cases hd
  | none =>
    refine outcome_eq_of_confined (s.plan_confined_here hplain hd o) (fun _ ht => ht.elim) hdepth
      hidle (fun registry name hk => hfind name registry hk) ?_ ?_
    · intro t k o' ht hk ho
      rw [hoptions o' ho]
      exact hparts t (Kind.mem_parts_of_relayed ht) k (Or.inl hk)
    · intro registry name t k o' hk hfound hn ho
      rw [hoptions o' ho, show k = n from hn]
      exact htarget name registry t hk hfound

namespace Check

theorem answer_eq_of_growsInto {store store' : Store} {shape : Shape}
    (hfree : store.CustomFree shape) (hgrows : store.GrowsInto store')
    (hresolves : store.Resolves shape) (o : Options) (g : Guard) (s : Shape) (n : Node) :
    store.Reaches shape s → answer store' g s n o = answer store g s n o := by
  apply answer_induction store (P := fun g s n => store.Reaches shape s →
    answer store' g s n o = answer store g s n o)
  · intro g s n hopen _
    rw [answer_open hopen, answer_open hopen]
  · intro g s n hnew hparts htarget hs
    have hbelow : store.Resolves s :=
      fun t name registry ht => hresolves t name registry (hs.trans ht)
    have hfree' : store'.CustomFree s := fun t ht => hfree t (hs.trans (hgrows.reaches hbelow ht))
    rw [answer_new (hfree.of_reaches hs) hnew, answer_new hfree' hnew]
    apply Shape.plan_outcome_eq (hfree s hs)
    · rfl
    · rfl
    · exact fun name registry hk => hgrows.find_eq hresolves hs hk
    · exact fun t ht k hk => hparts t ht k hk (hs.part ht)
    · exact fun name registry t hk ht => htarget name registry t hk ht (hs.target hk ht)

end Check

namespace Shape

/-- However many names are registered later, what is accepted stays accepted; and if a check comes
to no reference that finds nothing, its outcome stays the same altogether. -/
theorem validate_attempts {store : Store} {shape : Shape} (hfree : store.CustomFree shape)
    (requests : List Registration) (value : Json) (o : Options) :
    ((shape.validate store value o).1.isAccepted = true →
      (shape.validate (store.attempts requests) value o).1.isAccepted = true) ∧
    (store.Resolves shape →
      (shape.validate (store.attempts requests) value o).1 = (shape.validate store value o).1) := by
  have hgrows := store.growsInto_attempts requests
  constructor
  · intro haccepted
    exact Check.accepts_of_answer .fresh shape (.root value) hfree haccepted .fresh rfl
      (Nat.le_refl _) ⟨.fresh, store.attempts requests, []⟩ ⟨rfl, hgrows⟩
  · intro hresolves
    exact Check.answer_eq_of_growsInto hfree hgrows hresolves o .fresh shape (.root value) .self

theorem validate_attempts_leaf :
    let leaf : Shape := .mk 6 (.union [.mk 4 (.reference "Leaf" 0), .mk 5 .null])
    let requests : List Registration :=
      [⟨0, "Leaf", .mk 7 .never⟩, ⟨0, "Tree", .mk 7 .never⟩, ⟨1, "Leaf", .mk 7 .never⟩]
    Store.forest.find 0 "Leaf" = .missing ∧
      (Store.forest.attempts requests).find 0 "Leaf" = .found (.mk 7 .never) ∧
      (leaf.validate .forest .null .collectAll).1.isAccepted = true ∧
      (leaf.validate (Store.forest.attempts requests) .null .collectAll).1.isAccepted = true ∧
      (tree.validate (Store.forest.attempts requests) .null .collectAll).1 =
        (tree.validate .forest .null .collectAll).1 := by
  intro leaf requests
  let shapes : List Shape := [leaf, .mk 4 (.reference "Leaf" 0), .mk 5 .null, tree, branch, fork,
    .mk 1 .number]
  have hplain : ∀ t ∈ shapes, t.kind.isCustom = false := by
    simp [shapes, leaf, tree, branch, fork, kind, Kind.null, Kind.isCustom]
  have hleaf : Store.forest.CustomFree leaf := by
    refine fun t ht => hplain t (ht.mem ?_ ?_ List.mem_cons_self)
    · simp [shapes, leaf, tree, branch, fork, kind, Kind.null, Kind.parts]
    · simp [shapes, Store.Within, Store.forest]
  have haccepted : (leaf.validate .forest .null .collectAll).1.isAccepted = true :=
    (Outcome.isAccepted_iff _).2 (issues_validate 20 (by decide))
  have hresolves : Store.forest.Resolves tree := by
    intro s name registry hs hk
    have hs := Store.mem_of_reaches_tree hs
    simp only [List.mem_cons, List.not_mem_nil, or_false] at hs
    rcases hs with rfl | rfl | rfl | rfl <;> cases hk
    exact ⟨tree, rfl⟩
  exact ⟨rfl, rfl, haccepted, (validate_attempts hleaf requests .null .collectAll).1 haccepted,
    (validate_attempts Store.customFree_tree requests .null .collectAll).2 hresolves⟩

end Shape

end ShapeCheck
