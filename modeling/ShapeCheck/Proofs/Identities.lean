import ShapeCheck.Session
import ShapeCheck.Proofs.Reach

namespace ShapeCheck

theorem Shape.family_subset {shapes : List Shape}
    (hclosed : ∀ s ∈ shapes, ∀ t ∈ s.kind.parts, t ∈ shapes) {s t : Shape} (hs : s ∈ shapes)
    (ht : t ∈ s.family) : t ∈ shapes := by
  rw [s.family_eq] at ht
  rcases List.mem_cons.1 ht with rfl | ht
  · exact hs
  · obtain ⟨p, hp, ht⟩ := mem_familyAll.1 ht
    exact family_subset hclosed (hclosed s hs p hp) ht
termination_by s.size
decreasing_by exact size_lt_of_part hp

namespace Store

theorem Within.family_subset {store : Store} {shapes : List Shape} (h : store.Within shapes)
    (hclosed : ∀ s ∈ shapes, ∀ t ∈ s.kind.parts, t ∈ shapes) {t : Shape} (ht : t ∈ store.family) :
    t ∈ shapes := by
  obtain ⟨entry, hentry, e, he, hte⟩ := mem_family.1 ht
  exact Shape.family_subset hclosed (h entry hentry e he) hte

theorem Within.collect {store : Store} {shapes : List Shape} (h : store.Within shapes)
    (outside : Holdings) : (store.collect outside).Within shapes := by
  have hdrop : ∀ (n : Nat) (s : Store), s.Within shapes → (dropUnheld outside n s).Within shapes := by
    intro n
    induction n with
    | zero => exact fun s hs => hs
    | succ n ih =>
      intro s hs
      unfold dropUnheld
      dsimp only
      split
      · exact hs
      · apply ih
        intro entry hentry
        exact hs entry (List.mem_filter.1 hentry).1
  exact hdrop store.tables.length store h

theorem within_run {via : Via} {r : Run} {s : Shape} {shapes : List Shape}
    (hstore : r.store.Within shapes) (hclosed : ∀ s ∈ shapes, ∀ t ∈ s.kind.parts, t ∈ shapes)
    (hs : s ∈ shapes) (n : Node) (o : Options) : (Check.run via r s n o).2.store.Within shapes := by
  obtain ⟨outcome, r', h, _, hwithin⟩ := Check.calls_returns via r s n o
  have hsub : ∀ t ∈ (Check.realm r.store s n).shapes, t ∈ shapes := by
    intro t ht
    rcases List.mem_append.1 ht with ht | ht
    · exact Shape.family_subset hclosed hs ht
    · exact hstore.family_subset hclosed ht
  rw [Check.run_eq_of_calls h]
  intro entry hentry e he
  exact hsub e.2 (hwithin entry hentry e he)

end Store

namespace Session

/-- A session that has come about by its operations, and the shapes it has made, the latest first.
What else there is, such as the validation of many values, goes through these. -/
inductive Made : Session → List Shape → Prop
  | empty : Made .empty []
  | mint {s : Session} {shapes : List Shape} {kind : Kind} (h : Made s shapes)
      (hk : ∀ t ∈ kind.parts, t ∈ shapes) : Made (s.mint kind).2 ((s.mint kind).1 :: shapes)
  | nameShape {s : Session} {shapes : List Shape} {shape : Shape} (h : Made s shapes)
      (name : String) (hs : shape ∈ shapes) : Made (s.nameShape name shape) shapes
  | openRegistry {s : Session} {shapes : List Shape} (h : Made s shapes) (name : String) :
      Made (s.openRegistry name) shapes
  | shareRegistry {s : Session} {shapes : List Shape} (h : Made s shapes) (registry : RegistryId)
      (name : String) : Made (s.shareRegistry registry name) shapes
  | dropRegistry {s : Session} {shapes : List Shape} (h : Made s shapes) (name : String) :
      Made (s.dropRegistry name) shapes
  | register {s s' : Session} {shapes : List Shape} {shape : Shape} (h : Made s shapes)
      {registry : RegistryId} {name : String} (hs : shape ∈ shapes)
      (hr : s.register registry name shape = .ok s') : Made s' shapes
  | validate {s : Session} {shapes : List Shape} {shape : Shape} (h : Made s shapes)
      (hs : shape ∈ shapes) (value : Json) (o : Options) : Made (s.validate shape value o).2 shapes
  | runUnder {s : Session} {shapes : List Shape} {shape : Shape} (h : Made s shapes)
      (hs : shape ∈ shapes) (via : Via) (name : String) (g : Guard) (value : Json) (o : Options) :
      Made (s.runUnder via name g shape value o).2 shapes

structure Sound (s : Session) (shapes : List Shape) : Prop where
  ids : (shapes.map Shape.id).Nodup
  bound : ∀ t ∈ shapes, t.id < s.nextIdentity
  closed : ∀ t ∈ shapes, ∀ u ∈ t.kind.parts, u ∈ shapes
  store : s.store.Within shapes

theorem Sound.mint {s : Session} {shapes : List Shape} {kind : Kind} (h : Sound s shapes)
    (hk : ∀ t ∈ kind.parts, t ∈ shapes) : Sound (s.mint kind).2 ((s.mint kind).1 :: shapes) := by
  have hnew : s.nextIdentity ∉ shapes.map Shape.id := by
    intro hmem
    obtain ⟨t, ht, hid⟩ := List.mem_map.1 hmem
    exact absurd hid (Nat.ne_of_lt (h.bound t ht))
  refine ⟨List.nodup_cons.2 ⟨hnew, h.ids⟩, ?_, ?_, ?_⟩
  · intro t ht
    change t.id < s.nextIdentity + 1
    rcases List.mem_cons.1 ht with rfl | ht
    · exact Nat.lt_succ_self _
    · exact Nat.lt_succ_of_lt (h.bound t ht)
  · intro t ht u hu
    apply List.mem_cons_of_mem
    rcases List.mem_cons.1 ht with rfl | ht
    · exact hk u hu
    · exact h.closed t ht u hu
  · exact fun entry hentry e he => List.mem_cons_of_mem _ (h.store entry hentry e he)

theorem Sound.congr {s s' : Session} {shapes : List Shape} (h : Sound s shapes)
    (hnext : s'.nextIdentity = s.nextIdentity) (hstore : s'.store.Within shapes) :
    Sound s' shapes :=
  ⟨h.ids, by rw [hnext]; exact h.bound, h.closed, hstore⟩

theorem Made.sound {s : Session} {shapes : List Shape} (h : Made s shapes) : Sound s shapes := by
  induction h with
  | empty =>
    refine ⟨List.nodup_nil, ?_, ?_, ?_⟩
    · exact fun t ht => absurd ht List.not_mem_nil
    · exact fun t ht => absurd ht List.not_mem_nil
    · exact fun entry hentry => absurd hentry List.not_mem_nil
  | mint _ hk ih => exact ih.mint hk
  | nameShape _ _ _ ih => exact ih.congr rfl (ih.store.collect _)
  | shareRegistry _ _ _ ih => exact ih.congr rfl (ih.store.collect _)
  | dropRegistry _ _ ih => exact ih.congr rfl (ih.store.collect _)
  | openRegistry _ _ ih =>
    refine ih.congr rfl (Store.Within.collect ?_ _)
    intro entry hentry
    rcases List.mem_cons.1 hentry with rfl | hentry
    · exact fun e he => absurd he List.not_mem_nil
    · exact ih.store entry hentry
  | register _ hs hr ih =>
    unfold Session.register at hr
    split at hr
    · cases hr
    · cases hr
    · rename_i store hstore
      cases hr
      exact ih.congr rfl (ih.store.register hs hstore)
  | validate _ hs value o ih =>
    exact ih.congr rfl (Store.within_run ih.store ih.closed hs (.root value) o)
  | runUnder _ hs via name g value o ih =>
    exact ih.congr rfl (Store.within_run ih.store ih.closed hs (.root value) o)

/-- In a session no two shapes share their identity, wherever a check may come. -/
theorem Made.distinct {s : Session} {shapes : List Shape} {shape : Shape} (h : Made s shapes)
    (hs : shape ∈ shapes) : s.store.Distinct shape :=
  Store.distinct_of_nodup h.sound.ids fun _ ht => ht.mem h.sound.closed h.sound.store hs

end Session

end ShapeCheck
