import Mathlib.Data.List.Sort
import ShapeCheck.Proofs.Dangling
import ShapeCheck.Proofs.Ordered
import ShapeCheck.Proofs.RegistryHistory

namespace ShapeCheck

/-- The shapes directly inside that can be seen: a user's check hides its slots. -/
def Kind.shown : Kind → List Shape
  | .custom .. => []
  | kind => kind.parts

namespace Shape

def at? (s : Shape) : List Nat → Option Shape
  | [] => some s
  | i :: place => s.kind.shown[i]?.bind (·.at? place)

def RefersAt (s : Shape) (place : List Nat) (name : String) : Prop :=
  ∃ u registry, s.at? place = some u ∧ u.kind = .reference name registry

theorem refersAt_nil {s : Shape} {name : String} :
    s.RefersAt [] name ↔ ∃ registry, s.kind = .reference name registry := by
  simp [RefersAt, at?]

theorem refersAt_cons {s : Shape} {i : Nat} {place : List Nat} {name : String} :
    s.RefersAt (i :: place) name ↔ ∃ t, s.kind.shown[i]? = some t ∧ t.RefersAt place name := by
  simp only [RefersAt, at?, Option.bind_eq_some_iff]
  constructor
  · rintro ⟨u, registry, ⟨t, ht, hu⟩, hk⟩
    exact ⟨t, ht, u, registry, hu, hk⟩
  · rintro ⟨t, ht, u, registry, hu, hk⟩
    exact ⟨u, registry, ⟨t, ht, hu⟩, hk⟩

end Shape

/-- The names are those at the places, each as often as it stands there, from left to right. -/
def ReadsOff (names : List String) (stands : List Nat → String → Prop) : Prop :=
  ∃ rows : List (List Nat × String), rows.Pairwise (·.1 < ·.1) ∧
    (∀ place name, (place, name) ∈ rows ↔ stands place name) ∧ rows.map Prod.snd = names

namespace ReadsOff

variable {names others : List String} {stands also : List Nat → String → Prop}

theorem congr (h : ReadsOff names stands)
    (hsame : ∀ place name, stands place name ↔ also place name) : ReadsOff names also := by
  obtain ⟨rows, hrows, hmem, hnames⟩ := h
  exact ⟨rows, hrows, fun place name => (hmem place name).trans (hsame place name), hnames⟩

theorem nil (h : ∀ place name, ¬ stands place name) : ReadsOff [] stands :=
  ⟨[], .nil, by simp [h], rfl⟩

theorem append (h : ReadsOff names stands) (h' : ReadsOff others also)
    (hbefore : ∀ place place' name name',
      stands place name → also place' name' → place < place') :
    ReadsOff (names ++ others) fun place name => stands place name ∨ also place name := by
  obtain ⟨rows, hrows, hmem, rfl⟩ := h
  obtain ⟨rows', hrows', hmem', rfl⟩ := h'
  refine ⟨rows ++ rows', List.pairwise_append.2 ⟨hrows, hrows', ?_⟩, ?_, List.map_append⟩
  · rintro ⟨place, name⟩ hrow ⟨place', name'⟩ hrow'
    exact hbefore _ _ _ _ ((hmem _ _).1 hrow) ((hmem' _ _).1 hrow')
  · intro place name
    rw [List.mem_append, hmem, hmem']

theorem under (h : ReadsOff names stands) (i : Nat) :
    ReadsOff names fun place name => ∃ rest, place = i :: rest ∧ stands rest name := by
  obtain ⟨rows, hrows, hmem, rfl⟩ := h
  refine ⟨rows.map fun row => (i :: row.1, row.2), ?_, ?_, by simp⟩
  · rw [List.pairwise_map]
    exact hrows.imp fun hlt => List.cons_lt_cons_iff.2 (.inr ⟨rfl, hlt⟩)
  · intro place name
    rw [List.mem_map]
    constructor
    · rintro ⟨row, hrow, heq⟩
      cases heq
      exact ⟨row.1, rfl, (hmem _ _).1 hrow⟩
    · rintro ⟨rest, rfl, hstands⟩
      exact ⟨(rest, name), (hmem _ _).2 hstands, rfl⟩

theorem mem_iff (h : ReadsOff names stands) {name : String} :
    name ∈ names ↔ ∃ place, stands place name := by
  obtain ⟨rows, -, hmem, rfl⟩ := h
  rw [List.mem_map]
  constructor
  · rintro ⟨⟨place, name⟩, hrow, rfl⟩
    exact ⟨place, (hmem _ _).1 hrow⟩
  · rintro ⟨place, hstands⟩
    exact ⟨(place, name), (hmem _ _).2 hstands, rfl⟩

end ReadsOff

theorem referencesAll_readsOff {shapes : List Shape}
    (h : ∀ s ∈ shapes, ReadsOff s.references s.RefersAt) (k : Nat) :
    ReadsOff (referencesAll shapes) fun place name =>
      ∃ i rest s, place = (k + i) :: rest ∧ shapes[i]? = some s ∧ s.RefersAt rest name := by
  induction shapes generalizing k with
  | nil => exact .nil (by simp)
  | cons s shapes ih =>
    have hfirst := (h s List.mem_cons_self).under k
    have hrest := ih (fun t ht => h t (List.mem_cons_of_mem s ht)) (k + 1)
    refine (hfirst.append hrest ?_).congr ?_
    · rintro _ _ _ _ ⟨rest, rfl, -⟩ ⟨i, rest', t, rfl, -⟩
      exact List.cons_lt_cons_iff.2 (.inl (by omega))
    · intro place name
      constructor
      · rintro (⟨rest, hplace, hrefers⟩ | ⟨i, rest, t, hplace, ht, hrefers⟩)
        · exact ⟨0, rest, s, hplace, rfl, hrefers⟩
        · exact ⟨i + 1, rest, t, by rw [hplace]; congr 1; omega, ht, hrefers⟩
      · rintro ⟨i, rest, t, hplace, ht, hrefers⟩
        cases i with
        | zero =>
          cases ht
          exact .inl ⟨rest, hplace, hrefers⟩
        | succ i => exact .inr ⟨i, rest, t, by rw [hplace]; congr 1; omega, ht, hrefers⟩

theorem referencesFields_eq (fields : List (String × Shape)) :
    referencesFields fields = referencesAll (fields.map Prod.snd) := by
  induction fields with
  | nil => rfl
  | cons f rest ih => rw [referencesFields, List.map_cons, referencesAll, ih]

theorem Kind.references_eq {kind : Kind} (h : ∀ name registry, kind ≠ .reference name registry) :
    kind.references = referencesAll kind.shown := by
  cases kind with
  | reference name registry => exact absurd rfl (h name registry)
  | record fields isPartial => exact referencesFields_eq fields
  | _ => simp [references, shown, parts, referencesAll]

namespace Shape

theorem shown_subset_parts {s t : Shape} (h : t ∈ s.kind.shown) : t ∈ s.kind.parts := by
  unfold Kind.shown at h
  split at h
  · cases h
  · exact h

theorem references_readsOff (s : Shape) : ReadsOff s.references s.RefersAt := by
  obtain ⟨id, kind⟩ := s
  rw [references]
  by_cases href : ∃ name registry, kind = .reference name registry
  · obtain ⟨name, registry, rfl⟩ := href
    refine ⟨[([], name)], List.pairwise_singleton _ _, ?_, rfl⟩
    intro place other
    cases place with
    | nil => simp [refersAt_nil, Shape.kind, eq_comm]
    | cons i place => simp [refersAt_cons, Shape.kind, Kind.shown, Kind.parts]
  · have hnone : ∀ name registry, kind ≠ .reference name registry :=
      fun name registry hk => href ⟨name, registry, hk⟩
    rw [Kind.references_eq hnone]
    have hparts : ∀ t ∈ kind.shown, ReadsOff t.references t.RefersAt :=
      fun t ht => t.references_readsOff
    refine (referencesAll_readsOff hparts 0).congr ?_
    intro place name
    cases place with
    | nil => simp [refersAt_nil, Shape.kind, hnone]
    | cons i place => simp [refersAt_cons, Shape.kind]
termination_by s.size
decreasing_by exact size_lt_of_part (shown_subset_parts ht)

end Shape

/-- Repetitions in a sorted row stand side by side, so that none is left. -/
theorem pairwise_eraseReps {names : List String} (h : names.Pairwise (· ≤ ·)) :
    names.eraseReps.Pairwise (· < ·) := by
  have hloop : ∀ (a : String) (l kept : List String), (a :: l).Pairwise (· ≤ ·) →
      (a :: kept).Pairwise (· > ·) →
      (List.eraseRepsBy.loop (fun x y => x == y) a l kept).Pairwise (· < ·) := by
    intro a l
    induction l generalizing a with
    | nil =>
      intro kept _ hkept
      rw [List.eraseRepsBy.loop]
      exact List.pairwise_reverse.2 hkept
    | cons b l ih =>
      intro kept hsorted hkept
      obtain ⟨hfirst, hrest⟩ := List.pairwise_cons.1 hsorted
      rw [List.eraseRepsBy.loop]
      split
      · rename_i heq
        exact ih a kept (eq_of_beq heq ▸ hrest) hkept
      · rename_i hne
        have hlt : a < b := lt_of_le_of_ne (hfirst b List.mem_cons_self) (by simpa using hne)
        refine ih b (a :: kept) hrest (List.pairwise_cons.2 ⟨?_, hkept⟩)
        intro c hc
        rcases List.mem_cons.1 hc with rfl | hc
        · exact hlt
        · exact ((List.pairwise_cons.1 hkept).1 c hc).trans hlt
  cases names with
  | nil => exact .nil
  | cons a l => exact hloop a l [] h (List.pairwise_singleton _ _)

namespace Table

theorem unresolved_ascends (t : Table) : t.unresolved.Pairwise (· < ·) := by
  have htrans : ∀ a b c : String, decide (a ≤ b) = true → decide (b ≤ c) = true →
      decide (a ≤ c) = true :=
    fun a b c hab hbc => decide_eq_true (le_trans (of_decide_eq_true hab) (of_decide_eq_true hbc))
  have htotal : ∀ a b : String, (decide (a ≤ b) || decide (b ≤ a)) = true :=
    fun a b => by simpa using le_total a b
  have hsorted := List.pairwise_mergeSort htrans htotal
    ((referencesFields t.entries).filter (!t.contains ·))
  exact pairwise_eraseReps (hsorted.imp fun hab => of_decide_eq_true hab)

theorem unresolved_perm {t : Table} {entries : List (String × Shape)}
    (h : entries.Perm t.entries) : (Table.mk entries).unresolved = t.unresolved := by
  refine (unresolved_ascends _).eq_of_mem_iff t.unresolved_ascends ?_
  intro name
  have hnames : name ∈ entries.map Prod.fst ↔ name ∈ t.entries.map Prod.fst :=
    (h.map Prod.fst).mem_iff
  rw [mem_unresolved, mem_unresolved, get?_eq_none_iff, get?_eq_none_iff, hnames]
  simp only [h.mem_iff]

/-- A registry lists, each once and in the order of their bytes, the names that are not registered
and that stand somewhere in a registered shape, and no order of the shapes gives another list. What
the search adds to a row of names is what stands in the shape, from left to right. -/
theorem unresolved_exact (t : Table) :
    (t.unresolved.map Json.keyBytes).Pairwise (· < ·) ∧
    (∀ entries, entries.Perm t.entries → (Table.mk entries).unresolved = t.unresolved) ∧
    (∀ name, name ∈ t.unresolved ↔
      t.get? name = none ∧ ∃ e ∈ t.entries, ∃ place, e.2.RefersAt place name) ∧
    ∀ (s : Shape) (names : List String), ∃ rows : List (List Nat × String),
      rows.Pairwise (·.1 < ·.1) ∧
      (∀ place name, (place, name) ∈ rows ↔ s.RefersAt place name) ∧
      s.addReferences names = names ++ rows.map Prod.snd := by
  refine ⟨?_, fun entries h => unresolved_perm h, ?_, ?_⟩
  · rw [List.pairwise_map]
    exact t.unresolved_ascends.imp Json.keyBytes_lt_iff.2
  · intro name
    rw [mem_unresolved, and_comm]
    simp only [(Shape.references_readsOff _).mem_iff]
  · intro s names
    obtain ⟨rows, hrows, hmem, hnames⟩ := s.references_readsOff
    exact ⟨rows, hrows, hmem, by rw [s.addReferences_eq, hnames]⟩

end Table

end ShapeCheck
