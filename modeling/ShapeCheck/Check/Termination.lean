import ShapeCheck.Check.Run
import ShapeCheck.Check.Confined

namespace ShapeCheck

namespace Store

def Within (s : Store) (shapes : List Shape) : Prop :=
  ∀ entry ∈ s.tables, ∀ e ∈ entry.2.entries, e.2 ∈ shapes

theorem Within.of_find {s : Store} {shapes : List Shape} (h : s.Within shapes)
    {registry : RegistryId} {name : String} {t : Shape} (hf : s.find registry name = .found t) :
    t ∈ shapes := by
  unfold find at hf
  split at hf
  · cases hf
  · rename_i table htable
    split at hf
    · cases hf
    · rename_i shape hshape
      cases hf
      obtain ⟨before, after, he, _⟩ := List.lookup_eq_some_iff.1 htable
      exact h (registry, table) (by simp [he]) _ (Named.mem_of_lookup hshape)

theorem Within.register {s s' : Store} {shapes : List Shape} (h : s.Within shapes)
    {registry : RegistryId} {name : String} {t : Shape} (ht : t ∈ shapes)
    (hr : s.register? registry name t = some (.ok s')) : s'.Within shapes := by
  obtain ⟨table, htable, hr⟩ := Option.map_eq_some_iff.1 hr
  obtain ⟨before, after, he, _⟩ := List.lookup_eq_some_iff.1 htable
  have htables : (registry, table) ∈ s.tables := by simp [he]
  unfold Table.register at hr
  split at hr
  · cases hr
  · cases hr
    intro entry hentry e he
    obtain ⟨old, hold, rfl⟩ := List.mem_map.1 hentry
    split at he
    · rcases List.mem_append.1 he with he | he
      · exact h _ htables e he
      · rw [List.mem_singleton.1 he]
        exact ht
    · exact h old hold e he

theorem mem_family {s : Store} {t : Shape} :
    t ∈ s.family ↔ ∃ entry ∈ s.tables, ∃ e ∈ entry.2.entries, t ∈ e.2.family := by
  simp only [family, List.mem_flatMap, familyFields_eq, mem_familyAll, List.mem_map]
  constructor
  · intro hfound
    obtain ⟨entry, hentry, _, ⟨e, he, rfl⟩, ht⟩ := hfound
    exact ⟨entry, hentry, e, he, ht⟩
  · intro hfound
    obtain ⟨entry, hentry, e, he, ht⟩ := hfound
    exact ⟨entry, hentry, e.2, ⟨e, he, rfl⟩, ht⟩

theorem part_mem_family {s : Store} {u t : Shape} (hu : u ∈ s.family) (ht : t ∈ u.kind.parts) :
    t ∈ s.family := by
  obtain ⟨entry, hentry, e, he, hu⟩ := mem_family.1 hu
  exact mem_family.2 ⟨entry, hentry, e, he, Shape.part_mem_family hu ht⟩

theorem size_le_of_mem_family {s : Store} {t : Shape} (h : t ∈ s.family) :
    t.size ≤ s.family.length := by
  obtain ⟨entry, hentry, e, he, ht⟩ := mem_family.1 h
  refine Nat.le_trans (Shape.size_le_of_mem_family ht) ?_
  have hsub : e.2.size ≤ (familyFields entry.2.entries).length := by
    rw [familyFields_eq]
    exact length_le_familyAll (List.mem_map.2 ⟨e, he, rfl⟩)
  refine Nat.le_trans hsub ?_
  unfold family
  generalize s.tables = tables at hentry
  induction tables with
  | nil => simp at hentry
  | cons first rest ih =>
    simp only [List.flatMap_cons, List.length_append]
    rcases List.mem_cons.1 hentry with rfl | hentry
    · exact Nat.le_add_right _ _
    · exact Nat.le_trans (ih hentry) (Nat.le_add_left _ _)

theorem within_family (s : Store) {shapes : List Shape} (h : ∀ t ∈ s.family, t ∈ shapes) :
    s.Within shapes := by
  intro entry hentry e he
  exact h _ (mem_family.2 ⟨entry, hentry, e, he, e.2.mem_family⟩)

end Store

namespace Check

def entries (shapes : List Shape) (places : List Position) : List Entry :=
  shapes.flatMap fun s => places.map (⟨s.id, ·⟩)

theorem mem_entries {shapes : List Shape} {places : List Position} {s : Shape} {p : Position}
    (hs : s ∈ shapes) (hp : p ∈ places) : ⟨s.id, p⟩ ∈ entries shapes places :=
  List.mem_flatMap.2 ⟨s, hs, List.mem_map.2 ⟨p, hp, rfl⟩⟩

theorem length_entries (shapes : List Shape) (places : List Position) :
    (entries shapes places).length = places.length * shapes.length := by
  induction shapes with
  | nil => simp [entries]
  | cons s rest ih =>
    simp only [entries, List.flatMap_cons, List.length_append, List.length_map,
      List.length_cons] at *
    rw [ih, Nat.mul_succ, Nat.add_comm]

def pending (all : List Entry) (g : Guard) : Nat :=
  all.countP fun e => !e.isIn g.inProgress

theorem pending_le (all : List Entry) (g : Guard) : pending all g ≤ all.length :=
  List.countP_le_length

theorem pending_enter_lt {all : List Entry} {g : Guard} {entry : Entry} (hm : entry ∈ all)
    (hf : entry.isIn g.inProgress = false) :
    pending all (g.enter entry) < pending all g := by
  unfold pending
  induction all with
  | nil => simp at hm
  | cons e rest ih =>
    have hmono : ∀ l : List Entry,
        l.countP (fun e => !e.isIn (g.enter entry).inProgress) ≤
          l.countP fun e => !e.isIn g.inProgress := fun l =>
      List.countP_mono_left fun e _ h => by
        simp only [Guard.enter, Entry.isIn, Bool.not_or, Bool.and_eq_true] at h
        exact h.2
    simp only [List.countP_cons]
    rcases List.mem_cons.1 hm with rfl | hm
    · have hself : entry.isIn (g.enter entry).inProgress = true :=
        Entry.isIn_iff.2 List.mem_cons_self
      have := hmono rest
      simp only [hself, hf]
      simp
      omega
    · have hlt := ih hm
      have hle := hmono [e]
      simp only [List.countP_cons, List.countP_nil] at hle
      omega

/-- What is known of a computation that has a result: it leaves the guard as it was, and registers
only shapes among these. -/
def Returns (shapes : List Shape) (guard : Guard) (result : Option (Outcome × Run)) : Prop :=
  ∃ outcome r, result = some (outcome, r) ∧ r.guard = guard ∧ r.store.Within shapes

theorem exec_returns {call : Call} {shapes : List Shape} {scope : Plan.Scope}
    {known : Shape → Prop} {plan : Plan} {r : Run} (hp : plan.Confined scope known)
    (hr : r.store.Within shapes) (hparts : ∀ s, scope.shapes s → s ∈ shapes)
    (hknown : ∀ s, known s → s ∈ shapes)
    (hcall : ∀ via s n o r', scope.shapes s → scope.nodes n → r'.guard = r.guard →
      r'.store.Within shapes → Returns shapes r'.guard (call via s n o r'))
    (hfollow : ∀ s n o r', s ∈ shapes → scope.nodes n → r'.guard = r.guard.descend →
      r'.store.Within shapes → Returns shapes r'.guard (call .watched s n o r')) :
    Returns shapes r.guard (plan.exec call r) := by
  induction plan generalizing r known with
  | done outcome => exact ⟨outcome, r, rfl, rfl, hr⟩
  | call via s n o next ih =>
    obtain ⟨hs, hn, _, _, hnext⟩ := hp
    obtain ⟨outcome, r', he, hg, hw⟩ := hcall via s n o r hs hn rfl hr
    have := ih outcome (r := r') (hnext outcome) hw hknown
      (fun via s n o r'' hs hn h => hcall via s n o r'' hs hn (h.trans hg))
      (fun s n o r'' hs hn h => hfollow s n o r'' hs hn (h.trans (congrArg Guard.descend hg)))
    simpa [Plan.exec, he, hg] using this
  | follow s n o next ih =>
    obtain ⟨hs, hn, _, hnext⟩ := hp
    obtain ⟨outcome, r', he, hg, hw⟩ :=
      hfollow s n o (r.mapGuard .descend) (hknown s hs) hn rfl hr
    have hg' : (r'.mapGuard .ascend).guard = r.guard := by
      show r'.guard.ascend = r.guard
      rw [hg]
      exact Guard.ascend_descend r.guard
    have := ih outcome (r := r'.mapGuard .ascend) (hnext outcome) hw hknown
      (fun via s n o r'' hs hn h => hcall via s n o r'' hs hn (h.trans hg'))
      (fun s n o r'' hs hn h => hfollow s n o r'' hs hn (h.trans (congrArg Guard.descend hg')))
    simpa [Plan.exec, he, hg'] using this
  | find registry name next ih =>
    refine ih _ (hp.2 _) hr (fun s hs => ?_) hcall hfollow
    rcases hs with hs | hs
    · exact hknown s hs
    · exact hr.of_find hs
  | test refuses n next ih => exact ih _ (hp.2 _) hr hknown hcall hfollow
  | ask next ih => exact ih _ _ (hp _ _) hr hknown hcall hfollow
  | report e next ih => exact ih (r := r.emit e) hp hr hknown hcall hfollow
  | register registry name s next ih =>
    obtain ⟨_, hs, hnext⟩ := hp
    have hg := r.guard_register registry name s
    have hw : (r.register registry name s).2.store.Within shapes := by
      unfold Run.register
      split
      · exact hr
      · exact hr
      · rename_i store hstore
        exact hr.register (hparts s hs) hstore
    have := ih (r.register registry name s).1 (r := (r.register registry name s).2) (hnext _) hw
      hknown (fun via s n o r'' hs hn h => hcall via s n o r'' hs hn (h.trans hg))
      (fun s n o r'' hs hn h => hfollow s n o r'' hs hn (h.trans (congrArg Guard.descend hg)))
    rwa [hg] at this

/-- Shapes and places that no call of a check leaves. -/
structure Realm where
  shapes : List Shape
  places : List Position
  closed : ∀ s ∈ shapes, ∀ t ∈ s.kind.parts, t ∈ shapes
  small : ∀ s ∈ shapes, s.size ≤ shapes.length

/-- The depth of calls that a check may still need: entries that are not in progress come first,
and between two of them calls go to smaller shapes. -/
def Realm.depth (m : Realm) (g : Guard) : Nat :=
  pending (entries m.shapes m.places) g * (m.shapes.length + 1)

theorem guarded_returns {m : Realm} {check : Shape → Node → Options → Checking Outcome}
    {shape : Shape} {node : Node} {options : Options} {r : Run} (hr : r.store.Within m.shapes)
    (hc : Entry.isIn ⟨shape.id, node.position⟩ r.guard.inProgress = false →
      ∀ r', r'.guard = r.guard.enter ⟨shape.id, node.position⟩ → r'.store.Within m.shapes →
        Returns m.shapes r'.guard (check shape node options r')) :
    Returns m.shapes r.guard (guarded check shape node options r) := by
  unfold guarded
  cases hin : Entry.isIn ⟨shape.id, node.position⟩ r.guard.inProgress with
  | true => exact ⟨.accepted node, r.emit (.reentered shape.tag), by simp [hin], rfl, hr⟩
  | false =>
    obtain ⟨outcome, r', he, hg, hw⟩ :=
      hc hin (r.mapGuard (·.enter ⟨shape.id, node.position⟩)) rfl hr
    refine ⟨outcome, r'.mapGuard (·.leave ⟨shape.id, node.position⟩), by simp [hin, he], ?_, hw⟩
    show r'.guard.leave _ = r.guard
    rw [hg]
    exact Guard.leave_enter r.guard _

theorem check_returns (m : Realm) (fuel : Nat) {shape : Shape} {node : Node} {options : Options}
    {r : Run} (hs : shape ∈ m.shapes) (hn : ∀ p ∈ node.positions, p ∈ m.places)
    (hr : r.store.Within m.shapes) (hf : m.depth r.guard + shape.size < fuel) :
    Returns m.shapes r.guard (check fuel shape node options r) := by
  induction fuel generalizing shape node options r with
  | zero => omega
  | succ fuel ih =>
    -- A pair that is entered pays for all the calls to come before the next one is.
    have entered : ∀ {n : Node} {t : Shape} {g : Guard}, t ∈ m.shapes →
        (∀ p ∈ n.positions, p ∈ m.places) →
        Entry.isIn ⟨t.id, n.position⟩ g.inProgress = false →
        m.depth (g.enter ⟨t.id, n.position⟩) + (m.shapes.length + 1) ≤ m.depth g := by
      intro n t g ht hn hg
      have := pending_enter_lt
        (mem_entries ht (hn _ n.position_mem_positions) : _ ∈ entries m.shapes m.places) hg
      unfold Realm.depth
      rw [← Nat.succ_mul]
      exact Nat.mul_le_mul_right _ this
    have near : ∀ n, Plan.Near node n → ∀ p ∈ n.positions, p ∈ m.places := by
      intro n hnear p hp
      rcases hnear with rfl | h
      · exact hn p hp
      · exact hn p (h.positions_subset hp)
    refine exec_returns (shape.plan_confined node options) hr (m.closed shape hs)
      (fun _ h => h.elim) ?_ ?_
    · intro via t n o r' ht hnear hg hw
      have ht' := m.closed shape hs t ht
      have hlt := Shape.size_lt_of_part ht
      cases via with
      | direct => exact ih ht' (near n hnear) hw (by rw [hg]; omega)
      | watched =>
        refine guarded_returns hw fun hin r'' hg' hw' => ih ht' (near n hnear) hw' ?_
        have := entered ht' (near n hnear) hin
        rw [hg'] at *
        rw [hg] at *
        omega
    · intro t n o r' ht hnear hg hw
      refine guarded_returns hw fun hin r'' hg' hw' => ih ht (near n hnear) hw' ?_
      have := entered ht (near n hnear) hin
      have hsmall := m.small t ht
      have hdepth : m.depth r'.guard = m.depth r.guard := by rw [hg]; rfl
      rw [hg']
      omega

end Check

end ShapeCheck
