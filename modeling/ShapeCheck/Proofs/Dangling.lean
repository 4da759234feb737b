import ShapeCheck.Session
import ShapeCheck.Proofs.Blame
import ShapeCheck.Proofs.Reports

namespace ShapeCheck

theorem mem_eraseReps {a : String} {l : List String} : a ∈ l.eraseReps ↔ a ∈ l := by
  have hloop : ∀ (b : String) (l kept : List String),
      a ∈ List.eraseRepsBy.loop (fun x y => x == y) b l kept ↔ a = b ∨ a ∈ l ∨ a ∈ kept := by
    intro b l
    induction l generalizing b with
    | nil => simp [List.eraseRepsBy.loop, or_comm]
    | cons c l ih =>
      intro kept
      rw [List.eraseRepsBy.loop]
      split
      · rename_i heq
        rw [ih, eq_of_beq heq, List.mem_cons]
        tauto
      · rw [ih, List.mem_cons, List.mem_cons]
        tauto
  cases l with
  | nil => rfl
  | cons b l => simpa [List.eraseReps, List.eraseRepsBy] using hloop b l []

theorem mem_referencesAll {name : String} {shapes : List Shape} :
    name ∈ referencesAll shapes ↔ ∃ s ∈ shapes, name ∈ s.references := by
  induction shapes with
  | nil => simp [referencesAll]
  | cons s rest ih => simp [referencesAll, ih]

theorem mem_referencesFields {name : String} {fields : List (String × Shape)} :
    name ∈ referencesFields fields ↔ ∃ f ∈ fields, name ∈ f.2.references := by
  induction fields with
  | nil => simp [referencesFields]
  | cons f rest ih => simp [referencesFields, ih]

namespace Shape

/-- The names in a part are among the names in the whole; only a user's check hides what it holds. -/
theorem mem_references_of_part {s t : Shape} (hplain : s.kind.isCustom = false)
    (ht : t ∈ s.kind.parts) {name : String} (h : name ∈ t.references) : name ∈ s.references := by
  obtain ⟨id, kind⟩ := s
  change t ∈ kind.parts at ht
  rw [references]
  cases kind with
  | array element isReadonly => rwa [List.mem_singleton.1 ht] at h
  | tuple elements => exact mem_referencesAll.2 ⟨t, ht, h⟩
  | record fields isPartial =>
    obtain ⟨f, hf, rfl⟩ := List.mem_map.1 ht
    exact mem_referencesFields.2 ⟨f, hf, h⟩
  | dictionary value => rwa [List.mem_singleton.1 ht] at h
  | union alternatives => exact mem_referencesAll.2 ⟨t, ht, h⟩
  | intersect members => exact mem_referencesAll.2 ⟨t, ht, h⟩
  | optional inner => rwa [List.mem_singleton.1 ht] at h
  | constraint underlying label refuses => rwa [List.mem_singleton.1 ht] at h
  | custom => cases hplain
  | _ => cases ht

theorem mem_references {s u : Shape} (hplain : ∀ t ∈ s.family, t.kind.isCustom = false)
    (hu : u ∈ s.family) {name : String} {registry : RegistryId}
    (hk : u.kind = .reference name registry) : name ∈ s.references := by
  rw [s.family_eq] at hu
  rcases List.mem_cons.1 hu with rfl | hu
  · obtain ⟨id, kind⟩ := u
    change kind = _ at hk
    rw [references, hk]
    exact List.mem_singleton.2 rfl
  · obtain ⟨p, hp, hu⟩ := mem_familyAll.1 hu
    have hpart : name ∈ p.references :=
      mem_references (fun t ht => hplain t (family_subset_of_part hp ht)) hu hk
    exact mem_references_of_part (hplain s s.mem_family) hp hpart
termination_by s.size
decreasing_by exact size_lt_of_part hp

end Shape

namespace Table

theorem mem_unresolved {t : Table} {name : String} :
    name ∈ t.unresolved ↔ (∃ e ∈ t.entries, name ∈ e.2.references) ∧ t.get? name = none := by
  rw [unresolved, mem_eraseReps, List.mem_mergeSort, List.mem_filter, mem_referencesFields, contains]
  simp

/-- The shapes of the registry hold no user's check, and no reference but to this registry. -/
structure IsClosed (t : Table) (registry : RegistryId) : Prop where
  plain : ∀ e ∈ t.entries, ∀ u ∈ e.2.family, u.kind.isCustom = false
  own : ∀ e ∈ t.entries, ∀ u ∈ e.2.family, ∀ name other,
    u.kind = .reference name other → other = registry

end Table

namespace Store

variable {store : Store} {registry : RegistryId} {t : Table}

theorem find_of_table (h : store.table? registry = some t) (name : String) :
    store.find registry name = (t.get? name).elim .missing .found := by
  unfold find
  simp only [h]
  cases t.get? name <;> rfl

theorem Reaches.mem_family_of_closed (htable : store.table? registry = some t)
    (hclosed : t.IsClosed registry) {e : String × Shape} (he : e ∈ t.entries) {s : Shape}
    (h : store.Reaches e.2 s) : ∃ f ∈ t.entries, s ∈ f.2.family := by
  induction h with
  | self => exact ⟨e, he, e.2.mem_family⟩
  | part _ hu ih =>
    obtain ⟨f, hf, hs⟩ := ih
    exact ⟨f, hf, Shape.part_mem_family hs hu⟩
  | @target _ u name other _ hk hu ih =>
    obtain ⟨f, hf, hs⟩ := ih
    rw [hclosed.own f hf _ hs name other hk, find_of_table htable] at hu
    cases hget : t.get? name with
    | none =>
      rw [hget] at hu
      cases hu
    | some v =>
      rw [hget] at hu
      cases hu
      exact ⟨(name, u), Named.mem_of_lookup hget, u.mem_family⟩

/-- A check of the shape may come to a reference to this name, and the registry, which is alive, does
not have it. -/
def Dangles (store : Store) (shape : Shape) (name : String) : Prop :=
  ∃ s registry, store.Reaches shape s ∧ s.kind = .reference name registry ∧
    store.find registry name = .missing

theorem Dangles.mem_unresolved (htable : store.table? registry = some t)
    (hclosed : t.IsClosed registry) {e : String × Shape} (he : e ∈ t.entries) {name : String}
    (h : store.Dangles e.2 name) : name ∈ t.unresolved := by
  obtain ⟨s, other, hs, hk, hmissing⟩ := h
  obtain ⟨f, hf, hfamily⟩ := hs.mem_family_of_closed htable hclosed he
  rw [hclosed.own f hf s hfamily name other hk, find_of_table htable] at hmissing
  refine Table.mem_unresolved.2 ⟨⟨f, hf, Shape.mem_references (hclosed.plain f hf) hfamily hk⟩, ?_⟩
  cases hget : t.get? name with
  | none => rfl
  | some u =>
    rw [hget] at hmissing
    cases hmissing

end Store

namespace Issue

def MissesOnly (P : String → Prop) (e : Issue) : Prop :=
  e.code = "missing_reference" → ∃ name, P name ∧ e.message = notRegistered name

theorem MissesOnly.under {P : String → Prop} {e : Issue} (h : e.MissesOnly P) (place : Segment) :
    (e.under place).MissesOnly P := h

theorem missesOnly_of_code {P : String → Prop} {e : Issue} (h : e.code ≠ "missing_reference") :
    e.MissesOnly P := fun hcode => absurd hcode h

end Issue

open Plan in
theorem Shape.plan_misses {P : String → Prop} {w : Replies} {o : Options} {s : Shape} {n : Node}
    (hplain : s.kind.isCustom = false)
    (hparts : ∀ t ∈ s.kind.parts, ∀ k, Near n k → ∀ e ∈ (w.inside t k o).issues, e.MissesOnly P)
    (htarget : ∀ name registry t, s.kind = .reference name registry →
      w.store.find registry name = .found t → ∀ e ∈ (w.beyond t n o).issues, e.MissesOnly P)
    (hmissing : ∀ name registry, s.kind = .reference name registry →
      w.store.find registry name = .missing → P name) :
    ∀ e ∈ ((s.plan n o).outcome w).issues, e.MissesOnly P := by
  have hreport : Report w o s n ((s.plan n o).outcome w).issues := s.report_plan hplain
  generalize ((s.plan n o).outcome w).issues = is at hreport ⊢
  intro e he
  cases hreport with
  | nothing => cases he
  | @own message code hcode =>
    have hother : code ≠ "missing_reference" := by
      rintro rfl
      exact absurd hcode (by decide)
    rw [List.mem_singleton.1 he]
    exact Issue.missesOnly_of_code hother
  | missingName hk hfind =>
    rw [List.mem_singleton.1 he]
    exact fun _ => ⟨_, hmissing _ _ hk hfind, rfl⟩
  | children hd =>
    obtain ⟨is, his, he⟩ := mem_reported he
    obtain ⟨d, hmem, rfl⟩ := List.mem_map.1 his
    have hinward := Kind.inward_of_demands hd d hmem
    cases d with
    | conforms place t c =>
      obtain ⟨e', he', rfl⟩ := List.mem_map.1 he
      exact (hparts t hinward.1 c (Or.inr hinward.2.1) e' he').under place
    | missing place t =>
      rw [List.mem_singleton.1 he]
      exact Issue.missesOnly_of_code (show "missing_field" ≠ "missing_reference" by decide)
  | members hk =>
    obtain ⟨is, his, he⟩ := mem_reported he
    obtain ⟨t, ht, rfl⟩ := List.mem_map.1 his
    exact hparts t (by rwa [hk]) n (Or.inl rfl) e he
  | part ht => exact hparts _ ht n (Or.inl rfl) e he
  | target hk ht => exact htarget _ _ _ hk ht e he

namespace Check

/-- At any depth of references, a check misses only names that dangle behind its first shape. -/
theorem issues_answer_missesOnly {store : Store} {shape : Shape} (hfree : store.CustomFree shape)
    (o : Options) (g : Guard) (s : Shape) (n : Node) : store.Reaches shape s →
      ∀ e ∈ (answer store g s n o).issues, e.MissesOnly (store.Dangles shape) := by
  apply answer_induction store (P := fun g s n => store.Reaches shape s →
    ∀ e ∈ (answer store g s n o).issues, e.MissesOnly (store.Dangles shape))
  · intro g s n hopen _ e he
    rw [answer_open hopen] at he
    cases he
  · intro g s n hnew hparts htarget hs
    rw [answer_new (hfree.of_reaches hs) hnew]
    apply Shape.plan_misses (hfree s hs)
    · exact fun t ht k hk => hparts t ht k hk (hs.part ht)
    · exact fun name registry t hk ht => htarget name registry t hk ht (hs.target hk ht)
    · exact fun name registry hk hmissing => ⟨s, registry, hs, hk, hmissing⟩

end Check

namespace Session

variable {session : Session} {registry : RegistryId} {name : String}

theorem table?_of_contains (h : (session.table registry).contains name = true) :
    session.store.table? registry = some (session.table registry) := by
  unfold table at h ⊢
  cases htable : session.store.table? registry with
  | none =>
    rw [htable] at h
    cases h
  | some t => rfl

/-- A validation by a registered name misses no reference but those that the registry lists; where
it lists none, no validation ever misses one. -/
theorem missing_reference_unresolved (hclosed : (session.table registry).IsClosed registry)
    (hname : (session.table registry).contains name = true) (value : Json) (o : Options) :
    ∃ outcome session', session.validateNamed registry name value o = .ok (outcome, session') ∧
      (∀ e ∈ outcome.issues, e.code = "missing_reference" →
        ∃ missing ∈ (session.table registry).unresolved, e.message = Issue.notRegistered missing) ∧
      ((session.table registry).unresolved = [] →
        ∀ e ∈ outcome.issues, e.code ≠ "missing_reference") := by
  have htable := table?_of_contains hname
  obtain ⟨shape, hget⟩ := Option.isSome_iff_exists.1 hname
  have hentry : (name, shape) ∈ (session.table registry).entries := Named.mem_of_lookup hget
  have hfree : session.store.CustomFree shape := by
    intro s hs
    obtain ⟨f, hf, hfamily⟩ := hs.mem_family_of_closed htable hclosed hentry
    exact hclosed.plain f hf s hfamily
  have hlisted : ∀ e ∈ (shape.validate session.store value o).1.issues,
      e.MissesOnly (· ∈ (session.table registry).unresolved) := by
    intro e he hcode
    obtain ⟨missing, hdangles, hmessage⟩ :=
      Check.issues_answer_missesOnly hfree o .fresh shape (.root value) .self e he hcode
    exact ⟨missing, hdangles.mem_unresolved htable hclosed hentry, hmessage⟩
  have hok : session.validateNamed registry name value o = .ok (session.validate shape value o) := by
    rw [validateNamed, hget]
  refine ⟨_, _, hok, hlisted, ?_⟩
  intro hnone e he hcode
  obtain ⟨missing, hmem, -⟩ := hlisted e he hcode
  rw [hnone] at hmem
  cases hmem

def lonely : Session :=
  { start with store := ⟨[(0, ⟨[("User", .mk 1 (.record [("id", .mk 0 (.reference "UserId" 0))]
    false))]⟩)]⟩ }

theorem isClosed_lonely : (lonely.table 0).IsClosed 0 := by
  have hall : ∀ e ∈ (lonely.table 0).entries, ∀ u ∈ e.2.family, u.kind.isCustom = false ∧
      ∀ name other, u.kind = .reference name other → other = 0 := by
    simp [lonely, table, Store.table?, Shape.family, Kind.family, familyFields, Shape.kind,
      Kind.isCustom]
  exact ⟨fun e he u hu => (hall e he u hu).1, fun e he u hu => (hall e he u hu).2⟩

theorem missing_reference_unresolved_lonely :
    (lonely.table 0).unresolved = ["UserId"] ∧
    ∃ outcome session',
      lonely.validateNamed 0 "User" (.object [("id", .null)]) .collectAll = .ok (outcome, session') ∧
      outcome.issues = [⟨⟨[.field "id"]⟩, Issue.notRegistered "UserId", "missing_reference"⟩] ∧
      ∀ e ∈ outcome.issues, e.code = "missing_reference" →
        ∃ missing ∈ (lonely.table 0).unresolved, e.message = Issue.notRegistered missing := by
  have hissues : ((Shape.mk 1 (.record [("id", .mk 0 (.reference "UserId" 0))] false)).validate
      lonely.store (.object [("id", .null)]) .collectAll).1.issues =
      [⟨⟨[.field "id"]⟩, Issue.notRegistered "UserId", "missing_reference"⟩] :=
    Shape.issues_validate 20 (by decide)
  have hnames : (referencesFields (lonely.table 0).entries).filter
      (!(lonely.table 0).contains ·) = ["UserId"] := by decide
  have hunresolved : (lonely.table 0).unresolved = ["UserId"] := by
    simp only [Table.unresolved, hnames, List.mergeSort_singleton]
    rfl
  have hname : (lonely.table 0).contains "User" = true := by decide
  obtain ⟨outcome, session', hok, hlisted, -⟩ := missing_reference_unresolved isClosed_lonely
    hname (.object [("id", .null)]) .collectAll
  refine ⟨hunresolved, outcome, session', hok, ?_, hlisted⟩
  cases hok
  exact hissues

end Session

end ShapeCheck
