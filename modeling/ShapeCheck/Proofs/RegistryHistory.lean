import Mathlib.Data.Finset.Card
import Mathlib.Data.Finset.Dedup
import ShapeCheck.Proofs.Holding
import ShapeCheck.Proofs.QuietRuns

namespace ShapeCheck

namespace Table

theorem get?_eq_none_iff {t : Table} {name : String} :
    t.get? name = none ↔ name ∉ t.entries.map Prod.fst := by
  rw [get?, List.lookup_eq_none_iff, List.mem_map]
  constructor
  · rintro h ⟨e, he, rfl⟩
    simpa using h e he
  · intro h e he
    rw [bne_iff_ne]
    rintro rfl
    exact h ⟨e, he, rfl⟩

theorem get?_eq_some_iff {t : Table} (hnames : (t.entries.map Prod.fst).Nodup) {name : String}
    {shape : Shape} : t.get? name = some shape ↔ (name, shape) ∈ t.entries := by
  constructor
  · exact Named.mem_of_lookup
  · intro h
    cases hget : t.get? name with
    | none => exact absurd (List.mem_map_of_mem h) (get?_eq_none_iff.1 hget)
    | some other =>
      -- Both entries have the name, so they are one.
      have hsame := List.inj_on_of_nodup_map hnames (Named.mem_of_lookup hget) h rfl
      rw [(Prod.mk.inj hsame).2]

theorem contains_iff {t : Table} {name : String} :
    t.contains name = true ↔ name ∈ t.entries.map Prod.fst := by
  rw [contains, Option.isSome_iff_ne_none, ne_eq, get?_eq_none_iff, not_not]

end Table

namespace Session

theorem register_taken {s : Session} {registry : RegistryId} {t : Table}
    (htable : s.store.table? registry = some t) {name : String} (hname : t.contains name = true)
    (shape : Shape) : s.register registry name shape = .error (.duplicateName name) := by
  simp only [register, Store.register?, htable, Option.map_some, Table.register, hname, if_true,
    Except.map]

theorem register_new {s : Session} {registry : RegistryId} {t : Table}
    (htable : s.store.table? registry = some t) {name : String} (hname : ¬t.contains name = true)
    (shape : Shape) : s.register registry name shape = .ok { s with
      store := s.store.replaceTable registry (t.insert name shape)
      log := .registered name shape.tag :: s.log } := by
  simp only [register, Store.register?, htable, Option.map_some, Table.register, if_neg hname,
    Except.map]

inductive Request
  | register (name : String) (shape : Shape)
  | get (name : String)
  | contains (name : String)
  | size
  | isEmpty
  | reference (name : String)
  | unresolved
  | validate (name : String) (value : Json) (options : Options)
  | clone (handle : String)

inductive Reply
  | registered (error : Option RegistryError)
  | shape (found : Option Shape)
  | flag (b : Bool)
  | count (n : Nat)
  | names (names : List String)
  | verdict (verdict : Except RegistryError Outcome)
  | done

def perform (s : Session) (registry : RegistryId) : Request → Reply × Session
  | .register name shape =>
    match s.register registry name shape with
    | .error e => (.registered (some e), s)
    | .ok s' => (.registered none, s')
  | .get name => (.shape ((s.table registry).get? name), s)
  | .contains name => (.flag ((s.table registry).contains name), s)
  | .size => (.count (s.table registry).size, s)
  | .isEmpty => (.flag ((s.table registry).size == 0), s)
  | .reference name =>
    let (shape, s') := s.mint (.reference name registry)
    (.shape (some shape), s')
  | .unresolved => (.names (s.table registry).unresolved, s)
  | .validate name value o =>
    match s.validateNamed registry name value o with
    | .error e => (.verdict (.error e), s)
    | .ok (outcome, s') => (.verdict (.ok outcome), s')
  | .clone handle => (.done, s.shareRegistry registry handle)

/-- The request comes to no user's check that may register something. -/
def Request.Quiet (s : Session) (registry : RegistryId) : Request → Prop
  | .validate name _ _ => ∀ shape, (s.table registry).get? name = some shape → s.store.Quiet shape
  | _ => True

/-- The requests that a registry has got through its handles, with its replies. -/
inductive Uses (registry : RegistryId) (s₀ : Session) : List (Request × Reply) → Session → Prop
  | start : Uses registry s₀ [] s₀
  | step {past : List (Request × Reply)} {s : Session} (h : Uses registry s₀ past s)
      {handle : String} (hhandle : s.handles.get? handle = some registry) {q : Request}
      (hquiet : q.Quiet s registry) :
      Uses registry s₀ (past ++ [(q, (s.perform registry q).1)]) (s.perform registry q).2

def success? : Request × Reply → Option (String × Shape)
  | (.register name shape, .registered none) => some (name, shape)
  | _ => none

/-- The registrations that have succeeded, in their order. -/
def successes (past : List (Request × Reply)) : List (String × Shape) := past.filterMap success?

/-- The registry holds these shapes, and their registrations have been reported since the start. -/
structure Holds (registry : RegistryId) (s₀ : Session) (done : List (String × Shape))
    (s : Session) : Prop where
  table : s.store.table? registry = some ⟨done⟩
  names : (done.map Prod.fst).Nodup
  events : Event.registrations s.log =
    Event.registrations s₀.log ++ done.map fun (name, shape) => (name, shape.tag)

variable {registry : RegistryId} {s₀ s : Session} {done : List (String × Shape)}

theorem Holds.congr {s' : Session} (h : Holds registry s₀ done s)
    (htable : s'.store.table? registry = s.store.table? registry)
    (hlog : Event.registrations s'.log = Event.registrations s.log) :
    Holds registry s₀ done s' :=
  ⟨htable.trans h.table, h.names, hlog.trans h.events⟩

theorem Holds.table_eq (h : Holds registry s₀ done s) : s.table registry = ⟨done⟩ := by
  rw [Session.table, h.table]
  rfl

theorem Holds.register_taken (h : Holds registry s₀ done s) {name : String}
    (hname : name ∈ done.map Prod.fst) (shape : Shape) :
    s.register registry name shape = .error (.duplicateName name) :=
  Session.register_taken h.table (Table.contains_iff.2 hname) shape

theorem Holds.register_new (h : Holds registry s₀ done s) {name : String}
    (hname : name ∉ done.map Prod.fst) (shape : Shape) :
    ∃ s', s.register registry name shape = .ok s' ∧
      Holds registry s₀ (done ++ [(name, shape)]) s' := by
  have hcontains : ¬(Table.mk done).contains name = true :=
    fun hin => hname (Table.contains_iff.1 hin)
  refine ⟨_, Session.register_new h.table hcontains shape, ?_, ?_, ?_⟩
  · change (s.store.replaceTable registry _).table? registry = _
    rw [Store.table?_replaceTable, if_pos rfl, h.table, Option.map_some]
    rfl
  · rw [List.map_append, List.nodup_append]
    refine ⟨h.names, List.nodup_singleton name, fun a ha b hb => ?_⟩
    rintro rfl
    rw [List.map_singleton, List.mem_singleton] at hb
    rw [hb] at ha
    exact hname ha
  · change Event.registrations (.registered name shape.tag :: s.log) = _
    rw [Event.registrations_cons, h.events, List.map_append, List.append_assoc]
    rfl

theorem Holds.validate_quiet (h : Holds registry s₀ done s) {shape : Shape}
    (hquiet : s.store.Quiet shape) (value : Json) (o : Options) :
    Holds registry s₀ done (s.validate shape value o).2 := by
  have hrun := Check.unchanged_run .watched (r := ⟨.fresh, s.store, []⟩) hquiet (.root value) o
  refine h.congr (congrArg (·.table? registry) hrun.store) ?_
  change Event.registrations ((shape.validate s.store value o).2.log ++ s.log) = _
  rw [Event.registrations_append]
  exact (congrArg (Event.registrations s.log ++ ·) hrun.registrations).trans (List.append_nil _)

theorem Holds.shareRegistry (h : Holds registry s₀ done s) (handle : String) :
    Holds registry s₀ done (s.shareRegistry registry handle) :=
  h.congr (table?_collect (Named.mem_put handle registry s.handles)) rfl

theorem Holds.perform_other (h : Holds registry s₀ done s) {q : Request}
    (hquiet : q.Quiet s registry) (hq : ∀ name shape, q ≠ .register name shape) :
    Holds registry s₀ done (s.perform registry q).2 := by
  cases q with
  | register name shape => exact absurd rfl (hq name shape)
  | validate name value o =>
    rw [Session.perform, validateNamed]
    cases hget : (s.table registry).get? name with
    | none => exact h
    | some shape => exact h.validate_quiet (hquiet shape hget) value o
  | clone handle => exact h.shareRegistry handle
  | reference name => exact h.congr rfl rfl
  | _ => exact h

theorem success?_other {q : Request} (hq : ∀ name shape, q ≠ .register name shape) (reply : Reply) :
    success? (q, reply) = none := by
  cases q with
  | register name shape => exact absurd rfl (hq name shape)
  | _ => rfl

theorem Holds.perform (h : Holds registry s₀ done s) {q : Request} (hquiet : q.Quiet s registry) :
    Holds registry s₀ (done ++ (success? (q, (s.perform registry q).1)).toList)
      (s.perform registry q).2 := by
  by_cases hq : ∃ name shape, q = .register name shape
  · obtain ⟨name, shape, rfl⟩ := hq
    by_cases hname : name ∈ done.map Prod.fst
    · rw [Session.perform, h.register_taken hname shape]
      simpa [success?] using h
    · obtain ⟨s', hs', hholds⟩ := h.register_new hname shape
      rw [Session.perform, hs']
      exact hholds
  · have hother : ∀ name shape, q ≠ .register name shape :=
      fun name shape heq => hq ⟨name, shape, heq⟩
    rw [success?_other hother]
    simpa using h.perform_other hquiet hother

theorem successes_append (past : List (Request × Reply)) (last : Request × Reply) :
    successes (past ++ [last]) = successes past ++ (success? last).toList := by
  rw [successes, List.filterMap_append]
  cases hlast : success? last <;> simp [successes, hlast]

theorem Uses.holds {past : List (Request × Reply)} (h : Uses registry s₀ past s)
    (hnew : s₀.store.table? registry = some .empty) : Holds registry s₀ (successes past) s := by
  -- Each request keeps the registry in step with the registrations that have succeeded so far.
  induction h with
  | start => exact ⟨hnew, List.nodup_nil, (List.append_nil _).symm⟩
  | step _ _ hquiet ih =>
    rw [successes_append]
    exact ih.perform hquiet

theorem handles_perform_register (s : Session) (registry : RegistryId) (name : String)
    (shape : Shape) : (s.perform registry (.register name shape)).2.handles = s.handles := by
  rw [perform, register]
  cases s.store.register? registry name shape with
  | none => rfl
  | some result => cases result <;> rfl

/-- The history of a registry from the moment when it is opened. A name is taken from the first
registration under it that succeeds, and gives the shape of that registration ever after; what comes
too late changes nothing at all, and neither does any other request. -/
theorem registry_write_once {past : List (Request × Reply)}
    (hnew : s₀.store.table? registry = some .empty) (h : Uses registry s₀ past s) :
    let done := successes past
    (∀ name shape, name ∈ done.map Prod.fst → s.perform registry (.register name shape) =
      (.registered (some (.duplicateName name)), s)) ∧
    (∀ name shape, name ∉ done.map Prod.fst →
      (s.perform registry (.register name shape)).1 = .registered none) ∧
    (∀ name, ∃ found, s.perform registry (.get name) = (.shape found, s) ∧
      (∀ shape, found = some shape ↔ (name, shape) ∈ done) ∧
      s.perform registry (.contains name) = (.flag found.isSome, s)) ∧
    s.perform registry .size = (.count (done.map Prod.fst).toFinset.card, s) ∧
    s.perform registry .isEmpty = (.flag ((done.map Prod.fst).toFinset.card == 0), s) ∧
    Event.registrations s.log =
      Event.registrations s₀.log ++ done.map (fun (name, shape) => (name, shape.tag)) ∧
    ∀ q, q.Quiet s registry → (∀ name shape, q ≠ .register name shape) →
      (s.perform registry q).2.store.table? registry = s.store.table? registry ∧
      Event.registrations (s.perform registry q).2.log = Event.registrations s.log := by
  intro done
  have hholds : Holds registry s₀ done s := h.holds hnew
  -- No name succeeds twice, so there are as many names as entries.
  have hsize : (done.map Prod.fst).toFinset.card = (s.table registry).size := by
    rw [List.toFinset_card_of_nodup hholds.names, List.length_map, hholds.table_eq]
    rfl
  refine ⟨fun name shape hname => ?_, fun name shape hname => ?_, fun name => ?_, ?_, ?_,
    hholds.events, fun q hquiet hq => ?_⟩
  · rw [perform, hholds.register_taken hname shape]
  · obtain ⟨s', hs', _⟩ := hholds.register_new hname shape
    rw [perform, hs']
  · refine ⟨(s.table registry).get? name, rfl, fun shape => ?_, rfl⟩
    rw [hholds.table_eq]
    exact Table.get?_eq_some_iff hholds.names
  · rw [hsize]
    rfl
  · rw [hsize]
    rfl
  · have hafter := hholds.perform_other hquiet hq
    exact ⟨hafter.table.trans hholds.table.symm, hafter.events.trans hholds.events.symm⟩

theorem registry_write_once_clone :
    let number : Shape := .mk 0 .number
    ∃ s, Uses 0 start [(.register "A" number, .registered none), (.clone "other", .done)] s ∧
      s.handles.get? "other" = some 0 ∧
      s.perform 0 (.register "A" (.mk 1 .string)) =
        (.registered (some (.duplicateName "A")), s) ∧
      s.perform 0 (.get "A") = (.shape (some number), s) := by
  intro number
  have hnew : start.store.table? 0 = some .empty := table?_openRegistry empty "main"
  let s := (start.perform 0 (.register "A" number)).2
  have hfirst : (start.perform 0 (.register "A" number)).1 = .registered none :=
    (registry_write_once hnew .start).2.1 "A" number (by simp [successes])
  have hhandles : s.handles = [("main", 0)] := handles_perform_register start 0 "A" number
  have hstart : start.handles.get? "main" = some 0 := rfl
  have hmain : s.handles.get? "main" = some 0 := by rw [hhandles]; rfl
  have hother : (s.shareRegistry 0 "other").handles.get? "other" = some 0 := by
    change (s.handles.put "other" 0).get? "other" = some 0
    rw [hhandles]
    rfl
  have hone : Uses 0 start [(.register "A" number, .registered none)] s := by
    rw [← hfirst]
    exact .step .start hstart trivial
  have htwo := hone.step hmain (q := .clone "other") trivial
  obtain ⟨htaken, -, hget, -⟩ := registry_write_once hnew htwo
  obtain ⟨found, hfound, hiff, -⟩ := hget "A"
  have hnumber : found = some number := (hiff number).2 (by simp [successes, success?])
  rw [hnumber] at hfound
  exact ⟨_, htwo, hother, htaken "A" _ (by simp [successes, success?]), hfound⟩

end Session

end ShapeCheck
