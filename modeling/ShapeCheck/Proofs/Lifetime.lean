import ShapeCheck.Proofs.Dangling
import ShapeCheck.Proofs.RegistryHistory

namespace ShapeCheck

mutual

theorem Shape.found_holdings : ∀ (s : Shape) (h : Holdings),
    (∀ u ∈ s.family, u.kind.isCustom = false) → (s.holdings h).found = h.found
  | .mk id kind, h, hplain => by
    rw [Shape.holdings]
    split
    · rfl
    · exact kind.found_holdings _ (hplain _ (Shape.mem_family _)) fun u hu =>
        hplain u (List.mem_cons_of_mem _ hu)

theorem Kind.found_holdings : ∀ (kind : Kind) (h : Holdings), kind.isCustom = false →
    (∀ u ∈ kind.family, u.kind.isCustom = false) → (kind.holdings h).found = h.found
  | .array element _, h, _, hplain => element.found_holdings h hplain
  | .tuple elements, h, _, hplain => found_holdingsAll elements h hplain
  | .record fields _, h, _, hplain => found_holdingsFields fields h hplain
  | .dictionary value, h, _, hplain => value.found_holdings h hplain
  | .union alternatives, h, _, hplain => found_holdingsAll alternatives h hplain
  | .intersect members, h, _, hplain => found_holdingsAll members h hplain
  | .optional inner, h, _, hplain => inner.found_holdings h hplain
  | .constraint underlying _ _, h, _, hplain => underlying.found_holdings h hplain
  | .custom .., _, hcustom, _ => nomatch hcustom
  | .unknown, _, _, _ | .never, _, _, _ | .boolean, _, _, _ | .number, _, _, _
  | .string, _, _, _ | .literal _, _, _, _ | .reference _ _, _, _, _ => rfl

theorem found_holdingsAll : ∀ (shapes : List Shape) (h : Holdings),
    (∀ u ∈ familyAll shapes, u.kind.isCustom = false) → (holdingsAll shapes h).found = h.found
  | [], _, _ => rfl
  | s :: rest, h, hplain =>
    (found_holdingsAll rest (s.holdings h) fun u hu =>
      hplain u (List.mem_append_right _ hu)).trans
      (s.found_holdings h fun u hu => hplain u (List.mem_append_left _ hu))

theorem found_holdingsFields : ∀ (fields : List (String × Shape)) (h : Holdings),
    (∀ u ∈ familyFields fields, u.kind.isCustom = false) →
    (holdingsFields fields h).found = h.found
  | [], _, _ => rfl
  | (_, s) :: rest, h, hplain =>
    (found_holdingsFields rest (s.holdings h) fun u hu =>
      hplain u (List.mem_append_right _ hu)).trans
      (s.found_holdings h fun u hu => hplain u (List.mem_append_left _ hu))

end

def Shape.IsPlain (s : Shape) : Prop := ∀ u ∈ s.family, u.kind.isCustom = false

theorem Shape.IsPlain.part {s t : Shape} (h : s.IsPlain) (ht : t ∈ s.kind.parts) : t.IsPlain :=
  fun u hu => h u (family_subset_of_part ht hu)

theorem mem_familyFields {t : Shape} {fields : List (String × Shape)} :
    t ∈ familyFields fields ↔ ∃ f ∈ fields, t ∈ f.2.family := by
  induction fields with
  | nil => simp [familyFields]
  | cons f rest ih => simp [familyFields, ih]

namespace Store

def IsPlain (store : Store) : Prop := ∀ e ∈ store.tables, ∀ f ∈ e.2.entries, f.2.IsPlain

variable {store : Store} {outside : Holdings}

theorem IsPlain.of_table (h : store.IsPlain) {registry : RegistryId} {t : Table}
    (ht : store.table? registry = some t) : ∀ f ∈ t.entries, f.2.IsPlain := by
  obtain ⟨before, after, htables, -⟩ := List.lookup_eq_some_iff.1 ht
  have hentry : (registry, t) ∈ store.tables := by simp [htables]
  exact h _ hentry

theorem IsPlain.of_find (h : store.IsPlain) {registry : RegistryId} {name : String} {t : Shape}
    (ht : store.find registry name = .found t) : t.IsPlain := by
  unfold find at ht
  split at ht
  · cases ht
  · rename_i table htable
    split at ht
    · cases ht
    · rename_i shape hshape
      cases ht
      exact h.of_table htable _ (Named.mem_of_lookup hshape)

theorem mem_replaceTable {registry : RegistryId} {t : Table} {e : RegistryId × Table}
    (h : e ∈ (store.replaceTable registry t).tables) :
    ∃ e' ∈ store.tables, e'.1 = e.1 ∧ (e' = e ∨ e.2 = t) := by
  obtain ⟨e', he', rfl⟩ := List.mem_map.1 h
  by_cases hid : e'.1 = registry
  · exact ⟨e', he', by simp [hid], .inr (by simp [hid])⟩
  · exact ⟨e', he', by simp [hid], .inl (by simp [hid])⟩

theorem IsPlain.replaceTable (h : store.IsPlain) (registry : RegistryId) {t : Table}
    (ht : ∀ f ∈ t.entries, f.2.IsPlain) : (store.replaceTable registry t).IsPlain := by
  intro e he
  obtain ⟨e', he', -, rfl | hnew⟩ := mem_replaceTable he
  · exact h e' he'
  · rw [hnew]
    exact ht

theorem IsPlain.customFree (h : store.IsPlain) {s : Shape} (hs : s.IsPlain) :
    store.CustomFree s := by
  have hplain : ∀ t, store.Reaches s t → t.IsPlain := by
    intro t ht
    induction ht with
    | self => exact hs
    | part _ hu ih => exact ih.part hu
    | target _ _ hu _ => exact h.of_find hu
  exact fun t ht => hplain t ht t t.mem_family

/-- What is registered keeps no registry alive. -/
theorem contains_held_iff (h : store.IsPlain) {registry : RegistryId} :
    (store.held outside).contains registry = true ↔ registry ∈ outside.found := by
  rw [held, Std.HashSet.contains_ofList, List.contains_iff_mem]
  have hfound : ∀ tables ⊆ store.tables, ∀ h : Holdings,
      (tables.foldl (fun h entry => holdingsFields entry.2.entries h) h).found = h.found := by
    intro tables
    induction tables with
    | nil => exact fun _ _ => rfl
    | cons entry rest ih =>
      intro hsub holdings
      rw [List.foldl_cons, ih (List.subset_of_cons_subset hsub)]
      refine found_holdingsFields _ _ fun u hu => ?_
      obtain ⟨f, hf, hu⟩ := mem_familyFields.1 hu
      exact h entry (hsub List.mem_cons_self) f hf u hu
  rw [hfound store.tables (List.Subset.refl _)]

/-- One round drops all registries that are not held from outside, and no other does anything. -/
theorem tables_collect (h : store.IsPlain) :
    (store.collect outside).tables = store.tables.filter (outside.found.contains ·.1) := by
  have hkept : ∀ entry : RegistryId × Table,
      (store.held outside).contains entry.1 = outside.found.contains entry.1 := by
    intro entry
    rw [Bool.eq_iff_iff, contains_held_iff h, List.contains_iff_mem]
  unfold collect
  cases hlength : store.tables.length with
  | zero => simp [dropUnheld, List.length_eq_zero_iff.1 hlength]
  | succ n =>
    unfold dropUnheld
    dsimp only
    simp only [hkept]
    split
    · rename_i hall
      exact (List.filter_eq_self.2 (List.all_eq_true.1 hall)).symm
    · rw [dropUnheld_of_held]
      intro entry hentry
      exact List.contains_iff_mem.1 (List.mem_filter.1 hentry).2

end Store

theorem Named.mem_of_mem_put {α : Type} {name : String} {a : α} {things : Named α}
    {thing : String × α} (h : thing ∈ put name a things) : thing = (name, a) ∨ thing ∈ things := by
  induction things with
  | nil => exact .inl (List.mem_singleton.1 h)
  | cons first rest ih =>
    rw [put] at h
    split at h
    · rename_i heq
      rcases List.mem_cons.1 h with rfl | h
      · exact .inl (by rw [heq])
      · exact .inr (List.mem_cons_of_mem _ h)
    · rcases List.mem_cons.1 h with rfl | h
      · exact .inr List.mem_cons_self
      · exact (ih h).imp_right (List.mem_cons_of_mem _)

theorem Check.run_reference {r : Run} {o : Options} (hdepth : r.guard.referenceDepth < o.depthLimit)
    (id : Identity) (name : String) (registry : RegistryId) (n : Node) :
    run .direct r (.mk id (.reference name registry)) n o =
      match r.store.find registry name with
      | .dropped =>
        (.refuse ("Reference to '" ++ name ++ "' outlived its registry") "missing_registry", r)
      | .missing => (.refuse (Issue.notRegistered name) "missing_reference", r)
      | .found t =>
        ((run .watched (r.mapGuard .descend) t n o).1,
          (run .watched (r.mapGuard .descend) t n o).2.mapGuard .ascend) := by
  have hexec := exec_settled r (.mk id (.reference name registry)) n o
  change (Plan.resolve o n name registry).exec settled r = _ at hexec
  rw [Plan.exec_resolve _ n name registry hdepth] at hexec
  cases hfind : r.store.find registry name <;> rw [hfind] at hexec <;>
    exact (Option.some.inj hexec).symm

namespace Session

def toRegistry (registry : RegistryId) (past : List (RegistryId × Request × Reply)) :
    List (Request × Reply) :=
  past.filterMap fun told => if told.1 = registry then some told.2 else none

def successesOf (registry : RegistryId) (past : List (RegistryId × Request × Reply)) :
    List (String × Shape) :=
  successes (toRegistry registry past)

def Request.IsPlain : Request → Prop
  | .register _ shape => shape.IsPlain
  | _ => True

/-- A session with any number of registries, and the requests that these have got through their
handles, with their replies. A handle is gone when it is dropped or its name is given to another. -/
inductive Chronicle : List (RegistryId × Request × Reply) → Session → Prop
  | start : Chronicle [] .empty
  | openRegistry {past : List (RegistryId × Request × Reply)} {s : Session} (h : Chronicle past s)
      (handle : String) : Chronicle past (s.openRegistry handle)
  | dropRegistry {past : List (RegistryId × Request × Reply)} {s : Session} (h : Chronicle past s)
      (handle : String) : Chronicle past (s.dropRegistry handle)
  | request {past : List (RegistryId × Request × Reply)} {s : Session} (h : Chronicle past s)
      {handle : String} {registry : RegistryId}
      (hhandle : s.handles.get? handle = some registry) {q : Request} (hq : q.IsPlain) :
      Chronicle (past ++ [(registry, q, (s.perform registry q).1)]) (s.perform registry q).2
  | mint {past : List (RegistryId × Request × Reply)} {s : Session} (h : Chronicle past s)
      (kind : Kind) : Chronicle past (s.mint kind).2
  | nameShape {past : List (RegistryId × Request × Reply)} {s : Session} (h : Chronicle past s)
      {shape : Shape} (hshape : shape.IsPlain) (name : String) :
      Chronicle past (s.nameShape name shape)
  | validate {past : List (RegistryId × Request × Reply)} {s : Session} (h : Chronicle past s)
      {shape : Shape} (hshape : shape.IsPlain) (value : Json) (o : Options) :
      Chronicle past (s.validate shape value o).2

/-- Each registry that has a handle holds what was registered with it; and no user's check is about
that might hold a registry without a handle. -/
structure Accounts (past : List (RegistryId × Request × Reply)) (s : Session) : Prop where
  shapes : ∀ f ∈ s.shapes, f.2.IsPlain
  store : s.store.IsPlain
  bound : ∀ f ∈ s.handles, f.2 < s.nextRegistry
  told : ∀ x ∈ past, x.1 < s.nextRegistry
  alive : ∀ f ∈ s.handles, s.store.table? f.2 = some ⟨successesOf f.2 past⟩

structure Tidy (past : List (RegistryId × Request × Reply)) (s : Session) : Prop
    extends Accounts past s where
  held : ∀ e ∈ s.store.tables, ∃ f ∈ s.handles, f.2 = e.1

variable {past : List (RegistryId × Request × Reply)} {s : Session} {registry : RegistryId}

theorem successesOf_append (other : RegistryId) (told : RegistryId × Request × Reply) :
    successesOf other (past ++ [told]) =
      successesOf other past ++ if told.1 = other then (success? told.2).toList else [] := by
  rw [successesOf, toRegistry, List.filterMap_append]
  by_cases hother : told.1 = other
  · have hlast : [told].filterMap (fun told => if told.1 = other then some told.2 else none) =
        [told.2] := by simp [hother]
    rw [hlast, successes_append, if_pos hother]
    rfl
  · simp [hother, successesOf, toRegistry]

theorem Accounts.collect (h : Accounts past s) : Tidy past s.collect := by
  have hfound : s.holdings.found = s.handles.map (·.2) := by
    refine found_holdingsFields s.shapes _ fun u hu => ?_
    obtain ⟨f, hf, hu⟩ := mem_familyFields.1 hu
    exact h.shapes f hf u hu
  have htables : s.collect.store.tables =
      s.store.tables.filter ((s.handles.map (·.2)).contains ·.1) := by
    rw [← hfound]
    exact Store.tables_collect h.store
  refine ⟨⟨h.shapes, fun e he => ?_, h.bound, h.told, fun f hf => ?_⟩, fun e he => ?_⟩
  · rw [htables] at he
    exact h.store e (List.mem_filter.1 he).1
  · have hkept : s.collect.store.table? f.2 = s.store.table? f.2 := @table?_collect s f.1 f.2 hf
    exact hkept.trans (h.alive f hf)
  · rw [htables] at he
    exact List.mem_map.1 (List.contains_iff_mem.1 (List.mem_filter.1 he).2)

theorem Tidy.congr {s' : Session} (h : Tidy past s) (hshapes : s'.shapes = s.shapes)
    (hhandles : s'.handles = s.handles) (hnext : s'.nextRegistry = s.nextRegistry)
    (hstore : s'.store = s.store) : Tidy past s' := by
  refine ⟨⟨?_, ?_, ?_, ?_, ?_⟩, ?_⟩
  · rw [hshapes]
    exact h.shapes
  · rw [hstore]
    exact h.store
  · rw [hhandles, hnext]
    exact h.bound
  · rw [hnext]
    exact h.told
  · rw [hhandles, hstore]
    exact h.alive
  · rw [hstore, hhandles]
    exact h.held

theorem Tidy.record (h : Tidy past s) (hregistry : registry < s.nextRegistry)
    {told : Request × Reply} (htold : success? told = none) :
    Tidy (past ++ [(registry, told)]) s := by
  have hsame : ∀ other,
      successesOf other (past ++ [(registry, told)]) = successesOf other past := by
    intro other
    simp [successesOf_append, htold]
  refine ⟨⟨h.shapes, h.store, h.bound, fun x hx => ?_, fun f hf => ?_⟩, h.held⟩
  · rcases List.mem_append.1 hx with hx | hx
    · exact h.told x hx
    · rw [List.mem_singleton.1 hx]
      exact hregistry
  · rw [hsame]
    exact h.alive f hf

theorem Tidy.openRegistry (h : Tidy past s) (handle : String) :
    Tidy past (s.openRegistry handle) := by
  have hnone : successesOf s.nextRegistry past = [] := by
    have hempty : toRegistry s.nextRegistry past = [] :=
      List.filterMap_eq_nil_iff.2 fun x hx => if_neg (h.told x hx).ne
    rw [successesOf, hempty]
    rfl
  refine Accounts.collect ⟨h.shapes, fun e he => ?_, fun f hf => ?_,
    fun x hx => (h.told x hx).trans (Nat.lt_succ_self _), fun f hf => ?_⟩
  · rcases List.mem_cons.1 he with rfl | he
    · exact fun f hf => nomatch hf
    · exact h.store e he
  · rcases Named.mem_of_mem_put hf with rfl | hf
    · exact Nat.lt_succ_self _
    · exact (h.bound f hf).trans (Nat.lt_succ_self _)
  · rcases Named.mem_of_mem_put hf with rfl | hf
    · simp [Store.table?, Store.add, hnone, Table.empty]
    · have hne : f.2 ≠ s.nextRegistry := (h.bound f hf).ne
      have hadd : (s.store.add s.nextRegistry).table? f.2 = s.store.table? f.2 := by
        simp [Store.table?, Store.add, List.lookup_cons, beq_false_of_ne hne]
      exact hadd.trans (h.alive f hf)

theorem Tidy.dropRegistry (h : Tidy past s) (handle : String) :
    Tidy past (s.dropRegistry handle) :=
  Accounts.collect ⟨h.shapes, h.store, fun f hf => h.bound f (List.mem_filter.1 hf).1, h.told,
    fun f hf => h.alive f (List.mem_filter.1 hf).1⟩

theorem Tidy.shareRegistry (h : Tidy past s) {handle : String}
    (hhandle : (handle, registry) ∈ s.handles) (other : String) :
    Tidy past (s.shareRegistry registry other) := by
  have hold : ∀ f ∈ s.handles.put other registry, ∃ f' ∈ s.handles, f'.2 = f.2 := by
    intro f hf
    rcases Named.mem_of_mem_put hf with rfl | hf
    · exact ⟨_, hhandle, rfl⟩
    · exact ⟨f, hf, rfl⟩
  refine Accounts.collect ⟨h.shapes, h.store, fun f hf => ?_, h.told, fun f hf => ?_⟩
  all_goals
    obtain ⟨f', hf', hsame⟩ := hold f hf
    rw [← hsame]
  · exact h.bound f' hf'
  · exact h.alive f' hf'

theorem Tidy.nameShape (h : Tidy past s) {shape : Shape} (hshape : shape.IsPlain) (name : String) :
    Tidy past (s.nameShape name shape) := by
  refine Accounts.collect ⟨fun f hf => ?_, h.store, h.bound, h.told, h.alive⟩
  rcases Named.mem_of_mem_put hf with rfl | hf
  · exact hshape
  · exact h.shapes f hf

theorem Tidy.validate (h : Tidy past s) {shape : Shape} (hshape : shape.IsPlain) (value : Json)
    (o : Options) : Tidy past (s.validate shape value o).2 :=
  h.congr rfl rfl rfl
    (@Check.store_run ⟨.fresh, s.store, []⟩ shape (h.store.customFree hshape) (.root value) o)

theorem Tidy.register_new (h : Tidy past s) {handle : String}
    (hhandle : (handle, registry) ∈ s.handles) {name : String} {shape : Shape}
    (hshape : shape.IsPlain) (hname : name ∉ (successesOf registry past).map Prod.fst) :
    ∃ s', s.register registry name shape = .ok s' ∧ s'.handles = s.handles ∧
      s'.nextRegistry = s.nextRegistry ∧
      Tidy (past ++ [(registry, .register name shape, .registered none)]) s' := by
  have htable := h.alive _ hhandle
  have hcontains : ¬(Table.mk (successesOf registry past)).contains name = true :=
    fun hin => hname (Table.contains_iff.1 hin)
  refine ⟨_, Session.register_new htable hcontains shape, rfl, rfl,
    ⟨h.shapes, h.store.replaceTable registry fun f hf => ?_, h.bound, fun x hx => ?_,
      fun f hf => ?_⟩, fun e he => ?_⟩
  · rcases List.mem_append.1 hf with hf | hf
    · exact h.store.of_table htable f hf
    · rw [List.mem_singleton.1 hf]
      exact hshape
  · rcases List.mem_append.1 hx with hx | hx
    · exact h.told x hx
    · rw [List.mem_singleton.1 hx]
      exact h.bound _ hhandle
  · rw [Store.table?_replaceTable, successesOf_append]
    by_cases hid : f.2 = registry
    · rw [if_pos hid, htable, Option.map_some, hid, if_pos rfl]
      rfl
    · rw [if_neg hid, if_neg (Ne.symm hid), List.append_nil]
      exact h.alive f hf
  · obtain ⟨e', he', hid, -⟩ := Store.mem_replaceTable he
    rw [← hid]
    exact h.held e' he'

theorem Tidy.perform_other (h : Tidy past s) {handle : String}
    (hhandle : (handle, registry) ∈ s.handles) {q : Request}
    (hq : ∀ name shape, q ≠ .register name shape) : Tidy past (s.perform registry q).2 := by
  cases q with
  | register name shape => exact absurd rfl (hq name shape)
  | validate name value o =>
    rw [perform, validateNamed]
    cases hget : (s.table registry).get? name with
    | none => exact h
    | some shape =>
      have htable := h.alive _ hhandle
      rw [Session.table, htable] at hget
      exact h.validate (h.store.of_table htable _ (Named.mem_of_lookup hget)) value o
  | clone other => exact h.shareRegistry hhandle other
  | reference name => exact h.congr rfl rfl rfl rfl
  | _ => exact h

theorem nextRegistry_perform (s : Session) (registry : RegistryId) {q : Request}
    (hq : ∀ name shape, q ≠ .register name shape) :
    (s.perform registry q).2.nextRegistry = s.nextRegistry := by
  cases q with
  | register name shape => exact absurd rfl (hq name shape)
  | validate name value o =>
    rw [perform, validateNamed]
    cases (s.table registry).get? name <;> rfl
  | _ => rfl

theorem Tidy.perform (h : Tidy past s) {handle : String}
    (hhandle : (handle, registry) ∈ s.handles) {q : Request} (hq : q.IsPlain) :
    Tidy (past ++ [(registry, q, (s.perform registry q).1)]) (s.perform registry q).2 := by
  have hbound : registry < s.nextRegistry := h.bound _ hhandle
  by_cases hregister : ∃ name shape, q = .register name shape
  · obtain ⟨name, shape, rfl⟩ := hregister
    by_cases hname : name ∈ (successesOf registry past).map Prod.fst
    · have htable := h.alive _ hhandle
      rw [Session.perform, register_taken htable (Table.contains_iff.2 hname) shape]
      exact h.record hbound rfl
    · obtain ⟨s', hs', -, -, htidy⟩ := h.register_new hhandle hq hname
      rw [Session.perform, hs']
      exact htidy
  · have hother : ∀ name shape, q ≠ .register name shape :=
      fun name shape heq => hregister ⟨name, shape, heq⟩
    refine (h.perform_other hhandle hother).record ?_ (success?_other hother _)
    rw [nextRegistry_perform s registry hother]
    exact hbound

theorem Chronicle.tidy (h : Chronicle past s) : Tidy past s := by
  -- Each step may let go of handles, and of what is then not held; only a request registers.
  induction h with
  | start => exact ⟨⟨nofun, nofun, nofun, nofun, nofun⟩, nofun⟩
  | openRegistry _ handle ih => exact ih.openRegistry handle
  | dropRegistry _ handle ih => exact ih.dropRegistry handle
  | request _ hhandle hq ih => exact ih.perform (Named.mem_of_lookup hhandle) hq
  | mint _ kind ih => exact ih.congr rfl rfl rfl rfl
  | nameShape _ hshape name ih => exact ih.nameShape hshape name
  | validate _ hshape value o ih => exact ih.validate hshape value o

theorem Tidy.find_of_gone (h : Tidy past s) (hgone : ∀ handle, (handle, registry) ∉ s.handles)
    (name : String) : s.store.find registry name = .dropped := by
  have hnone : s.store.table? registry = none := by
    refine List.lookup_eq_none_iff.2 fun e he => ?_
    obtain ⟨f, hf, hid⟩ := h.held e he
    rw [bne_iff_ne]
    rintro rfl
    exact hgone f.1 (hid ▸ hf)
  simp only [Store.find, hnone]

theorem Tidy.find_of_handle (h : Tidy past s) {handle : String}
    (hhandle : (handle, registry) ∈ s.handles) (name : String) :
    s.store.find registry name =
      ((successesOf registry past).lookup name).elim .missing .found :=
  Store.find_of_table (h.alive _ hhandle) name

/-- What is found in a registry depends on the requests to it and on whether it has a handle. -/
theorem Chronicle.find_eq {past' : List (RegistryId × Request × Reply)} {s' : Session}
    (h : Chronicle past s) (h' : Chronicle past' s')
    (hrequests : toRegistry registry past' = toRegistry registry past)
    (hhandles : (∃ handle, (handle, registry) ∈ s'.handles) ↔
      ∃ handle, (handle, registry) ∈ s.handles) (name : String) :
    s'.store.find registry name = s.store.find registry name := by
  by_cases hlive : ∃ handle, (handle, registry) ∈ s.handles
  · obtain ⟨handle', hhandle'⟩ := hhandles.2 hlive
    obtain ⟨handle, hhandle⟩ := hlive
    rw [h.tidy.find_of_handle hhandle, h'.tidy.find_of_handle hhandle', successesOf, successesOf,
      hrequests]
  · have hgone' : ¬∃ handle, (handle, registry) ∈ s'.handles := fun hlive' =>
      hlive (hhandles.1 hlive')
    rw [h.tidy.find_of_gone (not_exists.1 hlive), h'.tidy.find_of_gone (not_exists.1 hgone')]

theorem Chronicle.kind_of_issued (h : Chronicle past s) {name : String} {r : Shape}
    (hissued : (registry, .reference name, .shape (some r)) ∈ past) :
    r.kind = .reference name registry := by
  induction h with
  | start => cases hissued
  | request _ _ _ ih =>
    rcases List.mem_append.1 hissued with hissued | hissued
    · exact ih hissued
    · cases List.mem_singleton.1 hissued
      rfl
  | openRegistry _ _ ih | dropRegistry _ _ ih | mint _ _ ih | nameShape _ _ _ ih
  | validate _ _ _ _ ih => exact ih hissued

theorem Chronicle.register_new (h : Chronicle past s) {handle : String}
    (hhandle : s.handles.get? handle = some registry) {name : String} {shape : Shape}
    (hshape : shape.IsPlain) (hname : name ∉ (successesOf registry past).map Prod.fst) :
    ∃ s', s'.handles = s.handles ∧ s'.nextRegistry = s.nextRegistry ∧
      Chronicle (past ++ [(registry, .register name shape, .registered none)]) s' := by
  obtain ⟨s', hs', hhandles, hnext, -⟩ :=
    h.tidy.register_new (Named.mem_of_lookup hhandle) hshape hname
  have hperform : s.perform registry (.register name shape) = (.registered none, s') := by
    rw [perform, hs']
  have hrequest := h.request hhandle (q := .register name shape) hshape
  rw [hperform] at hrequest
  exact ⟨s', hhandles, hnext, hrequest⟩

/-- A reference that a registry has issued finds what was first registered there under its name, if
only there is a handle of that registry still; shapes that refer to the registry do not count. In
any session with the same requests to the registry it finds the same, whatever happens to others,
and a registry that is opened later is another one. -/
theorem reference_lifetime (h : Chronicle past s) {name : String} {r : Shape}
    (hissued : (registry, .reference name, .shape (some r)) ∈ past) (g : Guard) (log : List Event)
    (n : Node) {o : Options} (hdepth : g.referenceDepth < o.depthLimit) :
    let done := successesOf registry past
    let result := Check.run .direct ⟨g, s.store, log⟩ r n o
    ((∀ handle, (handle, registry) ∉ s.handles) →
      result = (.rejected (.single (.atRoot ("Reference to '" ++ name ++ "' outlived its registry")
        "missing_registry")), ⟨g, s.store, log⟩)) ∧
    (∀ handle, (handle, registry) ∈ s.handles →
      ((∀ t, (name, t) ∉ done) →
        result = (.rejected (.single (.atRoot ("Runtype '" ++ name ++ "' is not registered")
          "missing_reference")), ⟨g, s.store, log⟩)) ∧
      ∀ t, done.lookup name = some t → ∃ outcome log',
        Check.run .watched ⟨g.descend, s.store, log⟩ t n o =
          (outcome, ⟨g.descend, s.store, log'⟩) ∧
        result = (outcome, ⟨g, s.store, log'⟩)) ∧
    (∀ past' s', Chronicle past' s' → toRegistry registry past' = toRegistry registry past →
      ((∃ handle, (handle, registry) ∈ s'.handles) ↔ ∃ handle, (handle, registry) ∈ s.handles) →
      s'.store.find registry name = s.store.find registry name) ∧
    registry < s.nextRegistry := by
  intro done result
  have htidy := h.tidy
  obtain ⟨id, rfl⟩ : ∃ id, r = .mk id (.reference name registry) := by
    have hkind := h.kind_of_issued hissued
    obtain ⟨id, kind⟩ := r
    exact ⟨id, congrArg (Shape.mk id) hkind⟩
  have hresult := @Check.run_reference ⟨g, s.store, log⟩ o hdepth id name registry n
  refine ⟨fun hgone => ?_, fun handle hhandle => ⟨fun hnone => ?_, fun t ht => ?_⟩,
    fun past' s' h' hrequests hhandles => h.find_eq h' hrequests hhandles name,
    htidy.told _ hissued⟩
  · rw [htidy.find_of_gone hgone] at hresult
    exact hresult
  · have hlookup : done.lookup name = none := by
      change (Table.mk done).get? name = none
      rw [Table.get?_eq_none_iff]
      intro hname
      obtain ⟨⟨_, t⟩, ht, rfl⟩ := List.mem_map.1 hname
      exact hnone t ht
    rw [htidy.find_of_handle hhandle, hlookup] at hresult
    exact hresult
  · have hfind : s.store.find registry name = .found t := by
      rw [htidy.find_of_handle hhandle, ht]
      rfl
    -- No shape in a registry is a user's check, so the call leaves the registries alone.
    have hfree : s.store.CustomFree t := htidy.store.customFree (htidy.store.of_find hfind)
    obtain ⟨log', hrun⟩ := Check.run_eq_answer hfree g.descend log n o
    rw [hfind] at hresult
    have hfollowed : result =
        ((Check.run .watched ⟨g.descend, s.store, log⟩ t n o).1,
          (Check.run .watched ⟨g.descend, s.store, log⟩ t n o).2.mapGuard .ascend) := hresult
    rw [hrun] at hfollowed
    exact ⟨_, log', hrun, hfollowed⟩

/-- A reference to trees, before trees are registered, afterwards, and when the name of the registry
has gone to another one in which something else is a tree. -/
theorem reference_lifetime_replaced :
    let node : Node := .root (.object [("size", .null)])
    let issued : RegistryId × Request × Reply := (0, .reference "Tree", .shape (some .branch))
    let planted : RegistryId × Request × Reply := (0, .register "Tree" .tree, .registered none)
    let result (s : Session) := Check.run .direct ⟨.fresh, s.store, []⟩ .branch node .collectAll
    ∃ s s' s'', Chronicle [issued] s ∧ Chronicle [issued, planted] s' ∧
      Chronicle [issued, planted, (1, .register "Tree" (.mk 4 .number), .registered none)] s'' ∧
      s.handles = [("main", 0)] ∧ s'.handles = [("main", 0)] ∧ s''.handles = [("main", 1)] ∧
      result s = (.rejected (.single (.atRoot "Runtype 'Tree' is not registered"
        "missing_reference")), ⟨.fresh, s.store, []⟩) ∧
      (∃ outcome log',
        Check.run .watched ⟨Guard.fresh.descend, s'.store, []⟩ .tree node .collectAll =
          (outcome, ⟨Guard.fresh.descend, s'.store, log'⟩) ∧
        result s' = (outcome, ⟨.fresh, s'.store, log'⟩)) ∧
      result s'' = (.rejected (.single (.atRoot "Reference to 'Tree' outlived its registry"
        "missing_registry")), ⟨.fresh, s''.store, []⟩) := by
  intro node issued planted result
  have hdepth : Guard.fresh.referenceDepth < Options.collectAll.depthLimit := by decide
  have htree : Shape.tree.IsPlain := by
    simp [Shape.IsPlain, Shape.tree, Shape.fork, Shape.branch, Shape.family, Kind.family, familyAll,
      familyFields, Shape.kind, Kind.isCustom]
  have hnumber : (Shape.mk 4 .number).IsPlain := by
    simp [Shape.IsPlain, Shape.family, Kind.family, Shape.kind, Kind.isCustom]
  let s := (start.perform 0 (.reference "Tree")).2
  have hmain : start.handles.get? "main" = some 0 := rfl
  have hs : Chronicle [issued] s :=
    (Chronicle.start.openRegistry "main").request hmain (q := .reference "Tree") trivial
  have hnone : "Tree" ∉ (successesOf 0 [issued]).map Prod.fst := List.not_mem_nil
  obtain ⟨s', hhandles, hnext, hs'⟩ := hs.register_new hmain htree hnone
  have hhandles' : s'.handles = [("main", 0)] := hhandles
  have hreplaced : (s'.openRegistry "main").handles = [("main", 1)] := by
    change s'.handles.put "main" s'.nextRegistry = _
    rw [hhandles', hnext]
    rfl
  have hmain' : (s'.openRegistry "main").handles.get? "main" = some 1 := by
    rw [hreplaced]
    rfl
  have hother : "Tree" ∉ (successesOf 1 [issued, planted]).map Prod.fst := List.not_mem_nil
  obtain ⟨s'', hhandles'', -, hs''⟩ :=
    (hs'.openRegistry "main").register_new hmain' hnumber hother
  rw [hreplaced] at hhandles''
  have hbefore := (reference_lifetime hs List.mem_cons_self .fresh [] node hdepth).2.1 "main"
    (List.mem_singleton.2 rfl)
  have hafter := (reference_lifetime hs' List.mem_cons_self .fresh [] node hdepth).2.1 "main"
    (by rw [hhandles']; exact List.mem_singleton.2 rfl)
  have hgone := (reference_lifetime hs'' List.mem_cons_self .fresh [] node hdepth).1
  refine ⟨s, s', s'', hs, hs', hs'', rfl, hhandles', hhandles'', ?_, ?_, ?_⟩
  · exact hbefore.1 fun t ht => List.not_mem_nil ht
  · exact hafter.2 .tree rfl
  · refine hgone fun handle hhandle => ?_
    rw [hhandles''] at hhandle
    cases List.mem_singleton.1 hhandle

end Session

end ShapeCheck
