import ShapeCheck.Proofs.GuardDiscipline
import ShapeCheck.Proofs.Reach

namespace ShapeCheck

namespace Store

def scope (store : Store) (s : Shape) (n : Node) : Plan.Scope where
  shapes := store.Reaches s
  nodes := n.Below
  options _ := True
  names registry name := ∃ t, store.Reaches s t ∧ t.kind = .reference name registry
  isFree := True

theorem plan_in_scope {store : Store} {s t : Shape} {n k : Node} (ht : store.Reaches s t)
    (hk : n.Below k) (o : Options) :
    (t.plan k o).Confined (store.scope s n) (store.scope s n).shapes := by
  apply (t.plan_confined k o).mono
  · exact fun u hu => ht.part hu
  · exact fun c hc => hk.near hc
  · exact fun _ _ => trivial
  · exact fun registry name h => ⟨t, ht, h⟩
  · exact fun _ => trivial
  · exact fun u hu => hu.elim

end Store

theorem Run.find_register (r : Run) (registry : RegistryId) (name : String) (s : Shape)
    {other : RegistryId} {key : String} {t : Shape}
    (h : (r.register registry name s).2.store.find other key = .found t) :
    r.store.find other key = .found t ∨ t = s := by
  unfold Run.register at h
  split at h
  · exact Or.inl h
  · exact Or.inl h
  · rename_i store hstore
    have hfind := Store.find_register hstore other key
    change store.find other key = .found t at h
    rw [hfind] at h
    split at h
    · exact Or.inr (Lookup.found.inj h).symm
    · exact Or.inl h

namespace Machine

variable {plans : Shape → Node → Options → Plan} {scope : Plan.Scope}

/-- All that the machine may still do, and all that it has open, is in the scope. -/
structure Within (scope : Plan.Scope) (m : Machine) : Prop where
  plan : m.plan.Confined scope scope.shapes
  frames : ∀ f ∈ m.frames, ∀ outcome, (f.next outcome).Confined scope scope.shapes
  entries : ∀ e ∈ m.openEntries, ∃ s n, scope.shapes s ∧ scope.nodes n ∧ e = ⟨s.id, n.position⟩
  store : ∀ registry name t, scope.names registry name →
    m.run.store.find registry name = .found t → scope.shapes t

theorem Within.dispatch {plan : Plan} {r : Run} {frames : List Frame}
    (h : Within scope ⟨plan, r, frames⟩) {s : Shape} {n : Node} {o : Options}
    {next : Outcome → Plan} (hs : scope.shapes s) (hn : scope.nodes n)
    (hplan : (plans s n o).Confined scope scope.shapes)
    (hnext : ∀ outcome, (next outcome).Confined scope scope.shapes) :
    Within scope (dispatch plans s n o next r frames) := by
  unfold Machine.dispatch
  split
  · exact ⟨hnext _, h.frames, h.entries, h.store⟩
  · refine ⟨hplan, ?_, ?_, h.store⟩
    · intro f hf
      rcases List.mem_cons.1 hf with rfl | hf
      · exact hnext
      · exact h.frames f hf
    · intro e he
      rcases List.mem_cons.1 he with rfl | he
      · exact ⟨s, n, hs, hn, rfl⟩
      · exact h.entries e he

theorem Within.push {plan : Plan} {r r' : Run} {frames : List Frame}
    (h : Within scope ⟨plan, r, frames⟩) (f : Frame) (hf : f.entry? = none)
    (hnext : ∀ outcome, (f.next outcome).Confined scope scope.shapes) {plan' : Plan}
    (hplan : plan'.Confined scope scope.shapes) (hr : r'.store = r.store) :
    Within scope ⟨plan', r', f :: frames⟩ := by
  refine ⟨hplan, ?_, ?_, ?_⟩
  · intro g hg
    rcases List.mem_cons.1 hg with rfl | hg
    · exact hnext
    · exact h.frames g hg
  · intro e he
    apply h.entries e
    simpa [openEntries, List.filterMap_cons, hf] using he
  · intro registry name t hname ht
    exact h.store registry name t hname (by rwa [← hr])

theorem within_step
    (hplans : ∀ s n o, scope.shapes s → scope.nodes n → scope.options o →
      (plans s n o).Confined scope scope.shapes)
    {m m' : Machine} (hs : step plans m = some m') (h : Within scope m) : Within scope m' := by
  obtain ⟨plan, r, frames⟩ := m
  cases plan with
  | done outcome =>
    cases frames with
    | nil => cases hs
    | cons f frames =>
      cases hs
      refine ⟨h.frames f List.mem_cons_self outcome,
        fun g hg => h.frames g (List.mem_cons_of_mem _ hg), fun e he => ?_, h.store⟩
      have hsub : e ∈ openEntries ⟨.done outcome, r, f :: frames⟩ := by
        obtain ⟨g, hg, hge⟩ := List.mem_filterMap.1 he
        exact List.mem_filterMap.2 ⟨g, List.mem_cons_of_mem _ hg, hge⟩
      exact h.entries e hsub
  | call via s n o next =>
    obtain ⟨h1, h2, h3, _, h5⟩ := h.plan
    cases via with
    | watched =>
      cases hs
      exact h.dispatch h1 h2 (hplans s n o h1 h2 h3) h5
    | direct =>
      cases hs
      exact h.push (.direct next) rfl h5 (hplans s n o h1 h2 h3) rfl
  | follow t n o next =>
    obtain ⟨h1, h2, h3, h4⟩ := h.plan
    cases hs
    have hopen : Within scope ⟨.done (.accepted n), r.mapGuard .descend, .resolution next :: frames⟩ :=
      h.push (.resolution next) rfl h4 trivial rfl
    exact hopen.dispatch h1 h2 (hplans t n o h1 h2 h3) fun _ => trivial
  | find registry name next =>
    cases hs
    refine ⟨?_, h.frames, h.entries, h.store⟩
    apply (h.plan.2 _).mono (fun _ h => h) (fun _ h => h) (fun _ h => h) (fun _ _ h => h) id
    intro t hknown
    rcases hknown with ht | ht
    · exact ht
    · exact h.store registry name t h.plan.1 ht
  | register registry name s next =>
    cases hs
    -- What is found from now on was found before, or comes from a slot.
    refine ⟨h.plan.2.2 _, h.frames, h.entries, fun other key t hname ht => ?_⟩
    rcases r.find_register registry name s ht with ht | rfl
    · exact h.store other key t hname ht
    · exact h.plan.2.1
  | test _ _ next =>
    cases hs
    exact ⟨h.plan.2 _, h.frames, h.entries, h.store⟩
  | ask next =>
    cases hs
    exact ⟨h.plan _ _, h.frames, h.entries, h.store⟩
  | report _ next =>
    cases hs
    exact ⟨h.plan, h.frames, h.entries, h.store⟩

theorem within_of_steps {r : Run} {via : Via} {s : Shape} {n : Node} {o : Options} {m : Machine}
    (h : Steps Shape.plan (start via s n o r) m) : Within (r.store.scope s n) m := by
  have hstart : Within (r.store.scope s n) (start via s n o r) := by
    refine ⟨⟨.self, .self, trivial, fun _ => trivial, fun _ => trivial⟩, ?_, ?_, ?_⟩
    · intro f hf
      cases hf
    · intro e he
      cases he
    · intro registry name t hname ht
      obtain ⟨u, hu, hk⟩ := hname
      exact hu.target hk ht
  apply Steps.keeps (Within (r.store.scope s n)) h
  · exact fun hs hk => within_step (fun t k o ht hk _ => Store.plan_in_scope ht hk o) hs hk
  · exact hstart

/-- There are no more open calls under the guard than pairs of a node and a shape within reach. -/
theorem length_openEntries_le {r : Run} {via : Via} {s : Shape} {n : Node} {o : Options}
    {m : Machine} (h : Steps Shape.plan (start via s n o r) m) :
    m.openEntries.length ≤ n.count * (r.store.reachable s).ncard := by
  have hfin := r.store.finite_reachable s
  have hsub : (m.openEntries.toFinset : Set Entry) ⊆
      Entry.among (r.store.reachable s) n.positions := by
    intro e he
    obtain ⟨t, k, ht, hk, rfl⟩ := (within_of_steps h).entries e (List.mem_toFinset.1 he)
    exact ⟨⟨t, ht, rfl⟩, Node.Below.position_mem hk⟩
  calc
    m.openEntries.length = m.openEntries.toFinset.card :=
      (List.toFinset_card_of_nodup (disciplined_of_steps h).nodup).symm
    _ = (m.openEntries.toFinset : Set Entry).ncard := (Set.ncard_coe_finset _).symm
    _ ≤ (Entry.among (r.store.reachable s) n.positions).ncard :=
      Set.ncard_le_ncard hsub (Entry.finite_among hfin _)
    _ ≤ n.count * (r.store.reachable s).ncard := Entry.ncard_among_le hfin _

theorem steps_run (via : Via) (r : Run) (s : Shape) (n : Node) (o : Options) :
    Steps Shape.plan (start via s n o r) (halted (Check.run via r s n o)) := by
  have hcalls := Check.calls_eq_run via r s n o
  rw [← Check.checkBy_plan] at hcalls
  exact steps_of_calls hcalls

end Machine

namespace Check

open Machine (Steps start halted)

/-- Every check ends, whatever the references are and however deep they may be followed: with
enough fuel it has its result, and the machine goes there from wherever it has come. All the while
the open calls under the guard are no more than the pairs of a node and a shape within reach. -/
theorem run_ends (via : Via) (r : Run) (s : Shape) (n : Node) (o : Options) :
    (∃ fuel, ∀ more, fuel ≤ more → calls (check more) via s n o r = some (run via r s n o)) ∧
    ∀ m, Steps Shape.plan (start via s n o r) m →
      Steps Shape.plan m (halted (run via r s n o)) ∧
      m.openEntries.length ≤ n.count * (r.store.reachable s).ncard := by
  constructor
  · exact ⟨_, fun more hle => calls_of_le hle (calls_eq_run via r s n o)⟩
  · intro m hm
    exact ⟨Machine.steps_to_halted (Machine.steps_run via r s n o) hm,
      Machine.length_openEntries_le hm⟩

end Check

end ShapeCheck
