import ShapeCheck.Proofs.OpenChecks
import ShapeCheck.Proofs.Verdict

namespace ShapeCheck

namespace Store

/-- What the first registries find, the second find as well. -/
def GrowsInto (store store' : Store) : Prop :=
  ∀ registry name t, store.find registry name = .found t → store'.find registry name = .found t

theorem GrowsInto.refl (store : Store) : store.GrowsInto store := fun _ _ _ ht => ht

theorem GrowsInto.trans {store store' store'' : Store} (h : store.GrowsInto store')
    (h' : store'.GrowsInto store'') : store.GrowsInto store'' :=
  fun registry name t ht => h' registry name t (h registry name t ht)

variable {store store' : Store} {registry : RegistryId} {name : String} {shape : Shape}

theorem find_of_register (h : store.register? registry name shape = some (.ok store')) :
    store.find registry name = .missing := by
  obtain ⟨t, ht, hr⟩ := Option.map_eq_some_iff.1 h
  unfold Table.register at hr
  split at hr
  · cases hr
  · rename_i hnew
    have hnone : t.get? name = none := by simpa [Table.contains] using hnew
    unfold find
    simp only [ht, hnone]

theorem growsInto_register (h : store.register? registry name shape = some (.ok store')) :
    store.GrowsInto store' := by
  intro other key t ht
  rw [find_register h]
  split
  · rename_i hsame
    obtain ⟨rfl, rfl⟩ := hsame
    rw [find_of_register h] at ht
    cases ht
  · exact ht

end Store

theorem Run.growsInto_register (r : Run) (registry : RegistryId) (name : String) (s : Shape) :
    r.store.GrowsInto (r.register registry name s).2.store := by
  unfold Run.register
  split
  · exact .refl r.store
  · exact .refl r.store
  · rename_i store hstore
    exact Store.growsInto_register hstore

/-- A check only adds to the registries, whatever users' checks it comes to. -/
theorem Check.growsInto_run (via : Via) (r : Run) (s : Shape) (n : Node) (o : Options) :
    r.store.GrowsInto (run via r s n o).2.store := by
  apply Machine.Steps.keeps (fun m => r.store.GrowsInto m.run.store)
    (Machine.steps_run via r s n o) _ (.refl r.store)
  intro m m' hs hm
  rcases Machine.run_step hs with ⟨f, h⟩ | ⟨f, event, h⟩ | ⟨registry, name, t, h⟩
  · rw [h]
    exact hm
  · rw [h]
    exact hm
  · rw [h]
    exact hm.trans (m.run.growsInto_register registry name t)

structure Run.Extends (g : Guard) (store : Store) (r : Run) : Prop where
  guard : r.guard = g
  store : store.GrowsInto r.store

theorem Run.Extends.run {g : Guard} {store : Store} {r : Run} (h : r.Extends g store) (via : Via)
    (s : Shape) (n : Node) (o : Options) : (Check.run via r s n o).2.Extends g store :=
  ⟨(Check.guard_run via r s n o).trans h.guard, h.store.trans (Check.growsInto_run via r s n o)⟩

theorem Run.Extends.mapGuard {g : Guard} {store : Store} {r : Run} (h : r.Extends g store)
    (f : Guard → Guard) : (r.mapGuard f).Extends (f g) store :=
  ⟨congrArg f h.guard, h.store⟩

/-- Under the guard the node is accepted, whatever the registries have grown into. -/
def Check.Accepts (g : Guard) (store : Store) (s : Shape) (n : Node) (o : Options) : Prop :=
  ∀ r : Run, r.Extends g store → (run .watched r s n o).1.isAccepted = true

namespace Plan

def Accepts (g : Guard) (store : Store) (plan : Plan) : Prop :=
  ∀ r : Run, r.Extends g store → ∀ x, plan.exec Check.settled r = some x → x.1.isAccepted = true

variable {g : Guard} {store : Store} {o : Options} {n : Node}

theorem accepts_done (k : Node) : (done (.accepted k)).Accepts g store := by
  intro r _ x hx
  cases hx
  rfl

theorem accepts_call {s : Shape} {next : Outcome → Plan}
    (hnext : ∀ outcome, (next outcome).Accepts g store) :
    (call .watched s n o next).Accepts g store :=
  fun _ hr x hx => hnext _ _ (hr.run .watched s n o) x hx

theorem accepts_call_of_accepts {s : Shape} {next : Outcome → Plan}
    (hcall : Check.Accepts g store s n o) (hnext : ∀ k, (next (.accepted k)).Accepts g store) :
    (call .watched s n o next).Accepts g store := by
  intro r hr x hx
  have haccepted := hcall r hr
  have hextends := hr.run .watched s n o
  change (next (Check.run .watched r s n o).1).exec Check.settled
    (Check.run .watched r s n o).2 = some x at hx
  generalize Check.run .watched r s n o = y at haccepted hextends hx
  obtain ⟨outcome, r'⟩ := y
  cases outcome with
  | accepted k => exact hnext k r' hextends x hx
  | rejected f => cases haccepted

theorem accepts_gather {demands : List Demand} {next : List Issue → Plan}
    (hd : ∀ d ∈ demands, d.Met fun t k => Check.Accepts g store t k o)
    (hnext : (next []).Accepts g store) : (gather o demands next).Accepts g store := by
  induction demands with
  | nil => exact hnext
  | cons d rest ih =>
    obtain ⟨hfirst, hrest⟩ := List.forall_mem_cons.1 hd
    cases d with
    | conforms place t k => exact accepts_call_of_accepts hfirst fun _ => ih hrest
    | missing place t => exact hfirst.elim

theorem accepts_gatherMembers {members : List Shape} {next : List Issue → Plan}
    (hm : ∀ t ∈ members, Check.Accepts g store t n o) (hnext : (next []).Accepts g store) :
    (gatherMembers o n members next).Accepts g store := by
  induction members with
  | nil => exact hnext
  | cons t rest ih =>
    obtain ⟨hfirst, hrest⟩ := List.forall_mem_cons.1 hm
    exact accepts_call_of_accepts hfirst fun _ => ih hrest

theorem accepts_firstAccepting {union : Shape} {alternatives : List Shape}
    (h : ∃ t ∈ alternatives, Check.Accepts g store t n o) :
    (firstAccepting o n union alternatives).Accepts g store := by
  induction alternatives with
  | nil =>
    obtain ⟨t, ht, -⟩ := h
    cases ht
  | cons s rest ih =>
    obtain ⟨t, ht, haccepts⟩ := h
    rcases List.mem_cons.1 ht with rfl | ht
    · exact accepts_call_of_accepts haccepts fun _ => accepts_done n
    -- An earlier alternative may accept too.
    · refine accepts_call fun outcome => ?_
      cases outcome with
      | accepted _ => exact accepts_done n
      | rejected _ => exact ih ⟨t, ht, haccepts⟩

theorem accepts_constraint {underlying : Shape} {refuses : Json → Option String}
    (hcall : Check.Accepts g store underlying n o) (hrefuses : refuses n.value = none) :
    (call .watched underlying n o (narrow refuses n)).Accepts g store := by
  refine accepts_call_of_accepts hcall fun k r _ x hx => ?_
  simp only [narrow, exec, hrefuses] at hx
  cases hx
  rfl

theorem accepts_resolve {name : String} {registry : RegistryId} {t : Shape}
    (hdepth : g.referenceDepth < o.depthLimit) (hfind : store.find registry name = .found t)
    (hcall : Check.Accepts g.descend store t n o) :
    (resolve o n name registry).Accepts g store := by
  intro r hr x hx
  rw [← hr.guard] at hdepth
  rw [exec_resolve _ n name registry hdepth, hr.store registry name t hfind] at hx
  have hx' : ((Check.run .watched (r.mapGuard .descend) t n o).1,
      (Check.run .watched (r.mapGuard .descend) t n o).2.mapGuard .ascend) = x := Option.some.inj hx
  rw [← hx']
  exact hcall _ (hr.mapGuard .descend)

end Plan

open Plan in
/-- One level: if what the calls accept is accepted in all that the registries have grown into, and
the limit is no nearer, so it is with the check that makes them. -/
theorem Shape.plan_accepts {w : Replies} {g : Guard} {o o' : Options} {s : Shape} {n : Node}
    (hplain : s.kind.isCustom = false)
    (hdepth : w.depth < o.depthLimit → g.referenceDepth < o'.depthLimit)
    (hparts : ∀ t ∈ s.kind.parts, ∀ k, Near n k → (w.inside t k o).isAccepted = true →
      Check.Accepts g w.store t k o')
    (htarget : ∀ name registry t, s.kind = .reference name registry →
      w.store.find registry name = .found t → (w.beyond t n o).isAccepted = true →
      Check.Accepts g.descend w.store t n o')
    (h : ((s.plan n o).outcome w).isAccepted = true) : (s.plan n o').Accepts g w.store := by
  have hhere : ∀ t ∈ s.kind.parts, (w.inside t n o).isAccepted = true →
      Check.Accepts g w.store t n o' := fun t ht => hparts t ht n (Or.inl rfl)
  have hform := Shape.form_plan hplain n
  generalize s.plan n = plan at hform h ⊢
  cases hform with
  | accept => exact accepts_done n
  | refusal message code => cases h
  | children demands hd =>
    rw [gather_isAccepted_iff] at h
    refine accepts_gather (fun d hmem => (h d hmem).imp fun place t k hdemand => ?_) (accepts_done n)
    subst hdemand
    exact hparts t (hd o _ hmem).1 k (hd o _ hmem).2
  | union alternatives hk =>
    obtain ⟨t, ht, hin⟩ := firstAccepting_isAccepted_iff.1 h
    exact accepts_firstAccepting ⟨t, ht, hhere t (by rwa [hk]) hin⟩
  | intersect members hk =>
    rw [gatherMembers_isAccepted_iff] at h
    exact accepts_gatherMembers (fun t ht => hhere t (by rwa [hk]) (h t ht)) (accepts_done n)
  | optional inner hk =>
    exact accepts_call_of_accepts (hhere inner (by simp [hk, Kind.parts]) h) fun k => accepts_done k
  | constraint underlying name refuses hk =>
    obtain ⟨hin, hrefuses⟩ := constraint_isAccepted_iff.1 h
    exact accepts_constraint (hhere underlying (by simp [hk, Kind.parts]) hin) hrefuses
  | reference name registry hk =>
    by_cases hlimit : w.depth < o.depthLimit
    · rw [resolve_isAccepted_iff hlimit] at h
      obtain ⟨t, ht, hin⟩ := h
      exact accepts_resolve (hdepth hlimit) ht (htarget name registry t hk ht hin)
    · simp only [resolve, outcome, if_pos (Nat.le_of_not_lt hlimit)] at h
      cases h

namespace Check

/-- What is accepted is accepted by all checks that have at least as many references left to open
before their limit, whatever the registries have grown into. -/
theorem accepts_of_answer {store : Store} {o o' : Options} (g : Guard) (s : Shape) (n : Node) :
    store.CustomFree s → (answer store g s n o).isAccepted = true →
      ∀ g' : Guard, g'.inProgress = g.inProgress →
        o.depthLimit + g'.referenceDepth ≤ o'.depthLimit + g.referenceDepth →
        Accepts g' store s n o' := by
  apply answer_induction store (P := fun g s n => store.CustomFree s →
    (answer store g s n o).isAccepted = true → ∀ g' : Guard, g'.inProgress = g.inProgress →
      o.depthLimit + g'.referenceDepth ≤ o'.depthLimit + g.referenceDepth → Accepts g' store s n o')
  · intro g s n hopen _ _ g' hsame _ r hr
    rw [← hsame, ← hr.guard] at hopen
    rw [run_watched, if_pos (Entry.isIn_iff.2 hopen)]
    rfl
  · intro g s n hnew hparts htarget hfree haccepted g' hsame hleft r hr
    have hin : ¬Entry.isIn ⟨s.id, n.position⟩ r.guard.inProgress := by
      rw [hr.guard, hsame]
      exact fun hin => hnew (Entry.isIn_iff.1 hin)
    -- The run enters the pair as the guard of the answer does, and keeps what it has left to open.
    have hentered : (g'.enter ⟨s.id, n.position⟩).inProgress =
        (g.enter ⟨s.id, n.position⟩).inProgress := congrArg (_ :: ·) hsame
    rw [answer_new hfree hnew] at haccepted
    rw [run_watched, if_neg hin]
    have hplan : (s.plan n o').Accepts (g'.enter ⟨s.id, n.position⟩) store := by
      refine Shape.plan_accepts (w := replies store (g.enter ⟨s.id, n.position⟩)) (hfree s .self)
        ?_ ?_ ?_ haccepted
      · intro hlt
        change g.referenceDepth < o.depthLimit at hlt
        change g'.referenceDepth < o'.depthLimit
        omega
      · exact fun t ht k hk hin => hparts t ht k hk (hfree.part ht) hin _ hentered hleft
      · intro name registry t hk ht hin
        refine htarget name registry t hk ht (hfree.target hk ht) hin
          (g'.enter ⟨s.id, n.position⟩).descend hentered ?_
        exact Nat.succ_le_succ hleft
    have hextends := hr.mapGuard (·.enter ⟨s.id, n.position⟩)
    have hrun : (run .direct (r.mapGuard (·.enter ⟨s.id, n.position⟩)) s n o').1.isAccepted = true :=
      hplan _ hextends _ (exec_settled _ s n o')
    exact hrun

end Check

end ShapeCheck
