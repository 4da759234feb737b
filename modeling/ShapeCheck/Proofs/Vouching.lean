import ShapeCheck.Proofs.Course
import ShapeCheck.Proofs.UserChecks

namespace ShapeCheck

namespace Plan

/-- Whatever the plan accepts, it vouches for this node. -/
def VouchesFor (n : Node) : Plan → Prop := All fun p => ∀ k, p = .done (.accepted k) → k = n

theorem All.of_exec {P : Plan → Prop} {call : Call} {plan : Plan} {r : Run} {x : Outcome × Run}
    (h : plan.All P) (hx : plan.exec call r = some x) : P (.done x.1) := by
  induction plan generalizing r with
  | done _ => cases hx; exact h
  | call via s n o next ih =>
    obtain ⟨y, _, hx⟩ := Option.bind_eq_some_iff.1 hx
    exact ih _ (h.2 _) hx
  | follow t n o next ih =>
    obtain ⟨y, _, hx⟩ := Option.bind_eq_some_iff.1 hx
    exact ih _ (h.2 _) hx
  | find registry name next ih => exact ih _ (h.2 _) hx
  | test refuses n next ih => exact ih _ (h.2 _) hx
  | ask next ih => exact ih _ _ (h.2 _ _) hx
  | report event next ih => exact ih h.2 hx
  | register registry name s next ih => exact ih _ (h.2 _) hx

theorem vouchesFor_ofIssues (n : Node) (is : List Issue) :
    VouchesFor n (.done (.ofIssues n is)) := by
  intro k hk
  cases is <;> cases hk
  rfl

/-- All but optional shapes and references say themselves whom they vouch for. -/
theorem Form.vouchesFor {s : Shape} {n : Node} {plan : Options → Plan} (h : Form s n plan)
    (hoptional : ∀ inner, s.kind ≠ .optional inner)
    (href : ∀ name registry, s.kind ≠ .reference name registry) (o : Options) :
    VouchesFor n (plan o) := by
  have hcall : ∀ via t c o next k, Plan.call via t c o next = .done (.accepted k) → k = n := nofun
  have hrefuse : ∀ message code k, refuse message code = .done (.accepted k) → k = n := nofun
  have haccept : ∀ k, Plan.done (.accepted n) = .done (.accepted k) → k = n :=
    fun k hk => (Outcome.accepted.inj (Plan.done.inj hk)).symm
  cases h with
  | accept => exact haccept
  | refusal message code => exact hrefuse message code
  | children demands => exact all_gather hcall o demands (vouchesFor_ofIssues n)
  | union alternatives =>
    exact all_firstAccepting haccept hrefuse hcall o s alternatives
  | intersect members => exact all_gatherMembers hcall o n members (vouchesFor_ofIssues n)
  | optional inner hk => exact absurd hk (hoptional inner)
  | constraint underlying name refuses =>
    exact ⟨hcall _ _ _ _ _, all_narrow haccept (fun _ => nofun) fun _ => nofun⟩
  | reference name registry hk => exact absurd hk (href name registry)

theorem exec_call_done (call : Call) (via : Via) (s : Shape) (n : Node) (o : Options) :
    (Plan.call via s n o .done).exec call = call via s n o := by
  funext r
  rw [exec]
  cases call via s n o r <;> rfl

end Plan

namespace Store

/-- An optional shape hands a node on to the shape inside, a reference to its target. -/
inductive HandsOn (store : Store) (s t : Shape) : Prop
  | inner (hk : s.kind = .optional t)
  | target {name : String} {registry : RegistryId} (hk : s.kind = .reference name registry)
      (ht : store.find registry name = .found t)

theorem HandsOn.reaches {store : Store} {s t : Shape}
    (h : Relation.ReflTransGen store.HandsOn s t) : store.Reaches s t := by
  induction h with
  | refl => exact .self
  | tail _ hstep ih =>
    cases hstep with
    | inner hk => exact ih.part (by simp [hk, Kind.parts])
    | target hk ht => exact ih.target hk ht

end Store

namespace Check

variable {user : Shape → UserCheck} {store : Store} {s t : Shape} {n k : Node} {o : Options}
  {r r' : Run}

/-- The node is the one that was checked, or a user's check to which this shape hands the node on
has named it. That this check was asked shows in `result`, whose outcome is that of the check
whatever users' checks are. -/
def Vouched (user : Shape → UserCheck) (store : Store) (s : Shape) (n : Node) (o : Options)
    (k : Node) (result : (Shape → UserCheck) → Option (Outcome × Run)) : Prop :=
  k = n ∨ ∃ c left q q', Relation.ReflTransGen store.HandsOn s c ∧ c.kind.isCustom = true ∧
    user c (calls (checkWith user left)) n o q = some (.accepted k, q') ∧
    ∀ other, (result other).map Prod.fst =
      (other c (calls (checkWith other left)) n o q).map Prod.fst

theorem Vouched.congr {result result' : (Shape → UserCheck) → Option (Outcome × Run)}
    (h : Vouched user store s n o k result)
    (heq : ∀ other, (result' other).map Prod.fst = (result other).map Prod.fst) :
    Vouched user store s n o k result' := by
  refine h.imp_right fun ⟨c, left, q, q', hc, hcustom, hnamed, hasked⟩ => ?_
  exact ⟨c, left, q, q', hc, hcustom, hnamed, fun other => (heq other).trans (hasked other)⟩

theorem Vouched.handedOn {result : (Shape → UserCheck) → Option (Outcome × Run)}
    (h : Vouched user store t n o k result) (hst : store.HandsOn s t) :
    Vouched user store s n o k result := by
  refine h.imp_right fun ⟨c, left, q, q', hc, hrest⟩ => ?_
  exact ⟨c, left, q, q', .head hst hc, hrest⟩

theorem vouched_of_guarded {fuel : Nat}
    (hcheck : ∀ {r r' : Run}, checkWith user fuel t n o r = some (.accepted k, r') →
      Vouched user r.store t n o k fun other => checkWith other fuel t n o r)
    (h : guarded (checkWith user fuel) t n o r = some (.accepted k, r')) :
    Vouched user r.store t n o k fun other => guarded (checkWith other fuel) t n o r := by
  unfold guarded at h ⊢
  by_cases hin : Entry.isIn ⟨t.id, n.position⟩ r.guard.inProgress = true
  · rw [if_pos hin] at h
    cases h
    exact Or.inl rfl
  · rw [if_neg hin] at h
    obtain ⟨⟨outcome, r''⟩, hy, hx⟩ := Option.bind_eq_some_iff.1 h
    cases hx
    refine (hcheck hy).congr fun other => ?_
    dsimp only
    rw [if_neg hin]
    cases checkWith other fuel t n o (r.mapGuard (·.enter ⟨t.id, n.position⟩)) <;> rfl

theorem vouched_of_resolve {fuel : Nat} {name : String} {registry : RegistryId}
    (hcheck : ∀ {t : Shape} {r r' : Run}, checkWith user fuel t n o r = some (.accepted k, r') →
      Vouched user r.store t n o k fun other => checkWith other fuel t n o r)
    (hk : s.kind = .reference name registry)
    (h : (Plan.resolve o n name registry).exec (calls (checkWith user fuel)) r =
      some (.accepted k, r')) :
    Vouched user r.store s n o k fun other =>
      (Plan.resolve o n name registry).exec (calls (checkWith other fuel)) r := by
  by_cases hdepth : o.depthLimit ≤ r.guard.referenceDepth
  · rw [Plan.resolve, Plan.exec, if_pos hdepth] at h
    cases h
  simp only [Plan.exec_resolve _ n name registry (Nat.lt_of_not_le hdepth)] at h ⊢
  cases hfind : r.store.find registry name with
  | found t =>
    rw [hfind] at h
    obtain ⟨⟨outcome, r''⟩, hy, hx⟩ := Option.map_eq_some_iff.1 h
    cases hx
    refine ((vouched_of_guarded hcheck hy).handedOn (.target hk hfind)).congr fun other => ?_
    rw [Option.map_map]
    rfl
  | _ =>
    rw [hfind] at h
    cases h

theorem vouched_of_checkWith (fuel : Nat)
    (h : checkWith user fuel s n o r = some (.accepted k, r')) :
    Vouched user r.store s n o k fun other => checkWith other fuel s n o r := by
  -- A shape that hands the node on makes one call, and vouches for what this call vouches for.
  induction fuel generalizing s r r' with
  | zero => cases h
  | succ fuel ih =>
    cases hcustom : s.kind.isCustom with
    | true =>
      simp only [checkWith_custom hcustom] at h ⊢
      exact Or.inr ⟨s, fuel, r, r', .refl, hcustom, h, fun _ => rfl⟩
    | false =>
      simp only [checkWith_plain hcustom] at h ⊢
      by_cases hoptional : ∃ inner, s.kind = .optional inner
      · obtain ⟨inner, hk⟩ := hoptional
        have hplan : s.plan n o = .call .watched inner n o .done := by rw [Shape.plan, hk]
        simp only [hplan, Plan.exec_call_done] at h ⊢
        exact (vouched_of_guarded ih h).handedOn (.inner hk)
      by_cases href : ∃ name registry, s.kind = .reference name registry
      · obtain ⟨name, registry, hk⟩ := href
        have hplan : s.plan n o = .resolve o n name registry := by rw [Shape.plan, hk]
        simp only [hplan] at h ⊢
        exact vouched_of_resolve ih hk h
      · have hform := s.form_plan hcustom n
        have hvouches : (s.plan n o).VouchesFor n :=
          hform.vouchesFor (fun inner hk => hoptional ⟨inner, hk⟩)
            (fun name registry hk => href ⟨name, registry, hk⟩) o
        exact Or.inl (hvouches.of_exec h k rfl)

theorem vouched_of_calls {fuel : Nat} {via : Via}
    (h : calls (checkWith user fuel) via s n o r = some (.accepted k, r')) :
    Vouched user r.store s n o k fun other => calls (checkWith other fuel) via s n o r := by
  cases via with
  | direct => exact vouched_of_checkWith fuel h
  | watched => exact vouched_of_guarded (vouched_of_checkWith fuel) h

theorem eq_of_vouched {result : (Shape → UserCheck) → Option (Outcome × Run)}
    (h : Vouched user store s n o k result)
    (hplain : ∀ c, Relation.ReflTransGen store.HandsOn s c → c.kind.isCustom = false) : k = n := by
  rcases h with h | ⟨c, _, _, _, hc, hcustom, _⟩
  · exact h
  · rw [hplain c hc] at hcustom
    cases hcustom

/-- An accepting check vouches for its own node, unless optional shapes and references lead from the
shape to a user's check that was asked about this node and named another one. Users' checks may do
as they like; those of the library are scripts. -/
theorem accepted_node (user : Shape → UserCheck) {fuel : Nat} {via : Via} {s : Shape} {n k : Node}
    {o : Options} {r r' : Run}
    (h : calls (checkWith user fuel) via s n o r = some (.accepted k, r')) :
    (k ≠ n → ∃ c left q q', Relation.ReflTransGen r.store.HandsOn s c ∧ c.kind.isCustom = true ∧
      user c (calls (checkWith user left)) n o q = some (.accepted k, q') ∧
      ∀ other : Shape → UserCheck, (calls (checkWith other fuel) via s n o r).map Prod.fst =
        (other c (calls (checkWith other left)) n o q).map Prod.fst) ∧
    (r.store.CustomFree s → k = n) ∧
    (s.kind.isCustom = false → (∀ inner, s.kind ≠ .optional inner) →
      (∀ name registry, s.kind ≠ .reference name registry) → k = n) ∧
    checkWith (fun s call n o => (s.plan n o).exec call) = check := by
  have hvouched := vouched_of_calls h
  refine ⟨fun hne => hvouched.resolve_left hne, fun hfree => ?_, fun hplain hoptional href => ?_,
    checkWith_plan⟩
  · exact eq_of_vouched hvouched fun c hc => hfree c (Store.HandsOn.reaches hc)
  · apply eq_of_vouched hvouched
    intro c hc
    rcases Relation.ReflTransGen.cases_head hc with rfl | ⟨t, hst, _⟩
    · exact hplain
    · cases hst with
      | inner hk => exact absurd hk (hoptional t)
      | target hk _ => exact absurd hk (href _ _)

/-- A check that starts over with a fresh guard to name the first item of an array, behind an
optional reference. -/
theorem accepted_node_pick :
    let pick : Shape := .mk 0 (.custom "pick" [] [] fun n _ => .done (.accepted n))
    let shape : Shape := .mk 2 (.optional (.mk 1 (.reference "Pick" 0)))
    let node : Node := .root (.array [.null])
    let item : Node := node.down (.index 0) .null
    let r : Run := ⟨.fresh, ⟨[(0, ⟨[("Pick", pick)]⟩)]⟩, []⟩
    let user : Shape → UserCheck := fun _ call _ o q =>
      call .watched (.mk 3 .unknown) item o { q with guard := .fresh }
    (calls (checkWith user 4) .watched shape node .collectAll r).map Prod.fst =
        some (.accepted item) ∧
      ∃ c left q q', Relation.ReflTransGen r.store.HandsOn shape c ∧ c.kind.isCustom = true ∧
        user c (calls (checkWith user left)) node .collectAll q = some (.accepted item, q') ∧
        ∀ other : Shape → UserCheck,
          (calls (checkWith other 4) .watched shape node .collectAll r).map Prod.fst =
            (other c (calls (checkWith other left)) node .collectAll q).map Prod.fst := by
  intro pick shape node item r user
  have hresult : calls (checkWith user 4) .watched shape node .collectAll r =
      some (.accepted item, r) := rfl
  have hne : item ≠ node := by
    intro heq
    cases congrArg Node.value heq
  exact ⟨by rw [hresult]; rfl, (accepted_node user hresult).1 hne⟩

end Check

end ShapeCheck
