import ShapeCheck.Shape.Refinement
import ShapeCheck.Proofs.MachineCourse

namespace ShapeCheck

open Check (answer replies)

namespace Plan

variable {w : Replies} {o : Options} {n : Node}

def IsNoTest : Plan → Prop
  | .test .. => False
  | _ => True

theorem test_of_narrow {underlying : Shape} {refuses refuses' : Json → Option String} {k : Node}
    {next : Option String → Plan}
    (h : ComesTo w (.call .watched underlying n o (narrow refuses n)) (.test refuses' k next)) :
    refuses' = refuses ∧ k = n ∧ (w.inside underlying n o).isAccepted = true := by
  rcases h.eq_or_advance with heq | ⟨p, hp, h⟩
  · cases heq
  cases hp
  cases hreply : w.inside underlying n o with
  | rejected f =>
    rw [hreply] at h
    cases ComesTo.eq_of_done h
  | accepted _ =>
    rw [hreply] at h
    rcases h.eq_or_advance with heq | ⟨p, hp, h⟩
    · cases heq
      exact ⟨rfl, rfl, rfl⟩
    · cases hp
      cases hreason : refuses n.value with
      | none =>
        rw [hreason] at h
        cases ComesTo.eq_of_done h
      | some message =>
        rw [hreason] at h
        cases ComesTo.eq_of_done h

end Plan

open Plan (ComesTo)

theorem Shape.test_of_course {w : Plan.Replies} {s : Shape} {n k : Node} {o : Options}
    {refuses : Json → Option String} {next : Option String → Plan}
    (hplain : s.kind.isCustom = false) (h : ComesTo w (s.plan n o) (.test refuses k next)) :
    ∃ underlying name, s.kind = .constraint underlying name refuses ∧ k = n ∧
      (w.inside underlying n o).isAccepted = true := by
  by_cases hk : ∃ underlying name refuses', s.kind = .constraint underlying name refuses'
  · obtain ⟨underlying, name, refuses', hk⟩ := hk
    have hplan : s.plan n o = .call .watched underlying n o (.narrow refuses' n) := by
      simp only [Shape.plan, hk]
    rw [hplan] at h
    obtain ⟨rfl, rfl, hin⟩ := Plan.test_of_narrow h
    exact ⟨underlying, name, hk, rfl, hin⟩
  · have hnone : (s.plan n o).All Plan.IsNoTest :=
      (s.form_plan hplain n).all o (fun _ => trivial) (fun _ _ _ _ _ => trivial)
        (fun underlying name refuses' hkind => absurd ⟨underlying, name, refuses', hkind⟩ hk)
        fun _ _ => Plan.all_resolve (fun _ => trivial) (fun _ => trivial) (fun _ => trivial)
          (fun _ => trivial) fun _ _ => trivial
    exact (hnone.of_comesTo h).here.elim

namespace Machine

variable {store : Store} {shape : Shape} {o : Options}

/-- When a predicate is asked, its constraint is being checked on the node, and the underlying shape
accepts the node under the guard. -/
theorem OnCourse.test {base : Plan} {g : Guard} {frames : List Frame} {k : Node}
    {refuses : Json → Option String} {next : Option String → Plan}
    (hfree : store.CustomFree shape)
    (hbase : ¬ComesTo (replies store g) base (.test refuses k next))
    (h : OnCourse store shape o base frames g (.test refuses k next)) :
    ∃ s underlying name, store.Reaches shape s ∧ s.kind = .constraint underlying name refuses ∧
      ⟨s.id, k.position⟩ ∈ g.inProgress ∧ (answer store g underlying k o).isAccepted = true := by
  cases frames with
  | nil => exact absurd h hbase
  | cons f fs =>
    cases f with
    | direct _ => exact h.elim
    | resolution _ =>
      obtain ⟨_, _, _, heq, _⟩ := h
      cases heq
    | dispatch e next =>
      obtain ⟨s, n, g₀, hs, rfl, _, rfl, hcourse, _⟩ := h
      obtain ⟨underlying, name, hk, rfl, hin⟩ := Shape.test_of_course (hfree s hs) hcourse
      exact ⟨s, underlying, name, hs, hk, List.mem_cons_self, hin⟩

end Machine

namespace Plan

variable {w : Replies} {o : Options} {n : Node} {plan plan' : Plan} {e : Issue}

def Demand.Yields (w : Replies) (o : Options) (plan : Plan) (e : Issue) : Demand → Prop
  | .conforms place t c => ∃ next e', ComesTo w plan (.call .watched t c o next) ∧
      e' ∈ (w.inside t c o).issues ∧ e = e'.under place
  | .missing place t => e = missingField place t

theorem Demand.Yields.imp {d : Demand} (h : d.Yields w o plan e)
    (hcourse : ∀ q, ComesTo w plan q → ComesTo w plan' q) : d.Yields w o plan' e := by
  cases d with
  | conforms place t c =>
    obtain ⟨next, e', hcall, he⟩ := h
    exact ⟨next, e', hcourse _ hcall, he⟩
  | missing place t => exact h

theorem yields_of_issues {d : Demand} {rest : List Demand} {next : List Issue → Plan}
    (h : e ∈ d.issues fun s n => w.inside s n o) : d.Yields w o (gather o (d :: rest) next) e := by
  cases d with
  | conforms place t c =>
    obtain ⟨e', he', rfl⟩ := List.mem_map.1 h
    exact ⟨_, e', .refl, he', rfl⟩
  | missing place t => exact List.mem_singleton.1 h

/-- After a demand with issues the plan goes on only if it collects all of them. -/
theorem gather_goes_on {d : Demand} (rest : List Demand) (next : List Issue → Plan)
    (h : o.failFast = false ∨ d.issues (fun s n => w.inside s n o) = []) :
    ∃ next', ∀ q, ComesTo w (gather o rest next') q → ComesTo w (gather o (d :: rest) next) q := by
  cases d with
  | conforms place t c =>
    cases hreply : w.inside t c o with
    | accepted k =>
      refine ⟨next, fun q hq => .head ?_ hq⟩
      rw [gather, advance, hreply]
    | rejected f =>
      have hfast : o.failFast = false := by
        refine h.resolve_right fun hnil => ?_
        rw [Demand.issues, hreply, List.map_eq_nil_iff] at hnil
        exact f.issues_ne_nil hnil
      refine ⟨fun more => next (f.issues.map (·.under place) ++ more), fun q hq => .head ?_ hq⟩
      rw [gather, advance, hreply]
      simp [hfast]
  | missing place t =>
    have hfast : o.failFast = false := h.resolve_right (List.cons_ne_nil _ _)
    refine ⟨fun more => next (missingField place t :: more), fun q hq => ?_⟩
    simpa [gather, hfast] using hq

theorem gatherMembers_goes_on {s : Shape} (rest : List Shape) (next : List Issue → Plan)
    (h : o.failFast = false ∨ (w.inside s n o).issues = []) :
    ∃ next', ∀ q, ComesTo w (gatherMembers o n rest next') q →
      ComesTo w (gatherMembers o n (s :: rest) next) q := by
  cases hreply : w.inside s n o with
  | accepted k =>
    refine ⟨next, fun q hq => .head ?_ hq⟩
    rw [gatherMembers, advance, hreply]
  | rejected f =>
    have hfast : o.failFast = false := by
      refine h.resolve_right fun hnil => ?_
      rw [hreply] at hnil
      exact f.issues_ne_nil hnil
    refine ⟨fun more => next (f.issues ++ more), fun q hq => .head ?_ hq⟩
    rw [gatherMembers, advance, hreply]
    simp [hfast]

theorem yields_of_reported {demands : List Demand}
    (h : e ∈ reported o.failFast (demands.map (Demand.issues fun s n => w.inside s n o)))
    (next : List Issue → Plan) : ∃ d ∈ demands, d.Yields w o (gather o demands next) e := by
  induction demands generalizing next with
  | nil => cases h
  | cons d rest ih =>
    rcases mem_reported_cons h with h | ⟨hrest, h⟩
    · exact ⟨d, List.mem_cons_self, yields_of_issues h⟩
    · obtain ⟨next', hcourse⟩ := gather_goes_on rest next hrest
      obtain ⟨d', hd', hyields⟩ := ih h next'
      exact ⟨d', List.mem_cons_of_mem _ hd', hyields.imp hcourse⟩

theorem call_of_reported {members : List Shape}
    (h : e ∈ reported o.failFast (members.map fun s => (w.inside s n o).issues))
    (next : List Issue → Plan) :
    ∃ t next', ComesTo w (gatherMembers o n members next) (.call .watched t n o next') ∧
      e ∈ (w.inside t n o).issues := by
  induction members generalizing next with
  | nil => cases h
  | cons s rest ih =>
    rcases mem_reported_cons h with h | ⟨hrest, h⟩
    · exact ⟨s, _, .refl, h⟩
    · obtain ⟨next', hcourse⟩ := gatherMembers_goes_on rest next hrest
      obtain ⟨t, next'', hcall, he⟩ := ih h next'
      exact ⟨t, next'', hcourse _ hcall, he⟩

/-- Where an issue of a predicate has come from: from the predicate itself, or from a call. -/
inductive Source (w : Replies) (o : Options) (n : Node) (plan : Plan) (e : Issue) : Prop
  | test {refuses : Json → Option String} {next : Option String → Plan}
      (hcourse : ComesTo w plan (.test refuses n next)) (hreason : refuses n.value = some e.message)
      (hpath : e.path = .root)
  | here {t : Shape} {next : Outcome → Plan} (hcourse : ComesTo w plan (.call .watched t n o next))
      (he : e ∈ (w.inside t n o).issues)
  | below {t : Shape} {place : Segment} {v : Json} {next : Outcome → Plan} {e' : Issue}
      (hcourse : ComesTo w plan (.call .watched t (n.down place v) o next))
      (he : e' ∈ (w.inside t (n.down place v) o).issues) (hunder : e = e'.under place)
  | target {t : Shape} {next : Outcome → Plan} (hcourse : ComesTo w plan (.follow t n o next))
      (he : e ∈ (w.beyond t n o).issues)

theorem code_ne_of_refuse {message code other : String}
    (he : e ∈ (Outcome.refuse message code).issues) (hother : code ≠ other) : e.code ≠ other := by
  rw [List.mem_singleton.1 he]
  exact hother

theorem source_of_gather {kind : Kind} {demands : List Demand}
    (hd : ∀ d ∈ demands, d.Inward kind n)
    (he : e ∈ ((gather o demands (settle n)).outcome w).issues) (hcode : e.code = "constraint") :
    Source w o n (gather o demands (settle n)) e := by
  rw [outcome_gather, settle, outcome, Outcome.issues_ofIssues] at he
  obtain ⟨d, hmem, hyields⟩ := yields_of_reported he (settle n)
  have hinward := hd d hmem
  cases d with
  | conforms place t c =>
    obtain ⟨-, -, v, rfl⟩ := hinward
    obtain ⟨next, e', hcall, he', hunder⟩ := hyields
    exact .below hcall he' hunder
  | missing place t =>
    cases hyields
    exact absurd hcode (show "missing_field" ≠ "constraint" by decide)

theorem source_of_gatherMembers {members : List Shape}
    (he : e ∈ ((gatherMembers o n members (settle n)).outcome w).issues) :
    Source w o n (gatherMembers o n members (settle n)) e := by
  rw [outcome_gatherMembers, settle, outcome, Outcome.issues_ofIssues] at he
  obtain ⟨t, next, hcall, he⟩ := call_of_reported he (settle n)
  exact .here hcall he

theorem source_of_constraint {underlying : Shape} {refuses : Json → Option String}
    (he : e ∈ ((call .watched underlying n o (narrow refuses n)).outcome w).issues) :
    Source w o n (call .watched underlying n o (narrow refuses n)) e := by
  rw [issues_constraint] at he
  split at he
  · rename_i hin
    obtain ⟨message, hmessage, rfl⟩ := List.mem_map.1 he
    cases hreply : w.inside underlying n o with
    | rejected f =>
      rw [hreply] at hin
      cases hin
    | accepted k =>
      have hstep : (call .watched underlying n o (narrow refuses n)).advance w =
          some (narrow refuses n (.accepted k)) := by rw [advance, hreply]
      exact .test (.single hstep) (Option.mem_toList.1 hmessage) rfl
  · exact .here .refl he

theorem comesTo_resolve {name : String} {registry : RegistryId} {t : Shape}
    (hlimit : ¬o.depthLimit ≤ w.depth) (hfind : w.store.find registry name = .found t) :
    ComesTo w (resolve o n name registry) (.follow t n o .done) := by
  refine .head rfl ?_
  dsimp only
  rw [if_neg hlimit]
  refine .head rfl ?_
  dsimp only
  rw [hfind]

theorem source_of_resolve {name : String} {registry : RegistryId}
    (he : e ∈ ((resolve o n name registry).outcome w).issues) (hcode : e.code = "constraint") :
    Source w o n (resolve o n name registry) e := by
  by_cases hlimit : o.depthLimit ≤ w.depth
  · simp only [resolve, outcome, if_pos hlimit] at he
    exact absurd hcode (code_ne_of_refuse he (by decide))
  · rw [outcome_resolve _ _ _ _ _ (Nat.lt_of_not_le hlimit)] at he
    cases hfind : w.store.find registry name with
    | dropped =>
      rw [hfind] at he
      exact absurd hcode (code_ne_of_refuse he (by decide))
    | missing =>
      rw [hfind] at he
      exact absurd hcode (code_ne_of_refuse he (by decide))
    | found t =>
      rw [hfind] at he
      exact .target (comesTo_resolve hlimit hfind) he

end Plan

open Plan in
theorem Shape.source_of_issue {w : Replies} {o : Options} {s : Shape} {n : Node} {e : Issue}
    (hplain : s.kind.isCustom = false) (he : e ∈ ((s.plan n o).outcome w).issues)
    (hcode : e.code = "constraint") : Source w o n (s.plan n o) e := by
  have hrefused : ∀ {plan : Plan} {message code : String},
      e ∈ ((Plan.refuse message code).outcome w).issues → code ≠ "constraint" →
        Source w o n plan e :=
    fun he hother => absurd hcode (code_ne_of_refuse he hother)
  cases hd : s.kind.demands? n with
  | some demands =>
    rw [plan_of_demands hd] at he ⊢
    exact source_of_gather (Kind.inward_of_demands hd) he hcode
  | none =>
    have hshallow := shallow_plan hplain hd
    generalize s.plan n = plan at hshallow he ⊢
    cases hshallow with
    | accept => cases he
    | mismatch expected hmismatch => exact hrefused he fun h => absurd (h ▸ hmismatch) (by decide)
    | literal message => exact hrefused he (by decide)
    | length start hvalue => exact hrefused he (by decide)
    | union alternatives hk =>
      rw [outcome_firstAccepting] at he
      split at he
      · cases he
      · exact hrefused he (by decide)
    | intersect members hk => exact source_of_gatherMembers he
    | optional inner hk => exact .here .refl he
    | constraint underlying name refuses hk => exact source_of_constraint he
    | reference name registry hk => exact source_of_resolve he hcode

namespace Machine

variable {store : Store} {shape : Shape} {o : Options}

/-- The machine is about to ask a predicate that refuses its node for this reason, and the node lies
where the path of the issue leads from `n`. -/
def Applies (n : Node) (e : Issue) (m : Machine) : Prop :=
  ∃ refuses k next, m.plan = .test refuses k next ∧ refuses k.value = some e.message ∧
    k.position.trail = e.path.segments.reverse ++ n.position.trail

theorem Applies.under {n : Node} {place : Segment} {v : Json} {e : Issue} {m : Machine}
    (h : Applies (n.down place v) e m) : Applies n (e.under place) m := by
  obtain ⟨refuses, k, next, hplan, hreason, htrail⟩ := h
  refine ⟨refuses, k, next, hplan, hreason, htrail.trans ?_⟩
  rw [Issue.path_under, Path.segments_under, List.reverse_cons, List.append_assoc]
  rfl

/-- Every issue of a predicate comes from a moment at which the predicate was asked. -/
theorem applies_of_issue (o : Options) (g : Guard) (s : Shape) (n : Node) :
    store.CustomFree s → ∀ e ∈ (answer store g s n o).issues, e.code = "constraint" →
      ∀ (next : Outcome → Plan) (log : List Event) (fs : List Frame), ∃ m,
        Steps Shape.plan ⟨.call .watched s n o next, ⟨g, store, log⟩, fs⟩ m ∧ Applies n e m := by
  apply Check.answer_induction store (P := fun g s n => store.CustomFree s →
    ∀ e ∈ (answer store g s n o).issues, e.code = "constraint" →
      ∀ (next : Outcome → Plan) (log : List Event) (fs : List Frame), ∃ m,
        Steps Shape.plan ⟨.call .watched s n o next, ⟨g, store, log⟩, fs⟩ m ∧ Applies n e m)
  · intro g s n hopen _ e he
    rw [Check.answer_open hopen] at he
    cases he
  · intro g s n hnew hparts htarget hfree e he hcode next log fs
    have hplain : s.kind.isCustom = false := hfree s .self
    rw [Check.answer_new hfree hnew] at he
    -- The machine goes along the course of the check to where the issue has come from.
    rcases Shape.source_of_issue hplain he hcode with
      ⟨hcourse, hreason, hpath⟩ | ⟨hcourse, hcall⟩ | ⟨hcourse, hcall, rfl⟩ | ⟨hcourse, hcall⟩
    · obtain ⟨log', hsteps⟩ := steps_of_call hfree hnew hcourse next log fs
      exact ⟨_, hsteps, _, n, _, rfl, hreason, by rw [hpath]; rfl⟩
    · obtain ⟨-, -, ht, hk⟩ := Shape.call_of_course hplain hcourse
      obtain ⟨log', hsteps⟩ := steps_of_call hfree hnew hcourse next log fs
      obtain ⟨m, hm, happlies⟩ := hparts _ ht n hk (hfree.part ht) e hcall hcode _ log' _
      exact ⟨m, hsteps.trans hm, happlies⟩
    · obtain ⟨-, -, ht, hk⟩ := Shape.call_of_course hplain hcourse
      obtain ⟨log', hsteps⟩ := steps_of_call hfree hnew hcourse next log fs
      obtain ⟨m, hm, happlies⟩ := hparts _ ht _ hk (hfree.part ht) _ hcall hcode _ log' _
      exact ⟨m, hsteps.trans hm, happlies.under⟩
    · obtain ⟨-, -, name, registry, hk, ht⟩ := Shape.follow_of_course hplain hcourse
      obtain ⟨log', hsteps⟩ := steps_of_call hfree hnew hcourse next log fs
      obtain ⟨m, hm, happlies⟩ := htarget name registry _ hk ht (hfree.target hk ht) e hcall hcode
        .done log' (.resolution _ :: .dispatch ⟨s.id, n.position⟩ next :: fs)
      rcases steps_follow (r := ⟨g.enter ⟨s.id, n.position⟩, store, log'⟩) hm with rfl | hm
      · obtain ⟨_, _, _, hplan, _⟩ := happlies
        cases hplan
      · exact ⟨m, hsteps.trans hm, happlies⟩

end Machine

def Shape.echo : Shape := .mk 0 (.reference "Echo" 0)

def Shape.echoed : Shape := .mk 1 (.guarded echo "N" Predicate.never.holds)

def Shape.echoing : Shape := .mk 3 (.intersect [echoed, .mk 2 .string])

def Store.echoes : Store := ⟨[(0, ⟨[("Echo", Shape.echoing)]⟩)]⟩

namespace Check

open Machine (Steps start)
open Shape (echo echoed echoing)
open Store (echoes)

/-- A predicate is asked about a node only while its constraint is being checked on the node and the
underlying shape accepts the node under the guard. If the underlying shape does so without meeting a
pair that is in progress, the node conforms to it on its own. Every issue of a predicate comes from
a moment at which the predicate was asked about the node to which the path of the issue leads. -/
theorem predicate_sees_accepted {store : Store} {shape : Shape} (hfree : store.CustomFree shape)
    (value : Json) (o : Options) :
    (∀ m refuses k next,
      Steps Shape.plan (start .watched shape (.root value) o ⟨.fresh, store, []⟩) m →
      m.plan = .test refuses k next →
        (Node.root value).Below k ∧
        ∃ s underlying name, store.Reaches shape s ∧
          s.kind = .constraint underlying name refuses ∧
          ⟨s.id, k.position⟩ ∈ m.run.guard.inProgress ∧
          (answer store m.run.guard underlying k o).isAccepted = true ∧
          ((∀ m' e, Steps Shape.plan (start .watched underlying k o ⟨m.run.guard, store, []⟩) m' →
              m'.meets? = some e → e ∉ m.run.guard.inProgress) →
            (underlying.validate store k.value o).1.isAccepted = true)) ∧
    (∀ e ∈ (shape.validate store value o).1.issues, e.code = "constraint" →
      ∃ m refuses k next,
        Steps Shape.plan (start .watched shape (.root value) o ⟨.fresh, store, []⟩) m ∧
        m.plan = .test refuses k next ∧ refuses k.value = some e.message ∧
        k.position.trail = e.path.segments.reverse) := by
  constructor
  · intro m refuses k next hm hplan
    have hcourse := Machine.onCourse_of_steps hfree hm
    have hwithin := (Machine.plain_of_steps hfree rfl hm).1
    rw [hplan] at hcourse
    have hbelow := hwithin.plan
    rw [hplan] at hbelow
    -- The call at the start asks no predicate, so a check in progress does.
    have hbase : ¬ComesTo (replies store m.run.guard) (.call .watched shape (.root value) o .done)
        (.test refuses k next) := by
      intro h
      rcases h.eq_or_advance with heq | ⟨p, hp, h⟩
      · cases heq
      · cases hp
        cases ComesTo.eq_of_done h
    obtain ⟨s, underlying, name, hs, hk, hopen, haccepted⟩ := hcourse.test hfree hbase
    refine ⟨hbelow.1, s, underlying, name, hs, hk, hopen, haccepted, fun hmeets => ?_⟩
    have hunderlying : store.CustomFree underlying :=
      (hfree.of_reaches hs).part (by simp [hk, Kind.parts])
    apply Shape.validate_accepted_of_answer hunderlying _ haccepted
    intro e he
    obtain ⟨m', hm', hmeet⟩ := Machine.steps_of_meets he hunderlying .done [] []
    exact hmeets m' e hm' hmeet
  · intro e he hcode
    obtain ⟨m, hm, refuses, k, next, hplan, hreason, htrail⟩ :=
      Machine.applies_of_issue o .fresh shape (.root value) hfree e he hcode .done [] []
    exact ⟨m, refuses, k, next, hm, hplan, hreason, htrail.trans (List.append_nil _)⟩

theorem predicate_sees_accepted_short :
    let short : Shape := .mk 1 (.guarded (.mk 0 .string) "short" (Predicate.atMost 3).holds)
    let value : Json := .string "long"
    (short.validate .empty value .collectAll).1.issues =
        [⟨.root, "Failed constraint check for short", "constraint"⟩] ∧
      ∃ m refuses next,
        Steps Shape.plan (start .watched short (.root value) .collectAll ⟨.fresh, .empty, []⟩) m ∧
        m.plan = .test refuses (.root value) next ∧
        ((Shape.mk 0 .string).validate .empty value .collectAll).1.isAccepted = true := by
  intro short value
  have hstring : Store.empty.CustomFree (.mk 0 .string) :=
    .of_parts rfl (fun _ _ hk => by cases hk) fun t ht => absurd ht List.not_mem_nil
  have hshort : Store.empty.CustomFree short :=
    .of_parts rfl (fun _ _ hk => by cases hk) (List.forall_mem_singleton.2 hstring)
  obtain ⟨hsees, happlies⟩ := predicate_sees_accepted hshort value .collectAll
  have hissues : (short.validate .empty value .collectAll).1.issues =
      [⟨.root, "Failed constraint check for short", "constraint"⟩] :=
    Shape.issues_validate 20 (by decide)
  have hmoment : ∃ m refuses next, Steps Shape.plan
      (start .watched short (.root value) .collectAll ⟨.fresh, .empty, []⟩) m ∧
      m.plan = .test refuses (.root value) next ∧ m.run.guard = ⟨[⟨1, .root⟩], 0⟩ :=
    ⟨_, _, _, .head rfl (.head rfl (.head rfl .refl)), rfl, rfl⟩
  obtain ⟨m, refuses, next, hm, hplan, hguard⟩ := hmoment
  obtain ⟨-, s, underlying, name, hs, hk, -, -, hown⟩ := hsees m refuses (.root value) next hm hplan
  have hmem : s ∈ [short, .mk 0 .string] := by
    apply hs.mem _ (fun _ hentry => absurd hentry List.not_mem_nil) List.mem_cons_self
    refine List.forall_mem_cons.2 ⟨fun t ht => ?_, List.forall_mem_singleton.2 fun t ht => ?_⟩
    · exact List.mem_cons_of_mem _ ht
    · cases ht
  have hunderlying : underlying = .mk 0 .string := by
    simp only [List.mem_cons, List.not_mem_nil, or_false] at hmem
    rcases hmem with rfl | rfl <;> cases hk
    rfl
  subst hunderlying
  refine ⟨hissues, m, refuses, next, hm, hplan, hown fun m' e hm' hmeet => ?_⟩
  -- The check of the string meets its own pair and no other.
  rw [hguard] at hm' ⊢
  rcases Machine.steps_cases rfl hm' with rfl | hm'
  · cases hmeet
    decide
  rcases Machine.steps_cases rfl hm' with rfl | hm'
  · cases hmeet
  rcases Relation.ReflTransGen.cases_head hm' with rfl | ⟨_, hstop, _⟩
  · cases hmeet
  · cases hstop

/-- The guard accepts a shape that is met again, so a predicate can be asked about a node that does
not conform to the underlying shape, and its issue is reported for this node. -/
theorem predicate_sees_unaccepted :
    let value : Json := .number (.integer 5)
    (∃ m refuses next,
      Steps Shape.plan (start .watched echoing (.root value) .firstFailure ⟨.fresh, echoes, []⟩) m ∧
      m.plan = .test refuses (.root value) next ∧ echoes.Reaches echoing echoed ∧
      echoed.kind = .constraint echo (some "N") refuses) ∧
    (echo.validate echoes value .firstFailure).1.isAccepted = false ∧
    (echoing.validate echoes value .firstFailure).1.issues =
      [⟨.root, "Failed constraint check for N", "constraint"⟩] := by
  intro value
  have hissues : (echo.validate echoes value .firstFailure).1.issues =
      [⟨.root, "Failed constraint check for N", "constraint"⟩] :=
    Shape.issues_validate 20 (by decide)
  have hmoment : ∃ m refuses next, Steps Shape.plan
      (start .watched echoing (.root value) .firstFailure ⟨.fresh, echoes, []⟩) m ∧
      m.plan = .test refuses (.root value) next ∧ echoed.kind = .constraint echo (some "N") refuses :=
    ⟨_, _, _, .head rfl (.head rfl (.head rfl (.head rfl (.head rfl (.head rfl (.head rfl (.head rfl
      .refl))))))), rfl, rfl⟩
  obtain ⟨m, refuses, next, hm, hplan, hkind⟩ := hmoment
  have hpart : echoed ∈ echoing.kind.parts := List.mem_cons_self
  refine ⟨⟨m, refuses, next, hm, hplan, Store.Reaches.self.part hpart, hkind⟩, ?_,
    Shape.issues_validate 20 (by decide)⟩
  rw [Bool.eq_false_iff]
  intro haccepted
  rw [Outcome.isAccepted_iff, hissues] at haccepted
  cases haccepted

end Check

end ShapeCheck
