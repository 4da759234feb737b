import ShapeCheck.Proofs.Course
import ShapeCheck.Proofs.OpenChecks

namespace ShapeCheck

namespace Event

def registration? : Event → Option (String × String)
  | .registered name tag => some (name, tag)
  | _ => none

def registrations (log : List Event) : List (String × String) :=
  log.reverse.filterMap registration?

theorem registrations_cons (event : Event) (log : List Event) :
    registrations (event :: log) = registrations log ++ (registration? event).toList := by
  rw [registrations, List.reverse_cons, List.filterMap_append]
  cases h : registration? event <;> simp [registrations, h]

theorem registrations_append (late early : List Event) :
    registrations (late ++ early) = registrations early ++ registrations late := by
  rw [registrations, List.reverse_append, List.filterMap_append]
  rfl

end Event

def Script.NeverRegisters : Script → Prop
  | .done _ => True
  | .inspect next => ∀ depth isIdle, (next depth isIdle).NeverRegisters
  | .call _ _ _ _ next => ∀ outcome, (next outcome).NeverRegisters
  | .register .. => False

def Kind.NeverRegisters : Kind → Prop
  | .custom _ _ _ body => ∀ n o, (body n o).NeverRegisters
  | _ => True

/-- No check that starts at the shape comes to a user's check that may register something. -/
def Store.Quiet (store : Store) (s : Shape) : Prop :=
  ∀ t, store.Reaches s t → t.kind.NeverRegisters

namespace Plan

/-- The next step registers nothing and does not say so either. -/
def KeepsQuiet : Plan → Prop
  | .register .. => False
  | .report event _ => event.registration? = none
  | _ => True

theorem keepsQuiet_ofScript {slots : List Shape} {n : Node} {script : Script}
    (h : script.NeverRegisters) : (ofScript slots n script).All KeepsQuiet := by
  induction script with
  | done outcome => trivial
  | inspect next ih => exact ⟨trivial, fun depth isIdle => ih depth isIdle (h depth isIdle)⟩
  | call via slot focus o next ih =>
    unfold ofScript
    split
    · exact ⟨trivial, fun outcome => ih _ (h _)⟩
    · exact ih _ (h _)
  | register registry name slot next => exact h.elim

end Plan

theorem Shape.plan_keepsQuiet {s : Shape} (h : s.kind.NeverRegisters) (n : Node) (o : Options) :
    (s.plan n o).All Plan.KeepsQuiet := by
  cases hplain : s.kind.isCustom with
  | false =>
    exact (s.form_plan hplain n).all o (fun _ => trivial) (fun _ _ _ _ _ => trivial)
      (fun _ _ _ _ => Plan.all_narrow trivial (fun _ => trivial) fun _ => trivial)
      fun _ _ => Plan.all_resolve (fun _ => trivial) (fun _ => trivial) (fun _ => rfl)
        (fun _ => trivial) fun _ _ => trivial
  | true =>
    cases hk : s.kind with
    | custom tag slots registries body =>
      rw [hk] at h
      rw [Shape.plan, hk]
      exact Plan.keepsQuiet_ofScript (h n o)
    | _ => simp [hk, Kind.isCustom] at hplain

structure Run.Unchanged (r r' : Run) : Prop where
  store : r'.store = r.store
  registrations : Event.registrations r'.log = Event.registrations r.log

theorem Run.Unchanged.emit {r r' : Run} (h : r.Unchanged r') {event : Event}
    (hevent : event.registration? = none) : r.Unchanged (r'.emit event) := by
  refine ⟨h.store, ?_⟩
  change Event.registrations (event :: r'.log) = _
  rw [Event.registrations_cons, hevent, h.registrations]
  exact List.append_nil _

namespace Machine

/-- Neither the plan nor what waits for its outcome registers anything. -/
structure Quiet (r : Run) (m : Machine) : Prop where
  plan : m.plan.All Plan.KeepsQuiet
  frames : ∀ f ∈ m.frames, ∀ outcome, (f.next outcome).All Plan.KeepsQuiet
  unchanged : r.Unchanged m.run

variable {r : Run}

theorem Quiet.push {plan plan' : Plan} {r' : Run} {frames : List Frame} {f : Frame}
    (h : Quiet r ⟨plan, r', frames⟩) (g : Guard → Guard)
    (hnext : ∀ outcome, (f.next outcome).All Plan.KeepsQuiet)
    (hplan : plan'.All Plan.KeepsQuiet) : Quiet r ⟨plan', r'.mapGuard g, f :: frames⟩ := by
  refine ⟨hplan, fun f' hf => ?_, h.unchanged.store, h.unchanged.registrations⟩
  rcases List.mem_cons.1 hf with rfl | hf
  · exact hnext
  · exact h.frames f' hf

theorem Quiet.dispatch {plan : Plan} {r' : Run} {frames : List Frame}
    (h : Quiet r ⟨plan, r', frames⟩) {s : Shape} (hs : s.kind.NeverRegisters) (n : Node)
    (o : Options) {next : Outcome → Plan} (hnext : ∀ outcome, (next outcome).All Plan.KeepsQuiet) :
    Quiet r (dispatch Shape.plan s n o next r' frames) := by
  unfold Machine.dispatch
  split
  · exact ⟨hnext _, h.frames, h.unchanged.emit rfl⟩
  · exact h.push _ hnext (s.plan_keepsQuiet hs n o)

theorem quiet_step {scope : Plan.Scope} (hscope : ∀ t, scope.shapes t → t.kind.NeverRegisters)
    {m m' : Machine} (hs : step Shape.plan m = some m') (hin : Within scope m) (h : Quiet r m) :
    Quiet r m' := by
  obtain ⟨plan, r', frames⟩ := m
  have hplan := h.plan
  cases plan with
  | done outcome =>
    cases frames with
    | nil => cases hs
    | cons f frames =>
      cases hs
      exact ⟨h.frames f List.mem_cons_self outcome,
        fun g hg => h.frames g (List.mem_cons_of_mem _ hg), h.unchanged.store,
        h.unchanged.registrations⟩
  | call via s n o next =>
    have hquiet := hscope s hin.plan.1
    cases via with
    | direct =>
      cases hs
      exact h.push id hplan.2 (s.plan_keepsQuiet hquiet n o)
    | watched =>
      cases hs
      exact h.dispatch hquiet n o hplan.2
  | follow t n o next =>
    cases hs
    have hopen : Quiet r ⟨.done (.accepted n), r'.mapGuard .descend, .resolution next :: frames⟩ :=
      h.push .descend hplan.2 trivial
    exact hopen.dispatch (hscope t hin.plan.1) n o fun _ => trivial
  | find registry name next => cases hs; exact ⟨hplan.2 _, h.frames, h.unchanged⟩
  | test refuses n next => cases hs; exact ⟨hplan.2 _, h.frames, h.unchanged⟩
  | ask next => cases hs; exact ⟨hplan.2 _ _, h.frames, h.unchanged⟩
  | report event next => cases hs; exact ⟨hplan.2, h.frames, h.unchanged.emit hplan.1⟩
  | register registry name s next => exact hplan.1.elim

theorem quiet_of_steps {via : Via} {s : Shape} {n : Node} {o : Options} {m : Machine}
    (hquiet : r.store.Quiet s) (h : Steps Shape.plan (start via s n o r) m) : Quiet r m := by
  have hscope : ∀ t, (r.store.scope s n).shapes t → t.kind.NeverRegisters := hquiet
  induction h with
  | refl => exact ⟨⟨trivial, fun _ => trivial⟩, fun _ hf => absurd hf List.not_mem_nil, rfl, rfl⟩
  | tail hsteps hstep ih => exact quiet_step hscope hstep (within_of_steps hsteps) ih

end Machine

/-- A run that comes to no check that registers leaves the registries as they are. -/
theorem Check.unchanged_run (via : Via) {r : Run} {s : Shape} (hquiet : r.store.Quiet s) (n : Node)
    (o : Options) : r.Unchanged (run via r s n o).2 :=
  (Machine.quiet_of_steps hquiet (Machine.steps_run via r s n o)).unchanged

end ShapeCheck
