import ShapeCheck.Check.Fuel
import ShapeCheck.Check.Termination

namespace ShapeCheck

namespace Check

def realm (store : Store) (shape : Shape) (node : Node) : Realm where
  shapes := shape.family ++ store.family
  places := node.positions
  closed := by
    intro s hs t ht
    rcases List.mem_append.1 hs with hs | hs
    · exact List.mem_append_left _ (Shape.part_mem_family hs ht)
    · exact List.mem_append_right _ (Store.part_mem_family hs ht)
  small := by
    intro s hs
    rw [List.length_append]
    rcases List.mem_append.1 hs with hs | hs
    · exact Nat.le_trans (Shape.size_le_of_mem_family hs) (Nat.le_add_right _ _)
    · exact Nat.le_trans (Store.size_le_of_mem_family hs) (Nat.le_add_left _ _)

/-- More than the depth of calls of any check: each entry is entered once, and the calls between
two entries go to ever smaller shapes. -/
def Realm.fuel (m : Realm) : Nat :=
  (m.places.length * m.shapes.length + 1) * (m.shapes.length + 1)

theorem Realm.depth_lt_fuel (m : Realm) (g : Guard) {n : Nat} (hn : n ≤ m.shapes.length) :
    m.depth g + n < m.fuel := by
  have := pending_le (entries m.shapes m.places) g
  rw [length_entries] at this
  have := Nat.mul_le_mul_right (m.shapes.length + 1) this
  unfold Realm.depth Realm.fuel
  rw [Nat.succ_mul]
  omega

theorem mem_realm (store : Store) (shape : Shape) (node : Node) :
    shape ∈ (realm store shape node).shapes :=
  List.mem_append_left _ shape.mem_family

theorem within_realm (store : Store) (shape : Shape) (node : Node) :
    store.Within (realm store shape node).shapes :=
  store.within_family fun _ ht => List.mem_append_right _ ht

theorem calls_returns (via : Via) (r : Run) (shape : Shape) (node : Node) (options : Options) :
    Returns (realm r.store shape node).shapes r.guard
      (calls (check (realm r.store shape node).fuel) via shape node options r) := by
  have hs := mem_realm r.store shape node
  have hw := within_realm r.store shape node
  have hf := fun g => (realm r.store shape node).depth_lt_fuel g ((realm _ _ _).small shape hs)
  cases via with
  | direct => exact check_returns _ _ hs (fun p hp => hp) hw (hf _)
  | watched =>
    exact guarded_returns hw fun _ r' _ hw' => check_returns _ _ hs (fun p hp => hp) hw' (hf _)

theorem calls_isSome (via : Via) (r : Run) (shape : Shape) (node : Node) (options : Options) :
    ∃ enough, ∀ fuel, enough ≤ fuel → (calls (check fuel) via shape node options r).isSome := by
  refine ⟨(realm r.store shape node).fuel, fun fuel hle => ?_⟩
  obtain ⟨outcome, r', h, _⟩ := calls_returns via r shape node options
  rw [calls_of_le hle h]
  rfl

def run (via : Via) (r : Run) (shape : Shape) (node : Node) (options : Options) : Outcome × Run :=
  firstResult (fun fuel => calls (check fuel) via shape node options r)
    (calls_isSome via r shape node options) 1000000

theorem run_eq_of_calls {fuel : Nat} {via : Via} {r : Run} {shape : Shape} {node : Node}
    {options : Options} {x : Outcome × Run} (h : calls (check fuel) via shape node options r = some x) :
    run via r shape node options = x :=
  firstResult_eq _ (fun hle => calls_of_le hle) h 1000000

theorem calls_eq_run (via : Via) (r : Run) (shape : Shape) (node : Node) (options : Options) :
    calls (check (realm r.store shape node).fuel) via shape node options r =
      some (run via r shape node options) := by
  obtain ⟨outcome, r', h, _⟩ := calls_returns via r shape node options
  rw [h, run_eq_of_calls h]

/-- A check leaves the guard as it was. -/
theorem guard_run (via : Via) (r : Run) (shape : Shape) (node : Node) (options : Options) :
    (run via r shape node options).2.guard = r.guard := by
  obtain ⟨outcome, r', h, hg, _⟩ := calls_returns via r shape node options
  rw [calls_eq_run] at h
  rw [Option.some.inj h]
  exact hg

end Check

namespace Shape

/-- Validates a value under a guard of its own. -/
def validate (shape : Shape) (store : Store) (value : Json) (options : Options) : Outcome × Run :=
  Check.run .watched ⟨.fresh, store, []⟩ shape (.root value) options

theorem issues_validate {shape : Shape} {store : Store} {value : Json} {options : Options}
    {is : List Issue} (fuel : Nat)
    (h : (Check.calls (Check.check fuel) .watched shape (.root value) options
      ⟨.fresh, store, []⟩).map (·.1.issues) = some is) :
    (shape.validate store value options).1.issues = is := by
  obtain ⟨x, hx, his⟩ := Option.map_eq_some_iff.1 h
  rw [validate, Check.run_eq_of_calls hx]
  exact his

/-- Whether a value conforms. Only the verdict counts, so the first failure decides. -/
def conforms (shape : Shape) (store : Store) (value : Json) : Bool × Run :=
  let (outcome, r) := shape.validate store value .firstFailure
  (outcome.isAccepted, r)

end Shape

end ShapeCheck
