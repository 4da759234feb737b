import ShapeCheck.Check.Run

namespace ShapeCheck

theorem Plan.exec_of_exec {call call' : Call}
    (h : ∀ via s n o r x, call via s n o r = some x → call' via s n o r = some x)
    {plan : Plan} {r : Run} {x : Outcome × Run} (hx : plan.exec call r = some x) :
    plan.exec call' r = some x := by
  induction plan generalizing r with
  | done _ => exact hx
  | call via s n o next ih =>
    obtain ⟨y, hy, hx⟩ := Option.bind_eq_some_iff.1 hx
    exact Option.bind_eq_some_iff.2 ⟨y, h _ _ _ _ _ _ hy, ih _ hx⟩
  | follow s n o next ih =>
    obtain ⟨y, hy, hx⟩ := Option.bind_eq_some_iff.1 hx
    exact Option.bind_eq_some_iff.2 ⟨y, h _ _ _ _ _ _ hy, ih _ hx⟩
  | find _ _ next ih => exact ih _ hx
  | test _ _ next ih => exact ih _ hx
  | ask next ih => exact ih _ _ hx
  | report _ next ih => exact ih hx
  | register _ _ _ next ih => exact ih _ hx

namespace Check

theorem calls_of_calls {check check' : Shape → Node → Options → Checking Outcome}
    (h : ∀ s n o r x, check s n o r = some x → check' s n o r = some x)
    {via : Via} {s : Shape} {n : Node} {o : Options} {r : Run} {x : Outcome × Run}
    (hx : calls check via s n o r = some x) : calls check' via s n o r = some x := by
  cases via with
  | direct => exact h _ _ _ _ _ hx
  | watched =>
    simp only [calls, guarded] at hx ⊢
    split at hx
    · rename_i hin
      rwa [if_pos hin]
    · rename_i hin
      rw [if_neg hin]
      obtain ⟨y, hy, hx⟩ := Option.bind_eq_some_iff.1 hx
      exact Option.bind_eq_some_iff.2 ⟨y, h _ _ _ _ _ hy, hx⟩

theorem check_of_le {fuel more : Nat} (h : fuel ≤ more) {s : Shape} {n : Node} {o : Options}
    {r : Run} {x : Outcome × Run} (hx : check fuel s n o r = some x) :
    check more s n o r = some x := by
  induction fuel generalizing more s n o r x with
  | zero => cases hx
  | succ fuel ih =>
    obtain ⟨more, rfl⟩ := Nat.exists_eq_add_of_le' (Nat.le_trans (Nat.succ_pos fuel) h)
    exact Plan.exec_of_exec
      (fun _ _ _ _ _ _ => calls_of_calls fun _ _ _ _ _ => ih (Nat.le_of_succ_le_succ h)) hx

theorem calls_of_le {fuel more : Nat} (h : fuel ≤ more) {via : Via} {s : Shape} {n : Node}
    {o : Options} {r : Run} {x : Outcome × Run} (hx : calls (check fuel) via s n o r = some x) :
    calls (check more) via s n o r = some x :=
  calls_of_calls (fun _ _ _ _ _ => check_of_le h) hx

/-- The result of a search with this much fuel, or with more if that is too little. -/
def firstResult {α : Type} (search : Nat → Option α)
    (h : ∃ enough, ∀ fuel, enough ≤ fuel → (search fuel).isSome) (fuel : Nat) : α :=
  match hs : search fuel with
  | some a => a
  | none => firstResult search h (2 * fuel + 1)
-- A quotient and not a difference, so that the kernel never counts down from the fuel one by one.
termination_by (h.choose + 1) / (fuel + 1)
decreasing_by
  have hle : ¬h.choose ≤ fuel := fun hle => by simpa [hs] using h.choose_spec fuel hle
  have hpos : 0 < (h.choose + 1) / (fuel + 1) := Nat.div_pos (by omega) (Nat.succ_pos fuel)
  have hdouble : 2 * fuel + 1 + 1 = (fuel + 1) * 2 := by omega
  rw [hdouble, ← Nat.div_div_eq_div_mul]
  exact Nat.div_lt_self hpos Nat.one_lt_two

theorem firstResult_eq {α : Type} {search : Nat → Option α}
    (h : ∃ enough, ∀ fuel, enough ≤ fuel → (search fuel).isSome)
    (hmono : ∀ {fuel more a}, fuel ≤ more → search fuel = some a → search more = some a)
    {n : Nat} {a : α} (ha : search n = some a) (fuel : Nat) : firstResult search h fuel = a := by
  fun_induction firstResult search h fuel with
  | case1 fuel b hb =>
    have hb' := hmono (Nat.le_max_left fuel n) hb
    rw [hmono (Nat.le_max_right fuel n) ha] at hb'
    exact (Option.some.inj hb').symm
  | case2 _ _ ih => exact ih

end Check

end ShapeCheck
