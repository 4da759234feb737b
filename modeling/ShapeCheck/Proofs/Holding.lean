import ShapeCheck.Session
import Std.Data.HashSet.Lemmas

namespace ShapeCheck

mutual

theorem Shape.mem_holdings {registry : RegistryId} : ∀ (s : Shape) {h : Holdings},
    registry ∈ h.found → registry ∈ (s.holdings h).found
  | .mk id kind, h, hmem => by
    rw [Shape.holdings]
    split
    · exact hmem
    · exact Kind.mem_holdings kind hmem

theorem Kind.mem_holdings {registry : RegistryId} : ∀ (kind : Kind) {h : Holdings},
    registry ∈ h.found → registry ∈ (kind.holdings h).found
  | .array element _, _, hmem => Shape.mem_holdings element hmem
  | .tuple elements, _, hmem => mem_holdingsAll elements hmem
  | .record fields _, _, hmem => mem_holdingsFields fields hmem
  | .dictionary value, _, hmem => Shape.mem_holdings value hmem
  | .union alternatives, _, hmem => mem_holdingsAll alternatives hmem
  | .intersect members, _, hmem => mem_holdingsAll members hmem
  | .optional inner, _, hmem => Shape.mem_holdings inner hmem
  | .constraint underlying _ _, _, hmem => Shape.mem_holdings underlying hmem
  | .custom _ slots _ _, _, hmem => mem_holdingsAll slots (List.mem_append_right _ hmem)
  | .unknown, _, hmem | .never, _, hmem | .boolean, _, hmem | .number, _, hmem | .string, _, hmem
  | .literal _, _, hmem | .reference _ _, _, hmem => hmem

theorem mem_holdingsAll {registry : RegistryId} : ∀ (shapes : List Shape) {h : Holdings},
    registry ∈ h.found → registry ∈ (holdingsAll shapes h).found
  | [], _, hmem => hmem
  | s :: rest, _, hmem => mem_holdingsAll rest (Shape.mem_holdings s hmem)

theorem mem_holdingsFields {registry : RegistryId} : ∀ (fields : List (String × Shape))
    {h : Holdings}, registry ∈ h.found → registry ∈ (holdingsFields fields h).found
  | [], _, hmem => hmem
  | (_, s) :: rest, _, hmem => mem_holdingsFields rest (Shape.mem_holdings s hmem)

end

namespace Store

theorem contains_held {store : Store} {outside : Holdings} {registry : RegistryId}
    (h : registry ∈ outside.found) : (store.held outside).contains registry = true := by
  rw [held, Std.HashSet.contains_ofList, List.contains_iff_mem]
  generalize store.tables = tables
  induction tables generalizing outside with
  | nil => exact h
  | cons entry rest ih => exact ih (mem_holdingsFields entry.2.entries h)

theorem dropUnheld_of_held {store : Store} {outside : Holdings}
    (h : ∀ entry ∈ store.tables, entry.1 ∈ outside.found) (n : Nat) :
    dropUnheld outside n store = store := by
  have hall : store.tables.all ((store.held outside).contains ·.1) = true :=
    List.all_eq_true.2 fun entry hentry => contains_held (h entry hentry)
  cases n with
  | zero => rfl
  | succ n => rw [dropUnheld, if_pos hall]

theorem table?_filter {store : Store} {keep : RegistryId → Bool} {registry : RegistryId}
    (h : keep registry = true) :
    (Store.mk (store.tables.filter (keep ·.1))).table? registry = store.table? registry := by
  simp only [table?]
  induction store.tables with
  | nil => rfl
  | cons entry rest ih =>
    rw [List.filter_cons, List.lookup_cons]
    by_cases hid : registry = entry.1
    · rw [← hid, if_pos h, List.lookup_cons, ← hid, beq_self_eq_true]
    · rw [beq_false_of_ne hid]
      split
      · rw [List.lookup_cons, beq_false_of_ne hid]
        exact ih
      · exact ih

/-- A collection leaves a registry that is held from outside as it is. -/
theorem table?_collect {store : Store} {outside : Holdings} {registry : RegistryId}
    (h : registry ∈ outside.found) :
    (store.collect outside).table? registry = store.table? registry := by
  have hrounds : ∀ (n : Nat) (s : Store), (dropUnheld outside n s).table? registry =
      s.table? registry := by
    intro n
    induction n with
    | zero => exact fun s => rfl
    | succ n ih =>
      intro s
      unfold dropUnheld
      dsimp only
      split
      · rfl
      · rw [ih, table?_filter (contains_held h)]
  exact hrounds store.tables.length store

end Store

theorem Named.mem_put {α : Type} (name : String) (a : α) (things : Named α) :
    (name, a) ∈ put name a things := by
  induction things with
  | nil => exact List.mem_cons_self
  | cons thing rest ih =>
    rw [put]
    split
    · rename_i heq
      rw [heq]
      exact List.mem_cons_self
    · exact List.mem_cons_of_mem _ ih

namespace Session

theorem mem_holdings {s : Session} {handle : String} {registry : RegistryId}
    (h : (handle, registry) ∈ s.handles) : registry ∈ s.holdings.found :=
  mem_holdingsFields s.shapes (List.mem_map_of_mem h)

theorem table?_collect {s : Session} {handle : String} {registry : RegistryId}
    (h : (handle, registry) ∈ s.handles) :
    s.collect.store.table? registry = s.store.table? registry :=
  Store.table?_collect (mem_holdings h)

theorem table?_openRegistry (s : Session) (name : String) :
    (s.openRegistry name).store.table? s.nextRegistry = some .empty := by
  have hcollect := table?_collect (s := { s with
    nextRegistry := s.nextRegistry + 1
    handles := s.handles.put name s.nextRegistry
    store := s.store.add s.nextRegistry }) (Named.mem_put name s.nextRegistry s.handles)
  refine hcollect.trans ?_
  simp [Store.table?, Store.add]

end Session

end ShapeCheck
