import ShapeCheck.Shape.Basic
import ShapeCheck.Node

namespace ShapeCheck

structure Entry where
  shape : Identity
  position : Position
  deriving DecidableEq

/-- Equality of entries, the cheap parts first. -/
@[inline] def Entry.same (a b : Entry) : Bool :=
  a.shape == b.shape && a.position.depth == b.position.depth &&
    a.position.trail == b.position.trail

theorem Entry.same_iff {a b : Entry} : a.same b ↔ a = b := by
  obtain ⟨i, p⟩ := a
  obtain ⟨j, q⟩ := b
  simp only [same, Bool.and_eq_true, beq_iff_eq, Entry.mk.injEq]
  constructor
  · intro hparts
    obtain ⟨⟨hi, _⟩, ht⟩ := hparts
    exact ⟨hi, Position.ext_trail ht⟩
  · intro hparts
    obtain ⟨hi, rfl⟩ := hparts
    exact ⟨⟨hi, rfl⟩, rfl⟩

def Entry.isIn (e : Entry) : List Entry → Bool
  | [] => false
  | a :: rest => a.same e || e.isIn rest

theorem Entry.isIn_iff {e : Entry} {l : List Entry} : e.isIn l ↔ e ∈ l := by
  induction l with
  | nil => simp [isIn]
  | cons a rest ih => simp [isIn, same_iff, ih, @eq_comm _ a e]

/-- Which shapes are being checked on which nodes, and how many references are open. -/
@[ext] structure Guard where
  inProgress : List Entry
  referenceDepth : Nat
  deriving DecidableEq

namespace Guard

def fresh : Guard := ⟨[], 0⟩

def isIdle (g : Guard) : Bool := g.inProgress.isEmpty

def enter (g : Guard) (e : Entry) : Guard := { g with inProgress := e :: g.inProgress }

def leave (g : Guard) (e : Entry) : Guard := { g with inProgress := g.inProgress.erase e }

def descend (g : Guard) : Guard := { g with referenceDepth := g.referenceDepth + 1 }

def ascend (g : Guard) : Guard := { g with referenceDepth := g.referenceDepth - 1 }

theorem leave_enter (g : Guard) (e : Entry) : (g.enter e).leave e = g := by
  simp [leave, enter]

theorem ascend_descend (g : Guard) : g.descend.ascend = g := rfl

end Guard

end ShapeCheck
