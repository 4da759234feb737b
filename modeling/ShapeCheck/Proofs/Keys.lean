import Mathlib.Logic.Basic
import ShapeCheck.Failure

namespace ShapeCheck

namespace Segment

/-- Decimal digits in brackets, as in the text of an index. A numeral that no index is written as,
such as `[007]`, is among them. -/
def IsBracketedNumeral (cs : List Char) : Prop :=
  ∃ digits : List Char, cs = '[' :: digits ++ [']'] ∧ digits ≠ [] ∧ digits.all Char.isDigit = true

def inner (cs : List Char) : List Char := cs.tail.dropLast

theorem inner_bracketed (digits : List Char) : inner ('[' :: digits ++ [']']) = digits :=
  List.dropLast_concat

theorem isBracketedNumeral_iff {cs : List Char} : IsBracketedNumeral cs ↔
    cs = '[' :: inner cs ++ [']'] ∧ inner cs ≠ [] ∧ (inner cs).all Char.isDigit = true := by
  constructor
  · rintro ⟨digits, rfl, hdigits⟩
    rw [inner_bracketed]
    exact ⟨rfl, hdigits⟩
  · intro h
    exact ⟨inner cs, h⟩

instance : DecidablePred IsBracketedNumeral := fun _ => decidable_of_iff' _ isBracketedNumeral_iff

/-- A name without a dot that does not look like an index; an index always. -/
def Legible : Segment → Prop
  | .field name => '.' ∉ name.toList ∧ ¬IsBracketedNumeral name.toList
  | .index _ => True

instance : DecidablePred Legible
  | .field name => inferInstanceAs (Decidable ('.' ∉ name.toList ∧ ¬IsBracketedNumeral name.toList))
  | .index _ => .isTrue trivial

def ofText (cs : List Char) : Segment :=
  if IsBracketedNumeral cs then .index (Nat.ofDigitChars 10 (inner cs) 0)
  else .field (String.ofList cs)

theorem toList_text_index (position : Nat) :
    (index position).text.toList = '[' :: Nat.toDigits 10 position ++ [']'] := by
  simp [text]

theorem isBracketedNumeral_text_index (position : Nat) :
    IsBracketedNumeral (index position).text.toList :=
  ⟨_, toList_text_index position, Nat.toDigits_ne_nil,
    List.all_eq_true.2 fun _ => Nat.isDigit_of_mem_toDigits (by decide) (by decide)⟩

theorem Legible.dot_notMem {s : Segment} (h : s.Legible) : '.' ∉ s.text.toList := by
  cases s with
  | field name => exact h.1
  | index position =>
    rw [toList_text_index]
    intro hdot
    have hnumeral : '.' ∈ Nat.toDigits 10 position := by simpa using hdot
    have hdigit : '.'.isDigit = true :=
      Nat.isDigit_of_mem_toDigits (by decide) (by decide) hnumeral
    exact absurd hdigit (by decide)

theorem Legible.ofText_text {s : Segment} (h : s.Legible) : ofText s.text.toList = s := by
  cases s with
  | field name => rw [ofText, text, if_neg h.2, String.ofList_toList]
  | index position =>
    rw [ofText, if_pos (isBracketedNumeral_text_index position), toList_text_index, inner_bracketed,
      Nat.ofDigitChars_ten_toDigits]

end Segment

namespace Path

def Legible (p : Path) : Prop := ∀ s ∈ p.segments, s.Legible

instance : DecidablePred Legible := fun p =>
  inferInstanceAs (Decidable (∀ s ∈ p.segments, s.Legible))

def ofText (text : String) : Path := ⟨(text.toList.splitOn '.').map Segment.ofText⟩

def ofKey : Option String → Path
  | none => root
  | some text => ofText text

theorem isRoot_iff {p : Path} : p.isRoot = true ↔ p = root := by
  rw [isRoot, List.isEmpty_iff, Path.ext_iff]
  rfl

theorem isRoot_under (p : Path) (s : Segment) : (p.under s).isRoot = false := rfl

/-- What stands between the dots are the texts of the segments. The root is left out: its text is
that of a single empty name. -/
theorem Legible.splitOn_text {p : Path} (h : p.Legible) (hroot : p.isRoot = false) :
    p.text.toList.splitOn '.' = p.segments.map fun s => s.text.toList := by
  have hne : p.segments.map (fun s => s.text.toList) ≠ [] := by simpa [isRoot] using hroot
  have hdot : ∀ cs ∈ p.segments.map fun s => s.text.toList, '.' ∉ cs := by
    intro cs hcs
    obtain ⟨s, hs, rfl⟩ := List.mem_map.1 hcs
    exact (h s hs).dot_notMem
  rw [text, String.toList_intercalate, List.map_map]
  exact List.splitOn_intercalate '.' hdot hne

theorem Legible.ofText_text {p : Path} (h : p.Legible) (hroot : p.isRoot = false) :
    ofText p.text = p := by
  have hread : p.segments.map (Segment.ofText ∘ fun s => s.text.toList) = p.segments :=
    (List.map_congr_left fun s hs => (h s hs).ofText_text).trans (List.map_id p.segments)
  rw [ofText, h.splitOn_text hroot, List.map_map, hread]

theorem text_under (p : Path) (s : Segment) :
    (p.under s).text = if p.isRoot then s.text else s.text ++ "." ++ p.text := by
  obtain ⟨segments⟩ := p
  cases segments with
  | nil => exact String.intercalate_singleton
  | cons t rest => exact String.intercalate_cons_cons

theorem foldl_push (p : Path) (steps : List Segment) :
    steps.foldl push p = ⟨p.segments ++ steps⟩ := by
  induction steps generalizing p with
  | nil => rw [List.append_nil, List.foldl_nil]
  | cons s rest ih => rw [List.foldl_cons, ih, segments_push, ← List.append_cons]

theorem foldl_under (p : Path) (steps : List Segment) :
    steps.foldl under p = ⟨steps.reverse ++ p.segments⟩ := by
  induction steps generalizing p with
  | nil => rfl
  | cons s rest ih =>
    rw [List.foldl_cons, ih, segments_under, List.reverse_cons, ← List.append_cons]

theorem foldl_under_eq_foldl_push (p : Path) (steps : List Segment) :
    steps.foldl under p = p.segments.foldl push (steps.reverse.foldl push root) := by
  rw [foldl_under, foldl_push, foldl_push]
  rfl

end Path

namespace Issue

theorem key?_eq_none_iff {i : Issue} : i.key? = none ↔ i.path = .root := by
  rw [key?, ite_eq_left_iff, ← Path.isRoot_iff]
  simp

theorem key?_under (i : Issue) (s : Segment) : (i.under s).key? = some (match i.key? with
    | none => s.text
    | some key => s.text ++ "." ++ key) := by
  rw [key?, key?, path_under, Path.isRoot_under, Path.text_under]
  cases i.path.isRoot <;> rfl

theorem ofKey_key? {i : Issue} (h : i.path.Legible) : Path.ofKey i.key? = i.path := by
  rw [key?]
  cases hroot : i.path.isRoot with
  | true => exact (Path.isRoot_iff.1 hroot).symm
  | false => exact h.ofText_text hroot

theorem foldl_under (i : Issue) (steps : List Segment) :
    steps.foldl under i = { i with path := steps.foldl Path.under i.path } := by
  induction steps generalizing i with
  | nil => rfl
  | cons s rest ih =>
    rw [List.foldl_cons, ih, List.foldl_cons]
    rfl

/-- Keys locate issues: legible paths with the same key are the same, and only the root has none. An
issue seen from further up has the key of the path that leads down to it, and steps put in front of
it, one by one, are pushed from the root in the opposite order. -/
theorem keys_locate :
    (∀ i j : Issue, i.path.Legible → j.path.Legible →
      (i.key? = j.key? ↔ i.path.segments = j.path.segments)) ∧
    (∀ i : Issue, i.key? = none ↔ i.path = .root) ∧
    (∀ (i : Issue) (position : Nat), (i.under (.index position)).key? = some (match i.key? with
      | none => "[" ++ toString position ++ "]"
      | some key => "[" ++ toString position ++ "]." ++ key)) ∧
    (∀ (i : Issue) (name : String), (i.under (.field name)).key? = some (match i.key? with
      | none => name
      | some key => name ++ "." ++ key)) ∧
    ∀ (i : Issue) (steps : List Segment),
      let pushed := i.path.segments.foldl Path.push (steps.reverse.foldl Path.push .root)
      steps.foldl under i = { i with path := pushed } ∧
        (steps.foldl under i).key? = if pushed.isRoot then none else some pushed.text := by
  refine ⟨fun i j hi hj => ⟨fun hkey => ?_, fun hsegments => ?_⟩, fun i => key?_eq_none_iff,
    fun i position => ?_, fun i name => key?_under i (.field name), fun i steps => ?_⟩
  · -- Both paths are read from the one key.
    rw [← ofKey_key? hi, hkey, ofKey_key? hj]
  · rw [key?, key?, Path.ext hsegments]
  · rw [key?_under]
    cases i.key? with
    | none => rfl
    | some key =>
      have hdot : "[" ++ toString position ++ "]" ++ "." = "[" ++ toString position ++ "]." :=
        String.append_assoc
      rw [← hdot]
      rfl
  · intro pushed
    have hpushed : steps.foldl under i = { i with path := pushed } := by
      rw [foldl_under, Path.foldl_under_eq_foldl_push]
    refine ⟨hpushed, ?_⟩
    rw [hpushed, key?]

theorem keys_locate_empty_name :
    let i : Issue := .plain ⟨[.index 1, .field "", .field "[]"]⟩ "expected"
    let j : Issue := .plain ⟨[.index 1, .field "[]"]⟩ "expected"
    i.path.Legible ∧ j.path.Legible ∧ i.key? = some "[1]..[]" ∧ j.key? = some "[1].[]" ∧
      (i.key? = j.key? ↔ i.path.segments = j.path.segments) := by
  intro i j
  have hi : i.path.Legible := by decide
  have hj : j.path.Legible := by decide
  exact ⟨hi, hj, by decide, by decide, keys_locate.1 i j hi hj⟩

/-- With a dot in a name, or a name that is written as an index, two paths have one key. -/
example : (plain ⟨[.field "a.b"]⟩ "").key? = (plain ⟨[.field "a", .field "b"]⟩ "").key? ∧
    (plain ⟨[.field "[0]"]⟩ "").key? = (plain ⟨[.index 0]⟩ "").key? := by decide

end Issue

end ShapeCheck
