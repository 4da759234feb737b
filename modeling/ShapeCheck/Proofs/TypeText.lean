import ShapeCheck.Proofs.BasicShapes

namespace ShapeCheck

/-- What the texts of arrays, tuples, unions and intersections are put together of. -/
inductive Sign
  | boolean
  | number
  | string
  | readonly
  | opening
  | closing
  | bracket
  | endBracket
  | comma
  | bar
  | ampersand

namespace Sign

def text : Sign → String
  | .boolean => "boolean"
  | .number => "number"
  | .string => "string"
  | .readonly => "readonly "
  | .opening => "("
  | .closing => ")"
  | .bracket => "["
  | .endBracket => "]"
  | .comma => ", "
  | .bar => " | "
  | .ampersand => " & "

def spell (signs : List Sign) : List Char := signs.flatMap (·.text.toList)

theorem text_ne_nil (a : Sign) : a.text.toList ≠ [] := by
  cases a <;> simp [text]

/-- The signs are a prefix-free code. -/
theorem eq_of_begins {a b : Sign} (h : a.text.toList <+: b.text.toList) : a = b := by
  cases a <;> cases b <;> first | rfl | simp [text] at h

theorem spell_injective {as bs : List Sign} (h : spell as = spell bs) : as = bs := by
  induction as generalizing bs with
  | nil =>
    cases bs with
    | nil => rfl
    | cons b bs => exact absurd (List.append_eq_nil_iff.1 h.symm).1 b.text_ne_nil
  | cons a as ih =>
    cases bs with
    | nil => exact absurd (List.append_eq_nil_iff.1 h).1 a.text_ne_nil
    | cons b bs =>
      have heq : a.text.toList ++ spell as = b.text.toList ++ spell bs := h
      have hab : a = b := by
        have hbegins : a.text.toList <+: b.text.toList ++ spell bs := ⟨spell as, heq⟩
        rcases List.prefix_or_prefix_of_prefix hbegins (List.prefix_append _ (spell bs)) with h | h
        · exact eq_of_begins h
        · exact (eq_of_begins h).symm
      rw [hab] at heq ⊢
      rw [ih (List.append_cancel_left heq)]

end Sign

mutual

def Shape.signs : Shape → List Sign
  | .mk _ kind => kind.signs

def Kind.signs : Kind → List Sign
  | .boolean => [.boolean]
  | .number => [.number]
  | .string => [.string]
  | .array element isReadonly =>
    (if isReadonly then [.readonly] else []) ++
      (if element.kind.needsParens then .opening :: element.signs ++ [.closing]
      else element.signs) ++ [.bracket, .endBracket]
  | .tuple elements => .bracket :: signsAll .comma elements ++ [.endBracket]
  | .union alternatives => signsAll .bar alternatives
  | .intersect members => signsAll .ampersand members
  | _ => []

def signsAll (separator : Sign) : List Shape → List Sign
  | [] => []
  | [s] => s.signs
  | s :: rest => s.signs ++ separator :: signsAll separator rest

end

theorem signsAll_cons (separator : Sign) (s t : Shape) (rest : List Shape) :
    signsAll separator (s :: t :: rest) =
      s.signs ++ separator :: signsAll separator (t :: rest) := by
  rw [signsAll]
  exact nofun

open Sign (spell)

theorem spell_signsAll (separator : Sign) (out : String) {shapes : List Shape}
    (h : ∀ s ∈ shapes, s.text.toList = spell s.signs) :
    (writeAll separator.text out shapes).toList =
      out.toList ++ spell (signsAll separator shapes) := by
  induction shapes generalizing out with
  | nil => simp [writeAll, signsAll, spell]
  | cons s rest ih =>
    have hs : s.text.toList = spell s.signs := h s List.mem_cons_self
    cases rest with
    | nil => rw [writeAll, Shape.write_eq, String.toList_append, hs, signsAll]
    | cons t rest =>
      have hrest := ih (s.write out ++ separator.text) fun u hu => h u (List.mem_cons_of_mem s hu)
      have hwrite : writeAll separator.text out (s :: t :: rest) =
          writeAll separator.text (s.write out ++ separator.text) (t :: rest) := by
        rw [writeAll]
        exact nofun
      rw [hwrite, hrest, Shape.write_eq, signsAll_cons]
      simp [hs, spell]

theorem Shape.Basic.text_eq {s : Shape} (h : s.Basic) : s.text.toList = spell s.signs := by
  induction h with
  | boolean i => simp [text, write, Kind.write, signs, Kind.signs, spell, Sign.text]
  | number i => simp [text, write, Kind.write, signs, Kind.signs, spell, Sign.text]
  | string i => simp [text, write, Kind.write, signs, Kind.signs, spell, Sign.text]
  | @array i element isReadonly h ih =>
    rw [text, write, Kind.write, signs, Kind.signs]
    cases isReadonly <;> cases element.kind.needsParens <;>
      simp [write_eq _ element, ih, spell, Sign.text]
  | @tuple i elements h ih =>
    have hall := spell_signsAll .comma ("" ++ "[") ih
    rw [text, write, Kind.write, signs, Kind.signs, String.toList_append]
    change (writeAll ", " ("" ++ "[") elements).toList = _ at hall
    rw [hall]
    simp [spell, Sign.text]
  | @union i alternatives hlength h ih =>
    have hnonempty : alternatives ≠ [] := List.ne_nil_of_length_pos (Nat.zero_lt_of_lt hlength)
    have hall := spell_signsAll .bar "" ih
    rw [text, write, Kind.write, signs, Kind.signs]
    · exact hall
    · exact hnonempty
  | @intersect i members hlength h ih =>
    have hnonempty : members ≠ [] := List.ne_nil_of_length_pos (Nat.zero_lt_of_lt hlength)
    have hall := spell_signsAll .ampersand "" ih
    rw [text, write, Kind.write, signs, Kind.signs]
    · exact hall
    · exact hnonempty

end ShapeCheck
