import ShapeCheck.Proofs.Ordered
import ShapeCheck.Proofs.Relocation

namespace ShapeCheck

namespace Json

def child? (v : Json) : Segment → Option Json
  | .field name => v.field? name
  | .index i => v.item? i

/-- The part to which the steps lead: into items that an array has, and to keys that an object has.
-/
def at? (v : Json) : List Segment → Option Json
  | [] => some v
  | s :: rest => (v.child? s).bind (·.at? rest)

theorem at?_cons {v c : Json} {s : Segment} (hc : v.child? s = some c) (rest : List Segment) :
    v.at? (s :: rest) = c.at? rest := by
  rw [at?, hc, Option.bind_some]

theorem child?_of_isChild {n : Node} (hn : n.value.IsOrdered) {s : Segment} {v : Json}
    (h : n.IsChild (n.down s v)) : n.value.child? s = some v := by
  unfold Node.IsChild at h
  split at h
  · rename_i items hvalue
    obtain ⟨i, v', hv, hdown⟩ := h
    cases hdown
    rw [hvalue]
    exact hv
  · rename_i members hvalue
    obtain ⟨key, v', hv, hdown⟩ := h
    cases hdown
    rw [hvalue] at hn ⊢
    exact lookup_of_mem (isOrdered_object.1 hn).1 hv
  · exact h.elim

end Json

namespace Issue

/-- A missing field is one that the object at the parent of the path lacks. All other issues are
about a part that is there, and what the message says of this part is so. -/
def Truthful (v : Json) (e : Issue) : Prop :=
  if e.code = "missing_field" then
    ∃ parent name members, e.path.parent? = some parent ∧ e.path.last? = some (.field name) ∧
      v.at? parent.segments = some (.object members) ∧ members.lookup name = none
  else
    ∃ part, v.at? e.path.segments = some part ∧
      (e.code ∈ mismatchCodes → ∃ start, e.message = start ++ (", but was " ++ part.kindName)) ∧
      (e.code = "tuple_length" → ∃ items start, part = .array items ∧
        e.message = start ++ (", but was " ++ toString items.length))

theorem Truthful.under {v c : Json} {s : Segment} {e : Issue} (h : e.Truthful c)
    (hc : v.child? s = some c) : (e.under s).Truthful v := by
  unfold Truthful at h ⊢
  rw [code_under, message_under, path_under]
  split at h
  · rename_i hcode
    obtain ⟨parent, name, members, hparent, hlast, hat, hlack⟩ := h
    rw [if_pos hcode]
    have hroot : e.path.isRoot = false := by
      by_contra hne
      rw [Path.parent?, if_pos (by simpa using hne)] at hparent
      cases hparent
    have hsegments : e.path.segments ≠ [] := by simpa [Path.isRoot] using hroot
    have hunder : (e.path.under s).parent? = some (parent.under s) := by
      simp only [Path.parent?, hroot, Bool.false_eq_true, if_false, Option.some.injEq] at hparent
      simp [Path.parent?, Path.isRoot, ← hparent, Path.under,
        List.dropLast_cons_of_ne_nil hsegments]
    refine ⟨parent.under s, name, members, hunder, ?_, ?_, hlack⟩
    · rw [← hlast, Path.last?, Path.last?, Path.segments_under,
        List.getLast?_cons_of_ne_nil hsegments]
    · rw [Path.segments_under, Json.at?_cons hc]
      exact hat
  · rename_i hcode
    rw [if_neg hcode, Path.segments_under, Json.at?_cons hc]
    exact h

theorem truthful_atRoot {v : Json} {message code : String} (hcode : code ≠ "missing_field")
    (hkind : code ∈ mismatchCodes → ∃ start, message = start ++ (", but was " ++ v.kindName))
    (hlength : code = "tuple_length" → ∃ items start, v = .array items ∧
      message = start ++ (", but was " ++ toString items.length)) :
    (atRoot message code).Truthful v := by
  have hother : (atRoot message code).code ≠ "missing_field" := hcode
  rw [Truthful, if_neg hother]
  exact ⟨v, rfl, hkind, hlength⟩

theorem truthful_missingField {v : Json} {members : List (String × Json)} {name : String}
    (hv : v = .object members) (hlack : members.lookup name = none) (s : Shape) :
    (Plan.missingField (.field name) s).Truthful v := by
  have hcode : (Plan.missingField (.field name) s).code = "missing_field" := rfl
  rw [Truthful, if_pos hcode]
  refine ⟨.root, name, members, rfl, rfl, ?_, hlack⟩
  rw [hv]
  rfl

end Issue

namespace Plan

open Issue (Truthful)

theorem mem_reported {failFast : Bool} {found : List (List Issue)} {e : Issue}
    (h : e ∈ reported failFast found) : ∃ is ∈ found, e ∈ is := by
  induction found with
  | nil => cases h
  | cons is rest ih =>
    rcases mem_reported_cons h with h | ⟨-, h⟩
    · exact ⟨is, List.mem_cons_self, h⟩
    · obtain ⟨is', his', he⟩ := ih h
      exact ⟨is', List.mem_cons_of_mem _ his', he⟩

variable {w : Replies} {o : Options} {s : Shape} {n : Node}

/-- All issues that a plan reports tell the truth about the node. -/
def Honest (w : Replies) (n : Node) (plan : Plan) : Prop :=
  ∀ e ∈ (plan.outcome w).issues, e.Truthful n.value

theorem honest_accepted : Honest w n (.done (.accepted n)) := by
  intro e he
  cases he

theorem honest_refuse {message code : String} (h : (Issue.atRoot message code).Truthful n.value) :
    Honest w n (.refuse message code) := by
  intro e he
  rw [List.mem_singleton.1 he]
  exact h

theorem honest_mismatch (expected : String) {code : String} (hcode : code ∈ Issue.mismatchCodes) :
    Honest w n (.mismatch expected n code) := by
  apply honest_refuse
  have hother : code ≠ "missing_field" ∧ code ≠ "tuple_length" := by
    constructor <;> rintro rfl <;> exact absurd hcode (by decide)
  refine Issue.truthful_atRoot hother.1 (fun _ => ⟨"Expected " ++ expected, ?_⟩) fun h =>
    absurd h hother.2
  rw [String.append_assoc]

theorem honest_other (message : String) {code : String}
    (hcode : code ∉ "missing_field" :: "tuple_length" :: Issue.mismatchCodes) :
    Honest w n (.refuse message code) := by
  simp only [List.mem_cons, not_or] at hcode
  exact honest_refuse (Issue.truthful_atRoot hcode.1 (fun h => absurd h hcode.2.2)
    fun h => absurd h hcode.2.1)

theorem honest_gather {demands : List Demand} (hn : n.value.IsOrdered)
    (hd : ∀ d ∈ demands, d.Inward s.kind n)
    (hcalls : ∀ t ∈ s.kind.parts, ∀ k, Near n k →
      ∀ e ∈ (w.inside t k o).issues, e.Truthful k.value) :
    Honest w n (.gather o demands (.settle n)) := by
  intro e he
  rw [outcome_gather, settle, outcome, Outcome.issues_ofIssues] at he
  obtain ⟨is, his, he⟩ := mem_reported he
  obtain ⟨d, hmem, rfl⟩ := List.mem_map.1 his
  have hinward := hd d hmem
  cases d with
  | conforms place t c =>
    obtain ⟨ht, hchild, v, rfl⟩ := hinward
    obtain ⟨e', he', rfl⟩ := List.mem_map.1 he
    exact (hcalls t ht _ (Or.inr hchild) e' he').under (Json.child?_of_isChild hn hchild)
  | missing place t =>
    obtain ⟨name, members, rfl, hvalue, hlack⟩ := hinward
    rw [List.mem_singleton.1 he]
    exact Issue.truthful_missingField hvalue hlack t

theorem honest_gatherMembers {members : List Shape}
    (hcalls : ∀ t ∈ members, ∀ e ∈ (w.inside t n o).issues, e.Truthful n.value) :
    Honest w n (.gatherMembers o n members (.settle n)) := by
  intro e he
  rw [outcome_gatherMembers, settle, outcome, Outcome.issues_ofIssues] at he
  obtain ⟨is, his, he⟩ := mem_reported he
  obtain ⟨t, ht, rfl⟩ := List.mem_map.1 his
  exact hcalls t ht e he

theorem honest_firstAccepting {alternatives : List Shape} :
    Honest w n (.firstAccepting o n s alternatives) := by
  intro e he
  rw [outcome_firstAccepting] at he
  split at he
  · cases he
  · exact honest_mismatch _ (by decide) e he

theorem honest_constraint {underlying : Shape} {refuses : Json → Option String}
    (hcall : ∀ e ∈ (w.inside underlying n o).issues, e.Truthful n.value) :
    Honest w n (.call .watched underlying n o (.narrow refuses n)) := by
  intro e he
  rw [issues_constraint] at he
  split at he
  · obtain ⟨message, -, rfl⟩ := List.mem_map.1 he
    exact honest_other (w := w) message (by decide) _ List.mem_cons_self
  · exact hcall e he

theorem honest_resolve {name : String} {registry : RegistryId}
    (hcalls : ∀ t, w.store.find registry name = .found t →
      ∀ e ∈ (w.beyond t n o).issues, e.Truthful n.value) :
    Honest w n (.resolve o n name registry) := by
  by_cases hlimit : o.depthLimit ≤ w.depth
  · unfold Honest
    rw [resolve, outcome, if_pos hlimit]
    exact honest_other (w := w) _ (by decide)
  · unfold Honest
    rw [outcome_resolve _ _ _ _ _ (Nat.lt_of_not_le hlimit)]
    cases hfind : w.store.find registry name with
    | dropped => exact honest_other (w := w) _ (by decide)
    | missing => exact honest_other (w := w) _ (by decide)
    | found t => exact hcalls t hfind

end Plan

open Plan in
theorem Shape.plan_honest {w : Replies} {o : Options} {s : Shape} {n : Node}
    (hplain : s.kind.isCustom = false) (hn : n.value.IsOrdered)
    (hparts : ∀ t ∈ s.kind.parts, ∀ k, Near n k →
      ∀ e ∈ (w.inside t k o).issues, e.Truthful k.value)
    (htarget : ∀ name registry t, s.kind = .reference name registry →
      w.store.find registry name = .found t →
        ∀ e ∈ (w.beyond t n o).issues, e.Truthful n.value) :
    Honest w n (s.plan n o) := by
  have hhere : ∀ t ∈ s.kind.parts, ∀ e ∈ (w.inside t n o).issues, e.Truthful n.value :=
    fun t ht => hparts t ht n (Or.inl rfl)
  cases hd : s.kind.demands? n with
  | some demands =>
    rw [plan_of_demands hd]
    exact honest_gather hn (Kind.inward_of_demands hd) hparts
  | none =>
    have hshallow := shallow_plan hplain hd
    generalize s.plan n = plan at hshallow ⊢
    cases hshallow with
    | accept => exact honest_accepted
    | mismatch expected hcode => exact honest_mismatch expected hcode
    | literal message => exact honest_other message (by decide)
    | length start hvalue =>
      apply honest_refuse
      refine Issue.truthful_atRoot (by decide) (fun h => absurd h (by decide)) fun _ => ?_
      exact ⟨_, start, hvalue, String.append_assoc⟩
    | union alternatives hk => exact honest_firstAccepting
    | intersect members hk => exact honest_gatherMembers fun t ht => hhere t (by rwa [hk])
    | optional inner hk => exact hhere inner (by simp [hk, Kind.parts])
    | constraint underlying name refuses hk =>
      exact honest_constraint (hhere underlying (by simp [hk, Kind.parts]))
    | reference name registry hk => exact honest_resolve (htarget name registry · hk)

namespace Check

theorem issues_answer_truthful {store : Store} (o : Options) (g : Guard) (s : Shape) (n : Node) :
    store.CustomFree s → n.value.IsOrdered →
      ∀ e ∈ (answer store g s n o).issues, e.Truthful n.value := by
  apply answer_induction store (P := fun g s n => store.CustomFree s → n.value.IsOrdered →
    ∀ e ∈ (answer store g s n o).issues, e.Truthful n.value)
  · intro g s n hopen _ _ e he
    rw [answer_open hopen] at he
    cases he
  · intro g s n hnew hparts htarget hfree hn
    rw [answer_new hfree hnew]
    apply Shape.plan_honest (hfree s .self) hn
    · intro t ht k hk
      apply hparts t ht k hk (hfree.part ht)
      rcases hk with rfl | hk
      · exact hn
      · exact hn.child hk
    · exact fun name registry t hk ht => htarget name registry t hk ht (hfree.target hk ht) hn

end Check

namespace Shape

/-- Every issue of a validation tells the truth about the value. -/
theorem issues_truthful {store : Store} {shape : Shape} {value : Json} {o : Options}
    (hfree : store.CustomFree shape) (hvalue : value.IsOrdered) :
    ∀ e ∈ (shape.validate store value o).1.issues, e.Truthful value :=
  Check.issues_answer_truthful o .fresh shape (.root value) hfree hvalue

theorem issues_truthful_rows :
    let rows : Shape := .mk 2 (.array (.mk 1 (.record [("size", .mk 0 .number)] false)) false)
    let value : Json := .array [.object [("size", .null)], .object []]
    let wrong : Issue :=
      ⟨⟨[.index 0, .field "size"]⟩, "Expected number, but was null", "invalid_type"⟩
    let missing : Issue :=
      ⟨⟨[.index 1, .field "size"]⟩, "Expected number, but was missing", "missing_field"⟩
    (rows.validate .empty value .collectAll).1.issues = [wrong, missing] ∧
      wrong.Truthful value ∧ missing.Truthful value := by
  intro rows value wrong missing
  have hnumber : Store.empty.CustomFree (.mk 0 .number) :=
    .of_parts rfl (fun _ _ hk => by cases hk) fun t ht => absurd ht List.not_mem_nil
  have hrow : Store.empty.CustomFree (.mk 1 (.record [("size", .mk 0 .number)] false)) :=
    .of_parts rfl (fun _ _ hk => by cases hk) (List.forall_mem_singleton.2 hnumber)
  have hrows : Store.empty.CustomFree rows :=
    .of_parts rfl (fun _ _ hk => by cases hk) (List.forall_mem_singleton.2 hrow)
  have hissues : (rows.validate .empty value .collectAll).1.issues = [wrong, missing] :=
    issues_validate 20 (by decide)
  have htruthful := @issues_truthful .empty rows value .collectAll hrows (by decide)
  rw [hissues] at htruthful
  exact ⟨hissues, htruthful wrong (by simp), htruthful missing (by simp)⟩

end Shape

end ShapeCheck
