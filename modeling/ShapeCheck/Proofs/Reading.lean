import ShapeCheck.Proofs.TypeText

namespace ShapeCheck

/-- One level of brackets: what the alternatives that are read accept, any of them, and what the
members of the intersection that is being read accept, all of them. -/
structure Level where
  alternatives : Verdict
  members : Verdict

namespace Level

def empty : Level := ⟨fun _ => false, fun _ => true⟩

def close (l : Level) (last : Verdict) : Verdict :=
  fun v => l.alternatives v || (l.members v && last v)

def nextAlternative (l : Level) (last : Verdict) : Level := ⟨l.close last, fun _ => true⟩

def nextMember (l : Level) (last : Verdict) : Level :=
  { l with members := fun v => l.members v && last v }

end Level

/-- What has been opened: a group, a tuple with the elements so far, or the bracket that makes an
array of its element. -/
inductive Bracket
  | group
  | tuple (before : List Verdict)
  | array (element : Verdict)

structure Reader where
  level : Level
  /-- What was read last; nothing where a type must begin. -/
  last : Option Verdict
  outer : List (Bracket × Level)

namespace Reader

def start : Reader := ⟨.empty, none, []⟩

/-- Reads one sign. What cannot stand there is passed over. -/
def step : Reader → Sign → Reader
  | ⟨l, none, outer⟩, .boolean => ⟨l, some .boolean, outer⟩
  | ⟨l, none, outer⟩, .number => ⟨l, some .number, outer⟩
  | ⟨l, none, outer⟩, .string => ⟨l, some .string, outer⟩
  | ⟨l, none, outer⟩, .opening => ⟨.empty, none, (.group, l) :: outer⟩
  | ⟨l, none, outer⟩, .bracket => ⟨.empty, none, (.tuple [], l) :: outer⟩
  | ⟨_, none, (.tuple before, up) :: outer⟩, .endBracket => ⟨up, some (.tuple before), outer⟩
  | ⟨_, none, (.array m, up) :: outer⟩, .endBracket => ⟨up, some (.array m), outer⟩
  | ⟨l, some m, outer⟩, .bracket => ⟨.empty, none, (.array m, l) :: outer⟩
  | ⟨l, some m, outer⟩, .bar => ⟨l.nextAlternative m, none, outer⟩
  | ⟨l, some m, outer⟩, .ampersand => ⟨l.nextMember m, none, outer⟩
  | ⟨l, some m, (.group, up) :: outer⟩, .closing => ⟨up, some (l.close m), outer⟩
  | ⟨l, some m, (.tuple before, up) :: outer⟩, .comma =>
    ⟨.empty, none, (.tuple (before ++ [l.close m]), up) :: outer⟩
  | ⟨l, some m, (.tuple before, up) :: outer⟩, .endBracket =>
    ⟨up, some (.tuple (before ++ [l.close m])), outer⟩
  | r, _ => r

def read (r : Reader) (signs : List Sign) : Reader := signs.foldl step r

def verdict? (r : Reader) : Option Verdict := r.last.map r.level.close

theorem read_append (r : Reader) (first second : List Sign) :
    r.read (first ++ second) = (r.read first).read second :=
  List.foldl_append

theorem read_cons (r : Reader) (a : Sign) (rest : List Sign) :
    r.read (a :: rest) = (r.step a).read rest := rfl

end Reader

open Reader (read)

namespace Shape

/-- No intersection in the shape has a union for a member. -/
def Legible (s : Shape) : Prop :=
  ∀ t ∈ s.family, ∀ members, t.kind = .intersect members →
    ∀ m ∈ members, ∀ alternatives, m.kind ≠ .union alternatives

theorem Legible.part {s t : Shape} (h : s.Legible) (ht : t ∈ s.kind.parts) : t.Legible :=
  fun u hu => h u (family_subset_of_part ht hu)

variable (store : Store) (o : Options)

/-- The text is read as the shape wherever a type may begin. -/
def ReadsAlone (s : Shape) : Prop :=
  ∀ l outer, read ⟨l, none, outer⟩ s.signs = ⟨l, some (s.accepts store o), outer⟩

def ReadsAsMember (s : Shape) : Prop :=
  ∀ l outer, ∃ members last, read ⟨l, none, outer⟩ s.signs =
    ⟨⟨l.alternatives, members⟩, some last, outer⟩ ∧
      ∀ v, (members v && last v) = (l.members v && s.accepts store o v)

def ReadsAsAlternative (s : Shape) : Prop :=
  ∀ alternatives outer, ∃ l last, read ⟨⟨alternatives, fun _ => true⟩, none, outer⟩ s.signs =
    ⟨l, some last, outer⟩ ∧ ∀ v, l.close last v = (alternatives v || s.accepts store o v)

variable {store o}

theorem ReadsAlone.asMember {s : Shape} (h : s.ReadsAlone store o) : s.ReadsAsMember store o :=
  fun l outer => ⟨l.members, s.accepts store o, h l outer, fun _ => rfl⟩

theorem ReadsAsMember.asAlternative {s : Shape} (h : s.ReadsAsMember store o) :
    s.ReadsAsAlternative store o := by
  intro alternatives outer
  obtain ⟨members, last, hread, haccepts⟩ := h ⟨alternatives, fun _ => true⟩ outer
  refine ⟨⟨alternatives, members⟩, last, hread, fun v => ?_⟩
  rw [Level.close, haccepts, Bool.true_and]

/-- Inside brackets of its own a shape is read as it is. -/
theorem ReadsAsAlternative.inside {s : Shape} (h : s.ReadsAsAlternative store o)
    (outer : List (Bracket × Level)) : ∃ l last, read ⟨.empty, none, outer⟩ s.signs =
      ⟨l, some last, outer⟩ ∧ l.close last = s.accepts store o := by
  obtain ⟨l, last, hread, haccepts⟩ := h (fun _ => false) outer
  exact ⟨l, last, hread, funext fun v => by rw [haccepts, Bool.false_or]⟩

theorem read_alternatives {shapes : List Shape} (hne : shapes ≠ [])
    (h : ∀ s ∈ shapes, s.ReadsAsAlternative store o) (alternatives : Verdict)
    (outer : List (Bracket × Level)) : ∃ l last,
      read ⟨⟨alternatives, fun _ => true⟩, none, outer⟩ (signsAll .bar shapes) =
        ⟨l, some last, outer⟩ ∧
      ∀ v, l.close last v = (alternatives v || shapes.any (accepts store o · v)) := by
  induction shapes generalizing alternatives with
  | nil => exact absurd rfl hne
  | cons s rest ih =>
    obtain ⟨l, last, hread, haccepts⟩ := h s List.mem_cons_self alternatives outer
    cases rest with
    | nil =>
      refine ⟨l, last, by rw [signsAll, hread], fun v => ?_⟩
      rw [haccepts, List.any_cons, List.any_nil, Bool.or_false]
    | cons t rest =>
      obtain ⟨l', last', hread', haccepts'⟩ := ih (List.cons_ne_nil t rest)
        (fun u hu => h u (List.mem_cons_of_mem s hu)) (l.close last)
      refine ⟨l', last', ?_, fun v => ?_⟩
      · rw [signsAll_cons, Reader.read_append, hread]
        exact hread'
      · rw [haccepts', haccepts, Bool.or_assoc]
        rfl

theorem read_members {shapes : List Shape} (hne : shapes ≠ [])
    (h : ∀ s ∈ shapes, s.ReadsAsMember store o) (l : Level) (outer : List (Bracket × Level)) :
    ∃ members last, read ⟨l, none, outer⟩ (signsAll .ampersand shapes) =
        ⟨⟨l.alternatives, members⟩, some last, outer⟩ ∧
      ∀ v, (members v && last v) = (l.members v && shapes.all (accepts store o · v)) := by
  induction shapes generalizing l with
  | nil => exact absurd rfl hne
  | cons s rest ih =>
    obtain ⟨members, last, hread, haccepts⟩ := h s List.mem_cons_self l outer
    cases rest with
    | nil =>
      refine ⟨members, last, by rw [signsAll, hread], fun v => ?_⟩
      rw [haccepts, List.all_cons, List.all_nil, Bool.and_true]
    | cons t rest =>
      obtain ⟨members', last', hread', haccepts'⟩ := ih (List.cons_ne_nil t rest)
        (fun u hu => h u (List.mem_cons_of_mem s hu))
        (Level.nextMember ⟨l.alternatives, members⟩ last)
      refine ⟨members', last', ?_, fun v => ?_⟩
      · rw [signsAll_cons, Reader.read_append, hread]
        exact hread'
      · rw [haccepts']
        change (members v && last v && (t :: rest).all _) = _
        rw [haccepts, Bool.and_assoc]
        rfl

theorem read_elements {shapes : List Shape} (h : ∀ s ∈ shapes, s.ReadsAsAlternative store o)
    (before : List Verdict) (up : Level) (outer : List (Bracket × Level)) :
    read ⟨.empty, none, (.tuple before, up) :: outer⟩ (signsAll .comma shapes ++ [.endBracket]) =
      ⟨up, some (.tuple (before ++ shapes.map (accepts store o))), outer⟩ := by
  induction shapes generalizing before with
  | nil =>
    rw [signsAll, List.map_nil, List.append_nil]
    rfl
  | cons s rest ih =>
    obtain ⟨l, last, hread, haccepts⟩ :=
      (h s List.mem_cons_self).inside ((.tuple before, up) :: outer)
    cases rest with
    | nil =>
      rw [signsAll, Reader.read_append, hread, List.map_cons, List.map_nil, ← haccepts]
      rfl
    | cons t rest =>
      have hrest := ih (fun u hu => h u (List.mem_cons_of_mem s hu)) (before ++ [s.accepts store o])
      rw [signsAll_cons, List.append_assoc, Reader.read_append, hread, List.cons_append,
        Reader.read_cons]
      change read ⟨.empty, none, (.tuple (before ++ [l.close last]), up) :: outer⟩ _ = _
      rw [haccepts, hrest]
      simp

/-- Brackets are put where a text is not read as the shape alone. -/
theorem read_element {s : Shape} (h : s.ReadsAsAlternative store o)
    (halone : s.kind.needsParens = false → s.ReadsAlone store o) (l : Level)
    (outer : List (Bracket × Level)) :
    read ⟨l, none, outer⟩
        (if s.kind.needsParens then .opening :: s.signs ++ [.closing] else s.signs) =
      ⟨l, some (s.accepts store o), outer⟩ := by
  cases hparens : s.kind.needsParens with
  | false => exact halone hparens l outer
  | true =>
    obtain ⟨l', last, hread, haccepts⟩ := h.inside ((.group, l) :: outer)
    rw [if_pos rfl, List.cons_append, Reader.read_cons, Reader.read_append]
    change (read ⟨.empty, none, (.group, l) :: outer⟩ s.signs).read _ = _
    rw [hread, ← haccepts]
    rfl

/-- How the text of a shape is read: alternatives where a union may stand, members where only closer
ties may, and the whole where nothing may be tied to it. -/
structure Reads (store : Store) (o : Options) (s : Shape) : Prop where
  asAlternative : s.ReadsAsAlternative store o
  asMember : (∀ alternatives, s.kind ≠ .union alternatives) → s.ReadsAsMember store o
  alone : s.kind.needsParens = false → s.ReadsAlone store o

theorem ReadsAlone.reads {s : Shape} (h : s.ReadsAlone store o) : Reads store o s :=
  ⟨h.asMember.asAlternative, fun _ => h.asMember, fun _ => h⟩

theorem Basic.reads {s : Shape} (h : s.Basic) (hids : store.Distinct s) (hlegible : s.Legible) :
    Reads store o s := by
  induction h with
  | boolean i =>
    refine ReadsAlone.reads fun l outer => ?_
    rw [accepts_boolean, signs, Kind.signs]
    rfl
  | number i =>
    refine ReadsAlone.reads fun l outer => ?_
    rw [accepts_number, signs, Kind.signs]
    rfl
  | string i =>
    refine ReadsAlone.reads fun l outer => ?_
    rw [accepts_string, signs, Kind.signs]
    rfl
  | @array i element isReadonly h ih =>
    have hpart : element ∈ (mk i (.array element isReadonly)).kind.parts :=
      List.mem_singleton_self _
    have helement := ih (hids.part hpart) (hlegible.part hpart)
    refine ReadsAlone.reads fun l outer => ?_
    have hreadonly : read ⟨l, none, outer⟩ (if isReadonly then [.readonly] else []) =
        ⟨l, none, outer⟩ := by
      cases isReadonly <;> rfl
    rw [accepts_array h, signs, Kind.signs, Reader.read_append, Reader.read_append, hreadonly,
      read_element helement.asAlternative helement.alone]
    rfl
  | @tuple i elements h ih =>
    have helements : ∀ t ∈ elements, t.ReadsAsAlternative store o :=
      fun t ht => (ih t ht (hids.part ht) (hlegible.part ht)).asAlternative
    refine ReadsAlone.reads fun l outer => ?_
    rw [accepts_tuple h, signs, Kind.signs, List.cons_append, Reader.read_cons]
    exact read_elements helements [] l outer
  | @union i alternatives hlength h ih =>
    have hparens : (mk i (.union alternatives)).kind.needsParens = true := decide_eq_true hlength
    have hne : alternatives ≠ [] := List.ne_nil_of_length_pos (Nat.zero_lt_of_lt hlength)
    have hall : ∀ t ∈ alternatives, t.ReadsAsAlternative store o :=
      fun t ht => (ih t ht (hids.part ht) (hlegible.part ht)).asAlternative
    refine ⟨fun before outer => ?_, fun hno => absurd rfl (hno alternatives), fun hfalse => ?_⟩
    · rw [signs, Kind.signs]
      obtain ⟨l, last, hread, haccepts⟩ := read_alternatives hne hall before outer
      refine ⟨l, last, hread, fun v => ?_⟩
      rw [haccepts, accepts_union (.union i hlength h) hids]
    · rw [hparens] at hfalse
      cases hfalse
  | @intersect i members hlength h ih =>
    have hparens : (mk i (.intersect members)).kind.needsParens = true := decide_eq_true hlength
    have hne : members ≠ [] := List.ne_nil_of_length_pos (Nat.zero_lt_of_lt hlength)
    -- No member is a union, so each can be read where only closer ties may stand.
    have hall : ∀ t ∈ members, t.ReadsAsMember store o := fun t ht =>
      (ih t ht (hids.part ht) (hlegible.part ht)).asMember
        (hlegible _ (mem_family _) members rfl t ht)
    have hmember : (mk i (.intersect members)).ReadsAsMember store o := by
      intro l outer
      rw [signs, Kind.signs]
      obtain ⟨before, last, hread, haccepts⟩ := read_members hne hall l outer
      refine ⟨before, last, hread, fun v => ?_⟩
      rw [haccepts, accepts_intersect (.intersect i hlength h) hids]
    refine ⟨hmember.asAlternative, fun _ => hmember, fun hfalse => ?_⟩
    rw [hparens] at hfalse
    cases hfalse

theorem verdict?_signs {s : Shape} (h : s.Basic) (hids : store.Distinct s) (hlegible : s.Legible) :
    (Reader.start.read s.signs).verdict? = some (s.accepts store o) := by
  obtain ⟨l, last, hread, haccepts⟩ := (h.reads hids hlegible).asAlternative.inside []
  rw [Reader.start, hread, Reader.verdict?, Option.map_some, haccepts]

/-- Two shapes with the same text accept the same values, if neither has a union among the members
of an intersection. -/
theorem isAccepted_eq_of_text_eq {store : Store} {a b : Shape} (ha : a.Basic) (hb : b.Basic)
    (hidsa : store.Distinct a) (hidsb : store.Distinct b) (hlegiblea : a.Legible)
    (hlegibleb : b.Legible) (htext : a.text = b.text) (value : Json) (o : Options) :
    (a.validate store value o).1.isAccepted = (b.validate store value o).1.isAccepted := by
  have hsigns : a.signs = b.signs := by
    apply Sign.spell_injective
    rw [← ha.text_eq, ← hb.text_eq, htext]
  have hverdict : some (a.accepts store o) = some (b.accepts store o) := by
    rw [← verdict?_signs ha hidsa hlegiblea, hsigns, verdict?_signs hb hidsb hlegibleb]
  exact congrFun (Option.some.inj hverdict) value

theorem isAccepted_eq_of_text_eq_nested :
    let left : Shape := .mk 5 (.array (.mk 4 (.union
      [.mk 2 (.union [.mk 0 .string, .mk 1 .number]), .mk 3 .boolean])) false)
    let right : Shape := .mk 5 (.array (.mk 4 (.union
      [.mk 0 .string, .mk 2 (.union [.mk 1 .number, .mk 3 .boolean])])) false)
    left.text = "(string | number | boolean)[]" ∧ right.text = "(string | number | boolean)[]" ∧
      ∀ value o, (left.validate .empty value o).1.isAccepted =
        (right.validate .empty value o).1.isAccepted := by
  intro left right
  have hleft : left.Basic := by
    have hunion : (mk 2 (.union [.mk 0 .string, .mk 1 .number])).Basic :=
      .union 2 (by decide) (by simp [Basic.string, Basic.number])
    exact .array 5 false (.union 4 (by decide) (by simp [hunion, Basic.boolean]))
  have hright : right.Basic := by
    have hunion : (mk 2 (.union [.mk 1 .number, .mk 3 .boolean])).Basic :=
      .union 2 (by decide) (by simp [Basic.number, Basic.boolean])
    exact .array 5 false (.union 4 (by decide) (by simp [hunion, Basic.string]))
  have hlegible : left.Legible ∧ right.Legible := by
    simp [left, right, Legible, family, Kind.family, familyAll, kind]
  have hleftText : left.text = "(string | number | boolean)[]" := by decide
  have hrightText : right.text = "(string | number | boolean)[]" := by decide
  exact ⟨hleftText, hrightText, isAccepted_eq_of_text_eq hleft hright (hleft.distinct (by decide))
    (hright.distinct (by decide)) hlegible.1 hlegible.2 (hleftText.trans hrightText.symm)⟩

/-- A union among the members of an intersection has the text of a union of which an intersection is
a part, and these do not accept the same. -/
theorem text_misleads :
    let both : Shape :=
      .mk 4 (.intersect [.mk 2 (.union [.mk 0 .string, .mk 1 .number]), .mk 3 .boolean])
    let either : Shape :=
      .mk 4 (.union [.mk 0 .string, .mk 3 (.intersect [.mk 1 .number, .mk 2 .boolean])])
    both.Basic ∧ either.Basic ∧ Store.empty.Distinct both ∧ Store.empty.Distinct either ∧
      both.text = either.text ∧
      (both.validate .empty (.string "a") .collectAll).1.isAccepted = false ∧
      (either.validate .empty (.string "a") .collectAll).1.isAccepted = true := by
  intro both either
  have hboth : both.Basic := by
    have hunion : (mk 2 (.union [.mk 0 .string, .mk 1 .number])).Basic :=
      .union 2 (by decide) (by simp [Basic.string, Basic.number])
    exact .intersect 4 (by decide) (by simp [hunion, Basic.boolean])
  have heither : either.Basic := by
    have hintersect : (mk 3 (.intersect [.mk 1 .number, .mk 2 .boolean])).Basic :=
      .intersect 3 (by decide) (by simp [Basic.number, Basic.boolean])
    exact .union 4 (by decide) (by simp [hintersect, Basic.string])
  have hrejected : (both.validate .empty (.string "a") .collectAll).1.issues =
      [.atRoot "Expected boolean, but was string" "invalid_type"] := issues_validate 20 (by decide)
  have haccepted : (either.validate .empty (.string "a") .collectAll).1.issues = [] :=
    issues_validate 20 (by decide)
  refine ⟨hboth, heither, hboth.distinct (by decide), heither.distinct (by decide), by decide, ?_,
    (Outcome.isAccepted_iff _).2 haccepted⟩
  rw [← Bool.not_eq_true, Outcome.isAccepted_iff, hrejected]
  exact List.cons_ne_nil _ _

end Shape

end ShapeCheck
