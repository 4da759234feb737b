import ShapeCheck.Proofs.Blame
import ShapeCheck.Proofs.Reports
import ShapeCheck.Proofs.Unguarded

namespace ShapeCheck

namespace Named

variable {α : Type}

theorem mem_names_put {name key : String} {a : α} {things : Named α} :
    key ∈ (put name a things).map (·.1) ↔ key = name ∨ key ∈ things.map (·.1) := by
  induction things with
  | nil => simp [put]
  | cons thing rest ih =>
    obtain ⟨n, b⟩ := thing
    unfold put
    split
    · rename_i hn
      subst hn
      simp
    · rw [List.map_cons, List.mem_cons, ih, List.map_cons, List.mem_cons]
      exact or_left_comm

theorem nodup_put {things : Named α} (h : (things.map (·.1)).Nodup) (name : String) (a : α) :
    ((put name a things).map (·.1)).Nodup := by
  induction things with
  | nil => simp [put]
  | cons thing rest ih =>
    obtain ⟨n, b⟩ := thing
    obtain ⟨hfirst, hrest⟩ := List.nodup_cons.1 h
    unfold put
    split
    · exact h
    · rename_i hn
      refine List.nodup_cons.2 ⟨fun hmem => ?_, ih hrest⟩
      rcases mem_names_put.1 hmem with heq | hmem
      · exact hn heq
      · exact hfirst hmem

theorem nodup_ofPairs (pairs : List (String × α)) : ((ofPairs pairs).map (·.1)).Nodup := by
  have hfold : ∀ things : Named α, (things.map (·.1)).Nodup →
      ((pairs.foldl (fun things pair => put pair.1 pair.2 things) things).map (·.1)).Nodup := by
    induction pairs with
    | nil => exact fun things h => h
    | cons pair rest ih => exact fun things h => ih _ (nodup_put h pair.1 pair.2)
  exact hfold [] List.nodup_nil

end Named

/-- A record names each of its fields once, as all records do that are made of a row of fields. -/
def Kind.NamesOnce : Kind → Prop
  | .record fields _ => (fields.map (·.1)).Nodup
  | _ => True

theorem Kind.namesOnce_ofFields (fields : List (String × Shape)) (isPartial : Bool) :
    (Kind.ofFields fields isPartial).NamesOnce :=
  Named.nodup_ofPairs fields

namespace Issue

/-- Neither issue is about a place at which the other issue lies, or inside which it lies. -/
def Apart (a b : Issue) : Prop :=
  ¬a.path.segments <+: b.path.segments ∧ ¬b.path.segments <+: a.path.segments

theorem apart_under_iff {a b : Issue} {place : Segment} :
    (a.under place).Apart (b.under place) ↔ a.Apart b := by
  simp only [Apart, path_under, Path.segments_under, List.prefix_cons_inj]

theorem apart_of_place_ne {a b : Issue} {p q : Segment} (h : p ≠ q) :
    (a.under p).Apart (b.under q) := by
  simp only [Apart, path_under, Path.segments_under, List.cons_prefix_cons]
  exact ⟨fun hp => h hp.1, fun hq => h hq.1.symm⟩

theorem pairwise_apart_under {is : List Issue} (h : is.Pairwise Apart) (place : Segment) :
    (is.map (·.under place)).Pairwise Apart := by
  rw [List.pairwise_map]
  exact h.imp apart_under_iff.2

end Issue

/-- Among issues that keep apart a path leads to one at most. -/
theorem Failure.length_atPath_le {f : Failure} (h : f.issues.Pairwise Issue.Apart) (p : Path) :
    (f.atPath p).length ≤ 1 := by
  have hpath : ∀ e ∈ f.atPath p, e.path = p :=
    fun e he => of_decide_eq_true (List.mem_filter.1 he).2
  have hapart : (f.atPath p).Pairwise Issue.Apart := h.filter _
  match hat : f.atPath p with
  | [] => exact Nat.zero_le 1
  | [_] => exact Nat.le_refl 1
  | a :: b :: rest =>
    rw [hat] at hpath hapart
    have hsame : a.path = b.path := by rw [hpath a (by simp), hpath b (by simp)]
    have hab : a.Apart b := (List.pairwise_cons.1 hapart).1 b List.mem_cons_self
    exact absurd (hsame ▸ List.prefix_rfl) hab.1

namespace Plan

theorem sublist_reported (failFast : Bool) (found : List (List Issue)) :
    List.Sublist (reported failFast found) found.flatten := by
  induction found with
  | nil => exact .slnil
  | cons is rest ih =>
    rw [reported, List.flatten_cons]
    split
    · exact List.sublist_append_left is _
    · exact ih.append_left is

namespace Demand

def place : Demand → Segment
  | .conforms place _ _ => place
  | .missing place _ => place

theorem place_itemDemands (element : Shape) (items : List (Segment × Node)) :
    (itemDemands element items).map place = items.map (·.1) := by
  rw [itemDemands, List.map_map]
  rfl

theorem place_pairDemands {elements : List Shape} {items : List (Segment × Node)}
    (h : items.length = elements.length) :
    (pairDemands elements items).map place = items.map (·.1) := by
  have hitems : (elements.zip items).map Prod.snd = items := List.map_snd_zip (Nat.le_of_eq h)
  rw [pairDemands, List.map_map]
  conv_rhs => rw [← hitems, List.map_map]
  rfl

theorem place_fieldDemands (isPartial : Bool) (n : Node) (fields : List (String × Shape)) :
    List.Sublist ((fieldDemands isPartial n fields).map place) (fields.map (.field ·.1)) := by
  induction fields with
  | nil => exact .slnil
  | cons f rest ih =>
    obtain ⟨name, s⟩ := f
    unfold fieldDemands
    split
    · exact ih.cons_cons _
    · split
      · exact ih.cons _
      · exact ih.cons_cons _

theorem under_place_of_mem {reply : Shape → Node → Outcome} {d : Demand} {e : Issue}
    (h : e ∈ d.issues reply) : ∃ inner : Issue, e = inner.under d.place := by
  cases d with
  | conforms place s n =>
    obtain ⟨inner, -, rfl⟩ := List.mem_map.1 h
    exact ⟨inner, rfl⟩
  | missing place s => exact ⟨_, List.mem_singleton.1 h⟩

end Demand

end Plan

theorem Node.nodup_itemsFrom (n : Node) (i : Nat) (values : List Json) :
    ((n.itemsFrom i values).map (·.1)).Nodup := by
  have hplaces : (n.itemsFrom i values).map (·.1) =
      (List.range' i values.length).map Segment.index := by
    induction values generalizing i with
    | nil => rfl
    | cons value rest ih =>
      rw [itemsFrom, List.map_cons, ih, List.length_cons, List.range'_succ, List.map_cons]
  have hrange : (List.range' i values.length).Nodup := List.nodup_range'
  rw [hplaces]
  exact hrange.map fun _ _ h => Segment.index.inj h

theorem Node.nodup_members {n : Node} (hn : n.value.IsOrdered) {members : List (Segment × Node)}
    (h : n.members? = some members) : (members.map (·.1)).Nodup := by
  obtain ⟨values, hvalue, rfl⟩ := members?_eq_some h
  rw [hvalue] at hn
  have hkeys : (values.map (·.1)).Nodup := (Json.isOrdered_object.1 hn).1.imp fun hlt => hlt.ne
  have hfields := hkeys.map (f := Segment.field) fun _ _ h => Segment.field.inj h
  rw [List.map_map] at hfields ⊢
  exact hfields

open Plan Demand in
/-- A container makes one demand at most of each place. -/
theorem Kind.nodup_place_of_demands {kind : Kind} {n : Node} {demands : List Demand}
    (h : kind.demands? n = some demands) (hnames : kind.NamesOnce) (hn : n.value.IsOrdered) :
    (demands.map place).Nodup := by
  cases kind with
  | array element isReadonly =>
    obtain ⟨items, hitems, rfl⟩ := Option.map_eq_some_iff.1 h
    obtain ⟨values, -, rfl⟩ := Node.items?_eq_some hitems
    rw [place_itemDemands]
    exact n.nodup_itemsFrom 0 values
  | tuple elements =>
    obtain ⟨items, hitems, rfl⟩ := Option.map_eq_some_iff.1 h
    obtain ⟨hitems, hlength⟩ := Option.filter_eq_some_iff.1 hitems
    obtain ⟨values, -, rfl⟩ := Node.items?_eq_some hitems
    rw [place_pairDemands (of_decide_eq_true hlength)]
    exact n.nodup_itemsFrom 0 values
  | record fields isPartial =>
    obtain ⟨members, -, rfl⟩ := Option.map_eq_some_iff.1 h
    have hfields : (fields.map (Segment.field ·.1)).Nodup := by
      have hnodup := List.Nodup.map (f := Segment.field) (fun _ _ h => Segment.field.inj h) hnames
      rwa [List.map_map] at hnodup
    exact hfields.sublist (place_fieldDemands isPartial n fields)
  | dictionary value =>
    obtain ⟨members, hmembers, rfl⟩ := Option.map_eq_some_iff.1 h
    rw [place_itemDemands]
    exact Node.nodup_members hn hmembers
  | _ => cases h

namespace Plan

open Issue (Apart)

variable {w : Replies} {o : Options} {n : Node}

theorem pairwise_apart_reported {demands : List Demand} (hplaces : (demands.map Demand.place).Nodup)
    (hcalls : ∀ place t k, .conforms place t k ∈ demands →
      (w.inside t k o).issues.Pairwise Apart) :
    (reported o.failFast (demands.map (Demand.issues fun t k => w.inside t k o))).Pairwise
      Apart := by
  refine List.Pairwise.sublist (sublist_reported o.failFast _) ?_
  refine List.pairwise_flatten.2 ⟨?_, ?_⟩
  · rw [List.forall_mem_map]
    intro d hd
    cases d with
    | conforms place t k => exact Issue.pairwise_apart_under (hcalls place t k hd) place
    | missing place t => exact List.pairwise_singleton _ _
  · rw [List.pairwise_map]
    refine (List.pairwise_map.1 hplaces).imp fun {d d'} hne a ha b hb => ?_
    obtain ⟨a', rfl⟩ := Demand.under_place_of_mem ha
    obtain ⟨b', rfl⟩ := Demand.under_place_of_mem hb
    exact Issue.apart_of_place_ne hne

end Plan

open Plan in
theorem Shape.plan_apart {w : Replies} {o : Options} {s : Shape} {n : Node}
    (hplain : s.kind.isCustom = false) (hjoin : ∀ members, s.kind ≠ .intersect members)
    (hnames : s.kind.NamesOnce) (hn : n.value.IsOrdered)
    (hparts : ∀ t ∈ s.kind.parts, ∀ k, Near n k →
      (w.inside t k o).issues.Pairwise Issue.Apart)
    (htarget : ∀ name registry t, s.kind = .reference name registry →
      w.store.find registry name = .found t → (w.beyond t n o).issues.Pairwise Issue.Apart) :
    ((s.plan n o).outcome w).issues.Pairwise Issue.Apart := by
  have hreport : Report w o s n ((s.plan n o).outcome w).issues := s.report_plan hplain
  generalize ((s.plan n o).outcome w).issues = is at hreport ⊢
  cases hreport with
  | nothing => exact .nil
  | own message hcode => exact List.pairwise_singleton _ _
  | missingName hk hfind => exact List.pairwise_singleton _ _
  | children hd =>
    have hplaces := Kind.nodup_place_of_demands hd hnames hn
    refine pairwise_apart_reported hplaces fun place t k hmem => ?_
    have hinward := Kind.inward_of_demands hd _ hmem
    exact hparts t hinward.1 k (Or.inr hinward.2.1)
  | members hk => exact absurd hk (hjoin _)
  | part ht => exact hparts _ ht n (Or.inl rfl)
  | target hk ht => exact htarget _ _ _ hk ht

namespace Store

structure Unjoined (store : Store) (shape : Shape) : Prop where
  free : store.CustomFree shape
  unjoined : ∀ s, store.Reaches shape s → ∀ members, s.kind ≠ .intersect members

def NamesOnce (store : Store) (shape : Shape) : Prop :=
  ∀ s, store.Reaches shape s → s.kind.NamesOnce

end Store

namespace Check

theorem issues_answer_apart {store : Store} {shape : Shape} (hshape : store.Unjoined shape)
    (hnames : store.NamesOnce shape) (o : Options) (g : Guard) (s : Shape) (n : Node) :
    store.Reaches shape s → n.value.IsOrdered →
      (answer store g s n o).issues.Pairwise Issue.Apart := by
  apply answer_induction store (P := fun g s n => store.Reaches shape s → n.value.IsOrdered →
    (answer store g s n o).issues.Pairwise Issue.Apart)
  · intro g s n hopen _ _
    rw [answer_open hopen]
    exact .nil
  · intro g s n hnew hparts htarget hs hn
    rw [answer_new (hshape.free.of_reaches hs) hnew]
    apply Shape.plan_apart (hshape.free s hs) (hshape.unjoined s hs) (hnames s hs) hn
    · intro t ht k hk
      apply hparts t ht k hk (hs.part ht)
      rcases hk with rfl | hk
      · exact hn
      · exact hn.child hk
    · exact fun name registry t hk ht => htarget name registry t hk ht (hs.target hk ht) hn

end Check

namespace Shape

/-- Without intersections, no issue is about the place of another issue or about a part of what is
there; so no path leads to two issues. -/
theorem issues_apart {store : Store} {shape : Shape} {value : Json} {o : Options}
    (hshape : store.Unjoined shape) (hnames : store.NamesOnce shape) (hvalue : value.IsOrdered) :
    (shape.validate store value o).1.issues.Pairwise Issue.Apart ∧
    ∀ f, (shape.validate store value o).1 = .rejected f → ∀ p, (f.atPath p).length ≤ 1 := by
  have hapart : (shape.validate store value o).1.issues.Pairwise Issue.Apart :=
    Check.issues_answer_apart hshape hnames o .fresh shape (.root value) .self hvalue
  refine ⟨hapart, fun f hf => f.length_atPath_le ?_⟩
  rw [hf] at hapart
  exact hapart

theorem issues_apart_chain :
    let value : Json := .object [("next", .string "end"), ("size", .null)]
    let next : Issue := ⟨⟨[.field "next"]⟩, "Expected record, but was string", "invalid_type"⟩
    let size : Issue := ⟨⟨[.field "size"]⟩, "Expected number, but was null", "invalid_type"⟩
    (chain.validate .chains value .collectAll).1.issues = [next, size] ∧ next.Apart size := by
  intro value next size
  have hall : ∀ t ∈ [chain, .mk 1 (.optional (.mk 0 (.reference "Chain" 0))),
      .mk 0 (.reference "Chain" 0), .mk 2 .number], t.kind.isCustom = false ∧
        (∀ members, t.kind ≠ .intersect members) ∧ t.kind.NamesOnce := by
    have hrecord : chain.kind.NamesOnce := Kind.namesOnce_ofFields
      [("next", .mk 1 (.optional (.mk 0 (.reference "Chain" 0)))), ("size", .mk 2 .number)] false
    simp only [List.forall_mem_cons]
    exact ⟨⟨rfl, nofun, hrecord⟩, ⟨rfl, nofun, trivial⟩, ⟨rfl, nofun, trivial⟩,
      ⟨rfl, nofun, trivial⟩, fun t ht => absurd ht List.not_mem_nil⟩
  have hshape : Store.chains.Unjoined chain :=
    ⟨fun t ht => (hall t (Store.mem_of_reaches_chain ht)).1,
      fun t ht => (hall t (Store.mem_of_reaches_chain ht)).2.1⟩
  have hnames : Store.chains.NamesOnce chain :=
    fun t ht => (hall t (Store.mem_of_reaches_chain ht)).2.2
  have hissues : (chain.validate .chains value .collectAll).1.issues = [next, size] :=
    issues_validate 20 (by decide)
  have hapart := (@issues_apart _ _ value .collectAll hshape hnames (by decide)).1
  rw [hissues] at hapart
  exact ⟨hissues, (List.pairwise_cons.1 hapart).1 size List.mem_cons_self⟩

end Shape

end ShapeCheck
