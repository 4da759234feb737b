import Mathlib.Data.String.Basic
import ShapeCheck.Json.Reader
import ShapeCheck.Node

namespace ShapeCheck

mutual

/-- In each object inside, the keys ascend. -/
def Json.IsOrdered : Json → Prop
  | .array items => orderedItems items
  | .object members => (members.map (·.1)).Pairwise (· < ·) ∧ orderedMembers members
  | _ => True

def orderedItems : List Json → Prop
  | [] => True
  | a :: as => a.IsOrdered ∧ orderedItems as

def orderedMembers : List (String × Json) → Prop
  | [] => True
  | (_, a) :: as => a.IsOrdered ∧ orderedMembers as

end

mutual

def Json.decideOrdered : (v : Json) → Decidable v.IsOrdered
  | .array items => decideOrderedItems items
  | .object members =>
    @instDecidableAnd _ _ (inferInstanceAs (Decidable ((members.map (·.1)).Pairwise (· < ·))))
      (decideOrderedMembers members)
  | .null | .boolean _ | .number _ | .string _ => isTrue trivial

def decideOrderedItems : (items : List Json) → Decidable (orderedItems items)
  | [] => isTrue trivial
  | a :: as => @instDecidableAnd _ _ a.decideOrdered (decideOrderedItems as)

def decideOrderedMembers : (members : List (String × Json)) → Decidable (orderedMembers members)
  | [] => isTrue trivial
  | (_, a) :: as => @instDecidableAnd _ _ a.decideOrdered (decideOrderedMembers as)

end

instance : DecidablePred Json.IsOrdered := Json.decideOrdered

theorem orderedItems_iff {items : List Json} : orderedItems items ↔ ∀ a ∈ items, a.IsOrdered := by
  induction items with
  | nil => simp [orderedItems]
  | cons a as ih => simp [orderedItems, ih]

theorem orderedMembers_iff {members : List (String × Json)} :
    orderedMembers members ↔ ∀ m ∈ members, m.2.IsOrdered := by
  induction members with
  | nil => simp [orderedMembers]
  | cons m rest ih => simp [orderedMembers, ih]

namespace Json

open String (utf8EncodeChar)

@[simp] theorem isOrdered_array {items : List Json} :
    (array items).IsOrdered ↔ ∀ a ∈ items, a.IsOrdered := by
  rw [IsOrdered, orderedItems_iff]

@[simp] theorem isOrdered_object {members : List (String × Json)} :
    (object members).IsOrdered ↔
      (members.map (·.1)).Pairwise (· < ·) ∧ ∀ m ∈ members, m.2.IsOrdered := by
  rw [IsOrdered, orderedMembers_iff]

theorem lookup_of_mem {members : List (String × Json)}
    (h : (members.map (·.1)).Pairwise (· < ·)) {key : String} {value : Json}
    (hm : (key, value) ∈ members) : members.lookup key = some value := by
  induction members with
  | nil => cases hm
  | cons m rest ih =>
    obtain ⟨hfirst, hrest⟩ := List.pairwise_cons.1 h
    rcases List.mem_cons.1 hm with rfl | hm
    · simp
    · have hne : key ≠ m.1 := (hfirst key (List.mem_map.2 ⟨_, hm, rfl⟩)).ne'
      rw [List.lookup_cons, beq_false_of_ne hne]
      exact ih hrest hm

theorem IsOrdered.child {n c : Node} (h : n.value.IsOrdered) (hc : n.IsChild c) :
    c.value.IsOrdered := by
  unfold Node.IsChild at hc
  split at hc
  · rename_i items hvalue
    obtain ⟨i, v, hv, rfl⟩ := hc
    rw [hvalue, isOrdered_array] at h
    exact h v (List.mem_of_getElem? hv)
  · rename_i members hvalue
    obtain ⟨key, v, hv, rfl⟩ := hc
    rw [hvalue, isOrdered_object] at h
    exact h.2 _ hv
  · exact hc.elim

theorem mem_of_mem_lastOfEach {members : List (String × Json)} {m : String × Json}
    (h : m ∈ lastOfEach members) : m ∈ members := by
  fun_induction lastOfEach members with
  | case1 a b rest _ ih => exact List.mem_cons_of_mem a (ih h)
  | case2 a b rest _ ih =>
    rcases List.mem_cons.1 h with rfl | h
    · exact List.mem_cons_self
    · exact List.mem_cons_of_mem a (ih h)
  | case3 => exact h

theorem pairwise_lastOfEach {members : List (String × Json)}
    (h : members.Pairwise fun a b => a.1 ≤ b.1) :
    ((lastOfEach members).map (·.1)).Pairwise (· < ·) := by
  fun_induction lastOfEach members with
  | case1 a b rest _ ih => exact ih h.of_cons
  | case2 a b rest hne ih =>
    rw [List.map_cons, List.pairwise_cons]
    refine ⟨?_, ih h.of_cons⟩
    intro key hkey
    obtain ⟨m, hm, rfl⟩ := List.mem_map.1 hkey
    have hab : a.1 < b.1 := lt_of_le_of_ne ((List.pairwise_cons.1 h).1 b List.mem_cons_self) hne
    rcases List.mem_cons.1 (mem_of_mem_lastOfEach hm) with rfl | hm
    · exact hab
    · exact lt_of_lt_of_le hab ((List.pairwise_cons.1 h.of_cons).1 m hm)
  | case3 members hshort =>
    cases members with
    | nil => exact List.Pairwise.nil
    | cons a rest =>
      cases rest with
      | nil => exact List.pairwise_singleton _ _
      | cons b rest => exact (hshort a b rest rfl).elim

def keyBytes (key : String) : List UInt8 := key.toUTF8.data.toList

theorem keyBytes_eq (key : String) : keyBytes key = key.toList.flatMap utf8EncodeChar := by
  rw [keyBytes, String.toUTF8, ← String.utf8Encode_toList, List.utf8Encode, List.data_toByteArray]

/-- Of two numbers the first digits in which they differ tell the smaller. -/
theorem digits_lt {v w : Nat} (h : v < w) : v / 262144 < w / 262144 ∨
    v / 262144 = w / 262144 ∧ (v / 4096 % 64 < w / 4096 % 64 ∨
      v / 4096 % 64 = w / 4096 % 64 ∧ (v / 64 % 64 < w / 64 % 64 ∨
        v / 64 % 64 = w / 64 % 64 ∧ v % 64 < w % 64)) := by
  omega

/-- The bytes of the smaller character come first, whatever follows either. -/
theorem utf8EncodeChar_lt {c d : Char} (h : c < d) (x y : List UInt8) :
    utf8EncodeChar c ++ x < utf8EncodeChar d ++ y := by
  have hlt : c.val.toNat < d.val.toNat := h
  have hmax : d.val.toNat < 0x110000 := by
    rcases d.valid with h | h
    · exact Nat.lt_trans h (by decide)
    · exact h.2
  have hdigits := digits_lt hlt
  -- No byte overflows, so that the digits can be read off the bytes.
  have hfirst : ∀ v < 0x110000, (v / 262144 % 8 + 240) % 256 = v / 262144 + 240 := by omega
  have hother : ∀ k, (k % 64 + 128) % 256 = k % 64 + 128 := by omega
  unfold utf8EncodeChar
  dsimp only
  split_ifs <;>
    simp only [List.cons_append, List.nil_append, List.cons_lt_cons_iff, UInt8.lt_iff_toNat_lt,
      ← UInt8.toNat_inj, UInt8.toNat_ofNat', Nat.reducePow, hfirst _ hmax,
      hfirst _ (hlt.trans hmax), hother] <;> omega

theorem utf8EncodeChar_ne_nil (c : Char) : utf8EncodeChar c ≠ [] := by
  rw [← List.length_pos_iff, String.length_utf8EncodeChar]
  exact c.utf8Size_pos

theorem flatMap_utf8EncodeChar_lt {a b : List Char} (h : a < b) :
    a.flatMap utf8EncodeChar < b.flatMap utf8EncodeChar := by
  induction h with
  | @nil c rest =>
    obtain ⟨first, more, hc⟩ := List.exists_cons_of_ne_nil (utf8EncodeChar_ne_nil c)
    rw [List.flatMap_nil, List.flatMap_cons, hc]
    exact .nil
  | rel h => exact utf8EncodeChar_lt h _ _
  | cons _ ih => exact List.append_left_lt ih

/-- Keys are in the order of their bytes. -/
theorem keyBytes_lt_iff {a b : String} : keyBytes a < keyBytes b ↔ a < b := by
  have hkeep : ∀ {a b : String}, a < b → keyBytes a < keyBytes b := by
    intro a b h
    rw [keyBytes_eq, keyBytes_eq]
    exact flatMap_utf8EncodeChar_lt (String.lt_iff_toList_lt.1 h)
  refine ⟨fun h => ?_, hkeep⟩
  rcases lt_trichotomy a b with hab | rfl | hba
  · exact hab
  · exact absurd h (List.lt_irrefl _)
  · exact absurd h (List.lt_asymm (hkeep hba))

theorem mergeSort_of_isOrdered {members : List (String × Json)} (h : (object members).IsOrdered) :
    (members.mergeSort fun a b => keyBytes a.1 ≤ keyBytes b.1) = members := by
  have hkeys := (isOrdered_object.1 h).1
  rw [List.pairwise_map] at hkeys
  refine List.mergeSort_of_pairwise (hkeys.imp fun hab => decide_eq_true ?_)
  exact List.le_of_lt (keyBytes_lt_iff.2 hab)

theorem isOrdered_ofMembers {members : List (String × Json)}
    (h : ∀ m ∈ members, m.2.IsOrdered) : (ofMembers members).IsOrdered := by
  rw [ofMembers, isOrdered_object]
  constructor
  · apply pairwise_lastOfEach
    let byKey (a b : String × Json) : Bool := decide (a.1 ≤ b.1)
    have htrans : ∀ a b c, byKey a b = true → byKey b c = true → byKey a c = true :=
      fun a b c hab hbc =>
        decide_eq_true (le_trans (of_decide_eq_true hab) (of_decide_eq_true hbc))
    have htotal : ∀ a b, (byKey a b || byKey b a) = true := fun a b => by
      simpa [byKey] using le_total a.1 b.1
    have hsorted := List.pairwise_mergeSort htrans htotal members
    exact hsorted.imp fun hab => of_decide_eq_true hab
  · intro m hm
    exact h m (List.mem_mergeSort.1 (mem_of_mem_lastOfEach hm))

theorem foldlM_keeps {σ α : Type} {step : σ → α → Option σ} (P : σ → Prop) {l : List α}
    (hstep : ∀ a ∈ l, ∀ s s', step s a = some s' → P s → P s') {s s' : σ}
    (h : l.foldlM step s = some s') (hs : P s) : P s' := by
  induction l generalizing s with
  | nil =>
    cases h
    exact hs
  | cons a rest ih =>
    rw [List.foldlM_cons] at h
    obtain ⟨k, hk, hrest⟩ := Option.bind_eq_some_iff.1 h
    apply ih (fun b hb => hstep b (List.mem_cons_of_mem a hb)) hrest
    exact hstep a List.mem_cons_self s k hk hs

namespace Token

/-- What a token stands for is ordered. Scalars are, since they have no members. -/
def IsOrdered : Token → Prop
  | .scalar value => value.IsOrdered
  | _ => True

theorem isOrdered_ofWord {read : List Char} {value : Json} (h : ofWord? read = some value) :
    value.IsOrdered := by
  unfold ofWord? at h
  split at h <;> cases h <;> trivial

theorem isOrdered_start {done : List Token} {c : Char} {s : Scan} (h : start done c = some s)
    (hdone : ∀ t ∈ done, t.IsOrdered) : ∀ t ∈ s.done, t.IsOrdered := by
  have hcons : ∀ t : Token, t.IsOrdered → ∀ u ∈ t :: done, u.IsOrdered :=
    fun t ht => List.forall_mem_cons.2 ⟨ht, hdone⟩
  unfold start at h
  split at h
  · cases h; exact hcons _ trivial
  · cases h; exact hcons _ trivial
  · cases h; exact hcons _ trivial
  · cases h; exact hcons _ trivial
  · cases h; exact hcons _ trivial
  · cases h; exact hcons _ trivial
  · cases h; exact hdone
  · split at h
    · cases h; exact hdone
    · split at h
      · cases h; exact hdone
      · split at h <;> cases h
        exact hdone

theorem isOrdered_step {s s' : Scan} {c : Char} (h : step s c = some s')
    (hdone : ∀ t ∈ s.done, t.IsOrdered) : ∀ t ∈ s'.done, t.IsOrdered := by
  obtain ⟨pending, done⟩ := s
  cases pending with
  | blank => exact isOrdered_start h hdone
  | word read =>
    simp only [step] at h
    split at h
    · cases h; exact hdone
    · obtain ⟨v, hv, hs⟩ := Option.bind_eq_some_iff.1 h
      exact isOrdered_start hs (List.forall_mem_cons.2 ⟨isOrdered_ofWord hv, hdone⟩)
  | numeral read =>
    simp only [step] at h
    split at h
    · cases h; exact hdone
    · obtain ⟨n, _, hs⟩ := Option.bind_eq_some_iff.1 h
      exact isOrdered_start hs (List.forall_mem_cons.2 ⟨trivial, hdone⟩)
  | text read =>
    simp only [step] at h
    split at h
    · cases h; exact List.forall_mem_cons.2 ⟨trivial, hdone⟩
    · split at h
      · cases h; exact hdone
      · split at h <;> cases h
        exact hdone
  | escape read =>
    simp only [step] at h
    split at h
    · cases h; exact hdone
    · obtain ⟨d, _, rfl⟩ := Option.map_eq_some_iff.1 h
      exact hdone
  | unit read high digits =>
    obtain ⟨d, _, hs⟩ := Option.bind_eq_some_iff.1 h
    split at hs
    · cases hs; exact hdone
    · obtain ⟨pending, _, rfl⟩ := Option.map_eq_some_iff.1 hs
      exact hdone
  | secondHalf read high =>
    simp only [step] at h
    split at h <;> cases h
    exact hdone
  | secondEscape read high =>
    simp only [step] at h
    split at h <;> cases h
    exact hdone

theorem isOrdered_scan {text : String} {tokens : List Token} (h : scan? text = some tokens) :
    ∀ t ∈ tokens, t.IsOrdered := by
  obtain ⟨done, hdone, rfl⟩ := Option.map_eq_some_iff.1 h
  obtain ⟨s, hs, hfinish⟩ := Option.bind_eq_some_iff.1 hdone
  have hall : ∀ t ∈ s.done, t.IsOrdered :=
    foldlM_keeps (fun s => ∀ t ∈ s.done, t.IsOrdered) (fun _ _ _ _ => isOrdered_step) hs
      fun t ht => absurd ht List.not_mem_nil
  intro t ht
  rw [List.mem_reverse] at ht
  revert t
  unfold finish at hfinish
  split at hfinish
  · cases hfinish; exact hall
  · obtain ⟨v, hv, rfl⟩ := Option.map_eq_some_iff.1 hfinish
    exact List.forall_mem_cons.2 ⟨isOrdered_ofWord hv, hall⟩
  · obtain ⟨n, _, rfl⟩ := Option.map_eq_some_iff.1 hfinish
    exact List.forall_mem_cons.2 ⟨trivial, hall⟩
  · cases hfinish

end Token

namespace Reader

def Frame.IsOrdered : Frame → Prop
  | .array items => ∀ a ∈ items, a.IsOrdered
  | .object members _ => ∀ m ∈ members, m.2.IsOrdered

def State.IsOrdered : State → Prop
  | .value outer => ∀ f ∈ outer, f.IsOrdered
  | .firstItem outer => ∀ f ∈ outer, f.IsOrdered
  | .afterItem outer items => (∀ f ∈ outer, f.IsOrdered) ∧ ∀ a ∈ items, a.IsOrdered
  | .key outer members => (∀ f ∈ outer, f.IsOrdered) ∧ ∀ m ∈ members, m.2.IsOrdered
  | .colon outer members _ => (∀ f ∈ outer, f.IsOrdered) ∧ ∀ m ∈ members, m.2.IsOrdered
  | .afterMember outer members => (∀ f ∈ outer, f.IsOrdered) ∧ ∀ m ∈ members, m.2.IsOrdered
  | .nothing v => v.IsOrdered

theorem isOrdered_supply {value : Json} {outer : List Frame} (hv : value.IsOrdered)
    (houter : ∀ f ∈ outer, f.IsOrdered) : (supply value outer).IsOrdered := by
  cases outer with
  | nil => exact hv
  | cons f outer =>
    obtain ⟨hf, hrest⟩ := List.forall_mem_cons.1 houter
    cases f with
    | array items => exact ⟨hrest, List.forall_mem_cons.2 ⟨hv, hf⟩⟩
    | object members key => exact ⟨hrest, List.forall_mem_cons.2 ⟨hv, hf⟩⟩

theorem isOrdered_startValue {outer : List Frame} {t : Token} {s : State}
    (h : startValue outer t = some s) (ht : t.IsOrdered) (houter : ∀ f ∈ outer, f.IsOrdered) :
    s.IsOrdered := by
  unfold startValue at h
  split at h
  · cases h; exact isOrdered_supply ht houter
  · split at h <;> cases h
    exact houter
  · split at h <;> cases h
    exact ⟨houter, fun m hm => absurd hm List.not_mem_nil⟩
  · cases h

theorem isOrdered_step {s s' : State} {t : Token} (h : step s t = some s') (ht : t.IsOrdered)
    (hs : s.IsOrdered) : s'.IsOrdered := by
  unfold step at h
  split at h
  · exact isOrdered_startValue h ht hs
  · cases h; exact isOrdered_supply (by simp) hs
  · refine isOrdered_startValue h ht (List.forall_mem_cons.2 ⟨?_, hs⟩)
    exact fun a ha => absurd ha List.not_mem_nil
  · cases h; exact List.forall_mem_cons.2 ⟨hs.2, hs.1⟩
  · cases h; exact isOrdered_supply (by simpa using hs.2) hs.1
  · cases h; exact hs
  · cases h; exact isOrdered_supply (by simp) hs.1
  · cases h; exact List.forall_mem_cons.2 ⟨hs.2, hs.1⟩
  · cases h; exact hs
  · cases h
    refine isOrdered_supply (isOrdered_ofMembers fun m hm => hs.2 m ?_) hs.1
    exact List.mem_reverse.1 hm
  · cases h

end Reader

/-- Whatever is read is ordered. -/
theorem isOrdered_of_read {text : String} {value : Json} (h : read? text = some value) :
    value.IsOrdered := by
  obtain ⟨tokens, htokens, h⟩ := Option.bind_eq_some_iff.1 h
  obtain ⟨s, hs, h⟩ := Option.bind_eq_some_iff.1 h
  have hall := Token.isOrdered_scan htokens
  have hordered : s.IsOrdered :=
    foldlM_keeps Reader.State.IsOrdered (fun t ht _ _ hk => Reader.isOrdered_step hk (hall t ht)) hs
      fun f hf => absurd hf List.not_mem_nil
  split at h
  · cases h; exact hordered
  · cases h

end Json

end ShapeCheck
