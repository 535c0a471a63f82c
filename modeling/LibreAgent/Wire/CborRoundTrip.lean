import LibreAgent.Wire.Cbor

/-!
# The CBOR codec is canonical

* `CborValue.item` : the data item a value stands for; `emits_encodeValue` : `encodeValue` writes
  it;
* `walk_doubleItem` : the float written for a double reads back as the same bits.
-/

namespace LibreAgent.Wire

open Bytes Rfc8949 OrdMap List Item

namespace CborValue

/-! ## The item of a value -/

def doubleItem (d : BitVec 64) : Item := (addPreferredDouble d).item.getD .null

mutual
def item : CborValue → Item
  | null => .null
  | bool b => .bool b
  | uint u => .unsigned u
  | int i => intItem i
  | double d => doubleItem d
  | text s => .text s
  | bytes b => .bytes b
  | array xs => .array (itemAll xs)
  | map m => .map (itemEntries m)

def itemAll : List CborValue → List Item
  | [] => []
  | x :: xs => x.item :: itemAll xs

def itemEntries : CborMap → List (Bytes × Item)
  | [] => []
  | (k, x) :: m => (k, x.item) :: itemEntries m
end

def encodedSize (v : CborValue) : Nat := v.item.encode.length

lemma addPreferredDouble_cases (d : BitVec 64) :
    addPreferredDouble d = .addDouble d ∨ addPreferredDouble d = .addDoubleNoPreferred d ∨
      (addPreferredDouble d = .addFloatNoPreferred (Ieee.narrowSingle d) ∧
        Ieee.widenSingle (Ieee.narrowSingle d) = d) := by
  have he : ((d >>> 52) &&& 0x7ff#64).toNat = d.toNat / 2 ^ 52 % 2048 := by
    rw [BitVec.toNat_and, BitVec.toNat_ushiftRight, Nat.shiftRight_eq_div_pow]
    exact Nat.and_two_pow_sub_one_eq_mod (d.toNat / 2 ^ 52) 11
  have hl : d &&& ((1#64 <<< 29) - 1#64) = 0#64 → d.toNat % 2 ^ 29 = 0 := fun h => by
    have := congrArg BitVec.toNat h
    rw [BitVec.toNat_and] at this
    exact (Nat.and_two_pow_sub_one_eq_mod d.toNat 29).symm.trans this
  unfold addPreferredDouble
  simp only [he]
  split_ifs with h1 h2 h3 h4
  · exact Or.inr (Or.inl rfl)
  · exact Or.inl rfl
  · obtain ⟨lo, hi, hf⟩ : _ ∧ _ ∧ _ := not_not.mp fun h => h1 ⟨h3, h⟩
    exact Or.inr (Or.inr ⟨rfl, Ieee.widenSingle_narrowSingle d (by omega) (by omega) (hl hf)⟩)
  · exact Or.inl rfl
  · exact Or.inl rfl

lemma addPreferredDouble_item (d : BitVec 64) :
    (addPreferredDouble d).item = some (doubleItem d) := by
  rcases addPreferredDouble_cases d with h | h | ⟨h, -⟩ <;> simp [doubleItem, h, Call.item]

lemma walk_preferredFloat (l : QLabel) (d : BitVec 64) : walk l (preferredFloat d) =
    [⟨l, .double d⟩] := by
  unfold preferredFloat
  split
  · next h e => rw [walk, Ieee.widenHalf_exactHalf e]
  · split
    · next s e => rw [walk, Ieee.widenSingle_exactSingle e]
    · rfl

lemma walk_doubleItem (l : QLabel) (d : BitVec 64) : walk l (doubleItem d) = [⟨l, .double d⟩] := by
  rcases addPreferredDouble_cases d with h | h | ⟨h, hs⟩
  · simpa [doubleItem, h, Call.item] using walk_preferredFloat l d
  · simp [doubleItem, h, Call.item, walk]
  · simp [doubleItem, h, Call.item, walk, hs]

mutual
lemma emits_encodeValue (v : CborValue) : Emits v.encodeValue v.item := by
  cases v with
  | null | bool | uint | int | text | bytes => exact .scalar rfl
  | double d => exact .scalar (addPreferredDouble_item d)
  | array xs => exact .array (emitsAll_encodeElems xs)
  | map m => exact .map (emitsEntries_encodeEntries m)

lemma emitsAll_encodeElems (xs : List CborValue) : EmitsAll (encodeElems xs) (itemAll xs) := by
  cases xs with
  | nil => exact .nil
  | cons x xs => exact .cons (emits_encodeValue x) (emitsAll_encodeElems xs)

lemma emitsEntries_encodeEntries (m : CborMap) :
    EmitsEntries (encodeEntries m) (itemEntries m) := by
  cases m with
  | nil => exact .nil
  | cons p m =>
    obtain ⟨k, x⟩ := p
    exact .cons k (emits_encodeValue x) (emitsEntries_encodeEntries m)
end

/-! ## Values without NaN -/

mutual
lemma isNaN_encodeValue (v : CborValue) (h : v.noNaN = true) :
    ∀ c ∈ v.encodeValue, c.isNaN = false := by
  cases v with
  | double d =>
    have hd : Ieee.isNaN d = false := by simpa [noNaN] using h
    refine forall_mem_singleton.mpr ?_
    rcases addPreferredDouble_cases d with he | he | ⟨he, hs⟩
    · rw [he, Call.isNaN, hd]
    · rw [he, Call.isNaN, hd]
    · rw [he, Call.isNaN, hs, hd]
  | array xs =>
    exact forall_mem_cons.mpr ⟨rfl, forall_mem_append.mpr
      ⟨isNaN_encodeElems xs h, forall_mem_singleton.mpr rfl⟩⟩
  | map m =>
    exact forall_mem_cons.mpr ⟨rfl, forall_mem_append.mpr
      ⟨isNaN_encodeEntries m h, forall_mem_singleton.mpr rfl⟩⟩
  | _ => exact forall_mem_singleton.mpr rfl

lemma isNaN_encodeElems (xs : List CborValue) (h : noNaNAll xs = true) :
    ∀ c ∈ encodeElems xs, c.isNaN = false := by
  cases xs with
  | nil => exact forall_mem_nil _
  | cons x xs =>
    rw [noNaNAll, Bool.and_eq_true] at h
    exact forall_mem_append.mpr ⟨isNaN_encodeValue x h.1, isNaN_encodeElems xs h.2⟩

lemma isNaN_encodeEntries (m : CborMap) (h : noNaNEntries m = true) :
    ∀ c ∈ encodeEntries m, c.isNaN = false := by
  cases m with
  | nil => exact forall_mem_nil _
  | cons p m =>
    rw [noNaNEntries, Bool.and_eq_true] at h
    exact forall_mem_cons.mpr ⟨rfl, forall_mem_append.mpr
      ⟨isNaN_encodeValue p.2 h.1, isNaN_encodeEntries m h.2⟩⟩
end

/-! ## Sizes of the item -/

lemma length_itemAll (xs : List CborValue) : (itemAll xs).length = xs.length := by
  induction xs with
  | nil => rfl
  | cons x xs ih => simp [itemAll, ih]

lemma length_itemEntries (m : CborMap) : (itemEntries m).length = m.length := by
  induction m with
  | nil => rfl
  | cons p m ih => simp [itemEntries, ih]

lemma items_pos (v : CborValue) : 0 < v.items := by
  cases v <;> simp [items]

lemma length_le_itemsAll (xs : List CborValue) : xs.length ≤ itemsAll xs := by
  induction xs with
  | nil => simp [itemsAll]
  | cons x xs ih =>
    have := items_pos x
    simp only [length_cons, itemsAll]
    omega

lemma length_le_itemsEntries (m : CborMap) : m.length ≤ itemsEntries m := by
  induction m with
  | nil => simp [itemsEntries]
  | cons p m ih =>
    have := items_pos p.2
    simp only [length_cons, itemsEntries]
    omega

mutual
lemma nesting_item (v : CborValue) : v.item.nesting = v.nesting := by
  cases v with
  | int i => exact (Call.item_flat (c := .addInt64 i) rfl).1
  | double d => exact (Call.item_flat (addPreferredDouble_item d)).1
  | array xs => simp [item, Item.nesting, nesting, nesting_itemAll xs]
  | map m => simp [item, Item.nesting, nesting, nesting_itemEntries m]
  | _ => rfl

lemma nesting_itemAll (xs : List CborValue) : Item.nestingAll (itemAll xs) = nestingAll xs := by
  cases xs with
  | nil => rfl
  | cons x xs => simp [itemAll, Item.nestingAll, nestingAll, nesting_item x, nesting_itemAll xs]

lemma nesting_itemEntries (m : CborMap) :
    Item.nestingEntries (itemEntries m) = nestingEntries m := by
  cases m with
  | nil => rfl
  | cons p m =>
    simp [itemEntries, Item.nestingEntries, nestingEntries, nesting_item p.2, nesting_itemEntries m]
end

mutual
lemma width_item_le (v : CborValue) : v.item.width ≤ v.items := by
  cases v with
  | int i => exact (Call.item_flat (c := .addInt64 i) rfl).2.trans_le (Nat.zero_le _)
  | double d => exact (Call.item_flat (addPreferredDouble_item d)).2.trans_le (Nat.zero_le _)
  | array xs =>
    have h1 := length_le_itemsAll xs
    have h2 := width_itemAll_le xs
    simp only [item, width, items, length_itemAll]
    omega
  | map m =>
    have h1 := length_le_itemsEntries m
    have h2 := width_itemEntries_le m
    simp only [item, width, items, length_itemEntries]
    omega
  | _ => simp [item, width]

lemma width_itemAll_le (xs : List CborValue) : widthAll (itemAll xs) ≤ itemsAll xs := by
  cases xs with
  | nil => simp [itemAll, widthAll]
  | cons x xs =>
    have h1 := width_item_le x
    have h2 := width_itemAll_le xs
    simp only [itemAll, widthAll, itemsAll]
    omega

lemma width_itemEntries_le (m : CborMap) : widthEntries (itemEntries m) ≤ itemsEntries m := by
  cases m with
  | nil => simp [itemEntries, widthEntries]
  | cons p m =>
    have h1 := width_item_le p.2
    have h2 := width_itemEntries_le m
    simp only [itemEntries, widthEntries, itemsEntries]
    omega
end

/-! ## Values of the public constructors -/

variable {u : UInt64}

lemma Built.uint_gt (h : Built (uint u)) : int64Max < u.toNat := by
  generalize hv : uint u = v at h
  cases h with
  | ofUInt64 w =>
    unfold CborValue.ofUInt64 at hv
    split at hv
    · cases hv
    · cases hv
      omega
  | _ => cases hv

lemma ofUInt64_ne_array (u : UInt64) (xs : List CborValue) : array xs ≠ ofUInt64 u := by
  unfold ofUInt64
  split <;> exact fun h => by cases h

lemma ofUInt64_ne_map (u : UInt64) (m : CborMap) : map m ≠ ofUInt64 u := by
  unfold ofUInt64
  split <;> exact fun h => by cases h

lemma Built.elems {xs : List CborValue} (h : Built (.array xs)) : ∀ x ∈ xs, Built x := by
  generalize hv : CborValue.array xs = v at h
  cases h with
  | ofUInt64 w => exact absurd hv (ofUInt64_ne_array w xs)
  | array ys hy => cases hv; exact hy
  | _ => cases hv

lemma Built.entries {m : CborMap} (h : Built (.map m)) : Sorted CanonicalKeyLess m ∧
    ∀ p ∈ m, Built p.2 := by
  generalize hv : CborValue.map m = v at h
  cases h with
  | ofUInt64 w => exact absurd hv (ofUInt64_ne_map w m)
  | map n hs hn => cases hv; exact ⟨hs, hn⟩
  | _ => cases hv

lemma walk_intItem (l : QLabel) (i : Int64) : walk l (intItem i) = [⟨l, .int64 i⟩] := by
  unfold intItem
  split
  · next h =>
    have hle : i.toUInt64.toNat ≤ int64Max := by
      rw [Int64.toNat_toUInt64_of_le h]
      exact Nat.le_sub_one_of_lt (Int64.toNatClampNeg_lt i)
    rw [walk, if_pos hle, Int64.toInt64_toUInt64]
  · rw [walk, UInt64.not_not, Int64.toInt64_toUInt64]

lemma walk_uint (h : int64Max < u.toNat) (l : QLabel) :
    walk l (.unsigned u) = [⟨l, .uint64 u⟩] := by
  rw [walk, if_neg (by omega)]

lemma ofUInt64_large (h : int64Max < u.toNat) : ofUInt64 u = uint u := by
  rw [ofUInt64, if_neg (by omega)]

end CborValue

/-! ## Reading a traversal back -/

section
variable {q : Qcbor}

lemma yields_single {c c' : q.Ctx} {i : QItem} (h : Yields q c [i] c') :
    q.getNext c = some (i, c') := by
  cases h with
  | cons hg ht => cases ht; exact hg

lemma readValue_scalar {c c' : q.Ctx} {l : QLabel} {x : QValue} {v : CborValue} {room budget : Nat}
    (h : Yields q c [⟨l, x⟩] c') (hr : readValue q (room + 1) ⟨l, x⟩ budget c' =
      .ok (v, budget - 1, c')) :
    ∃ i c₁, q.getNext c = some (i, c₁) ∧ i.label = l ∧
      readValue q (room + 1) i budget c₁ = .ok (v, budget - 1, c') :=
  ⟨_, c', yields_single h, rfl, hr⟩

lemma count_ne_indefinite {n : Nat} (h : n ≤ kMaxCborItems) :
    UInt16.ofNat n ≠ countIndefinite ∧ (UInt16.ofNat n).toNat = n := by
  have hn : (UInt16.ofNat n).toNat = n := UInt16.toNat_ofNat_of_lt' (lt_of_le_of_lt h (by decide))
  refine ⟨fun e => ?_, hn⟩
  have h65 := congrArg UInt16.toNat e
  rw [hn] at h65
  exact absurd (h65 ▸ h) (by decide)

mutual
lemma readValue_walk (v : CborValue) (hv : v.Built) (l : QLabel) (room budget : Nat) (c c' : q.Ctx)
    (h : Yields q c (walk l v.item) c') (hd : v.depth < room) (hi : v.items ≤ budget)
    (hc : v.items ≤ kMaxCborItems) :
    ∃ i c₁, q.getNext c = some (i, c₁) ∧ i.label = l ∧
      readValue q room i budget c₁ = .ok (v, budget - v.items, c') := by
  obtain ⟨room, rfl⟩ : ∃ r, room = r + 1 := ⟨room - 1, by omega⟩
  have hb : ¬ budget = 0 := by
    have := v.items_pos
    omega
  cases v with
  | null | bool | text | bytes => exact readValue_scalar h (by simp [readValue, hb])
  | uint u =>
    rw [CborValue.item, CborValue.walk_uint hv.uint_gt] at h
    exact readValue_scalar h (by simp [readValue, hb, CborValue.ofUInt64_large hv.uint_gt])
  | int i =>
    rw [CborValue.item, CborValue.walk_intItem] at h
    exact readValue_scalar h (by simp [readValue, hb])
  | double d =>
    rw [CborValue.item, CborValue.walk_doubleItem] at h
    exact readValue_scalar h (by simp [readValue, hb])
  | array xs =>
    rw [CborValue.item, walk, CborValue.length_itemAll] at h
    cases h with
    | @cons _ c₁ _ _ _ hg ht =>
      simp only [CborValue.items, CborValue.depth] at hi hd hc
      obtain ⟨hne, hn⟩ := count_ne_indefinite
        (show xs.length ≤ kMaxCborItems from by have := CborValue.length_le_itemsAll xs; omega)
      have hr :=
        readElems_walk xs hv.elems [] room (budget - 1) c₁ c' ht (by omega) (by omega) (by omega)
      refine ⟨_, c₁, hg, rfl, ?_⟩
      simp only [readValue, hb, if_false, hne, hn, hr, nil_append, CborValue.items]
      congr 3
      omega
  | map m =>
    rw [CborValue.item, walk, CborValue.length_itemEntries] at h
    cases h with
    | @cons _ c₁ _ _ _ hg ht =>
      simp only [CborValue.items, CborValue.depth] at hi hd hc
      obtain ⟨hs, hm⟩ := hv.entries
      obtain ⟨hne, hn⟩ := count_ne_indefinite
        (show m.length ≤ kMaxCborItems from by have := CborValue.length_le_itemsEntries m; omega)
      have hr :=
        readEntries_walk m hm hs [] (fun _ _ => rfl) room (budget - 1) c₁ c' ht (by omega)
          (by omega) (by omega)
      refine ⟨_, c₁, hg, rfl, ?_⟩
      simp only [readValue, hb, if_false, hne, hn, hr, emplaceAll_sorted CanonicalKeyLess hs,
        CborValue.items]
      congr 3
      omega

lemma readElems_walk (xs : List CborValue) (hx : ∀ x ∈ xs, x.Built) (arr : List CborValue)
    (room budget : Nat) (c c' : q.Ctx) (h : Yields q c (walkAll (CborValue.itemAll xs)) c')
    (hd : CborValue.depthAll xs < room + 1) (hi : CborValue.itemsAll xs ≤ budget)
    (hc : CborValue.itemsAll xs ≤ kMaxCborItems) :
    readElems q (readValue q room) xs.length arr budget c
      = .ok (arr ++ xs, budget - CborValue.itemsAll xs, c') := by
  cases xs with
  | nil =>
    cases h
    simp [readElems, CborValue.itemsAll]
  | cons x xs =>
    simp only [CborValue.depthAll, CborValue.itemsAll] at hd hi hc
    rw [CborValue.itemAll, walkAll] at h
    obtain ⟨c₂, h1, h2⟩ := h.split
    obtain ⟨i, c₁, hg, -, hr⟩ := readValue_walk x (hx x mem_cons_self) .none room budget c c₂ h1
      (by omega) (by omega) (by omega)
    have hre := readElems_walk xs (fun y hy => hx y (mem_cons_of_mem _ hy)) (arr ++ [x]) room
      (budget - x.items) c₂ c' h2 (by omega) (by omega) (by omega)
    simp only [length_cons, readElems, hg, hr, hre, append_assoc, singleton_append,
      CborValue.itemsAll, Nat.sub_sub]

lemma readEntries_walk (m : CborMap) (hm : ∀ p ∈ m, p.2.Built) (hs : Sorted CanonicalKeyLess m)
    (acc : CborMap) (ha : ∀ p ∈ m, find p.1 acc = none)
    (room budget : Nat) (c c' : q.Ctx) (h : Yields q c (walkEntries (CborValue.itemEntries m)) c')
    (hd : CborValue.depthEntries m < room + 1) (hi : CborValue.itemsEntries m ≤ budget)
    (hc : CborValue.itemsEntries m ≤ kMaxCborItems) :
    readEntries q (readValue q room) m.length acc budget c
      = .ok (emplaceAll CanonicalKeyLess m acc, budget - CborValue.itemsEntries m, c') := by
  cases m with
  | nil =>
    cases h
    simp [readEntries, CborValue.itemsEntries, emplaceAll_nil]
  | cons p m =>
    obtain ⟨k, x⟩ := p
    simp only [CborValue.depthEntries, CborValue.itemsEntries] at hd hi hc
    rw [CborValue.itemEntries, walkEntries] at h
    obtain ⟨c₂, h1, h2⟩ := h.split
    obtain ⟨i, c₁, hg, hl, hr⟩ := readValue_walk x (hm _ mem_cons_self) (.textString k) room
      budget c c₂ h1 (by omega) (by omega) (by omega)
    have hk : find k acc = none := ha (k, x) mem_cons_self
    have ha' : ∀ p ∈ m, find p.1 (emplace CanonicalKeyLess k x acc) = none := fun p hp => by
      have hne : p.1 ≠ k := fun e => by
        have hlt := (pairwise_cons.mp hs).1 p hp
        rw [e] at hlt
        exact irrefl_of CanonicalKeyLess k hlt
      rw [find_emplace, if_neg hne, ha p (mem_cons_of_mem _ hp)]
    have hre := readEntries_walk m (fun y hy => hm y (mem_cons_of_mem _ hy))
      (List.Pairwise.of_cons hs) (emplace CanonicalKeyLess k x acc) ha' room (budget - x.items) c₂
      c' h2 (by omega) (by omega) (by omega)
    simp [readEntries, hg, hl, hr, hk, hre, emplaceAll_cons, CborValue.itemsEntries, Nat.sub_sub]
end

end

/-! ## What the reader accepts -/

namespace CborValue

lemma itemsAll_append (xs ys : List CborValue) :
    itemsAll (xs ++ ys) = itemsAll xs + itemsAll ys := by
  induction xs with
  | nil => simp [itemsAll]
  | cons x xs ih => simp [itemsAll, ih, Nat.add_assoc]

lemma depthAll_append (xs ys : List CborValue) :
    depthAll (xs ++ ys) = max (depthAll xs) (depthAll ys) := by
  induction xs with
  | nil => simp [depthAll]
  | cons x xs ih => simp [depthAll, ih, Nat.max_assoc]

lemma itemsEntries_insert (k : Bytes) (x : CborValue) (m : CborMap) :
    itemsEntries (OrdMap.insert CanonicalKeyLess k x m) = itemsEntries m + x.items := by
  induction m with
  | nil => simp [OrdMap.insert, itemsEntries]
  | cons p m ih =>
    obtain ⟨k', y⟩ := p
    by_cases h : CanonicalKeyLess k k' <;>
      simp only [OrdMap.insert, h, if_true, if_false, itemsEntries, ih] <;> omega

lemma depthEntries_insert (k : Bytes) (x : CborValue) (m : CborMap) :
    depthEntries (OrdMap.insert CanonicalKeyLess k x m) = max (x.depth + 1) (depthEntries m) := by
  induction m with
  | nil => simp [OrdMap.insert, depthEntries]
  | cons p m ih =>
    obtain ⟨k', y⟩ := p
    by_cases h : CanonicalKeyLess k k' <;>
      simp only [OrdMap.insert, h, if_true, if_false, depthEntries, ih]
    omega

end CborValue

section
variable {q : Qcbor}

/-- a reader that returns built values no deeper than `room`, each charged to the budget -/
def ReadsWithin (room : Nat) (rd : QItem → Nat → q.Ctx → Reading q CborValue) : Prop :=
  ∀ i budget c v budget' c', rd i budget c = .ok (v, budget', c') →
    v.Built ∧ v.depth < room ∧ v.items + budget' = budget

variable {room : Nat}

lemma readElems_within {rd : QItem → Nat → q.Ctx → Reading q CborValue}
    (hrd : ReadsWithin room rd) (n : Nat) (arr : List CborValue) (budget : Nat) (c : q.Ctx)
    (xs : List CborValue) (budget' : Nat) (c' : q.Ctx)
    (h : readElems q rd n arr budget c = .ok (xs, budget', c')) (ha : ∀ x ∈ arr, x.Built)
    (hd : CborValue.depthAll arr ≤ room) : (∀ x ∈ xs, x.Built) ∧ CborValue.depthAll xs ≤ room ∧
      CborValue.itemsAll xs + budget' = CborValue.itemsAll arr + budget := by
  induction n generalizing arr budget c with
  | zero =>
    cases h
    exact ⟨ha, hd, rfl⟩
  | succ n ih =>
    rw [readElems] at h
    split at h
    · cases h
    · split at h
      · cases h
      · next v b c₂ hr =>
        obtain ⟨hv, hvd, hvi⟩ := hrd _ _ _ _ _ _ hr
        obtain ⟨h1, h2, h3⟩ := ih (arr ++ [v]) b c₂ h (by simpa [or_imp, forall_and] using ⟨ha, hv⟩)
          (by simp only [CborValue.depthAll_append, CborValue.depthAll]; omega)
        refine ⟨h1, h2, ?_⟩
        simp only [CborValue.itemsAll_append, CborValue.itemsAll] at h3
        omega

lemma readEntries_within {rd : QItem → Nat → q.Ctx → Reading q CborValue}
    (hrd : ReadsWithin room rd) (n : Nat) (acc : CborMap) (budget : Nat) (c : q.Ctx)
    (m : CborMap) (budget' : Nat) (c' : q.Ctx)
    (h : readEntries q rd n acc budget c = .ok (m, budget', c')) (hs : Sorted CanonicalKeyLess acc)
    (ha : ∀ p ∈ acc, p.2.Built) (hd : CborValue.depthEntries acc ≤ room) :
    Sorted CanonicalKeyLess m ∧ (∀ p ∈ m, p.2.Built) ∧ CborValue.depthEntries m ≤ room ∧
      CborValue.itemsEntries m + budget' = CborValue.itemsEntries acc + budget := by
  induction n generalizing acc budget c with
  | zero =>
    cases h
    exact ⟨hs, ha, hd, rfl⟩
  | succ n ih =>
    rw [readEntries] at h
    split at h
    · cases h
    · split at h
      · next key _ =>
        split at h
        · cases h
        · next v b c₂ hr =>
          split_ifs at h with hf
          obtain ⟨hv, hvd, hvi⟩ := hrd _ _ _ _ _ _ hr
          have hi : emplace CanonicalKeyLess key v acc = OrdMap.insert CanonicalKeyLess key v acc :=
            if_neg hf
          obtain ⟨h1, h2, h3, h4⟩ := ih _ b c₂ h (sorted_emplace CanonicalKeyLess hs key v)
            (fun p hp => (mem_emplace CanonicalKeyLess hp).elim (fun e => e ▸ hv) (ha p))
            (by rw [hi, CborValue.depthEntries_insert]; omega)
          refine ⟨h1, h2, h3, ?_⟩
          rw [hi, CborValue.itemsEntries_insert] at h4
          omega
      · cases h

lemma readValue_within (room : Nat) : ReadsWithin room (readValue q room) := by
  induction room with
  | zero =>
    intro i budget c v budget' c' h
    cases h
  | succ room ih =>
    intro i budget c v budget' c' h
    rw [readValue] at h
    split_ifs at h with hb
    have hl : ∀ {w : CborValue}, w.depth = 0 → w.items = 1 → w.Built →
        (Except.ok (w, budget - 1, c) : Reading q CborValue) = .ok (v, budget', c') →
        v.Built ∧ v.depth < room + 1 ∧ v.items + budget' = budget := by
      intro w h0 h1 hw e
      cases e
      exact ⟨hw, by omega, by omega⟩
    split at h
    · exact hl rfl rfl (.int _) h
    · refine hl ?_ ?_ (.ofUInt64 _) h <;> unfold CborValue.ofUInt64 <;> split <;> rfl
    · exact hl rfl rfl (.bool _) h
    · exact hl rfl rfl .null h
    · exact hl rfl rfl (.double _) h
    · exact hl rfl rfl (.text _) h
    · exact hl rfl rfl (.bytes _) h
    · split_ifs at h
      dsimp only at h
      split at h
      · cases h
      · next xs b c₂ hr =>
        cases h
        obtain ⟨h1, h2, h3⟩ :=
          readElems_within ih _ _ _ _ _ _ _ hr (by simp) (by simp [CborValue.depthAll])
        simp only [CborValue.itemsAll] at h3
        exact ⟨.array _ h1, by simp only [CborValue.depth]; omega, by
          simp only [CborValue.items]; omega⟩
    · split_ifs at h
      dsimp only at h
      split at h
      · cases h
      · next m b c₂ hr =>
        cases h
        obtain ⟨h0, h1, h2, h3⟩ := readEntries_within ih _ _ _ _ _ _ _ hr
          (sorted_nil CanonicalKeyLess) (by simp) (by simp [CborValue.depthEntries])
        simp only [CborValue.itemsEntries] at h3
        exact ⟨.map _ h0 h1, by simp only [CborValue.depth]; omega, by
          simp only [CborValue.items]; omega⟩
    · cases h

end

/-! ## The two directions -/

/-- what QCBOR's limits leave of a value, besides the caps of `decode` -/
structure CborValue.InLimits (v : CborValue) : Prop where
  nesting : v.nesting ≤ maxArrayNesting
  size : v.encodedSize ≤ maxArrayOffset

namespace CborValue

mutual
lemma depth_le_nesting (v : CborValue) : v.depth ≤ v.nesting := by
  cases v with
  | array xs =>
    have := depthAll_le xs
    simpa [depth, nesting] using this
  | map m =>
    have := depthEntries_le m
    simpa [depth, nesting] using this
  | _ => exact Nat.le_refl _

lemma depthAll_le (xs : List CborValue) : depthAll xs ≤ nestingAll xs + 1 := by
  cases xs with
  | nil => simp [depthAll]
  | cons x xs =>
    have h1 := depth_le_nesting x
    have h2 := depthAll_le xs
    simp only [depthAll, nestingAll]
    omega

lemma depthEntries_le (m : CborMap) : depthEntries m ≤ nestingEntries m + 1 := by
  cases m with
  | nil => simp [depthEntries]
  | cons p m =>
    have h1 := depth_le_nesting p.2
    have h2 := depthEntries_le m
    simp only [depthEntries, nestingEntries]
    omega
end

variable {v : CborValue} {b : Bytes}

lemma InLimits.fits (h : v.InLimits) (hi : v.items ≤ kMaxCborItems) : Fits v.item where
  nesting := v.nesting_item.trans_le h.nesting
  width := v.width_item_le.trans (hi.trans (by decide))
  size := h.size

variable {q : Qcbor}

lemma encode_eq (hq : Documented q) (h : v.InLimits) (hn : v.noNaN = true)
    (hi : v.items ≤ kMaxCborItems) : v.encode q = v.item.encode := by
  have hf := h.fits hi
  have hc := isNaN_encodeValue v hn
  have hs := hq.size_of_fits _ _ v.emits_encodeValue hf hc
  have hb := hq.finish_of_fits _ _ _ v.emits_encodeValue hf hc (Nat.le_refl _)
  simp [encode, hs, hb]

lemma encode_too_deep (hq : Documented q) (h : maxArrayNesting < v.nesting) : v.encode q = [] := by
  have hs := hq.too_deep _ _ v.emits_encodeValue (v.nesting_item ▸ h)
  simp [encode, hs]

/-- **A value without NaN, within the caps and QCBOR's limits, decodes from its encoding.** -/
lemma decode_encode (hq : Documented q) (hv : v.Built) (hn : v.noNaN = true)
    (hi : v.items ≤ kMaxCborItems) (h : v.InLimits) : decode q (v.encode q) = .ok v := by
  have hd : v.depth < kMaxCborDepth + 1 := by
    have h1 := v.depth_le_nesting
    have h2 := h.nesting
    simp only [maxArrayNesting, kMaxCborDepth] at *
    omega
  obtain ⟨c, hy, hf⟩ := hq.decodes _ _ v.emits_encodeValue (h.fits hi) (isNaN_encodeValue v hn)
  obtain ⟨i, c₁, hg, -, hr⟩ :=
    readValue_walk v hv .none (kMaxCborDepth + 1) kMaxCborItems _ c hy hd hi hi
  have he := encode_eq hq h hn hi
  simp [decode, he, hg, hr, hf]

lemma encode_of_decode (h : decode q b = .ok v) : v.encode q = b := by
  unfold decode at h
  split at h
  · cases h
  · split at h
    · cases h
    · split_ifs at h with h1 h2
      cases h
      exact h2

lemma built_of_decode (h : decode q b = .ok v) : v.Built ∧ v.InCaps := by
  unfold decode at h
  split at h
  · cases h
  · split at h
    · cases h
    · next w b' c hr =>
      split_ifs at h
      cases h
      obtain ⟨hv, hd, hi⟩ := readValue_within _ _ _ _ _ _ _ hr
      exact ⟨hv, ⟨by omega, by omega⟩⟩

lemma nesting_of_decode (hq : Documented q) (h : decode q b = .ok v) :
    v.nesting ≤ maxArrayNesting := by
  by_contra hn
  have he := encode_too_deep hq (Nat.lt_of_not_le hn)
  rw [encode_of_decode h] at he
  subst he
  simp [decode, hq.empty_input] at h

mutual
lemma beq_self (v : CborValue) : beq v v = v.noNaN := by
  cases v with
  | double d => cases h : Ieee.isNaN d <;> simp [beq, noNaN, Ieee.eq, h]
  | array xs => simpa only [beq, noNaN] using beqAll_self xs
  | map m => simpa only [beq, noNaN] using beqEntries_self m
  | _ => simp [beq, noNaN]

lemma beqAll_self (xs : List CborValue) : beqAll xs xs = noNaNAll xs := by
  cases xs with
  | nil => rfl
  | cons x xs => simp [beqAll, noNaNAll, beq_self x, beqAll_self xs]

lemma beqEntries_self (m : CborMap) : beqEntries m m = noNaNEntries m := by
  cases m with
  | nil => rfl
  | cons p m =>
    obtain ⟨k, x⟩ := p
    simp [beqEntries, noNaNEntries, beq_self x, beqEntries_self m]
end

/-- **The codec is canonical.**  Within the caps and QCBOR's limits a value without NaN decodes
from its encoding and compares equal to it; what decodes is the encoding of the value it decodes
to, a built value within the caps; and no two byte strings decode to one value. -/
theorem codec_canonical (q : Qcbor) (hq : Documented q) :
    (∀ v : CborValue, v.Built → v.InCaps → v.InLimits → v.noNaN = true →
      ∃ w, decode q (v.encode q) = .ok w ∧ w = v ∧ beq w v = true) ∧ (∀ b v, decode q b = .ok v →
      v.encode q = b ∧ v.Built ∧ v.InCaps ∧ v.nesting ≤ maxArrayNesting) ∧
    (∀ b b' v, decode q b = .ok v → decode q b' = .ok v → b = b') := by
  refine ⟨fun v hv hc hl hn => ⟨v, decode_encode hq hv hn hc.items hl, rfl, ?_⟩, fun b v h => ?_,
      fun b b' v h h' => ?_⟩
  · rw [beq_self, hn]
  · obtain ⟨hv, hc⟩ := built_of_decode h
    exact ⟨encode_of_decode h, hv, hc, nesting_of_decode hq h⟩
  · exact (encode_of_decode h).symm.trans (encode_of_decode h')

theorem codec_canonical_reference : Documented reference ∧
      ∃ w, decode reference ((array [text (lit "a"), int 5]).encode reference) = .ok w ∧
        w = array [text (lit "a"), int 5] ∧ beq w (array [text (lit "a"), int 5]) = true :=
  ⟨reference_documented, (codec_canonical reference reference_documented).1
      (array [text (lit "a"), int 5])
      (.array _ (by simp [Built.text, Built.int])) ⟨by decide, by decide⟩
      ⟨by decide, by decide⟩ (by decide)⟩

/-- `n + 1` arrays, one inside the other -/
def nestedArrays : Nat → CborValue
  | 0 => array []
  | n + 1 => array [nestedArrays n]

lemma built_nestedArrays (n : Nat) : (nestedArrays n).Built := by
  induction n with
  | zero => exact .array [] (by simp)
  | succ n ih => exact .array _ (by simpa using ih)

def quietNaN : BitVec 64 := 0x7ff8000000000000#64
def negZero : BitVec 64 := 0x8000000000000000#64

/-- sixteen nested arrays are within the caps and are not encoded; a NaN comes back and does not
compare equal; the two zeros compare equal and have two encodings -/
theorem codec_canonical_fails : ((nestedArrays 15).Built ∧ (nestedArrays 15).InCaps ∧
      decode reference ((nestedArrays 15).encode reference) = .error .malformed) ∧
    ((double quietNaN).Built ∧ (double quietNaN).InCaps ∧
      ∀ w, decode reference ((double quietNaN).encode reference) = .ok w →
        beq w (double quietNaN) = false) ∧ (decode reference [0xf9, 0, 0] = .ok (double 0) ∧
      decode reference [0xf9, 0x80, 0] = .ok (double negZero) ∧
      beq (double 0) (double negZero) = true) := by
  have hz : ∀ d : BitVec 64, Ieee.isNaN d = false → (double d).InLimits →
      decode reference ((double d).encode reference) = .ok (double d) := fun d hd hl =>
    decode_encode reference_documented (.double d) (by simp [noNaN, hd])
      (by simp [items, kMaxCborItems]) hl
  refine ⟨⟨built_nestedArrays 15, ⟨by decide, by decide⟩, ?_⟩,
    ⟨.double _, ⟨by decide, by decide⟩, fun w _ => ?_⟩, ?_, ?_, by decide⟩
  · rw [encode_too_deep reference_documented (by decide)]
    rfl
  · have hn : Ieee.isNaN quietNaN = true := by decide
    cases w <;> simp [beq, Ieee.eq, hn]
  · exact hz 0 (by decide) ⟨by decide, by decide⟩
  · exact hz negZero (by decide) ⟨by decide, by decide⟩

end CborValue

end LibreAgent.Wire
