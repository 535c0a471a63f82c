import LibreAgent.Lib.Bytes
import LibreAgent.Lib.Ieee

/-!
# RFC 8949 data items with text map keys

The definite-length items of the format, their preferred serialization, and a reader for it.
-/

set_option linter.unusedVariables false

namespace Rfc8949

open Bytes List

/-! ## Heads -/

def initial (major info : Nat) : UInt8 := UInt8.ofNat (major * 32 + info)

/-- a head with the shortest argument that holds `n` -/
def head (major n : Nat) : Bytes :=
  if n < 24 then [initial major n]
  else if n < 256 ^ 1 then initial major 24 :: be 1 n
  else if n < 256 ^ 2 then initial major 25 :: be 2 n
  else if n < 256 ^ 4 then initial major 26 :: be 4 n
  else initial major 27 :: be 8 n

def parseHead : Bytes → Option (Nat × Nat × Bytes)
  | [] => none
  | b :: bs =>
    let major := b.toNat / 32
    match b.toNat % 32 with
    | 24 => (ofBe 0 1 bs).map fun p => (major, p)
    | 25 => (ofBe 0 2 bs).map fun p => (major, p)
    | 26 => (ofBe 0 4 bs).map fun p => (major, p)
    | 27 => (ofBe 0 8 bs).map fun p => (major, p)
    | info => if info < 24 then some (major, info, bs) else none

variable {major info n : Nat}

lemma initial_toNat (hm : major < 8) (hi : info < 32) :
    (initial major info).toNat / 32 = major ∧ (initial major info).toNat % 32 = info := by
  have h : (initial major info).toNat = major * 32 + info := by
    rw [initial, UInt8.toNat_ofNat', Nat.mod_eq_of_lt (by omega)]
  omega

lemma parseHead_small (hm : major < 8) (hn : n < 24) (rest : Bytes) :
    parseHead (initial major n :: rest) = some (major, n, rest) := by
  obtain ⟨h1, h2⟩ := initial_toNat hm (show n < 32 by omega)
  unfold parseHead
  simp only [h1, h2]
  split <;> first | omega | simp [hn]

lemma parseHead_wide {k : Nat} (hm : major < 8)
    (hk : (info, k) ∈ [(24, 1), (25, 2), (26, 4), (27, 8)]) (bs : Bytes) :
    parseHead (initial major info :: bs) = (ofBe 0 k bs).map fun p => (major, p) := by
  have hi : info < 32 := by
    simp only [mem_cons, Prod.mk.injEq, not_mem_nil, or_false] at hk
    omega
  obtain ⟨h1, h2⟩ := initial_toNat hm hi
  unfold parseHead
  simp only [h1, h2]
  simp only [mem_cons, Prod.mk.injEq, not_mem_nil, or_false] at hk
  rcases hk with ⟨rfl, rfl⟩ | ⟨rfl, rfl⟩ | ⟨rfl, rfl⟩ | ⟨rfl, rfl⟩ <;> rfl

lemma parseHead_head (hm : major < 8) (hn : n < 2 ^ 64) (rest : Bytes) :
    parseHead (head major n ++ rest) = some (major, n, rest) := by
  unfold head
  split_ifs with h0 h1 h2 h4
  · exact parseHead_small hm h0 rest
  · rw [cons_append, parseHead_wide (k := 1) hm (by simp), ofBe_be_of_lt h1]; rfl
  · rw [cons_append, parseHead_wide (k := 2) hm (by simp), ofBe_be_of_lt h2]; rfl
  · rw [cons_append, parseHead_wide (k := 4) hm (by simp), ofBe_be_of_lt h4]; rfl
  · rw [cons_append, parseHead_wide (k := 8) hm (by simp), ofBe_be_of_lt (by omega)]; rfl

lemma initial_lt {major i j : Nat} (hm : major < 8) (h : i < j) (hj : j < 32) :
    initial major i < initial major j := by
  rw [UInt8.lt_iff_toNat_lt, initial, initial, UInt8.toNat_ofNat', UInt8.toNat_ofNat',
      Nat.mod_eq_of_lt (by omega),
    Nat.mod_eq_of_lt (by omega)]
  omega

/-- longer arguments have larger heads, whatever follows them -/
lemma lexLess_head {major m n : Nat} (hm : major < 8) (h : m < n) (hn : n < 2 ^ 64) (s t : Bytes) :
    lexLess (head major m ++ s) (head major n ++ t) := by
  have hlt : ∀ {i j : Nat} {a b : Bytes}, i < j → j < 32 →
    lexLess (initial major i :: a) (initial major j :: b) :=
    fun hi hj => lexLess_cons.mpr (Or.inl (initial_lt hm hi hj))
  have heq : ∀ {i k : Nat}, n < 256 ^ k →
      lexLess (initial major i :: (be k m ++ s)) (initial major i :: (be k n ++ t)) := fun hk => by
    refine lexLess_cons.mpr (Or.inr ⟨rfl, lexLess_be ?_ s t⟩)
    rwa [Nat.mod_eq_of_lt hk, Nat.mod_eq_of_lt (h.trans hk)]
  unfold head
  -- both arguments have one of five widths, that of `m` not the larger one
  split_ifs <;> simp only [List.cons_append, List.nil_append] <;>
    first | omega | (apply hlt <;> omega) | (apply heq; omega)

/-! ## Items -/

/-- a data item; `negative n` stands for `-1 - n` -/
inductive Item where
  | unsigned (n : UInt64)
  | negative (n : UInt64)
  | bytes (b : Bytes)
  | text (s : Bytes)
  | array (xs : List Item)
  | map (m : List (Bytes × Item))
  | bool (b : Bool)
  | null
  | float16 (b : BitVec 16)
  | float32 (b : BitVec 32)
  | float64 (b : BitVec 64)

namespace Item

mutual
def encode : Item → Bytes
  | unsigned n => head 0 n.toNat
  | negative n => head 1 n.toNat
  | bytes b => head 2 b.length ++ b
  | text s => head 3 s.length ++ s
  | array xs => head 4 xs.length ++ encodeAll xs
  | map m => head 5 m.length ++ encodeEntries m
  | bool false => [initial 7 20]
  | bool true => [initial 7 21]
  | null => [initial 7 22]
  | float16 b => initial 7 25 :: be 2 b.toNat
  | float32 b => initial 7 26 :: be 4 b.toNat
  | float64 b => initial 7 27 :: be 8 b.toNat

def encodeAll : List Item → Bytes
  | [] => []
  | x :: xs => x.encode ++ encodeAll xs

def encodeEntries : List (Bytes × Item) → Bytes
  | [] => []
  | (k, x) :: m => (head 3 k.length ++ k) ++ (x.encode ++ encodeEntries m)
end

mutual
def nesting : Item → Nat
  | array xs => nestingAll xs + 1
  | map m => nestingEntries m + 1
  | _ => 0

def nestingAll : List Item → Nat
  | [] => 0
  | x :: xs => max x.nesting (nestingAll xs)

def nestingEntries : List (Bytes × Item) → Nat
  | [] => 0
  | (_, x) :: m => max x.nesting (nestingEntries m)
end

mutual
def width : Item → Nat
  | array xs => max xs.length (widthAll xs)
  | map m => max m.length (widthEntries m)
  | _ => 0

def widthAll : List Item → Nat
  | [] => 0
  | x :: xs => max x.width (widthAll xs)

def widthEntries : List (Bytes × Item) → Nat
  | [] => 0
  | (_, x) :: m => max x.width (widthEntries m)
end

/-! ## Reading items back -/

/-- `n` readings in a row -/
def parseMany {α : Type} (p : Bytes → Option (α × Bytes)) : Nat → Bytes → Option (List α × Bytes)
  | 0, bs => some ([], bs)
  | n + 1, bs =>
    match p bs with
    | none => none
    | some (x, bs) =>
      match parseMany p n bs with
      | none => none
      | some (xs, bs) => some (x :: xs, bs)

/-- the `n` content bytes of a string -/
def parseContent (n : Nat) (bs : Bytes) : Option (Bytes × Bytes) :=
  if n ≤ bs.length then some (bs.take n, bs.drop n) else none

def parseEntry (p : Bytes → Option (Item × Bytes)) (bs : Bytes) : Option ((Bytes × Item) × Bytes) :=
  match parseHead bs with
  | some (3, n, bs) =>
    match parseContent n bs with
    | none => none
    | some (k, bs) => (p bs).map fun r => ((k, r.1), r.2)
  | _ => none

def parseSpecial (info : Nat) (bs : Bytes) : Option (Item × Bytes) :=
  match info with
  | 20 => some (bool false, bs)
  | 21 => some (bool true, bs)
  | 22 => some (null, bs)
  | 25 => (ofBe 0 2 bs).map fun p => (float16 (BitVec.ofNat 16 p.1), p.2)
  | 26 => (ofBe 0 4 bs).map fun p => (float32 (BitVec.ofNat 32 p.1), p.2)
  | 27 => (ofBe 0 8 bs).map fun p => (float64 (BitVec.ofNat 64 p.1), p.2)
  | _ => none

/-- items of the other major types; `p` reads the members of a container -/
def parsePlain (p : Bytes → Option (Item × Bytes)) (bs : Bytes) : Option (Item × Bytes) :=
  match parseHead bs with
  | some (0, n, bs) => some (unsigned (UInt64.ofNat n), bs)
  | some (1, n, bs) => some (negative (UInt64.ofNat n), bs)
  | some (2, n, bs) => (parseContent n bs).map fun r => (bytes r.1, r.2)
  | some (3, n, bs) => (parseContent n bs).map fun r => (text r.1, r.2)
  | some (4, n, bs) => (parseMany p n bs).map fun r => (array r.1, r.2)
  | some (5, n, bs) => (parseMany (parseEntry p) n bs).map fun r => (map r.1, r.2)
  | _ => none

def parse : Nat → Bytes → Option (Item × Bytes)
  | 0, _ => none
  | _ + 1, [] => none
  | fuel + 1, b :: bs =>
    if b.toNat / 32 = 7 then parseSpecial (b.toNat % 32) bs else parsePlain (parse fuel) (b :: bs)

lemma parseContent_append (s rest : Bytes) :
    parseContent s.length (s ++ rest) = some (s, rest) := by
  simp [parseContent]

lemma head_cons (major n : Nat) :
    ∃ info bs, info < 32 ∧ head major n = initial major info :: bs := by
  unfold head
  split_ifs
  · exact ⟨n, [], by omega, rfl⟩
  · exact ⟨24, _, by omega, rfl⟩
  · exact ⟨25, _, by omega, rfl⟩
  · exact ⟨26, _, by omega, rfl⟩
  · exact ⟨27, _, by omega, rfl⟩

lemma parse_head {major : Nat} (hm : major < 7) (n fuel : Nat) (rest : Bytes) :
    parse (fuel + 1) (head major n ++ rest) = parsePlain (parse fuel) (head major n ++ rest) := by
  obtain ⟨info, bs, hi, e⟩ := head_cons major n
  obtain ⟨h1, -⟩ := initial_toNat (show major < 8 by omega) hi
  rw [e, cons_append, parse, h1, if_neg (by omega)]

lemma parse_special {info : Nat} (hi : info < 32) (fuel : Nat) (bs : Bytes) :
    parse (fuel + 1) (initial 7 info :: bs) = parseSpecial info bs := by
  obtain ⟨h1, h2⟩ := initial_toNat (show 7 < 8 by omega) hi
  rw [parse, h1, h2, if_pos rfl]

lemma length_encode_pos (x : Item) : 0 < x.encode.length := by
  have hh : ∀ major n, 0 < (head major n).length := fun major n => by
    obtain ⟨info, bs, -, e⟩ := head_cons major n
    simp [e]
  cases x with
  | bool b => cases b <;> simp [encode]
  | null => simp [encode]
  | _ => simp [encode, hh]

lemma length_le_encodeAll (xs : List Item) : xs.length ≤ (encodeAll xs).length := by
  induction xs with
  | nil => simp
  | cons x xs ih =>
    have := length_encode_pos x
    simp only [encodeAll, length_cons, length_append]
    omega

lemma length_le_encodeEntries (m : List (Bytes × Item)) : m.length ≤ (encodeEntries m).length := by
  induction m with
  | nil => simp
  | cons p m ih =>
    have := length_encode_pos p.2
    simp only [encodeEntries, length_cons, length_append]
    omega

mutual
lemma parse_encode (x : Item) (fuel : Nat) (rest : Bytes) (hf : x.nesting < fuel)
    (hl : x.encode.length < 2 ^ 64) : parse fuel (x.encode ++ rest) = some (x, rest) := by
  obtain ⟨fuel, rfl⟩ : ∃ f, fuel = f + 1 := ⟨fuel - 1, by omega⟩
  cases x with
  | unsigned n | negative n =>
    rw [encode, parse_head (by omega), parsePlain, parseHead_head (by omega) n.toNat_lt]
    simp
  | bytes | text =>
    simp only [encode, length_append] at hl
    rw [encode, append_assoc, parse_head (by omega), parsePlain,
      parseHead_head (by omega) (by omega)]
    simp [parseContent_append]
  | array xs =>
    simp only [encode, length_append] at hl
    simp only [nesting] at hf
    have hn := length_le_encodeAll xs
    rw [encode, append_assoc, parse_head (by omega), parsePlain,
      parseHead_head (by omega) (by omega)]
    simp [parseMany_encodeAll xs fuel rest (by omega) (by omega)]
  | map m =>
    simp only [encode, length_append] at hl
    simp only [nesting] at hf
    have hn := length_le_encodeEntries m
    rw [encode, append_assoc, parse_head (by omega), parsePlain,
      parseHead_head (by omega) (by omega)]
    simp [parseMany_encodeEntries m fuel rest (by omega) (by omega)]
  | bool b => cases b <;> exact parse_special (by omega) fuel rest
  | null => exact parse_special (by omega) fuel rest
  | float16 b | float32 b | float64 b =>
    rw [encode, cons_append, parse_special (by omega), parseSpecial, ofBe_be_of_lt b.isLt]
    simp

lemma parseMany_encodeAll (xs : List Item) (fuel : Nat) (rest : Bytes)
    (hf : nestingAll xs < fuel) (hl : (encodeAll xs).length < 2 ^ 64) :
    parseMany (parse fuel) xs.length (encodeAll xs ++ rest) = some (xs, rest) := by
  cases xs with
  | nil => rfl
  | cons x xs =>
    simp only [nestingAll] at hf
    simp only [encodeAll, length_append] at hl
    have hx := parse_encode x fuel (encodeAll xs ++ rest) (by omega) (by omega)
    have hxs := parseMany_encodeAll xs fuel rest (by omega) (by omega)
    simp [parseMany, encodeAll, hx, hxs]

lemma parseMany_encodeEntries (m : List (Bytes × Item)) (fuel : Nat) (rest : Bytes)
    (hf : nestingEntries m < fuel) (hl : (encodeEntries m).length < 2 ^ 64) :
    parseMany (parseEntry (parse fuel)) m.length (encodeEntries m ++ rest) = some (m, rest) := by
  cases m with
  | nil => rfl
  | cons p m =>
    obtain ⟨k, x⟩ := p
    simp only [nestingEntries] at hf
    simp only [encodeEntries, length_append] at hl
    have hx := parse_encode x fuel (encodeEntries m ++ rest) (by omega) (by omega)
    have hm := parseMany_encodeEntries m fuel rest (by omega) (by omega)
    have hh := parseHead_head (show 3 < 8 by omega) (show k.length < 2 ^ 64 by omega)
      (k ++ (x.encode ++ (encodeEntries m ++ rest)))
    simp [parseMany, encodeEntries, parseEntry, hh, parseContent_append, hx, hm]
end

end Item

lemma lexLess_text {a b : Bytes} (hb : b.length < 2 ^ 64) (h : shortLess a b) :
    lexLess (Item.text a).encode (Item.text b).encode := by
  rw [Item.encode, Item.encode]
  rcases h with h | ⟨hl, h⟩
  · exact lexLess_head (by omega) h hb a b
  · rw [hl]
    exact (lexLess_append_left _).mpr h

lemma lexLess_text_iff {a b : Bytes} (ha : a.length < 2 ^ 64) (hb : b.length < 2 ^ 64) :
    shortLess a b ↔ lexLess (Item.text a).encode (Item.text b).encode := by
  refine ⟨lexLess_text hb, fun h => ?_⟩
  by_contra hn
  rcases (trichotomous_of shortLess a b) with h' | rfl | h'
  · exact hn h'
  · exact irrefl_of lexLess _ h
  · exact asymm_of lexLess h (lexLess_text ha h')

end Rfc8949
