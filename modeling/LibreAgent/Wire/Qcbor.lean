import LibreAgent.Lib.Rfc8949

/-!
# The QCBOR interface

`Cbor.cpp` reaches CBOR bytes only through the QCBOR library.  The library is a parameter of the
model: `Qcbor` lists the calls that are made, `Documented` what its documentation promises of them.

* `QItem` : one `QCBORItem`; `walk` : the items `QCBORDecode_GetNext` returns, in pre-order;
* `reference` : an implementation by the RFC 8949 codec, and `reference_documented`.
-/

set_option linter.unusedVariables false

namespace LibreAgent.Wire

open Bytes Rfc8949 List Item

/-! ## Encoder calls -/

inductive Call where
  | addNull
  | addBool (b : Bool)
  | addUInt64 (u : UInt64)
  | addInt64 (i : Int64)
  | addDouble (d : BitVec 64)
  | addDoubleNoPreferred (d : BitVec 64)
  | addFloatNoPreferred (f : BitVec 32)
  | addText (s : Bytes)
  | addBytes (b : Bytes)
  | openArray
  | closeArray
  | openMap
  | closeMap
deriving DecidableEq

/-- the item of a signed integer: `-1 - i` is the complement of `i` -/
def intItem (i : Int64) : Item :=
  if 0 ≤ i then .unsigned i.toUInt64 else .negative (~~~i.toUInt64)

def preferredFloat (d : BitVec 64) : Item :=
  match Ieee.exactHalf d with
  | some h => .float16 h
  | none =>
    match Ieee.exactSingle d with
    | some s => .float32 s
    | none => .float64 d

def Call.item : Call → Option Item
  | addNull => some .null
  | addBool b => some (.bool b)
  | addUInt64 u => some (.unsigned u)
  | addInt64 i => some (intItem i)
  | addDouble d => some (preferredFloat d)
  | addDoubleNoPreferred d => some (.float64 d)
  | addFloatNoPreferred f => some (.float32 f)
  | addText s => some (.text s)
  | addBytes b => some (.bytes b)
  | _ => none

def Call.isNaN : Call → Bool
  | addDouble d | addDoubleNoPreferred d => Ieee.isNaN d
  | addFloatNoPreferred f => Ieee.isNaN (Ieee.widenSingle f)
  | _ => false

lemma Call.item_flat {c : Call} {x : Item} (h : c.item = some x) : x.nesting = 0 ∧ x.width = 0 := by
  have hi : ∀ i, (intItem i).nesting = 0 ∧ (intItem i).width = 0 := fun i => by
    unfold intItem
    split <;> exact ⟨rfl, rfl⟩
  have hf : ∀ d, (preferredFloat d).nesting = 0 ∧ (preferredFloat d).width = 0 := fun d => by
    unfold preferredFloat
    split
    · exact ⟨rfl, rfl⟩
    · split <;> exact ⟨rfl, rfl⟩
  cases c <;> simp only [Call.item, Option.some.injEq, reduceCtorEq] at h <;> subst h <;>
    first | exact ⟨rfl, rfl⟩ | exact hi _ | exact hf _

mutual
inductive Emits : List Call → Item → Prop
  | scalar {c : Call} {x : Item} : c.item = some x → Emits [c] x
  | array {cs : List Call} {xs : List Item} :
      EmitsAll cs xs → Emits (.openArray :: (cs ++ [.closeArray])) (.array xs)
  | map {cs : List Call} {m : List (Bytes × Item)} :
      EmitsEntries cs m → Emits (.openMap :: (cs ++ [.closeMap])) (.map m)

inductive EmitsAll : List Call → List Item → Prop
  | nil : EmitsAll [] []
  | cons {cs ds : List Call} {x : Item} {xs : List Item} :
      Emits cs x → EmitsAll ds xs → EmitsAll (cs ++ ds) (x :: xs)

inductive EmitsEntries : List Call → List (Bytes × Item) → Prop
  | nil : EmitsEntries [] []
  | cons (k : Bytes) {cs ds : List Call} {x : Item} {m : List (Bytes × Item)} :
      Emits cs x → EmitsEntries ds m → EmitsEntries (.addText k :: (cs ++ ds)) ((k, x) :: m)
end

/-! ## Decoder items -/

inductive QValue where
  | int64 (i : Int64)
  | uint64 (u : UInt64)
  | bool (b : Bool)
  | null
  | double (d : BitVec 64)
  | textString (s : Bytes)
  | byteString (b : Bytes)
  | array (uCount : UInt16)
  | map (uCount : UInt16)
  | other
deriving DecidableEq

/-- `uLabelType` with the label -/
inductive QLabel where
  | none
  | textString (s : Bytes)
  | other
deriving DecidableEq

structure QItem where
  label : QLabel
  val : QValue
deriving DecidableEq

/-- `QCBOR_COUNT_INDICATES_INDEFINITE_LENGTH` -/
def countIndefinite : UInt16 := 65535

/-- `INT64_MAX` -/
def int64Max : Nat := 2 ^ 63 - 1

mutual
def walk (l : QLabel) : Item → List QItem
  | .unsigned n =>
    [⟨l, if n.toNat ≤ int64Max then .int64 n.toInt64 else .uint64 n⟩]
  | .negative n => [⟨l, .int64 (~~~n).toInt64⟩]
  | .bytes b => [⟨l, .byteString b⟩]
  | .text s => [⟨l, .textString s⟩]
  | .array xs => ⟨l, .array (UInt16.ofNat xs.length)⟩ :: walkAll xs
  | .map m => ⟨l, .map (UInt16.ofNat m.length)⟩ :: walkEntries m
  | .bool b => [⟨l, .bool b⟩]
  | .null => [⟨l, .null⟩]
  | .float16 b => [⟨l, .double (Ieee.widenHalf b)⟩]
  | .float32 b => [⟨l, .double (Ieee.widenSingle b)⟩]
  | .float64 b => [⟨l, .double b⟩]

def walkAll : List Item → List QItem
  | [] => []
  | x :: xs => walk .none x ++ walkAll xs

def walkEntries : List (Bytes × Item) → List QItem
  | [] => []
  | (k, x) :: m => walk (.textString k) x ++ walkEntries m
end

/-! ## The library and its documented behaviour -/

structure Qcbor where
  /-- `QCBOREncode_FinishGetSize` after the calls, `none` for an error -/
  finishGetSize : List Call → Option Nat
  /-- `QCBOREncode_Finish` after the calls into a buffer of the given size -/
  finish : Nat → List Call → Option Bytes
  Ctx : Type
  init : Bytes → Ctx
  getNext : Ctx → Option (QItem × Ctx)
  decodeFinish : Ctx → Bool

/-- `QCBOR_MAX_ARRAY_NESTING` -/
def maxArrayNesting : Nat := 15

/-- `QCBOR_MAX_ITEMS_IN_MAP`, the smaller of the two member limits -/
def maxItemsInMap : Nat := 32767

/-- `QCBOR_MAX_ARRAY_OFFSET` -/
def maxArrayOffset : Nat := 2 ^ 32 - 101

structure Fits (x : Item) : Prop where
  nesting : x.nesting ≤ maxArrayNesting
  width : x.width ≤ maxItemsInMap
  size : x.encode.length ≤ maxArrayOffset

/-- successive `GetNext` calls return these items -/
inductive Yields (q : Qcbor) : q.Ctx → List QItem → q.Ctx → Prop
  | nil (c : q.Ctx) : Yields q c [] c
  | cons {c c' c'' : q.Ctx} {i : QItem} {is : List QItem} :
      q.getNext c = some (i, c') → Yields q c' is c'' → Yields q c (i :: is) c''

/-- what QCBOR promises of an item within its limits; of a NaN nothing is asked -/
structure Documented (q : Qcbor) : Prop where
  size_of_fits : ∀ cs x, Emits cs x → Fits x → (∀ c ∈ cs, c.isNaN = false) →
    q.finishGetSize cs = some x.encode.length
  finish_of_fits : ∀ n cs x, Emits cs x → Fits x → (∀ c ∈ cs, c.isNaN = false) →
    x.encode.length ≤ n → q.finish n cs = some x.encode
  /-- `QCBOR_ERR_ARRAY_NESTING_TOO_DEEP` -/
  too_deep : ∀ cs x, Emits cs x → maxArrayNesting < x.nesting → q.finishGetSize cs = none
  decodes : ∀ cs x, Emits cs x → Fits x → (∀ c ∈ cs, c.isNaN = false) →
    ∃ c, Yields q (q.init x.encode) (walk .none x) c ∧ q.decodeFinish c = true
  /-- `QCBOR_ERR_NO_MORE_ITEMS` -/
  empty_input : q.getNext (q.init []) = none

lemma Yields.split {q : Qcbor} {c c'' : q.Ctx} {is js : List QItem}
    (h : Yields q c (is ++ js) c'') : ∃ c', Yields q c is c' ∧ Yields q c' js c'' := by
  induction is generalizing c with
  | nil => exact ⟨c, .nil c, h⟩
  | cons i is ih =>
    cases h with
    | cons hg ht =>
      obtain ⟨c', h1, h2⟩ := ih ht
      exact ⟨c', .cons hg h1, h2⟩

/-! ## A reference implementation

The encoder keeps the stack of open containers; the decoder reads the whole item first and hands
out its traversal. -/

inductive Open where
  | array (xs : List Item)
  | map (m : List (Bytes × Item))
  | label (m : List (Bytes × Item)) (k : Bytes)

def Open.push : Open → Item → Option Open
  | array xs, x => some (array (x :: xs))
  | map m, .text k => some (label m k)
  | map _, _ => none
  | label m k, x => some (map ((k, x) :: m))

/-- one call; the bottom of the stack is not a container but collects the top-level item -/
def Open.step : List Open → Call → Option (List Open)
  | st, .openArray => if st.length ≤ maxArrayNesting then some (array [] :: st) else none
  | st, .openMap => if st.length ≤ maxArrayNesting then some (map [] :: st) else none
  | array xs :: o :: st, .closeArray => (o.push (.array xs.reverse)).map (· :: st)
  | map m :: o :: st, .closeMap => (o.push (.map m.reverse)).map (· :: st)
  | o :: st, c => c.item.bind fun x => (o.push x).map (· :: st)
  | [], _ => none

def Open.run (st : List Open) (cs : List Call) : Option (List Open) := cs.foldlM Open.step st

def written (cs : List Call) : Option Item :=
  match Open.run [.array []] cs with
  | some [.array [x]] => some x
  | _ => none

def reference : Qcbor where
  finishGetSize cs := (written cs).map fun x => x.encode.length
  finish n cs := (written cs).bind fun x => if x.encode.length ≤ n then some x.encode else none
  Ctx := List QItem
  init bs :=
    match parse (maxArrayNesting + 1) bs with
    | some (x, []) => walk .none x
    | _ => []
  getNext
    | [] => none
    | i :: is => some (i, is)
  decodeFinish c := c.isEmpty

lemma yields_reference (is js : List QItem) : Yields reference (is ++ js) is js := by
  induction is with
  | nil => exact .nil (q := reference) js
  | cons i is ih => exact .cons (q := reference) rfl ih

namespace Open

variable (st : List Open)

lemma run_nil : run st [] = some st := rfl

lemma run_cons (c : Call) (cs : List Call) :
    run st (c :: cs) = (step st c).bind fun st => run st cs := rfl

lemma run_append (cs ds : List Call) :
    run st (cs ++ ds) = (run st cs).bind fun st => run st ds := by
  simp [run, List.foldlM_append]

lemma step_scalar {c : Call} {x : Item} (h : c.item = some x) (o : Open) (st : List Open) :
    step (o :: st) c = (o.push x).map (· :: st) := by
  cases c <;> simp_all [Call.item, step]

lemma step_openArray :
    step st .openArray = if st.length ≤ maxArrayNesting then some (array [] :: st) else none := by
  cases st <;> rfl

lemma step_openMap :
    step st .openMap = if st.length ≤ maxArrayNesting then some (map [] :: st) else none := by
  cases st <;> rfl

mutual
lemma run_emits {cs : List Call} {x : Item} (h : Emits cs x) (o : Open) (st : List Open)
    (hst : st.length ≤ maxArrayNesting) : run (o :: st) cs =
      if st.length + x.nesting ≤ maxArrayNesting then (o.push x).map (· :: st) else none := by
  cases h with
  | @scalar c x hc =>
    rw [run_cons, step_scalar hc, (Call.item_flat hc).1, Nat.add_zero, if_pos hst]
    cases o.push x <;> rfl
  | @array cs xs hxs =>
    rw [run_cons, step_openArray, nesting]
    by_cases hd : (o :: st).length ≤ maxArrayNesting
    · rw [if_pos hd, Option.bind_some, run_append, run_emitsAll hxs [] (o :: st) hd]
      have he : st.length + (nestingAll xs + 1) = (o :: st).length + nestingAll xs := by
        rw [length_cons]
        omega
      rw [he]
      split
      · rw [Option.bind_some, run_cons, step, append_nil, reverse_reverse]
        cases o.push (.array xs) <;> rfl
      · rfl
    · rw [length_cons] at hd
      rw [if_neg (by rw [length_cons]; omega), if_neg (by omega)]
      rfl
  | @map cs m hm =>
    rw [run_cons, step_openMap, nesting]
    by_cases hd : (o :: st).length ≤ maxArrayNesting
    · rw [if_pos hd, Option.bind_some, run_append, run_emitsEntries hm [] (o :: st) hd]
      have he : st.length + (nestingEntries m + 1) = (o :: st).length + nestingEntries m := by
        rw [length_cons]
        omega
      rw [he]
      split
      · rw [Option.bind_some, run_cons, step, append_nil, reverse_reverse]
        cases o.push (.map m) <;> rfl
      · rfl
    · rw [length_cons] at hd
      rw [if_neg (by rw [length_cons]; omega), if_neg (by omega)]
      rfl

lemma run_emitsAll {cs : List Call} {xs : List Item} (h : EmitsAll cs xs) (ys : List Item)
    (st : List Open) (hst : st.length ≤ maxArrayNesting) : run (array ys :: st) cs =
      if st.length + nestingAll xs ≤ maxArrayNesting then some (array (xs.reverse ++ ys) :: st)
      else none := by
  cases h with
  | nil => simp [run_nil, nestingAll, hst]
  | @cons cs ds x xs hx hxs =>
    rw [run_append, run_emits hx (array ys) st hst, nestingAll]
    by_cases hd : st.length + x.nesting ≤ maxArrayNesting
    · rw [if_pos hd]
      show run (array (x :: ys) :: st) ds = _
      rw [run_emitsAll hxs (x :: ys) st hst, reverse_cons, append_assoc]
      exact if_congr (by omega) rfl rfl
    · rw [if_neg hd, if_neg (by omega)]
      rfl

lemma run_emitsEntries {cs : List Call} {m : List (Bytes × Item)} (h : EmitsEntries cs m)
    (m' : List (Bytes × Item)) (st : List Open) (hst : st.length ≤ maxArrayNesting) :
    run (map m' :: st) cs =
      if st.length + nestingEntries m ≤ maxArrayNesting then some (map (m.reverse ++ m') :: st)
      else none := by
  cases h with
  | nil => simp [run_nil, nestingEntries, hst]
  | @cons k cs ds x m hx hm =>
    rw [run_cons, step_scalar (x := .text k) rfl]
    show run (label m' k :: st) (cs ++ ds) = _
    rw [run_append, run_emits hx (label m' k) st hst, nestingEntries]
    by_cases hd : st.length + x.nesting ≤ maxArrayNesting
    · rw [if_pos hd]
      show run (map ((k, x) :: m') :: st) ds = _
      rw [run_emitsEntries hm ((k, x) :: m') st hst, reverse_cons, append_assoc]
      exact if_congr (by omega) rfl rfl
    · rw [if_neg hd, if_neg (by omega)]
      rfl
end

end Open

lemma written_emits {cs : List Call} {x : Item} (h : Emits cs x) :
    written cs = if x.nesting ≤ maxArrayNesting then some x else none := by
  unfold written
  rw [Open.run_emits h (.array []) [] (Nat.zero_le _)]
  by_cases hn : x.nesting ≤ maxArrayNesting <;> simp [Open.push, hn]

lemma reference_documented : Documented reference where
  size_of_fits cs x h hx _ := by simp [reference, written_emits h, hx.nesting]
  finish_of_fits n cs x h hx _ hn := by simp [reference, written_emits h, hx.nesting, hn]
  too_deep cs x h hx := by simp [reference, written_emits h, Nat.not_le.mpr hx]
  decodes cs x h hx _ := by
    have hsz := hx.size
    have hp :=
      parse_encode x (maxArrayNesting + 1) [] (Nat.lt_succ_of_le hx.nesting)
        (lt_of_le_of_lt hsz (by decide))
    refine ⟨([] : List QItem), ?_, rfl⟩
    have hi : reference.init x.encode = walk .none x ++ [] := by
      simp only [append_nil] at hp
      simp [reference, hp]
    rw [hi]
    exact yields_reference _ _
  empty_input := rfl

end LibreAgent.Wire
