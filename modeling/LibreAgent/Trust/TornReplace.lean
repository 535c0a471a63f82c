import LibreAgent.Trust.CutState
import LibreAgent.Trust.StoredState

/-!
# A replacement that is cut short

`replace` fills a staging directory, swaps it for the live one and writes the state file last, so
that until that file lands the agent should believe nothing.  But the old state file is not taken
away first. A replacement that stops between leaves the old state beside anchors that it was not
stored with, and one that stops inside the state file leaves a text that may read as a state of its
own.

* `Disk`, `replaceSteps`, `Disk.stopped` : the directory step by step, stopped at a step or inside
  it;
* `cache_stopped` : what is seen then is what `AnchorCache.replace` leaves at one of its faults;
* `Spared`, `replace_all_or_nothing` : the stops that do no harm.
-/

namespace LibreAgent.Trust

open Bytes Text List

/-! ## The steps -/

structure Disk where
  live : List (Bytes × Bytes)
  staging : List (Bytes × Bytes)
  stateFile : Option Bytes

def Disk.cache (d : Disk) : AnchorCache :=
  ⟨d.live, d.stateFile⟩

inductive DiskStep where
  | createDirectories
  | removeStaging
  | createStaging
  | writeAnchor (name bytes : Bytes)
  | removeLive
  | renameStaging
  | writeState (text : Bytes)

variable (anchors : List Bytes)

def anchorFiles : List (Bytes × Bytes) :=
  anchors.mapIdx fun i a => (anchorName i, a)

def stagingSteps : List DiskStep :=
  [.createDirectories, .removeStaging, .createStaging]
    ++ (anchorFiles anchors).map fun f => .writeAnchor f.1 f.2

def replaceSteps (state : AnchorState) : List DiskStep :=
  stagingSteps anchors ++ [.removeLive, .renameStaging, .writeState (stateText state)]

def Disk.apply (d : Disk) : DiskStep → Disk
  | .createDirectories => d
  | .removeStaging => { d with staging := [] }
  | .createStaging => { d with staging := [] }
  | .writeAnchor name bytes => { d with staging := d.staging ++ [(name, bytes)] }
  | .removeLive => { d with live := [] }
  | .renameStaging => { d with live := d.staging, staging := [] }
  | .writeState text => { d with stateFile := some text }

structure Cut where
  /-- the files that a recursive removal leaves -/
  left : Bytes → Bool
  /-- the bytes that are written to a file, if it is opened at all -/
  written : Option Nat

def Disk.cut (d : Disk) (c : Cut) : DiskStep → Disk
  | .removeStaging => { d with staging := d.staging.filter fun f => c.left f.1 }
  | .writeAnchor name bytes =>
    match c.written with
    | none => d
    | some n => { d with staging := d.staging ++ [(name, bytes.take n)] }
  | .removeLive => { d with live := d.live.filter fun f => c.left f.1 }
  | .writeState text =>
    match c.written with
    | none => d
    | some n => { d with stateFile := some (text.take n) }
  | .createDirectories => d
  | .createStaging => d
  | .renameStaging => d

def Disk.stopped (d : Disk) (steps : List DiskStep) (k : Nat) (c : Cut) : Disk :=
  let reached := (steps.take k).foldl Disk.apply d
  match steps[k]? with
  | none => reached
  | some s => reached.cut c s

/-! ## What is seen after a stop -/

def faultAt (anchors k : Nat) (c : Cut) : Option Fault :=
  if k < 3 + anchors then some .staging
  else if k = 3 + anchors then some (.removing c.left)
  else if k = 4 + anchors then some .installing
  else if k = 5 + anchors then
    match c.written with
    | none => some .opening
    | some n => some (.writing n)
  else none

lemma length_stagingSteps : (stagingSteps anchors).length = 3 + anchors.length := by
  rw [stagingSteps, length_append, length_map, anchorFiles, length_mapIdx]
  rfl

lemma staging_unseen {anchors : List Bytes} {s : DiskStep} (h : s ∈ stagingSteps anchors) (d : Disk)
    (c : Cut) : (d.apply s).cache = d.cache ∧ (d.cut c s).cache = d.cache := by
  rw [stagingSteps, mem_append, mem_map] at h
  rcases h with h | ⟨f, -, rfl⟩
  · simp only [mem_cons, not_mem_nil, or_false] at h
    rcases h with rfl | rfl | rfl <;> exact ⟨rfl, rfl⟩
  · refine ⟨rfl, ?_⟩
    rw [Disk.cut]
    split <;> rfl

lemma staged_unseen {anchors : List Bytes} {steps : List DiskStep}
    (h : ∀ s ∈ steps, s ∈ stagingSteps anchors) (d : Disk) : (steps.foldl Disk.apply d).cache =
    d.cache := by
  induction steps generalizing d with
  | nil => rfl
  | cons s steps ih =>
    rw [foldl_cons, ih fun t ht => h t (mem_cons_of_mem _ ht)]
    exact (staging_unseen (h s mem_cons_self) d ⟨fun _ => true, none⟩).1

lemma writeAnchors (files : List (Bytes × Bytes)) (d : Disk) :
    (files.map fun f => DiskStep.writeAnchor f.1 f.2).foldl Disk.apply d
      = { d with staging := d.staging ++ files } := by
  induction files generalizing d with
  | nil => rw [append_nil]; rfl
  | cons f files ih =>
    rw [map_cons, foldl_cons, ih, Disk.apply, append_assoc, singleton_append]

lemma staged (d : Disk) :
    (stagingSteps anchors).foldl Disk.apply d = { d with staging := anchorFiles anchors } := by
  rw [stagingSteps, foldl_append, writeAnchors]
  rfl

lemma cache_stopped (d : Disk) (anchors : List Bytes) (state : AnchorState) (k : Nat) (c : Cut) :
    (d.stopped (replaceSteps anchors state) k c).cache
      = (d.cache.replace (faultAt anchors.length k c) anchors state).2 := by
  have hl := length_stagingSteps anchors
  by_cases hk : k < 3 + anchors.length
  · -- the stop is in the staging part, of which nothing is seen
    have hlt : k < (stagingSteps anchors).length := hl ▸ hk
    have ht : (replaceSteps anchors state).take k = (stagingSteps anchors).take k := by
      rw [replaceSteps, take_append_of_le_length (Nat.le_of_lt hlt)]
    have hst : (replaceSteps anchors state)[k]? = some ((stagingSteps anchors).get ⟨k, hlt⟩) := by
      rw [replaceSteps, List.getElem?_append_left hlt]
      exact List.getElem?_eq_getElem hlt
    rw [Disk.stopped, ht, hst, faultAt, if_pos hk]
    show (Disk.cut _ c _).cache = d.cache
    rw [(staging_unseen (get_mem _ _) _ c).2]
    exact staged_unseen (fun s hs => mem_of_mem_take hs) d
  · obtain ⟨j, rfl⟩ := Nat.exists_eq_add_of_le (Nat.not_lt.mp hk)
    have ht : (replaceSteps anchors state).take (3 + anchors.length + j)
        = stagingSteps anchors ++ List.take j
          [.removeLive, .renameStaging, .writeState (stateText state)] := by
      rw [replaceSteps, ← hl, take_length_add_append]
    have hst : (replaceSteps anchors state)[3 + anchors.length + j]?
        = [DiskStep.removeLive, .renameStaging, .writeState (stateText state)][j]? := by
      rw [replaceSteps, ← hl, List.getElem?_append_right (Nat.le_add_right _ _),
        Nat.add_sub_cancel_left]
    rw [Disk.stopped, ht, hst, foldl_append, staged, faultAt, if_neg hk]
    match j with
    | 0 =>
      rw [if_pos (Nat.add_zero _)]
      rfl
    | 1 =>
      rw [if_neg (by omega), if_pos (by omega)]
      rfl
    | 2 =>
      rw [if_neg (by omega), if_neg (by omega), if_pos (by omega)]
      obtain ⟨left, written⟩ := c
      cases written with
      | none | some => rfl
    | j + 3 =>
      have hd : [DiskStep.removeLive, .renameStaging, .writeState (stateText state)].length ≤
        j + 3 := Nat.le_add_left 3 j
      rw [if_neg (by omega), if_neg (by omega), if_neg (by omega), take_of_length_le hd,
        List.getElem?_eq_none hd]
      rfl

/-! ## Old, nothing or new -/

/-- what is reported is the old state with the old anchors, no state, or the new state with the new
anchors -/
def AllOrNothing (before : AnchorCache) (anchors : List Bytes) (state : AnchorState)
    (after : AnchorCache) : Prop :=
  (after.state = before.state ∧ after.anchors.Perm before.anchors) ∨
  after.state.present = false ∨
  (after.state = { state with present := true } ∧ after.anchors.Perm anchors)

instance (before : AnchorCache) (anchors : List Bytes) (state : AnchorState) (after : AnchorCache) :
    Decidable (AllOrNothing before anchors state after) :=
  inferInstanceAs (Decidable (_ ∨ _ ∨ _))

/-- A stop does no harm before the live directory is touched and after the state file is whole.
Between, it does none if the old cache had no state to report or the directory holds what that
state, or the new one, was stored with.  Inside the state file, it does none if the cut leaves a
record that cannot be read, if no publisher stands before it or the count cannot carry the records
that do, if they are all of the new ones, or if they are the old state's. -/
def Spared (before : AnchorCache) (anchors : List Bytes) (state : AnchorState) : Option Fault → Prop
  | none => True
  | some .staging => True
  | some (.removing left) => before.state.present = true →
      (∀ f ∈ before.anchorFiles, left f.1 = true) ∨
      before.state = { state with present := true } ∧
        ((before.anchorFiles.filter fun f => left f.1).map Prod.snd).Perm anchors
  | some .installing => before.state.present = true →
      before.anchorFiles = [] ∨ before.state = { state with present := true } ∧ anchors = []
  | some .opening => before.state.present = true →
      before.anchors.Perm anchors ∨ before.state = { state with present := true }
  | some (.writing n) => ∀ signers refusals, standing state n = some (signers, refusals) →
      signers ≠ [] → signers.length + refusals.length ≤ state.listsOffered.toNat →
      signers = state.signers ∧ refusals = state.refusedLists ∨
      before.state = { state with present := true, signers := signers, refusedLists := refusals } ∧
        before.anchors.Perm anchors

lemma readState_whole (state : AnchorState) :
    readState (stateText state) = { state with present := true } ∨
      readState (stateText state) = {} := by
  by_cases hs : state.signers = []
  · refine Or.inr ?_
    rw [readState, entries_stateText, foldl_takeEntry_stateEntries, finishReading, withLegacy]
    simp [hs]
  · have hr : readState (stateText { state with present := true }) = _ := readState_stateText rfl hs
    change readState (stateText state) = _ at hr
    rw [hr]
    split
    · exact Or.inr rfl
    · exact Or.inl rfl

section Stops
variable (before : AnchorCache) (anchors : List Bytes) (state : AnchorState)

lemma allOrNothing_iff {after : AnchorCache} {held : List Bytes} (h : after.anchors.Perm held) :
    AllOrNothing before anchors state after ↔ (after.state.present = true →
      (after.state = before.state ∧ held.Perm before.anchors) ∨
      (after.state = { state with present := true } ∧ held.Perm anchors)) := by
  rw [AllOrNothing, h.congr_left, h.congr_left]
  cases after.state.present <;> simp

lemma filtered_iff (left : Bytes → Bool) :
    ((before.anchorFiles.filter fun f => left f.1).map Prod.snd).Perm before.anchors
      ↔ ∀ f ∈ before.anchorFiles, left f.1 = true := by
  rw [(anchors_perm_files before).congr_right]
  constructor
  · intro h
    have hl := h.length_eq
    rw [length_map, length_map] at hl
    exact length_filter_eq_length_iff.mp hl
  · intro h
    rw [filter_eq_self.mpr h]

lemma allOrNothing_removing (left : Bytes → Bool) :
    AllOrNothing before anchors state (before.replace (some (.removing left)) anchors state).2
      ↔ Spared before anchors state (some (.removing left)) := by
  have hs : (before.replace (some (.removing left)) anchors state).2.state = before.state := rfl
  rw [allOrNothing_iff before anchors state (anchors_perm_files _), hs]
  show (_ → (_ ∧ ((before.anchorFiles.filter fun f => left f.1).map Prod.snd).Perm _) ∨ _) ↔ _
  rw [filtered_iff, Spared]
  simp only [true_and]
  rfl

lemma allOrNothing_installing : AllOrNothing before anchors state
    (before.replace (some .installing) anchors state).2
      ↔ Spared before anchors state (some .installing) := by
  have hs : (before.replace (some .installing) anchors state).2.state = before.state := rfl
  have hh : (before.replace (some .installing) anchors state).2.anchors.Perm [] := List.Perm.refl _
  rw [allOrNothing_iff before anchors state hh, hs, (anchors_perm_files before).congr_right,
    nil_perm, nil_perm, map_eq_nil_iff, Spared]
  simp

lemma allOrNothing_opening : AllOrNothing before anchors state
    (before.replace (some .opening) anchors state).2
      ↔ Spared before anchors state (some .opening) := by
  have hs : (before.replace (some .opening) anchors state).2.state = before.state := rfl
  have hh : (before.replace (some .opening) anchors state).2.anchors.Perm anchors :=
    anchors_replace_perm before anchors state
  rw [allOrNothing_iff before anchors state hh, hs, perm_comm, Spared]
  simp [List.Perm.refl]

lemma allOrNothing_writing (n : Nat) :
    AllOrNothing before anchors state (before.replace (some (.writing n)) anchors state).2
      ↔ Spared before anchors state (some (.writing n)) := by
  have hs : (before.replace (some (.writing n)) anchors state).2.state
      = readState ((stateText state).take n) := rfl
  have hh : (before.replace (some (.writing n)) anchors state).2.anchors.Perm anchors :=
    anchors_replace_perm before anchors state
  rw [allOrNothing_iff before anchors state hh, hs, perm_comm, Spared, readState_take]
  cases standing state n with
  | none => simp
  | some records =>
    obtain ⟨signers, refusals⟩ := records
    dsimp only
    split
    · next hc =>
      refine iff_of_true (absurd · Bool.false_ne_true) fun s r hr hn hle => ?_
      cases hr
      exact absurd hc (not_or.mpr ⟨hn, Nat.not_lt.mpr hle⟩)
    · next hc =>
      obtain ⟨hn, hle⟩ := not_or.mp hc
      simp [List.Perm.refl, hn, Nat.not_lt.mp hle, or_comm, eq_comm]

lemma allOrNothing_fault (fault : Option Fault) :
    AllOrNothing before anchors state (before.replace fault anchors state).2
      ↔ Spared before anchors state fault := by
  cases fault with
  | none =>
    refine iff_of_true ?_ trivial
    rcases readState_whole state with h | h
    · exact Or.inr (Or.inr ⟨h, anchors_replace_perm before anchors state⟩)
    · refine Or.inr (Or.inl ?_)
      show (readState (stateText state)).present = false
      rw [h]
  | some f =>
    cases f with
    | staging => exact iff_of_true (Or.inl ⟨rfl, List.Perm.refl _⟩) trivial
    | removing left => exact allOrNothing_removing before anchors state left
    | installing => exact allOrNothing_installing before anchors state
    | opening => exact allOrNothing_opening before anchors state
    | writing n => exact allOrNothing_writing before anchors state n

end Stops

theorem replace_all_or_nothing (d : Disk) (anchors : List Bytes) (state : AnchorState)
    (k : Nat) (c : Cut) :
    AllOrNothing d.cache anchors state (d.stopped (replaceSteps anchors state) k c).cache
      ↔ Spared d.cache anchors state (faultAt anchors.length k c) := by
  rw [cache_stopped]
  exact allOrNothing_fault d.cache anchors state (faultAt anchors.length k c)

/-! ## A renewed list -/

def followedSince (signedAt : Int64) : AnchorState where
  present := true
  signers := [⟨alpha, true, some signedAt⟩]
  anchorCount := 1
  issuerCount := 1
  listsOffered := 1

def storedDisk : Disk :=
  ⟨[(anchorName 0, [0xca])], [], some (stateText (followedSince 100))⟩

/-- stopped before the new directory is in its place: the old state, and no anchors; stopped in the
last byte of the new date: a state with another date -/
theorem replace_torn : ¬ AllOrNothing storedDisk.cache [[0xcb]] (followedSince 200)
      (storedDisk.stopped (replaceSteps [[0xcb]] (followedSince 200)) 5 ⟨fun _ => true, none⟩).cache
        ∧
    ¬ AllOrNothing storedDisk.cache [[0xcb]] (followedSince 200)
      (storedDisk.stopped (replaceSteps [[0xcb]] (followedSince 200)) 6
        ⟨fun _ => true, some ((stateText (followedSince 200)).length - 2)⟩).cache := by
  constructor <;> decide +kernel

end LibreAgent.Trust
