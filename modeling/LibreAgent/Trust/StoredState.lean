import LibreAgent.Trust.ImportOrder
import LibreAgent.Trust.LdifExport

/-!
# The stored state

The state file carries a count of 32 bits for the lists that were offered, and is not believed when
that count cannot carry the records beside it.  The writer cuts the true count to 32 bits, so a
state is read as it was written from every file with fewer lists than that (`stored_state_read`);
the agent's own limit on the size of a file keeps it there (`offeredLists_lt`).

* `readState_nextState`, `stored_state_read` : what an import stores is what is read.
-/

namespace LibreAgent.Trust

open Bytes Text List

/-! ## The count beside the records -/

def kMaxMasterListBytes : Nat := 32 * 1024 * 1024

lemma length_keepRecord (established : Bool) (v : VerifiedMasterList)
    (signers : List AcceptedSigner) :
    (keepRecord established v signers).length ≤ signers.length + 1 := by
  induction signers with
  | nil => exact Nat.le_refl 1
  | cons s signers ih =>
    rw [keepRecord]
    split
    · exact Nat.le_succ _
    · exact Nat.succ_le_succ ih

lemma length_keepRecords (established : Bool) (lists : List VerifiedMasterList) :
    (keepRecords established lists).length ≤ lists.length := by
  induction lists using List.reverseRecOn with
  | nil => exact Nat.le_refl 0
  | append_singleton lists v ih =>
    rw [keepRecords, foldl_append, length_append]
    exact (length_keepRecord _ _ _).trans (Nat.succ_le_succ ih)

lemma length_verdicts (verdicts : List (Except ListRefusal VerifiedMasterList)) :
    (admittedLists verdicts).length + (listRefusals verdicts).length = verdicts.length := by
  induction verdicts with
  | nil => rfl
  | cons verdict verdicts ih =>
    cases verdict with
    | error r =>
      show (admittedLists verdicts).length + ((listRefusals verdicts).length + 1) = _
      rw [length_cons, ← ih, Nat.add_assoc]
    | ok v =>
      show (admittedLists verdicts).length + 1 + (listRefusals verdicts).length = _
      rw [length_cons, ← ih, Nat.add_right_comm]

variable {α β : Type*} {der : Bytes}

lemma length_filter_isNone (f : α → Option β) (l : List α) :
    (l.filter fun a => (f a).isNone).length + (l.filterMap f).length = l.length := by
  induction l with
  | nil => rfl
  | cons a l ih =>
    cases hf : f a with
    | none =>
      rw [filter_cons_of_pos (by rw [hf]; rfl), List.filterMap_cons_none hf, length_cons,
        length_cons, ← ih, Nat.add_right_comm]
    | some b =>
      rw [filter_cons_of_neg (by rw [hf]; exact Bool.false_ne_true),
        List.filterMap_cons_some hf, length_cons, length_cons, ← ih, Nat.add_assoc]

lemma length_accepted (mw : Middleware) (cache : AnchorCache) (der : Bytes) :
    (acceptedLists mw cache der).length + (allRefusals mw cache der).length
      = (offeredLists der).length := by
  have hp := length_filter_isNone (secondPass mw cache der) (admittedLists (firstPass mw cache der))
  have hf := length_verdicts (firstPass mw cache der)
  have hm : (firstPass mw cache der).length = (offeredLists der).length := length_map _
  rw [acceptedLists, allRefusals, length_append]
  omega

lemma records_le_lists (mw : Middleware) (cache : AnchorCache) (der : Bytes) (now : Int64) :
    (nextState mw cache der now).signers.length + (nextState mw cache der now).refusedLists.length
      ≤ (offeredLists der).length := by
  have hr := length_keepRecords cache.state.present (acceptedLists mw cache der)
  have ha := length_accepted mw cache der
  show (keepRecords _ _).length + ((allRefusals mw cache der).map _).length ≤ _
  rw [length_map]
  omega

/-! ## A file within the limit has few lists -/

lemma length_pieces_le (d : UInt8) (s : Bytes) : (pieces d s).length ≤ s.length + 1 := by
  induction s with
  | nil => rw [pieces_nil]; exact Nat.le_refl 1
  | cons c s ih =>
    by_cases hc : c = d
    · rw [hc, pieces_delim, length_cons, length_cons]
      exact Nat.succ_le_succ ih
    · rw [pieces_cons hc, length_cons, later, length_tail, length_cons]
      omega

lemma length_logicalLines_le (logical : Bytes) (lines : List Bytes) :
    (logicalLines logical lines).length ≤ lines.length + 1 := by
  fun_induction logicalLines logical lines with
  | case1 logical => exact Nat.le_refl 1
  | case2 logical rest lines ih => exact ih.trans (Nat.le_succ _)
  | case3 logical line lines _ ih => exact Nat.succ_le_succ ih

lemma length_unfoldLines_le (lines : List Bytes) : (unfoldLines lines).length ≤ lines.length := by
  fun_cases unfoldLines lines with
  | case1 => exact Nat.le_refl 0
  | case2 rest lines => exact length_logicalLines_le rest lines
  | case3 line lines => exact length_logicalLines_le line lines

lemma length_mapM {f : α → Option β} {l : List α} {out : List β} (h : l.mapM f = some out) :
    out.length = l.length := by
  induction l generalizing out with
  | nil => cases h; rfl
  | cons a l ih =>
    rw [List.mapM_cons] at h
    obtain ⟨b, -, h⟩ := Option.bind_eq_some_iff.mp h
    obtain ⟨rest, hr, h⟩ := Option.bind_eq_some_iff.mp h
    cases h
    rw [length_cons, length_cons, ih hr]

lemma length_offeredLists_le (der : Bytes) : (offeredLists der).length ≤ der.length + 1 := by
  have ho : 1 ≤ der.length + 1 := Nat.succ_le_succ (Nat.zero_le _)
  rw [offeredLists]
  split
  · exact ho
  rw [masterListsIn]
  split
  · exact ho
  split
  · exact Nat.zero_le _
  rw [signedObjectsInLdif]
  split
  · exact Nat.zero_le _
  rename_i lines hl
  split
  · calc (lines.filterMap Prod.snd).length ≤ lines.length := length_filterMap_le _ _
      _ = (unfoldLines ((pieces 10 der).map physicalLine)).length := length_mapM hl
      _ ≤ ((pieces 10 der).map physicalLine).length := length_unfoldLines_le _
      _ = (pieces 10 der).length := length_map _
      _ ≤ der.length + 1 := length_pieces_le 10 der
  · exact Nat.zero_le _

lemma offeredLists_lt (h : der.length ≤ kMaxMasterListBytes) :
    (offeredLists der).length < 2 ^ 32 := by
  have hle := length_offeredLists_le der
  rw [kMaxMasterListBytes] at h
  omega

/-! ## The state file is read as it was written -/

lemma readState_nextState (mw : Middleware) {cache : AnchorCache} (now : Int64)
    (ha : acceptedLists mw cache der ≠ []) (h : (offeredLists der).length < 2 ^ 32) :
    readState (stateText (nextState mw cache der now)) = nextState mw cache der now := by
  have hc : (nextState mw cache der now).listsOffered.toNat = (offeredLists der).length := by
    show (UInt32.ofNat (offeredLists der).length).toNat = _
    rw [UInt32.toNat_ofNat', Nat.mod_eq_of_lt h]
  rw [readState_stateText rfl (signers_nextState_ne_nil now ha), hc,
    if_neg (Nat.not_lt.mpr (records_le_lists mw cache der now))]

theorem stored_state_read (mw : Middleware) (fault : Option Fault) {der : Bytes}
    {cache : AnchorCache}
    {now : Int64} (hlists : (offeredLists der).length < 2 ^ 32) {next : AnchorState}
    {cache' : AnchorCache} (h : importMasterList mw fault der cache now = (.ok next, cache')) :
    cache'.state.present = true ∧ cache'.state = next := by
  by_cases hn : acceptedLists mw cache der = []
  · obtain ⟨refusal, hru⟩ := importMasterList_refused mw der cache now fault hn
    rw [hru] at h
    cases h
  cases fault with
  | some f =>
    obtain ⟨refusal, hru⟩ := importMasterList_failed now hn f
    rw [hru] at h
    cases h
  | none =>
    rw [importMasterList_stored now hn] at h
    cases h
    have hr := readState_nextState mw now hn hlists
    show (readState _).present = true ∧ readState _ = _
    rw [hr]
    exact ⟨rfl, rfl⟩

theorem stored_state_read_collection : (importMasterList namedPublishers none collection .empty
      100).2.state.present = true ∧
      (importMasterList namedPublishers none collection .empty 100).2.state
        = nextState namedPublishers .empty collection 100 := by
  have hs : collection.length ≤ kMaxMasterListBytes := by decide
  have ha : acceptedLists namedPublishers .empty collection ≠ [] := by decide +kernel
  have hr := importMasterList_stored 100 ha
  rw [hr]
  exact stored_state_read namedPublishers none (offeredLists_lt hs) hr

/-! ### A count that is cut to zero -/

def onePublisher : Middleware where
  parseAndVerifyMasterList _ pin := pinned (listOf alpha 10) pin
  signerChainsToAnyAnchor _ _ := true
  subjectCountry _ := none

def crowded (n : Nat) : List FoldedLine :=
  ⟨nameLine, (lit "dn: c=AA", .lf), [], by decide⟩
    :: List.replicate n ⟨objectLine, (objectLine.text, .lf), [], List.append_nil _⟩

section Crowded
variable {n : Nat}

lemma offeredLists_crowded (h : n ≠ 0) : offeredLists (exportBytes (crowded n) true) =
    List.replicate n bareObject := by
  have hdn : ∃ f ∈ crowded n, f.line.namesDn = true := ⟨_, mem_cons_self, by decide⟩
  have hl : masterListsIn (exportBytes (crowded n) true) = List.replicate n bareObject := by
    rw [masterListsIn_exportBytes hdn, crowded, map_cons, map_replicate]
    exact (List.filterMap_cons_none rfl).trans (List.filterMap_replicate_of_some (by decide))
  have hne : List.replicate n bareObject ≠ [] := mt (replicate_eq_nil_iff _).mp h
  rw [offeredLists, hl, if_neg hne]

lemma acceptedLists_crowded (h : n ≠ 0) :
    acceptedLists onePublisher .empty (exportBytes (crowded n) true)
      = List.replicate n (listOf alpha 10) := by
  have hf : firstPass onePublisher .empty (exportBytes (crowded n) true) = List.replicate n
    (.ok (listOf alpha 10)) := by
    rw [firstPass, offeredLists_crowded h, map_replicate]
    rfl
  have ha : admittedLists (List.replicate n (.ok (listOf alpha 10))) = List.replicate n
    (listOf alpha 10) :=
    List.filterMap_replicate_of_some rfl
  rw [acceptedLists, hf, ha]
  exact filter_replicate_of_pos rfl

lemma state_crowded (h : n ≠ 0) (hc : n % 2 ^ 32 = 0) (now : Int64) :
    ∃ next cache', importMasterList onePublisher none (exportBytes (crowded n) true) .empty now
      = (.ok next, cache') ∧ next.present = true ∧ cache'.state = {} := by
  have ha : acceptedLists onePublisher .empty (exportBytes (crowded n) true) ≠ [] := by
    rw [acceptedLists_crowded h]
    exact mt (replicate_eq_nil_iff _).mp h
  have hs := signers_nextState_ne_nil now ha
  refine ⟨_, _, importMasterList_stored now ha, rfl, ?_⟩
  show readState _ = {}
  rw [readState_stateText rfl hs, if_pos]
  have hz : (nextState onePublisher .empty (exportBytes (crowded n) true) now).listsOffered.toNat =
    0 := by
    show (UInt32.ofNat (offeredLists _).length).toNat = 0
    rw [offeredLists_crowded h, length_replicate, UInt32.toNat_ofNat', hc]
  rw [hz]
  exact Nat.add_pos_left (length_pos_iff.mpr hs) _

end Crowded

/-- as many lists as the count has values are counted as none -/
theorem stored_state_unread :
    ∃ next cache', importMasterList onePublisher none
      (exportBytes (crowded (2 ^ 32)) true) .empty 100
      = (.ok next, cache') ∧ next.present = true ∧ cache'.state = {} :=
  state_crowded (by norm_num) (Nat.mod_self _) 100

end LibreAgent.Trust
