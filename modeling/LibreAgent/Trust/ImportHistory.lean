import LibreAgent.Trust.CscaAnchorImport

/-!
# Histories of imports

A signer's accepted dates never go back: what one import keeps, and what a whole history keeps.

An import measures a list against the record of its signer.  The records are those of the last
accepted file alone, so a publisher that a file leaves out is forgotten, its date with it; when it
comes back the only bar is what that file displaces, which may be nothing.

* `acceptances` : the lists that each import of a history accepts;
* `acceptances_noRollback` : such a history never goes back.
-/

namespace LibreAgent.Trust

open Bytes List

/-- one import: the file, the time, what the middleware answers and where the disk fails -/
structure Import where
  middleware : Middleware
  fault : Option Fault
  der : Bytes
  now : Int64

namespace Import

def run (i : Import) (cache : AnchorCache) : Except Refusal AnchorState × AnchorCache :=
  importMasterList i.middleware i.fault i.der cache i.now

def accepted (i : Import) (cache : AnchorCache) : List VerifiedMasterList :=
  match (i.run cache).1 with
  | .ok _ => acceptedLists i.middleware cache i.der
  | .error _ => []

end Import

def acceptances : AnchorCache → List Import → List (List VerifiedMasterList)
  | _, [] => []
  | cache, i :: history => i.accepted cache :: acceptances (i.run cache).2 history

def NoRollback (earlier later : List VerifiedMasterList) : Prop :=
  ∀ v ∈ earlier, ∀ w ∈ later, w.signerSpkiSha256 = v.signerSpkiSha256 →
    ∀ t, v.signingTimeEpochSeconds = some t → ∃ t', w.signingTimeEpochSeconds = some t' ∧ t < t'

/-- no list of the file verifies for a signer that is off the record although a dated list of it was
accepted in the past -/
def NoReturn (past : List VerifiedMasterList) (cache : AnchorCache) (i : Import) : Prop :=
  ∀ list ∈ offeredLists i.der, ∀ pin ∈ pins cache.state, ∀ v,
    i.middleware.parseAndVerifyMasterList list pin = .ok v →
    cache.state.recordFor v.signerSpkiSha256 = none →
    ∀ w ∈ past, w.signerSpkiSha256 = v.signerSpkiSha256 → w.signingTimeEpochSeconds = none

/-- no write of the state file is cut short -/
def StateFileWhole (i : Import) : Prop :=
  ∀ written, i.fault ≠ some (.writing written)

/-- the two conditions hold of every import of a history -/
def Steady (past : List VerifiedMasterList) (cache : AnchorCache) : List Import → Prop
  | [] => True
  | i :: history => NoReturn past cache i ∧ StateFileWhole i ∧
      Steady (past ++ i.accepted cache) (i.run cache).2 history

/-! ## One import -/

def Remembers (past : List VerifiedMasterList) (cache : AnchorCache) : Prop :=
  ∀ v ∈ past, ∀ r, cache.state.recordFor v.signerSpkiSha256 = some r →
    Bounds r.signedAt v.signingTimeEpochSeconds

section Step
variable {past : List VerifiedMasterList} {cache : AnchorCache} {i : Import}

lemma mem_accepted {v : VerifiedMasterList} (h : v ∈ i.accepted cache) :
    v ∈ acceptedLists i.middleware cache i.der := by
  rw [Import.accepted] at h
  split at h
  · exact h
  · cases h

lemma noRollback_step (hre : NoReturn past cache i) (hp : Remembers past cache) :
    NoRollback past (i.accepted cache) := by
  intro v hv w hw hs t ht
  obtain ⟨⟨list, hl, pin, hpi, hve⟩, hrep⟩ := verified_of_mem_acceptedLists (mem_accepted hw)
  cases hrec : cache.state.recordFor w.signerSpkiSha256 with
  | none =>
    -- the signer had left the record: it has no dated list in the past
    have hu := hre list hl pin hpi w hve hrec v hv hs.symm
    rw [ht] at hu
    cases hu
  | some r =>
    rw [hs] at hrec
    obtain ⟨recorded, hr, hle⟩ := hp v hv r hrec t ht
    have hd : cache.state.dateOf w.signerSpkiSha256 = some recorded := by
      rw [AnchorState.dateOf, hs, hrec]
      exact hr
    obtain ⟨t', ht', hlt⟩ := replayRefusal_none hrep hd
    exact ⟨t', ht', Int64.lt_of_le_of_lt hle hlt⟩

lemma state_of_stateFile {cache' : AnchorCache} (hne : acceptedLists i.middleware cache i.der ≠ [])
    (hf : cache'.stateFile = some (stateText (nextState i.middleware cache i.der i.now))) :
    cache'.state = nextState i.middleware cache i.der i.now ∨ cache'.state = {} := by
  have hs := signers_nextState_ne_nil i.now hne
  rw [AnchorCache.state, hf]
  show readState _ = _ ∨ readState _ = _
  rw [readState_stateText rfl hs]
  split
  · exact Or.inr rfl
  · exact Or.inl rfl

lemma remembers_step (hre : NoReturn past cache i) (hwh : StateFileWhole i)
    (hp : Remembers past cache) : Remembers (past ++ i.accepted cache) (i.run cache).2 := by
  have hn := noRollback_step hre hp
  rcases importMasterList_cases i.middleware i.fault i.der cache i.now with
    ⟨hne, -, hok, hf⟩ | ⟨⟨refusal, he⟩, hf⟩
  · have ha : i.accepted cache = acceptedLists i.middleware cache i.der := by
      rw [Import.accepted, Import.run, hok]
    intro v hv r hr
    rcases state_of_stateFile hne hf with hs | hs
    · rw [Import.run, hs] at hr
      have hrec :=
        recorded_keepRecords cache.state.present (acceptedLists i.middleware cache i.der)
          v.signerSpkiSha256
      replace hr : recordIn (keepRecords cache.state.present
        (acceptedLists i.middleware cache i.der)) v.signerSpkiSha256 = some r := hr
      rw [hr, ← ha] at hrec
      obtain ⟨⟨w, hw, hsi⟩, hb⟩ := hrec
      rcases mem_append.mp hv with hv | hv
      · -- an older list: the signer's list in this file is newer, and the record bounds that one
        intro t ht
        obtain ⟨t', ht', hlt⟩ := hn v hv w hw hsi t ht
        obtain ⟨t'', ht'', hle⟩ := hb w hw hsi t' ht'
        exact ⟨t'', ht'', Int64.le_of_lt (Int64.lt_of_lt_of_le hlt hle)⟩
      · exact hb v hv rfl
    · rw [Import.run, hs] at hr
      cases hr
  · have ha : i.accepted cache = [] := by
      rw [Import.accepted, Import.run, he]
    have hs : (i.run cache).2.state = cache.state := by
      rw [AnchorCache.state, Import.run, hf hwh, AnchorCache.state]
    rw [ha, append_nil]
    intro v hv r hr
    rw [hs] at hr
    exact hp v hv r hr

end Step

/-! ## Whole histories -/

lemma noRollback_steady {history : List Import} {past : List VerifiedMasterList}
    {cache : AnchorCache} (hs : Steady past cache history) (hp : Remembers past cache) :
    (acceptances cache history).Pairwise NoRollback ∧
      ∀ later ∈ acceptances cache history, NoRollback past later := by
  induction history generalizing past cache with
  | nil => exact ⟨List.Pairwise.nil, fun later h => absurd h not_mem_nil⟩
  | cons i history ih =>
    obtain ⟨hr, hw, hre⟩ := hs
    obtain ⟨hpa, hl⟩ := ih hre (remembers_step hr hw hp)
    refine ⟨List.Pairwise.cons ?_ hpa, ?_⟩
    · intro later hm v hv
      exact hl later hm v (mem_append_right _ hv)
    · intro later hm
      rcases mem_cons.mp hm with rfl | hm
      · exact noRollback_step hr hp
      · exact fun v hv => hl later hm v (mem_append_left _ hv)

theorem acceptances_noRollback {history : List Import} (h : Steady [] .empty history) :
    (acceptances .empty history).Pairwise NoRollback :=
  (noRollback_steady h fun _ hv => absurd hv not_mem_nil).1

/-! ## Two publishers -/

def objectOf (b : UInt8) : Bytes :=
  [0x30, 0x0c] ++ kSignedDataOid ++ [b]

def alpha : SignerFingerprint := ⟨List.replicate 32 1, rfl⟩

def beta : SignerFingerprint := ⟨List.replicate 32 2, rfl⟩

def listOf (signer : SignerFingerprint) (signedAt : Int64) : VerifiedMasterList :=
  ⟨[[0xca]], signer, [], some signedAt⟩

/-- a pin has to be the signer -/
def pinned (v : VerifiedMasterList) (pin : Option SignerFingerprint) :
    Except MasterListError VerifiedMasterList :=
  if pin.all (· = v.signerSpkiSha256) then .ok v else .error .signerMismatch

/-- four lists: the first and the last of one signer, the second and the third of another -/
def namedPublishers : Middleware where
  parseAndVerifyMasterList list pin :=
    if list = objectOf 1 then pinned (listOf alpha 10) pin
    else if list = objectOf 2 then pinned (listOf beta 20) pin
    else if list = objectOf 3 then pinned (listOf beta 30) pin
    else if list = objectOf 4 then pinned (listOf alpha 5) pin
    else .error .notAMasterList
  signerChainsToAnyAnchor _ _ := true
  subjectCountry _ := none

def renewed : List Import :=
  [⟨namedPublishers, none, objectOf 2, 200⟩, ⟨namedPublishers, none, objectOf 3, 300⟩]

theorem acceptances_noRollback_renewed : Steady [] .empty renewed ∧
    (acceptances .empty renewed).Pairwise NoRollback ∧
      acceptances .empty renewed = [[listOf beta 20], [listOf beta 30]] := by
  have hl : offeredLists (objectOf 3) = [objectOf 3] := by decide +kernel
  have hve : ∀ pin, namedPublishers.parseAndVerifyMasterList (objectOf 3) pin
      = pinned (listOf beta 30) pin := by
    intro pin
    simp [namedPublishers, objectOf]
  have hr : ((Import.run ⟨namedPublishers, none, objectOf 2, 200⟩ .empty).2.state.recordFor
      (listOf beta 30).signerSpkiSha256).isSome = true := by decide +kernel
  have hs : Steady [] .empty renewed := by
    have hwh : ∀ der now, StateFileWhole ⟨namedPublishers, none, der, now⟩ := by
      intro der now written h
      cases h
    refine ⟨?_, hwh _ _, ?_, hwh _ _, trivial⟩
    · intro list _ pin _ v _ _ w hw
      cases hw
    · intro list hli pin _ v hv hn
      rw [hl, mem_singleton] at hli
      rw [hli, hve, pinned] at hv
      split at hv
      · cases hv
        rw [hn] at hr
        cases hr
      · cases hv
  exact ⟨hs, acceptances_noRollback hs, by decide +kernel⟩

def collection : Bytes :=
  lit "dn: c=AA\ncn:: MAwGCSqGSIb3DQEHAgM=\ncn:: MAwGCSqGSIb3DQEHAgQ=\n"

def rolledBack : List Import :=
  [⟨namedPublishers, none, objectOf 1, 100⟩, ⟨namedPublishers, none, objectOf 2, 200⟩,
    ⟨namedPublishers, none, collection, 300⟩]

theorem acceptances_noRollback_fails : acceptances .empty rolledBack
        = [[listOf alpha 10], [listOf beta 20], [listOf beta 30, listOf alpha 5]] ∧
      ¬ (acceptances .empty rolledBack).Pairwise NoRollback := by
  have hr : acceptances .empty rolledBack
      = [[listOf alpha 10], [listOf beta 20], [listOf beta 30, listOf alpha 5]] := by decide +kernel
  refine ⟨hr, ?_⟩
  rw [hr]
  intro h
  have hf :=
    (pairwise_cons.mp h).1 [listOf beta 30, listOf alpha 5] (mem_cons_of_mem _ mem_cons_self)
  obtain ⟨t', ht', hlt⟩ :=
    hf (listOf alpha 10) mem_cons_self (listOf alpha 5) (mem_cons_of_mem _ mem_cons_self) rfl 10 rfl
  cases ht'
  exact absurd hlt (by decide)

end LibreAgent.Trust
