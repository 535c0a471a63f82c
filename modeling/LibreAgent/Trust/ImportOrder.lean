import LibreAgent.Trust.ImportHistory
import Mathlib.Data.List.Dedup

/-!
# The order of the lists in a file

Two files with the same lists in another order are accepted or refused alike, and what they leave
differs in order only.

The first pass judges each list alone and the bar asks only who publishes at all, so both passes
permute with the file.  The loops that merge are read at one key: the record of a signer is a fold
over that signer's lists alone (`recordIn_keepRecords`), in which the steps commute
(`joinRecord_right_comm`), and an anchor is kept if some accepted list carries it
(`mem_keepAnchors`).
-/

namespace LibreAgent.Trust

open Bytes List AcceptedSigner

/-! ## Records -/

lemma laterDate_comm (s t : Option Int64) : laterDate s t = laterDate t s := by
  cases s with
  | none => cases t <;> rfl
  | some a =>
    cases t with
    | none => rfl
    | some b =>
      show (if a < b then some b else some a) = if b < a then some a else some b
      by_cases hab : a < b
      · rw [if_pos hab, if_neg (Int64.lt_asymm hab)]
      · by_cases hba : b < a
        · rw [if_neg hab, if_pos hba]
        · rw [if_neg hab, if_neg hba, Int64.le_antisymm (Int64.not_lt.mp hba) (Int64.not_lt.mp hab)]

lemma laterDate_right_comm (r s t : Option Int64) : laterDate (laterDate r s) t =
    laterDate (laterDate r t) s := by
  cases s with
  | none => cases t <;> rfl
  | some a =>
    cases t with
    | none => rfl
    | some b =>
      cases r with
      | none => exact laterDate_comm (some a) (some b)
      | some c =>
        simp only [laterDate]
        split <;> split <;> grind

def joinRecord (established : Bool) (record : Option AcceptedSigner) (v : VerifiedMasterList) :
    Option AcceptedSigner :=
  match record with
  | none => some ⟨v.signerSpkiSha256, established, v.signingTimeEpochSeconds⟩
  | some r => some { r with signedAt := laterDate r.signedAt v.signingTimeEpochSeconds }

lemma joinRecord_right_comm {established : Bool} {v w : VerifiedMasterList}
    (h : v.signerSpkiSha256 = w.signerSpkiSha256) (record : Option AcceptedSigner) :
    joinRecord established (joinRecord established record v) w
      = joinRecord established (joinRecord established record w) v := by
  cases record with
  | none => simp [joinRecord, h, laterDate_comm]
  | some r => simp [joinRecord, laterDate_right_comm]

variable (established : Bool)

lemma recordIn_keepRecord (v : VerifiedMasterList)
    (signers : List AcceptedSigner) (fingerprint : SignerFingerprint) :
    recordIn (keepRecord established v signers) fingerprint
      = if v.signerSpkiSha256 = fingerprint then
          joinRecord established (recordIn signers fingerprint) v
        else recordIn signers fingerprint := by
  by_cases hv : v.signerSpkiSha256 = fingerprint
  · rw [if_pos hv]
    induction signers with
    | nil => rw [keepRecord, recordIn_cons, if_pos hv]; rfl
    | cons s signers ih =>
      rw [keepRecord, recordIn_cons s, hv]
      by_cases hs : s.fingerprint = fingerprint
      · rw [if_pos hs, if_pos hs, recordIn_cons, if_pos hs]
        rfl
      · rw [if_neg hs, if_neg hs, recordIn_cons, if_neg hs, ih]
  · rw [if_neg hv, recordIn_keepRecord_ne hv]

lemma recordIn_keepRecords (lists : List VerifiedMasterList) (fingerprint : SignerFingerprint) :
    recordIn (keepRecords established lists) fingerprint
      = (lists.filter fun v => v.signerSpkiSha256 = fingerprint).foldl
        (joinRecord established) none := by
  induction lists using List.reverseRecOn with
  | nil => rfl
  | append_singleton lists v ih =>
    rw [keepRecords, foldl_append, filter_append, foldl_append, ← ih]
    show recordIn (keepRecord established v (keepRecords established lists)) fingerprint = _
    rw [recordIn_keepRecord]
    by_cases hv : v.signerSpkiSha256 = fingerprint
    · rw [if_pos hv, filter_singleton, decide_eq_true hv]
      rfl
    · rw [if_neg hv, filter_singleton, decide_eq_false hv]
      rfl

lemma fingerprints_keepRecord (v : VerifiedMasterList) (signers : List AcceptedSigner) :
    (keepRecord established v signers).map fingerprint
      = if v.signerSpkiSha256 ∈ signers.map fingerprint then
          signers.map fingerprint
        else signers.map fingerprint ++ [v.signerSpkiSha256] := by
  induction signers with
  | nil => rfl
  | cons s signers ih =>
    rw [keepRecord, map_cons]
    by_cases hs : s.fingerprint = v.signerSpkiSha256
    · rw [if_pos hs, if_pos (hs ▸ mem_cons_self)]
      rfl
    · rw [if_neg hs, map_cons, ih]
      by_cases hm : v.signerSpkiSha256 ∈ signers.map fingerprint
      · rw [if_pos hm, if_pos (mem_cons_of_mem _ hm)]
      · have ho : v.signerSpkiSha256 ∉ s.fingerprint :: signers.map fingerprint := by
          intro h
          rcases mem_cons.mp h with h | h
          · exact hs h.symm
          · exact hm h
        rw [if_neg hm, if_neg ho, cons_append]

lemma nodup_fingerprints (lists : List VerifiedMasterList) :
    ((keepRecords established lists).map fingerprint).Nodup := by
  induction lists using List.reverseRecOn with
  | nil => exact nodup_nil
  | append_singleton lists v ih =>
    rw [keepRecords, foldl_append]
    show ((keepRecord established v (keepRecords established lists)).map _).Nodup
    rw [fingerprints_keepRecord]
    split
    · exact ih
    · rename_i hn
      exact nodup_append.mpr ⟨ih, nodup_singleton _, fun a ha b hb hab =>
        hn (mem_singleton.mp hb ▸ hab ▸ ha)⟩

lemma mem_iff_recordIn {signers : List AcceptedSigner} (h : (signers.map fingerprint).Nodup)
    (r : AcceptedSigner) : r ∈ signers ↔ recordIn signers r.fingerprint = some r := by
  induction signers with
  | nil => exact ⟨fun hr => absurd hr not_mem_nil, fun hr => nomatch hr⟩
  | cons s signers ih =>
    obtain ⟨hs, hn⟩ := nodup_cons.mp h
    rw [mem_cons, recordIn_cons]
    by_cases hfp : s.fingerprint = r.fingerprint
    · rw [if_pos hfp]
      constructor
      · rintro (rfl | hr)
        · rfl
        · exact absurd (mem_map_of_mem hr) (hfp ▸ hs)
      · intro hr
        exact Or.inl (Option.some.inj hr).symm
    · rw [if_neg hfp, ← ih hn]
      exact or_iff_right fun e => hfp (e ▸ rfl)

variable {lists lists' : List VerifiedMasterList} {anchors : List Bytes}

lemma keepRecords_perm (h : lists.Perm lists') :
    (keepRecords established lists).Perm (keepRecords established lists') := by
  have hn := nodup_fingerprints established
  refine (perm_ext_iff_of_nodup (hn lists).of_map (hn lists').of_map).mpr fun r => ?_
  rw [mem_iff_recordIn (hn lists), mem_iff_recordIn (hn lists'), recordIn_keepRecords,
      recordIn_keepRecords]
  have hf := (h.filter fun v => v.signerSpkiSha256 = r.fingerprint).foldl_eq'
    (f := joinRecord established) (fun v hv w hw record => ?_) none
  · rw [hf]
  · have hv' := of_decide_eq_true (mem_filter.mp hv).2
    have hw' := of_decide_eq_true (mem_filter.mp hw).2
    exact joinRecord_right_comm (hv'.trans hw'.symm) record

/-! ## Anchors -/

lemma mem_foldl_keepAnchor (offered anchors : List Bytes) (a : Bytes) :
    a ∈ offered.foldl keepAnchor anchors ↔ a ∈ anchors ∨ a ∈ offered := by
  induction offered generalizing anchors with
  | nil => simp
  | cons b offered ih =>
    rw [foldl_cons, ih, keepAnchor, mem_cons]
    by_cases hb : b ∈ anchors
    · rw [if_pos hb]
      constructor
      · rintro (h | h)
        · exact Or.inl h
        · exact Or.inr (Or.inr h)
      · rintro (h | rfl | h)
        · exact Or.inl h
        · exact Or.inl hb
        · exact Or.inr h
    · rw [if_neg hb, mem_append, mem_singleton, or_assoc]

lemma nodup_foldl_keepAnchor (offered : List Bytes) (h : anchors.Nodup) :
    (offered.foldl keepAnchor anchors).Nodup := by
  induction offered generalizing anchors with
  | nil => exact h
  | cons b offered ih =>
    rw [foldl_cons]
    apply ih
    rw [keepAnchor]
    split
    · exact h
    · rename_i hb
      exact nodup_append.mpr ⟨h, nodup_singleton _, fun a ha c hc hac =>
        hb (mem_singleton.mp hc ▸ hac ▸ ha)⟩

lemma mem_keepAnchors (lists : List VerifiedMasterList) (a : Bytes) :
    a ∈ keepAnchors lists ↔ ∃ v ∈ lists, a ∈ v.anchors := by
  induction lists using List.reverseRecOn with
  | nil => simp [keepAnchors]
  | append_singleton lists v ih =>
    rw [keepAnchors, foldl_append]
    show a ∈ v.anchors.foldl keepAnchor (keepAnchors lists) ↔ _
    rw [mem_foldl_keepAnchor, ih]
    simp [or_and_right, exists_or]

lemma nodup_keepAnchors (lists : List VerifiedMasterList) : (keepAnchors lists).Nodup := by
  induction lists using List.reverseRecOn with
  | nil => exact nodup_nil
  | append_singleton lists v ih =>
    rw [keepAnchors, foldl_append]
    exact nodup_foldl_keepAnchor v.anchors ih

lemma keepAnchors_perm (h : lists.Perm lists') : (keepAnchors lists).Perm (keepAnchors lists') := by
  refine (perm_ext_iff_of_nodup (nodup_keepAnchors _) (nodup_keepAnchors _)).mpr fun a => ?_
  rw [mem_keepAnchors, mem_keepAnchors]
  exact exists_congr fun v => and_congr_left fun _ => h.mem_iff

lemma countIssuers_perm (mw : Middleware) {anchors' : List Bytes}
    (h : anchors.Perm anchors') : countIssuers mw anchors = countIssuers mw anchors' := by
  rw [countIssuers, countIssuers, (h.map _).dedup.length_eq]

lemma anchors_perm_files (cache : AnchorCache) :
    cache.anchors.Perm (cache.anchorFiles.map Prod.snd) :=
  (perm_insertionSort _ _).map _

lemma anchors_replace_perm (cache : AnchorCache) (anchors : List Bytes) (state : AnchorState) :
    (cache.replace none anchors state).2.anchors.Perm anchors := by
  have hf : (anchors.mapIdx fun i a => (anchorName i, a)).map Prod.snd = anchors := by
    apply ext_getElem?
    intro i
    rw [List.getElem?_map, List.getElem?_mapIdx]
    cases anchors[i]? <;> rfl
  refine (anchors_perm_files _).trans ?_
  show ((anchors.mapIdx fun i a => (anchorName i, a)).map Prod.snd).Perm anchors
  rw [hf]

/-! ## The two passes -/

lemma publishes_perm (h : lists.Perm lists') : publishes lists = publishes lists' :=
  funext fun _ => h.any_eq

section Passes
variable {mw : Middleware} {cache : AnchorCache} {der der' : Bytes}
  (h : (offeredLists der).Perm (offeredLists der'))
include h

lemma firstPass_perm : (firstPass mw cache der).Perm (firstPass mw cache der') := h.map _

lemma admittedLists_perm : (admittedLists (firstPass mw cache der)).Perm
    (admittedLists (firstPass mw cache der')) :=
  (firstPass_perm h).filterMap _

lemma secondPass_eq : secondPass mw cache der = secondPass mw cache der' := by
  funext v
  rw [secondPass, secondPass, displacedAt, displacedAt, publishes_perm (admittedLists_perm h)]

lemma acceptedLists_perm : (acceptedLists mw cache der).Perm (acceptedLists mw cache der') := by
  rw [acceptedLists, acceptedLists, secondPass_eq h]
  exact (admittedLists_perm h).filter _

lemma allRefusals_perm : (allRefusals mw cache der).Perm (allRefusals mw cache der') := by
  rw [allRefusals, allRefusals, secondPass_eq h]
  exact ((firstPass_perm h).filterMap _).append ((admittedLists_perm h).filterMap _)

end Passes

/-! ## The outcome -/

/-- the same but for the order in which records and refusals stand -/
structure SameState (s s' : AnchorState) : Prop where
  present : s.present = s'.present
  signers : s.signers.Perm s'.signers
  anchorCount : s.anchorCount = s'.anchorCount
  issuerCount : s.issuerCount = s'.issuerCount
  listsOffered : s.listsOffered = s'.listsOffered
  refusedLists : s.refusedLists.Perm s'.refusedLists
  acceptedAt : s.acceptedAt = s'.acceptedAt

/-- one verdict, and what is stored differs in order only -/
structure SameOutcome (a b : Except Refusal AnchorState × AnchorCache) : Prop where
  verdict : a.1.isOk = b.1.isOk
  state : ∀ s s', a.1 = .ok s → b.1 = .ok s' → SameState s s'
  anchors : a.1.isOk = true → a.2.anchors.Perm b.2.anchors

lemma SameOutcome.refused (r r' : Refusal) (cache cache' : AnchorCache) :
    SameOutcome (.error r, cache) (.error r', cache') where
  verdict := rfl
  state := nofun
  anchors := nofun

lemma nextState_perm {mw : Middleware} {cache : AnchorCache} {der der' : Bytes}
    (h : (offeredLists der).Perm (offeredLists der')) (now : Int64) :
    SameState (nextState mw cache der now) (nextState mw cache der' now) where
  present := rfl
  signers := keepRecords_perm _ (acceptedLists_perm h)
  anchorCount := congrArg UInt32.ofNat (keepAnchors_perm (acceptedLists_perm h)).length_eq
  issuerCount := countIssuers_perm mw (keepAnchors_perm (acceptedLists_perm h))
  listsOffered := congrArg UInt32.ofNat h.length_eq
  refusedLists := (allRefusals_perm h).map _
  acceptedAt := rfl

lemma offeredLists_perm {der der' : Bytes} (h : (masterListsIn der).Perm (masterListsIn der'))
    (hne : masterListsIn der ≠ []) : (offeredLists der).Perm (offeredLists der') := by
  have hne' : masterListsIn der' ≠ [] := fun e => hne (h.trans (by rw [e])).eq_nil
  rw [offeredLists, offeredLists, if_neg hne, if_neg hne']
  exact h

theorem import_order (mw : Middleware) (fault : Option Fault) (cache : AnchorCache) (now : Int64)
    {der der' : Bytes} (hperm : (masterListsIn der).Perm (masterListsIn der'))
    (hne : masterListsIn der ≠ []) :
    SameOutcome (importMasterList mw fault der cache now)
      (importMasterList mw fault der' cache now) := by
  have ho := offeredLists_perm hperm hne
  have ha : (acceptedLists mw cache der).Perm (acceptedLists mw cache der') := acceptedLists_perm ho
  by_cases hn : acceptedLists mw cache der = []
  · have hn' : acceptedLists mw cache der' = [] := (hn ▸ ha).nil_eq.symm
    obtain ⟨r, hr⟩ := importMasterList_refused mw der cache now fault hn
    obtain ⟨r', hr'⟩ := importMasterList_refused mw der' cache now fault hn'
    rw [hr, hr']
    exact SameOutcome.refused r r' cache cache
  · have hn' : acceptedLists mw cache der' ≠ [] := fun e => hn (e ▸ ha).eq_nil
    cases fault with
    | none =>
      rw [importMasterList_stored now hn, importMasterList_stored now hn']
      refine ⟨rfl, fun s s' h h' => ?_, fun _ => ?_⟩
      · cases h
        cases h'
        exact nextState_perm ho now
      · have hs := anchors_replace_perm cache
        exact (hs _ _).trans ((keepAnchors_perm ha).trans (hs _ _).symm)
    | some f =>
      obtain ⟨r, hr⟩ := importMasterList_failed now hn f
      obtain ⟨r', hr'⟩ := importMasterList_failed now hn' f
      rw [hr, hr']
      exact SameOutcome.refused r r' _ _

/-- the two lists of `collection`, the other way round -/
def turnedRound : Bytes :=
  lit "dn: c=AA\ncn:: MAwGCSqGSIb3DQEHAgQ=\ncn:: MAwGCSqGSIb3DQEHAgM=\n"

theorem import_order_turnedRound : (importMasterList namedPublishers none collection .empty
      100).1.isOk = true ∧
      SameOutcome (importMasterList namedPublishers none collection .empty 100)
        (importMasterList namedPublishers none turnedRound .empty 100) := by
  have hl : masterListsIn collection = [objectOf 3, objectOf 4] := by decide +kernel
  have ht : masterListsIn turnedRound = [objectOf 4, objectOf 3] := by decide +kernel
  have hp : (masterListsIn collection).Perm (masterListsIn turnedRound) := by
    rw [hl, ht]
    exact List.Perm.swap _ _ _
  have hne : masterListsIn collection ≠ [] := by
    rw [hl]
    exact cons_ne_nil _ _
  exact ⟨by decide +kernel, import_order namedPublishers none .empty 100 hp hne⟩

end LibreAgent.Trust
