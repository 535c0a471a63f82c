import LibreAgent.Trust.AnchorCache
import LibreAgent.Trust.MasterListFile

/-!
# Importing master lists

Which lists of a file are believed, and what the cache holds afterwards.  Every cryptographic
judgement is the middleware's (`Middleware`): nothing is assumed about its answers.

* `judge` : one list, on its own: verified, followed or chained, and no replay;
* `displacedAt`, `barRefusal` : the bar for a signer without a record, set by what the file
  displaces;
* `importMasterList` : the two passes and the write;
* `judge_ok`, `recorded_keepRecords`, `importMasterList_cases` : what a verdict says, what the
  records of an import bound, what an import leaves.
-/

namespace LibreAgent.Trust

open Bytes List

/-! ## The middleware -/

inductive MasterListError where
  | notAMasterList
  | empty
  | malformed
  | badSignature
  | signerMismatch

structure VerifiedMasterList where
  anchors : List Bytes
  signerSpkiSha256 : SignerFingerprint
  signerCertDer : Bytes
  signingTimeEpochSeconds : Option Int64
  deriving DecidableEq

structure Middleware where
  /-- with a fingerprint, only that signer of the list counts -/
  parseAndVerifyMasterList :
    Bytes → Option SignerFingerprint → Except MasterListError VerifiedMasterList
  signerChainsToAnyAnchor : Bytes → List Bytes → Bool
  /-- the country of the subject, for a certificate that parses -/
  subjectCountry : Bytes → Option Bytes

def refusalFor : MasterListError → ImportRefusal
  | .notAMasterList => .notAMasterList
  | .empty => .empty
  | .malformed => .malformed
  | .badSignature => .badSignature
  | .signerMismatch => .signerChanged

variable (mw : Middleware)

def countIssuers (anchors : List Bytes) : UInt32 :=
  UInt32.ofNat (anchors.map fun der => (mw.subjectCountry der).getD []).dedup.length

/-! ## One list -/

structure ListRefusal where
  reason : ImportRefusal
  signer : Option SignerFingerprint
  seenSignedAt : Option Int64
  trustedSignedAt : Option Int64

def AnchorState.dateOf (state : AnchorState) (fingerprint : SignerFingerprint) : Option Int64 :=
  (state.recordFor fingerprint).bind AcceptedSigner.signedAt

def newerThan (bar : Int64) (offered : Option Int64) : Bool :=
  offered.any fun t => bar < t

def replayRefusal (prior : AnchorState) (incoming : VerifiedMasterList) : Option ListRefusal :=
  match prior.dateOf incoming.signerSpkiSha256 with
  | none => none
  | some recorded =>
    if newerThan recorded incoming.signingTimeEpochSeconds then none
    else some ⟨.replayed, some incoming.signerSpkiSha256, incoming.signingTimeEpochSeconds,
      some recorded⟩

/-- the list in the name of a publisher on record: its first signer, or else one behind it -/
def followed (prior : AnchorState) (list : Bytes) (seen : VerifiedMasterList) :
    Option VerifiedMasterList :=
  if (prior.recordFor seen.signerSpkiSha256).isSome then some seen
  else prior.signers.findSome? fun record =>
    (mw.parseAndVerifyMasterList list (some record.fingerprint)).toOption

def unlessReplayed (prior : AnchorState) (chosen : VerifiedMasterList) :
    Except ListRefusal VerifiedMasterList :=
  match replayRefusal prior chosen with
  | some refusal => .error refusal
  | none => .ok chosen

def judge (prior : AnchorState) (vouchingAnchors : List Bytes) (list : Bytes) :
    Except ListRefusal VerifiedMasterList :=
  match mw.parseAndVerifyMasterList list none with
  | .error e => .error ⟨refusalFor e, none, none, none⟩
  | .ok seen =>
    if prior.present then
      match followed mw prior list seen with
      | some chosen => unlessReplayed prior chosen
      | none =>
        -- a rotated key is followed when its certificate chains to an anchor held before
        if mw.signerChainsToAnyAnchor seen.signerCertDer vouchingAnchors then
          unlessReplayed prior seen
        else .error ⟨.signerChanged, some seen.signerSpkiSha256, none, none⟩
    else unlessReplayed prior seen

/-! ## The whole file -/

def offeredLists (der : Bytes) : List Bytes :=
  if masterListsIn der = [] then [der] else masterListsIn der

def admittedLists (verdicts : List (Except ListRefusal VerifiedMasterList)) :
    List VerifiedMasterList :=
  verdicts.filterMap Except.toOption

def listRefusals (verdicts : List (Except ListRefusal VerifiedMasterList)) : List ListRefusal :=
  verdicts.filterMap fun
    | .error refusal => some refusal
    | .ok _ => none

def publishes (lists : List VerifiedMasterList) (fingerprint : SignerFingerprint) : Bool :=
  lists.any fun v => v.signerSpkiSha256 = fingerprint

def raiseBar (bar : Option Int64) (signedAt : Int64) : Option Int64 :=
  match bar with
  | none => some signedAt
  | some b => if b < signedAt then some signedAt else some b

/-- the newest date among the publishers on record that the file displaces -/
def displacedAt (prior : AnchorState) (admitted : List VerifiedMasterList) : Option Int64 :=
  if prior.present then
    prior.signers.foldl (fun bar record =>
      match record.signedAt with
      | none => bar
      | some signedAt =>
        if publishes admitted record.fingerprint then bar else raiseBar bar signedAt) none
  else none

def barRefusal (prior : AnchorState) (bar : Option Int64) (verified : VerifiedMasterList) :
    Option ListRefusal :=
  match bar with
  | none => none
  | some displaced =>
    if (prior.recordFor verified.signerSpkiSha256).isSome
      ∨ newerThan displaced verified.signingTimeEpochSeconds then none
    else some ⟨.replayed, some verified.signerSpkiSha256, verified.signingTimeEpochSeconds,
      some displaced⟩

def laterDate (recorded offered : Option Int64) : Option Int64 :=
  match offered, recorded with
  | some t, some r => if r < t then some t else some r
  | some t, none => some t
  | none, r => r

def keepRecord (established : Bool) (verified : VerifiedMasterList) :
    List AcceptedSigner → List AcceptedSigner
  | [] => [⟨verified.signerSpkiSha256, established, verified.signingTimeEpochSeconds⟩]
  | s :: signers =>
    if s.fingerprint = verified.signerSpkiSha256 then
      { s with signedAt := laterDate s.signedAt verified.signingTimeEpochSeconds } :: signers
    else s :: keepRecord established verified signers

def keepRecords (established : Bool) (lists : List VerifiedMasterList) : List AcceptedSigner :=
  lists.foldl (fun signers v => keepRecord established v signers) []

def keepAnchor (anchors : List Bytes) (anchor : Bytes) : List Bytes :=
  if anchor ∈ anchors then anchors else anchors ++ [anchor]

def keepAnchors (lists : List VerifiedMasterList) : List Bytes :=
  lists.foldl (fun anchors v => v.anchors.foldl keepAnchor anchors) []

structure Refusal where
  reason : ImportRefusal
  seenSigner : Option SignerFingerprint
  trustedSigner : Option SignerFingerprint
  seenSignedAt : Option Int64
  trustedSignedAt : Option Int64
  listsOffered : UInt32

def onlySigner (signers : List AcceptedSigner) : Option SignerFingerprint :=
  match signers with
  | [s] => some s.fingerprint
  | _ => none

def firstPass (cache : AnchorCache) (der : Bytes) : List (Except ListRefusal VerifiedMasterList) :=
  let prior := cache.state
  -- read before anything is written: no list of the file vouches for another
  let vouchingAnchors := if prior.present then cache.anchors else []
  (offeredLists der).map (judge mw prior vouchingAnchors)

def secondPass (cache : AnchorCache) (der : Bytes) (verified : VerifiedMasterList) :
    Option ListRefusal :=
  barRefusal cache.state (displacedAt cache.state (admittedLists (firstPass mw cache der))) verified

def acceptedLists (cache : AnchorCache) (der : Bytes) : List VerifiedMasterList :=
  (admittedLists (firstPass mw cache der)).filter fun v => (secondPass mw cache der v).isNone

def allRefusals (cache : AnchorCache) (der : Bytes) : List ListRefusal :=
  listRefusals (firstPass mw cache der)
    ++ (admittedLists (firstPass mw cache der)).filterMap (secondPass mw cache der)

def nextState (cache : AnchorCache) (der : Bytes) (now : Int64) : AnchorState where
  present := true
  signers := keepRecords cache.state.present (acceptedLists mw cache der)
  anchorCount := UInt32.ofNat (keepAnchors (acceptedLists mw cache der)).length
  issuerCount := countIssuers mw (keepAnchors (acceptedLists mw cache der))
  listsOffered := UInt32.ofNat (offeredLists der).length
  refusedLists := (allRefusals mw cache der).map fun r => ⟨r.reason, r.signer⟩
  acceptedAt := now

def importMasterList (fault : Option Fault) (der : Bytes) (cache : AnchorCache)
    (now : Int64) : Except Refusal AnchorState × AnchorCache :=
  let prior := cache.state
  let trusted := if prior.present then onlySigner prior.signers else none
  let next := nextState mw cache der now
  if next.signers = [] then
    let first := (allRefusals mw cache der).headD ⟨.notAMasterList, none, none, none⟩
    (.error
      { reason := first.reason
        seenSigner := if (offeredLists der).length = 1 then first.signer else none
        trustedSigner := trusted
        seenSignedAt := first.seenSignedAt
        trustedSignedAt := first.trustedSignedAt
        listsOffered := UInt32.ofNat (offeredLists der).length }, cache)
  else
    let stored := cache.replace fault (keepAnchors (acceptedLists mw cache der)) next
    if stored.1 then (.ok next, stored.2)
    else
      (.error
        { reason := .cacheNotWritable
          seenSigner := onlySigner next.signers
          trustedSigner := trusted
          seenSignedAt := none
          trustedSignedAt := none
          listsOffered := next.listsOffered }, stored.2)

/-! ## What a verdict says -/

variable {offered : Option Int64} {prior : AnchorState} {v : VerifiedMasterList} {list : Bytes}
  {established : Bool} {fingerprint : SignerFingerprint} {lists : List VerifiedMasterList}

lemma newerThan_iff {bar : Int64} : newerThan bar offered = true ↔ ∃ t, offered = some t ∧
    bar < t := by
  cases offered <;> simp [newerThan]

lemma replayRefusal_none (h : replayRefusal prior v = none) {recorded : Int64}
    (hd : prior.dateOf v.signerSpkiSha256 = some recorded) : ∃ t, v.signingTimeEpochSeconds =
    some t ∧ recorded < t := by
  rw [replayRefusal, hd] at h
  by_cases hn : newerThan recorded v.signingTimeEpochSeconds = true
  · exact newerThan_iff.mp hn
  · replace h : (if newerThan recorded v.signingTimeEpochSeconds then none else some _) = none := h
    rw [if_neg hn] at h
    cases h

lemma unlessReplayed_ok {w : VerifiedMasterList}
    (h : unlessReplayed prior v = .ok w) : w = v ∧ replayRefusal prior w = none := by
  rw [unlessReplayed] at h
  split at h
  · cases h
  · rename_i hn
    cases h
    exact ⟨rfl, hn⟩

def pins (prior : AnchorState) : List (Option SignerFingerprint) :=
  none :: prior.signers.map fun record => some record.fingerprint

lemma followed_some {mw : Middleware} {seen : VerifiedMasterList}
    (h : followed mw prior list seen = some v) :
    v = seen ∨ ∃ pin ∈ pins prior, mw.parseAndVerifyMasterList list pin = .ok v := by
  rw [followed] at h
  split at h
  · cases h
    exact Or.inl rfl
  · obtain ⟨record, hr, hv⟩ := exists_of_findSome?_eq_some h
    refine Or.inr ⟨some record.fingerprint, ?_, ?_⟩
    · exact mem_cons_of_mem _ (mem_map_of_mem hr)
    cases hp : mw.parseAndVerifyMasterList list (some record.fingerprint) with
    | error e => rw [hp] at hv; cases hv
    | ok w => rw [hp] at hv; cases hv; rfl

/-- an admitted list is one the middleware verified, and no replay of its own signer's -/
lemma judge_ok {mw : Middleware} {anchors : List Bytes} (h : judge mw prior anchors list = .ok v) :
    (∃ pin ∈ pins prior, mw.parseAndVerifyMasterList list pin = .ok v) ∧
      replayRefusal prior v = none := by
  have hf : none ∈ pins prior := mem_cons_self
  rw [judge] at h
  split at h
  · cases h
  rename_i seen hs
  split at h
  · split at h
    · rename_i chosen hfo
      obtain ⟨rfl, hr⟩ := unlessReplayed_ok h
      refine ⟨?_, hr⟩
      rcases followed_some hfo with rfl | hp
      · exact ⟨none, hf, hs⟩
      · exact hp
    · split at h
      · obtain ⟨rfl, hr⟩ := unlessReplayed_ok h
        exact ⟨⟨none, hf, hs⟩, hr⟩
      · cases h
  · obtain ⟨rfl, hr⟩ := unlessReplayed_ok h
    exact ⟨⟨none, hf, hs⟩, hr⟩

lemma mem_admittedLists {verdicts : List (Except ListRefusal VerifiedMasterList)} :
    v ∈ admittedLists verdicts ↔ .ok v ∈ verdicts := by
  rw [admittedLists, mem_filterMap]
  constructor
  · rintro ⟨verdict, hm, hv⟩
    cases verdict with
    | error r => cases hv
    | ok w => cases hv; exact hm
  · intro hm
    exact ⟨.ok v, hm, rfl⟩

/-- an accepted list comes out of the file through the middleware, and is no replay -/
lemma verified_of_mem_acceptedLists {mw : Middleware} {cache : AnchorCache} {der : Bytes}
    (h : v ∈ acceptedLists mw cache der) :
    (∃ list ∈ offeredLists der, ∃ pin ∈ pins cache.state,
      mw.parseAndVerifyMasterList list pin = .ok v)
      ∧ replayRefusal cache.state v = none := by
  have ha := mem_admittedLists.mp (mem_of_mem_filter h)
  obtain ⟨list, hl, hj⟩ := mem_map.mp ha
  obtain ⟨hv, hr⟩ := judge_ok hj
  exact ⟨⟨list, hl, hv⟩, hr⟩

/-! ## The records of an import -/

def Bounds (signedAt : Option Int64) (date : Option Int64) : Prop :=
  ∀ t, date = some t → ∃ t', signedAt = some t' ∧ t ≤ t'

lemma bounds_laterDate_left {recorded date : Option Int64} (h : Bounds recorded date) :
    Bounds (laterDate recorded offered) date := by
  intro t ht
  obtain ⟨r, rfl, hle⟩ := h t ht
  cases offered with
  | none => exact ⟨r, rfl, hle⟩
  | some o =>
    rw [laterDate]
    split
    · next hlt => exact ⟨o, rfl, Int64.le_trans hle (Int64.le_of_lt hlt)⟩
    · exact ⟨r, rfl, hle⟩

lemma bounds_laterDate_right (recorded offered : Option Int64) :
    Bounds (laterDate recorded offered) offered := by
  rintro t rfl
  cases recorded with
  | none => exact ⟨t, rfl, Int64.le_refl t⟩
  | some r =>
    rw [laterDate]
    split
    · exact ⟨t, rfl, Int64.le_refl t⟩
    · next hlt => exact ⟨r, rfl, Int64.not_lt.mp hlt⟩

lemma recordIn_cons (s : AcceptedSigner) (signers : List AcceptedSigner)
    (fingerprint : SignerFingerprint) :
    recordIn (s :: signers) fingerprint
      = if s.fingerprint = fingerprint then some s else recordIn signers fingerprint := by
  rw [recordIn, List.find?_cons, recordIn]
  by_cases h : s.fingerprint = fingerprint
  · rw [if_pos h, decide_eq_true h]
  · rw [if_neg h, decide_eq_false h]

lemma recordIn_keepRecord_self (established : Bool) (v : VerifiedMasterList)
    (signers : List AcceptedSigner) :
    ∃ r, recordIn (keepRecord established v signers) v.signerSpkiSha256 = some r
      ∧ r.signedAt = match recordIn signers v.signerSpkiSha256 with
        | some old => laterDate old.signedAt v.signingTimeEpochSeconds
        | none => v.signingTimeEpochSeconds := by
  induction signers with
  | nil =>
    rw [keepRecord, recordIn_cons, if_pos rfl]
    exact ⟨_, rfl, rfl⟩
  | cons s signers ih =>
    rw [keepRecord]
    by_cases hs : s.fingerprint = v.signerSpkiSha256
    · rw [if_pos hs, recordIn_cons, if_pos hs, recordIn_cons, if_pos hs]
      exact ⟨_, rfl, rfl⟩
    · rw [if_neg hs, recordIn_cons, if_neg hs, recordIn_cons, if_neg hs]
      exact ih

lemma recordIn_keepRecord_ne (h : v.signerSpkiSha256 ≠ fingerprint)
    (signers : List AcceptedSigner) :
    recordIn (keepRecord established v signers) fingerprint = recordIn signers fingerprint := by
  induction signers with
  | nil => rw [keepRecord, recordIn_cons, if_neg h]
  | cons s signers ih =>
    rw [keepRecord]
    by_cases hs : s.fingerprint = v.signerSpkiSha256
    · have hne : ¬ s.fingerprint = fingerprint := fun e => h (hs.symm.trans e)
      rw [if_pos hs, recordIn_cons, if_neg hne, recordIn_cons, if_neg hne]
    · rw [if_neg hs, recordIn_cons, recordIn_cons, ih]

/-- a record stands for the lists of its signer, and bounds all their dates -/
def Recorded (lists : List VerifiedMasterList) (fingerprint : SignerFingerprint) :
    Option AcceptedSigner → Prop
  | none => ∀ v ∈ lists, v.signerSpkiSha256 ≠ fingerprint
  | some r => (∃ v ∈ lists, v.signerSpkiSha256 = fingerprint) ∧
      ∀ v ∈ lists, v.signerSpkiSha256 = fingerprint → Bounds r.signedAt v.signingTimeEpochSeconds

lemma recorded_keepRecord {signers : List AcceptedSigner}
    (h : Recorded lists fingerprint (recordIn signers fingerprint)) (v : VerifiedMasterList) :
    Recorded (lists ++ [v]) fingerprint (recordIn (keepRecord established v signers)
      fingerprint) := by
  by_cases hv : v.signerSpkiSha256 = fingerprint
  · subst hv
    obtain ⟨r, hr, hd⟩ := recordIn_keepRecord_self established v signers
    rw [hr]
    refine ⟨⟨v, mem_append_right _ mem_cons_self, rfl⟩, ?_⟩
    intro w hw hs
    rw [hd]
    cases hold : recordIn signers v.signerSpkiSha256 with
    | none =>
      rw [hold] at h
      rcases mem_append.mp hw with hw | hw
      · exact absurd hs (h w hw)
      · rw [mem_singleton.mp hw]
        exact fun t ht => ⟨t, ht, Int64.le_refl t⟩
    | some old =>
      rw [hold] at h
      rcases mem_append.mp hw with hw | hw
      · exact bounds_laterDate_left (h.2 w hw hs)
      · rw [mem_singleton.mp hw]
        exact bounds_laterDate_right _ _
  · rw [recordIn_keepRecord_ne hv]
    cases hold : recordIn signers fingerprint with
    | none =>
      rw [hold] at h
      intro w hw
      rcases mem_append.mp hw with hw | hw
      · exact h w hw
      · rw [mem_singleton.mp hw]
        exact hv
    | some old =>
      rw [hold] at h
      obtain ⟨⟨u, hu, hfp⟩, hb⟩ := h
      refine ⟨⟨u, mem_append_left _ hu, hfp⟩, ?_⟩
      intro w hw hs
      rcases mem_append.mp hw with hw | hw
      · exact hb w hw hs
      · rw [mem_singleton.mp hw] at hs
        exact absurd hs hv

lemma recorded_keepRecords (established : Bool) (lists : List VerifiedMasterList)
    (fingerprint : SignerFingerprint) :
    Recorded lists fingerprint (recordIn (keepRecords established lists) fingerprint) := by
  induction lists using List.reverseRecOn with
  | nil => exact fun v hv => absurd hv not_mem_nil
  | append_singleton lists v ih =>
    rw [keepRecords, foldl_append]
    exact recorded_keepRecord ih v

lemma eq_nil_of_keepRecords (h : keepRecords established lists = []) : lists = [] := by
  cases lists with
  | nil => rfl
  | cons v lists =>
    have hr := recorded_keepRecords established (v :: lists) v.signerSpkiSha256
    rw [h] at hr
    exact absurd rfl (hr v mem_cons_self)

/-! ## The outcome of an import -/

/-- the state file after a `replace` that fails, if the write of that file is not what failed -/
lemma stateFile_replace_fault {cache : AnchorCache} {fault : Fault}
    (h : ∀ written, fault ≠ .writing written) (anchors : List Bytes) (state : AnchorState) :
    (cache.replace (some fault) anchors state).2.stateFile = cache.stateFile := by
  cases fault with
  | staging | removing | installing | opening => rfl
  | writing written => exact absurd rfl (h written)

lemma replace_fault (cache : AnchorCache) (fault : Fault) (anchors : List Bytes)
    (state : AnchorState) : (cache.replace (some fault) anchors state).1 = false := by
  cases fault <;> rfl

section Outcome
variable (mw : Middleware) (der : Bytes) (cache : AnchorCache) (now : Int64)

lemma importMasterList_refused (fault : Option Fault) (h : acceptedLists mw cache der = []) :
    ∃ refusal, importMasterList mw fault der cache now = (.error refusal, cache) := by
  have hn : (nextState mw cache der now).signers = [] := by
    rw [nextState, h]
    rfl
  rw [importMasterList]
  simp only [if_pos hn]
  exact ⟨_, rfl⟩

variable {mw der cache}

section
variable (h : acceptedLists mw cache der ≠ [])
include h

lemma signers_nextState_ne_nil :
    (nextState mw cache der now).signers ≠ [] :=
  fun hn => h (eq_nil_of_keepRecords hn)

lemma importMasterList_stored :
    importMasterList mw none der cache now = (.ok (nextState mw cache der now),
      (cache.replace none (keepAnchors (acceptedLists mw cache der))
        (nextState mw cache der now)).2) := by
  rw [importMasterList]
  simp only [if_neg (signers_nextState_ne_nil now h)]
  rfl

lemma importMasterList_failed (fault : Fault) :
    ∃ refusal, importMasterList mw (some fault) der cache now = (.error refusal,
      (cache.replace (some fault) (keepAnchors (acceptedLists mw cache der))
        (nextState mw cache der now)).2) := by
  rw [importMasterList]
  simp only [if_neg (signers_nextState_ne_nil now h), replace_fault, Bool.false_eq_true, if_false]
  exact ⟨_, rfl⟩

end

end Outcome

/-- an import is stored as a whole, with at least one accepted list, or it is refused -/
lemma importMasterList_cases (fault : Option Fault) (der : Bytes)
    (cache : AnchorCache) (now : Int64) :
    (acceptedLists mw cache der ≠ [] ∧ fault = none ∧
      (importMasterList mw fault der cache now).1 = .ok (nextState mw cache der now) ∧
      (importMasterList mw fault der cache now).2.stateFile
        = some (stateText (nextState mw cache der now))) ∨
    ((∃ refusal, (importMasterList mw fault der cache now).1 = .error refusal) ∧
      ((∀ written, fault ≠ some (.writing written)) →
        (importMasterList mw fault der cache now).2.stateFile = cache.stateFile)) := by
  by_cases hn : acceptedLists mw cache der = []
  · obtain ⟨refusal, hr⟩ := importMasterList_refused mw der cache now fault hn
    rw [hr]
    exact Or.inr ⟨⟨refusal, rfl⟩, fun _ => rfl⟩
  · cases fault with
    | none =>
      rw [importMasterList_stored now hn]
      exact Or.inl ⟨hn, rfl, rfl, rfl⟩
    | some f =>
      obtain ⟨refusal, hr⟩ := importMasterList_failed now hn f
      rw [hr]
      refine Or.inr ⟨⟨refusal, rfl⟩, fun h => ?_⟩
      exact stateFile_replace_fault (fun written e => h written (congrArg some e)) _ _

end LibreAgent.Trust
