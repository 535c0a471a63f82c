import LibreAgent.Trust.ImportOrder

/-!
# One import

What an import accepts, against what was stored before it.

A list of a signer on record beats that record.  Any other list is vouched for by the stored anchors
and beats every dated record that the import drops.  The bar is set by what the first pass leaves,
but the second pass takes away only signers without a record, so who is displaced then is who is
missing from the new state (`publishes_iff_recorded`).

No list vouches for another.  One list can still help another to be accepted: the list of a
publisher on record keeps that publisher from being displaced, and the bar down (`accepted_beside`,
`helped_beside`).

* `StepLaws`, `import_step`.
-/

namespace LibreAgent.Trust

open Bytes List

/-- a list that is verified for a pin is of that publisher -/
def Middleware.HonoursPins (mw : Middleware) : Prop :=
  ∀ list pin v, mw.parseAndVerifyMasterList list (some pin) = .ok v → v.signerSpkiSha256 = pin

/-! ## The bar -/

def Over (offered : Option Int64) (bar : Option Int64) : Prop :=
  ∀ b, bar = some b → ∃ t, offered = some t ∧ b < t

lemma over_none (offered : Option Int64) : Over offered none := nofun

variable {offered bar : Option Int64} {prior : AnchorState} {v : VerifiedMasterList}
  {mw : Middleware}
  {cache : AnchorCache} {der list : Bytes} {fingerprint : SignerFingerprint}

lemma over_some {b : Int64} : Over offered (some b) ↔ ∃ t, offered = some t ∧ b < t :=
  ⟨fun h => h b rfl, fun h _ hb => Option.some.inj hb ▸ h⟩

lemma over_raiseBar {d : Int64} : Over offered (raiseBar bar d) ↔ Over offered bar ∧
    Over offered (some d) := by
  cases bar with
  | none => exact ⟨fun h => ⟨over_none offered, h⟩, fun h => h.2⟩
  | some b =>
    rw [raiseBar, over_some, over_some]
    by_cases hlt : b < d
    · rw [if_pos hlt, over_some]
      refine ⟨fun ⟨t, ht, hd⟩ => ⟨⟨t, ht, Int64.lt_trans hlt hd⟩, t, ht, hd⟩, fun h => h.2⟩
    · rw [if_neg hlt, over_some]
      refine ⟨fun ⟨t, ht, hb⟩ => ⟨⟨t, ht, hb⟩, t, ht, ?_⟩, fun h => h.1⟩
      exact Int64.lt_of_le_of_lt (Int64.not_lt.mp hlt) hb

lemma over_displacedAt (hp : prior.present = true) {admitted : List VerifiedMasterList} :
    Over offered (displacedAt prior admitted) ↔
      ∀ r ∈ prior.signers, publishes admitted r.fingerprint = false → Over offered r.signedAt := by
  rw [displacedAt, if_pos hp]
  induction prior.signers using List.reverseRecOn with
  | nil => exact iff_of_true (over_none offered) fun r hr => absurd hr not_mem_nil
  | append_singleton records r ih =>
    have hl : ∀ P : AcceptedSigner → Prop, (∀ s ∈ records ++ [r], P s) ↔
      (∀ s ∈ records, P s) ∧ P r := by
      intro P
      simp [or_imp, forall_and, forall_eq]
    rw [foldl_append, foldl_cons, foldl_nil, hl, ← ih]
    cases hd : r.signedAt with
    | none => exact ⟨fun h => ⟨h, fun _ => over_none offered⟩, fun h => h.1⟩
    | some d =>
      by_cases hpu : publishes admitted r.fingerprint = true
      · simp only [hpu, if_true, Bool.true_eq_false, false_implies, and_true]
      · rw [Bool.not_eq_true] at hpu
        simp only [hpu, Bool.false_eq_true, if_false, true_implies]
        exact over_raiseBar

lemma newerThan_iff_over {bar : Int64} : newerThan bar offered = true ↔ Over offered (some bar) :=
  newerThan_iff.trans over_some.symm

lemma barRefusal_none_iff : barRefusal prior bar v = none ↔
      (prior.recordFor v.signerSpkiSha256).isSome = true ∨ Over v.signingTimeEpochSeconds bar := by
  cases bar with
  | none => exact iff_of_true rfl (Or.inr (over_none _))
  | some b =>
    rw [← newerThan_iff_over, barRefusal]
    show (if _ then _ else _) = none ↔ _
    split
    · next h => exact iff_of_true rfl h
    · next h => exact iff_of_false nofun h

lemma mem_acceptedLists : v ∈ acceptedLists mw cache der ↔
    v ∈ admittedLists (firstPass mw cache der) ∧
      ((cache.state.recordFor v.signerSpkiSha256).isSome = true ∨
        Over v.signingTimeEpochSeconds
          (displacedAt cache.state (admittedLists (firstPass mw cache der)))) := by
  rw [acceptedLists, mem_filter, Option.isNone_iff_eq_none, secondPass, barRefusal_none_iff]

/-! ## Who is left -/

lemma publishes_iff {lists : List VerifiedMasterList} :
    publishes lists fingerprint = true ↔ ∃ v ∈ lists, v.signerSpkiSha256 = fingerprint := by
  rw [publishes, any_eq_true]
  simp

lemma recordFor_isSome_iff {state : AnchorState} :
    (state.recordFor fingerprint).isSome = true ↔ ∃ r ∈ state.signers, r.fingerprint =
      fingerprint := by
  rw [AnchorState.recordFor, recordIn, List.find?_isSome]
  simp

lemma recordFor_nextState_isSome {now : Int64} :
    ((nextState mw cache der now).recordFor fingerprint).isSome = true
      ↔ ∃ v ∈ acceptedLists mw cache der, v.signerSpkiSha256 = fingerprint := by
  have hre := recorded_keepRecords cache.state.present (acceptedLists mw cache der) fingerprint
  show (recordIn (keepRecords _ _) fingerprint).isSome = true ↔ _
  cases hr : recordIn (keepRecords cache.state.present (acceptedLists mw cache der))
    fingerprint with
  | none =>
    rw [hr] at hre
    exact iff_of_false Bool.false_ne_true fun ⟨v, hv, hfp⟩ => hre v hv hfp
  | some r =>
    rw [hr] at hre
    exact iff_of_true rfl hre.1

lemma publishes_iff_recorded (now : Int64) {r : AcceptedSigner} (hr : r ∈ cache.state.signers) :
    publishes (admittedLists (firstPass mw cache der)) r.fingerprint = true
      ↔ ((nextState mw cache der now).recordFor r.fingerprint).isSome = true := by
  rw [publishes_iff, recordFor_nextState_isSome]
  constructor
  · rintro ⟨v, hv, hfp⟩
    refine ⟨v, mem_acceptedLists.mpr ⟨hv, Or.inl ?_⟩, hfp⟩
    exact recordFor_isSome_iff.mpr ⟨r, hr, hfp.symm⟩
  · rintro ⟨v, hv, hfp⟩
    exact ⟨v, (mem_acceptedLists.mp hv).1, hfp⟩

/-! ## Vouching -/

lemma followed_none {seen : VerifiedMasterList} (hpi : mw.HonoursPins)
    (h : followed mw prior list seen = some v) :
    (prior.recordFor v.signerSpkiSha256).isSome = true := by
  rw [followed] at h
  split at h
  · rename_i hs
    cases h
    exact hs
  · obtain ⟨record, hr, hv⟩ := exists_of_findSome?_eq_some h
    refine recordFor_isSome_iff.mpr ⟨record, hr, ?_⟩
    cases hp : mw.parseAndVerifyMasterList list (some record.fingerprint) with
    | error e => rw [hp] at hv; cases hv
    | ok w =>
      rw [hp] at hv
      cases hv
      exact (hpi _ _ _ hp).symm

/-- a signer without a record is the first signer of its list, with a certificate that chains -/
lemma chained_of_judge (hp : mw.HonoursPins) (hpr : prior.present = true) {anchors : List Bytes}
    (h : judge mw prior anchors list = .ok v) (hn : prior.recordFor v.signerSpkiSha256 = none) :
    mw.parseAndVerifyMasterList list none = .ok v ∧
      mw.signerChainsToAnyAnchor v.signerCertDer anchors = true := by
  rw [judge] at h
  split at h
  · cases h
  rename_i seen hs
  rw [if_pos hpr] at h
  split at h
  · rename_i chosen hf
    obtain ⟨rfl, -⟩ := unlessReplayed_ok h
    have hr := followed_none hp hf
    rw [hn] at hr
    cases hr
  · split at h
    · rename_i hc
      obtain ⟨rfl, -⟩ := unlessReplayed_ok h
      exact ⟨hs, hc⟩
    · cases h

/-! ## First imports -/

lemma finishReading_cases (r : Reading) :
    finishReading r = {} ∨ (finishReading r).present = true := by
  rw [finishReading]
  split
  · exact Or.inl rfl
  · split
    · exact Or.inl rfl
    · exact Or.inr rfl

lemma state_eq_empty (h : cache.state.present = false) : cache.state = {} := by
  rw [AnchorCache.state] at h ⊢
  cases hf : cache.stateFile with
  | none => rfl
  | some text =>
    rw [hf] at h
    refine (finishReading_cases _).resolve_right fun hp => ?_
    exact absurd (h.symm.trans hp) Bool.false_ne_true

lemma judge_first (anchors : List Bytes) (list : Bytes) :
    (judge mw {} anchors list).toOption = (mw.parseAndVerifyMasterList list none).toOption := by
  rw [judge]
  cases mw.parseAndVerifyMasterList list none with
  | error | ok => rfl

lemma established_keepRecords (established : Bool) (lists : List VerifiedMasterList) :
    ∀ r ∈ keepRecords established lists, r.identityEstablished = established := by
  have hst : ∀ v signers, (∀ r ∈ signers, r.identityEstablished = established) →
      ∀ r ∈ keepRecord established v signers, r.identityEstablished = established := by
    intro v signers hsi
    induction signers with
    | nil =>
      intro r hr
      rw [mem_singleton.mp hr]
    | cons s signers ih =>
      have hs := hsi s mem_cons_self
      have hre := fun r hr => hsi r (mem_cons_of_mem s hr)
      rw [keepRecord]
      split
      · intro r hr
        rcases mem_cons.mp hr with rfl | hr
        · exact hs
        · exact hre r hr
      · intro r hr
        rcases mem_cons.mp hr with rfl | hr
        · exact hs
        · exact ih hre r hr
  induction lists using List.reverseRecOn with
  | nil => exact fun r hr => absurd hr not_mem_nil
  | append_singleton lists v ih =>
    rw [keepRecords, foldl_append]
    exact hst v _ ih

/-! ## The step -/

/-- a list that is accepted in one file is accepted in another that carries it, unless a publisher
on record has a list in the first file and none in the second -/
lemma accepted_beside {der' : Bytes} (ha : v ∈ acceptedLists mw cache der)
    (hc : v ∈ admittedLists (firstPass mw cache der')) (hp : ∀ r ∈ cache.state.signers,
      publishes (admittedLists (firstPass mw cache der)) r.fingerprint = true →
      publishes (admittedLists (firstPass mw cache der')) r.fingerprint = true) :
        v ∈ acceptedLists mw cache der' := by
  refine mem_acceptedLists.mpr ⟨hc, ?_⟩
  rcases (mem_acceptedLists.mp ha).2 with hre | ho
  · exact Or.inl hre
  refine Or.inr ?_
  cases hpr : cache.state.present with
  | false =>
    rw [displacedAt, hpr]
    exact over_none _
  | true =>
    rw [over_displacedAt hpr] at ho ⊢
    intro r hr hg
    refine ho r hr ?_
    cases hpu : publishes (admittedLists (firstPass mw cache der)) r.fingerprint with
    | false => rfl
    | true =>
      rw [hp r hr hpu] at hg
      cases hg

/-- what a stored import has accepted, against what was stored before -/
structure StepLaws (mw : Middleware) (cache : AnchorCache) (der : Bytes) (next : AnchorState) :
    Prop where
  /-- a signer on record goes forward -/
  renewed : ∀ v ∈ acceptedLists mw cache der, ∀ recorded,
    cache.state.dateOf v.signerSpkiSha256 = some recorded →
    Over v.signingTimeEpochSeconds (some recorded)
  /-- a signer without a record is vouched for by what was stored, -/
  vouched : cache.state.present = true → ∀ v ∈ acceptedLists mw cache der,
    cache.state.recordFor v.signerSpkiSha256 = none →
    mw.signerChainsToAnyAnchor v.signerCertDer cache.anchors = true ∧
      ∃ list ∈ offeredLists der, mw.parseAndVerifyMasterList list none = .ok v
  /-- and beats every record that the import drops -/
  supersedes : cache.state.present = true → ∀ v ∈ acceptedLists mw cache der,
    cache.state.recordFor v.signerSpkiSha256 = none →
    ∀ r ∈ cache.state.signers, next.recordFor r.fingerprint = none →
      Over v.signingTimeEpochSeconds r.signedAt
  /-- the other lists of a file matter only in that publishers on record are among them -/
  beside : ∀ v ∈ acceptedLists mw cache der, ∀ der',
    v ∈ admittedLists (firstPass mw cache der') →
    (∀ r ∈ cache.state.signers,
      publishes (admittedLists (firstPass mw cache der)) r.fingerprint = true →
      publishes (admittedLists (firstPass mw cache der')) r.fingerprint = true) →
    v ∈ acceptedLists mw cache der'
  /-- whatever verifies is accepted the first time, -/
  first : cache.state.present = false → acceptedLists mw cache der
    = (offeredLists der).filterMap fun list => (mw.parseAndVerifyMasterList list none).toOption
  /-- and nobody's identity is established then -/
  unestablished : cache.state.present = false → ∀ r ∈ next.signers, r.identityEstablished = false

lemma acceptedLists_first (der : Bytes) (h : cache.state.present = false) :
    acceptedLists mw cache der
      = (offeredLists der).filterMap fun list =>
        (mw.parseAndVerifyMasterList list none).toOption := by
  have ha : admittedLists (firstPass mw cache der)
      = (offeredLists der).filterMap fun list =>
        (mw.parseAndVerifyMasterList list none).toOption := by
    rw [firstPass, state_eq_empty h, admittedLists, List.filterMap_map]
    exact congrArg (fun f => List.filterMap f (offeredLists der))
      (funext fun list => judge_first _ list)
  have hb : ∀ v, secondPass mw cache der v = none := by
    intro v
    rw [secondPass, barRefusal_none_iff, displacedAt, h]
    exact Or.inr (over_none _)
  rw [acceptedLists, ← ha]
  exact filter_eq_self.mpr fun v _ => Option.isNone_iff_eq_none.mpr (hb v)

lemma stepLaws_nextState (hp : mw.HonoursPins) (cache : AnchorCache) (der : Bytes)
    (now : Int64) : StepLaws mw cache der (nextState mw cache der now) where
  renewed v hv recorded hd := over_some.mpr
    (replayRefusal_none (verified_of_mem_acceptedLists hv).2 hd)
  vouched hpr v hv hn := by
    obtain ⟨list, hl, hj⟩ := mem_map.mp (mem_admittedLists.mp (mem_acceptedLists.mp hv).1)
    obtain ⟨hve, hc⟩ := chained_of_judge hp hpr hj hn
    rw [if_pos hpr] at hc
    exact ⟨hc, list, hl, hve⟩
  supersedes hpr v hv hn r hr hg := by
    have ho := (mem_acceptedLists.mp hv).2.resolve_left (by rw [hn]; exact Bool.false_ne_true)
    refine (over_displacedAt hpr).mp ho r hr ?_
    rw [← Bool.not_eq_true, publishes_iff_recorded now hr, hg]
    exact Bool.false_ne_true
  beside v hv der' hca hpu := accepted_beside hv hca hpu
  first h := acceptedLists_first der h
  unestablished h r hr := (established_keepRecords _ _ r hr).trans h

theorem import_step {mw : Middleware} (hpins : mw.HonoursPins) (fault : Option Fault)
    (cache : AnchorCache) (der : Bytes) (now : Int64) :
    (∀ next, (importMasterList mw fault der cache now).1 = .ok next → StepLaws mw cache der next) ∧
      (acceptedLists mw cache der = [] → (importMasterList mw fault der cache now).2 = cache) := by
  constructor
  · intro next hok
    rcases importMasterList_cases mw fault der cache now with ⟨-, -, hr, -⟩ | ⟨⟨refusal, hr⟩, -⟩
    · rw [hr] at hok
      cases hok
      exact stepLaws_nextState hpins cache der now
    · rw [hr] at hok
      cases hok
  · intro hn
    obtain ⟨refusal, hr⟩ := importMasterList_refused mw der cache now fault hn
    rw [hr]

/-! ## Two publishers, asked for by name -/

lemma signer_of_pinned {w : VerifiedMasterList} (h : pinned v (some fingerprint) = .ok w) :
    w.signerSpkiSha256 = fingerprint := by
  rw [pinned] at h
  split at h
  · rename_i hp
    cases h
    exact (of_decide_eq_true hp).symm
  · cases h

lemma honoursPins_namedPublishers : namedPublishers.HonoursPins := by
  intro list pin v h
  simp only [namedPublishers] at h
  split_ifs at h
  all_goals exact signer_of_pinned h

def betaStored : AnchorCache :=
  (importMasterList namedPublishers none (objectOf 2) .empty 200).2

theorem import_step_collection : namedPublishers.HonoursPins ∧ betaStored.state.present = true ∧
      ∃ next, (importMasterList namedPublishers none collection betaStored 300).1 = .ok next ∧
        StepLaws namedPublishers betaStored collection next := by
  have hne : acceptedLists namedPublishers betaStored collection ≠ [] := by decide +kernel
  have hok : (importMasterList namedPublishers none collection betaStored 300).1
      = .ok (nextState namedPublishers betaStored collection 300) := by
    rw [importMasterList_stored 300 hne]
  exact ⟨honoursPins_namedPublishers, by decide +kernel, _, hok,
    (import_step honoursPins_namedPublishers none betaStored collection 300).1 _ hok⟩

/-- alone, the old list of an unrecorded signer is refused; beside a new list of the publisher on
record it is accepted -/
theorem helped_beside : offeredLists (objectOf 4) = [objectOf 4] ∧ offeredLists collection =
    [objectOf 3, objectOf 4] ∧
      namedPublishers.parseAndVerifyMasterList (objectOf 4) none = .ok (listOf alpha 5) ∧
      acceptedLists namedPublishers betaStored (objectOf 4) = [] ∧
      acceptedLists namedPublishers betaStored collection = [listOf beta 30, listOf alpha 5] :=
  ⟨by decide +kernel, by decide +kernel, rfl, by decide +kernel, by decide +kernel⟩

end LibreAgent.Trust
