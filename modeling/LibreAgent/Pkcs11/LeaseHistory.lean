import LibreAgent.Lib.Runs
import LibreAgent.Pkcs11.LeaseQueries

/-!
# Leases against the history of calls

The entries of the manager are reaped lazily, refreshed by grants that may find them expired, and
dropped by four kinds of revocation.  Here the answers are read off the transcript of the calls
alone.

* `lease_answers` : the answers of `isActive` and `touch`, from the transcript.

Nothing here asks for a clock that never goes back: earliest and latest are places in the
transcript.
-/

namespace LibreAgent.Pkcs11

open Runs List LeaseManager

variable {Caller Card : Type*} [DecidableEq Caller] [DecidableEq Card]

/-! ## Transcripts -/

structure Exchange (Caller Card : Type*) where
  call : LeaseCall Caller Card
  answer : Option Bool

namespace Exchange

/-- the lease of the key is over: it is revoked, or found not to be usable -/
def ends (key : LeaseKey Caller Card) : Exchange Caller Card → Bool
  | ⟨.revoke k, _⟩ => k = key
  | ⟨.revokeCard card, _⟩ => card = key.card
  | ⟨.revokeCaller caller, _⟩ => caller = key.caller
  | ⟨.isActive k _, answer⟩ => k = key ∧ answer = some false
  | ⟨.touch k _, answer⟩ => k = key ∧ answer = some false
  | _ => false

def grantTime (key : LeaseKey Caller Card) : Exchange Caller Card → Option Int
  | ⟨.grant k now, _⟩ => if k = key then some now else none
  | _ => none

def useTime (key : LeaseKey Caller Card) : Exchange Caller Card → Option Int
  | ⟨.grant k now, _⟩ => if k = key then some now else none
  | ⟨.touch k now, some true⟩ => if k = key then some now else none
  | _ => none

lemma useTime_touch_ne {k key : LeaseKey Caller Card} (h : k ≠ key) (now : Int)
    (answer : Option Bool) : useTime key ⟨.touch k now, answer⟩ = none := by
  match answer with
  | none => rfl
  | some false => rfl
  | some true => exact if_neg h

end Exchange

def record (s : LeaseManager Caller Card × List (Exchange Caller Card))
    (call : LeaseCall Caller Card) : LeaseManager Caller Card × List (Exchange Caller Card) :=
  ((s.1.perform call).2, ⟨call, (s.1.perform call).1⟩ :: s.2)

def transcript (m : LeaseManager Caller Card) (calls : List (LeaseCall Caller Card)) :
    List (Exchange Caller Card) :=
  (run record (m, []) calls).2

lemma run_record_fst (calls : List (LeaseCall Caller Card))
    (s : LeaseManager Caller Card × List (Exchange Caller Card)) :
    (run record s calls).1 = s.1.performAll calls := by
  induction calls generalizing s with
  | nil => rfl
  | cons call calls ih => exact ih (record s call)

section Times
variable (key : LeaseKey Caller Card)
variable (past : List (Exchange Caller Card))

def sinceEnded : List (Exchange Caller Card) :=
  past.takeWhile fun x => !x.ends key

def earliestGrant : Option Int :=
  ((sinceEnded key past).filterMap (Exchange.grantTime key)).getLast?

def latestUse : Option Int :=
  past.findSome? (Exchange.useTime key)

variable {key} {x : Exchange Caller Card} {past : List (Exchange Caller Card)} {now : Int}

lemma earliestGrant_ended (h : x.ends key = true) : earliestGrant key (x :: past) = none := by
  unfold earliestGrant sinceEnded
  rw [takeWhile_cons_of_neg (by simp [h])]
  rfl

lemma earliestGrant_other (h : x.ends key = false) (hx : x.grantTime key = none) :
    earliestGrant key (x :: past) = earliestGrant key past := by
  unfold earliestGrant sinceEnded
  rw [takeWhile_cons_of_pos (by simp [h]), filterMap_cons_none hx]

lemma earliestGrant_grant (h : x.ends key = false) (hx : x.grantTime key = some now) :
    earliestGrant key (x :: past) = some ((earliestGrant key past).getD now) := by
  unfold earliestGrant sinceEnded
  rw [takeWhile_cons_of_pos (by simp [h]), filterMap_cons_some hx, getLast?_cons]

lemma latestUse_other (hx : x.useTime key = none) : latestUse key (x :: past) =
    latestUse key past := by
  unfold latestUse
  rw [findSome?_cons, hx]

lemma latestUse_use (hx : x.useTime key = some now) : latestUse key (x :: past) = some now := by
  unfold latestUse
  rw [findSome?_cons, hx]

end Times

/-! ## What an entry stores -/

def Recalls (key : LeaseKey Caller Card) (past : List (Exchange Caller Card)) : Option Entry → Prop
  | none => earliestGrant key past = none
  | some e => earliestGrant key past = some e.origin ∧ latestUse key past = some e.lastUse

section Recalls
variable {key : LeaseKey Caller Card} {past : List (Exchange Caller Card)} {stored : Option Entry}
  {x : Exchange Caller Card} {now : Int}

lemma recalls_ended (h : x.ends key = true) : Recalls key (x :: past) none := earliestGrant_ended h

lemma Recalls.other (h : Recalls key past stored) (he : x.ends key = false)
    (hg : x.grantTime key = none) (hu : x.useTime key = none) : Recalls key (x :: past) stored := by
  cases stored with
  | none => exact (earliestGrant_other he hg).trans h
  | some e => exact ⟨(earliestGrant_other he hg).trans h.1, (latestUse_other hu).trans h.2⟩

lemma Recalls.map_pinVerified (h : Recalls key past stored) (verified : Bool) :
    Recalls key past (stored.map fun e => { e with pinVerified := verified }) := by
  cases stored <;> exact h

lemma Recalls.granted (h : Recalls key past stored) (he : x.ends key = false)
    (hg : x.grantTime key = some now) (hu : x.useTime key = some now) :
    Recalls key (x :: past) (some (Pkcs11.granted now stored)) := by
  refine ⟨?_, ?_⟩
  · rw [earliestGrant_grant he hg]
    cases stored with
    | none =>
      rw [show earliestGrant key past = none from h]
      rfl
    | some e =>
      rw [h.1]
      rfl
  · rw [latestUse_use hu]
    cases stored <;> rfl

lemma Recalls.used {e : Entry} (h : Recalls key past (some e)) (he : x.ends key = false)
    (hg : x.grantTime key = none) (hu : x.useTime key = some now) :
    Recalls key (x :: past) (some { e with lastUse := now }) :=
  ⟨(earliestGrant_other he hg).trans h.1, latestUse_use hu⟩

end Recalls

lemma Recalls.perform {m : LeaseManager Caller Card} {key : LeaseKey Caller Card}
    {past : List (Exchange Caller Card)} (h : Recalls key past (m.leases key))
    (call : LeaseCall Caller Card) :
    Recalls key (⟨call, (m.perform call).1⟩ :: past) ((m.perform call).2.leases key) := by
  rw [perform_leases]
  cases call with
  | grant k now =>
    by_cases hk : key = k
    · subst hk
      have ht : Exchange.grantTime key ⟨.grant key now, (m.perform (.grant key now)).1⟩ =
        some now := if_pos rfl
      rw [LeaseCall.effect, if_pos rfl]
      exact h.granted rfl ht ht
    · have ht : Exchange.grantTime key ⟨.grant k now, (m.perform (.grant k now)).1⟩ = none :=
        if_neg (Ne.symm hk)
      rw [LeaseCall.effect, if_neg hk]
      exact h.other rfl ht ht
  | isActive k now =>
    by_cases hk : key = k
    · subst hk
      rw [LeaseCall.effect, if_pos rfl]
      have ha : (m.perform (.isActive key now)).1 =
        some (reaped m.config now (m.leases key)).isSome :=
        congrArg some (m.isActive_eq key now)
      rw [ha]
      cases hr : reaped m.config now (m.leases key) with
      | none => exact recalls_ended (by simp [Exchange.ends])
      | some e =>
        rw [(reaped_eq_some hr).1] at h
        exact h.other (by simp [Exchange.ends]) rfl rfl
    · rw [LeaseCall.effect, if_neg hk]
      exact h.other (by simp [Exchange.ends, Ne.symm hk]) rfl rfl
  | touch k now =>
    by_cases hk : key = k
    · subst hk
      rw [LeaseCall.effect, if_pos rfl]
      have ha : (m.perform (.touch key now)).1 = some (reaped m.config now (m.leases key)).isSome :=
        congrArg some ((m.touch_eq key now).trans (m.isActive_eq key now))
      rw [ha]
      cases hr : reaped m.config now (m.leases key) with
      | none => exact recalls_ended (by simp [Exchange.ends])
      | some e =>
        rw [(reaped_eq_some hr).1] at h
        exact h.used (by simp [Exchange.ends]) rfl (by simp [Exchange.useTime])
    · rw [LeaseCall.effect, if_neg hk]
      exact h.other (by simp [Exchange.ends, Ne.symm hk]) rfl
        (Exchange.useTime_touch_ne (Ne.symm hk) _ _)
  | isPinVerified k => exact h.other rfl rfl rfl
  | markPinVerified k =>
    rw [LeaseCall.effect]
    split
    · exact (h.other rfl rfl rfl).map_pinVerified true
    · exact h.other rfl rfl rfl
  | clearPinVerified k =>
    rw [LeaseCall.effect]
    split
    · exact (h.other rfl rfl rfl).map_pinVerified false
    · exact h.other rfl rfl rfl
  | revoke | revokeCard | revokeCaller =>
    rw [LeaseCall.effect]
    split
    · next hk => exact recalls_ended (by simp [Exchange.ends, hk])
    · next hk => exact h.other (by simp [Exchange.ends, Ne.symm hk]) rfl rfl

lemma recalls_transcript (config : LeaseConfig) (key : LeaseKey Caller Card)
    (calls : List (LeaseCall Caller Card)) :
    Recalls key (transcript (.empty config) calls)
      (((empty config).performAll calls).leases key) := by
  have hi : ∀ (s : LeaseManager Caller Card × List (Exchange Caller Card)) call,
      Recalls key s.2 (s.1.leases key) → Recalls key (record s call).2
        ((record s call).1.leases key) :=
    fun s call h => h.perform call
  have hr := run_invariant hi (s := (empty config, [])) rfl calls
  rw [run_record_fst] at hr
  exact hr

/-! ## Answers -/

lemma reaped_isSome_iff {config : LeaseConfig} {key : LeaseKey Caller Card}
    {past : List (Exchange Caller Card)} {stored : Option Entry}
    (h : Recalls key past stored) (t : Int) :
    (reaped config t stored).isSome = true ↔
      ∃ first ∈ earliestGrant key past, ∃ last ∈ latestUse key past,
        t - last < config.idleTimeout ∧ (0 < config.maxLifetime →
          t - first < config.maxLifetime) := by
  cases stored with
  | none =>
    rw [show earliestGrant key past = none from h]
    constructor
    · intro hn
      cases hn
    · rintro ⟨first, hf, -⟩
      cases hf
  | some e =>
    rw [h.1, h.2]
    have hif := isActiveLocked_iff config e t
    constructor
    · intro hs
      obtain ⟨e', he'⟩ := Option.isSome_iff_exists.mp hs
      obtain ⟨hst, ha⟩ := reaped_eq_some he'
      cases hst
      obtain ⟨hi, hl⟩ := hif.mp ha
      exact ⟨e.origin, rfl, e.lastUse, rfl, hi, by omega⟩
    · rintro ⟨first, hf, last, hla, hi, hl⟩
      cases hf
      cases hla
      have ha : isActiveLocked config e t = true := hif.mpr ⟨hi, by omega⟩
      rw [reaped_live ha]
      rfl

namespace LeaseCall

def concerns (key : LeaseKey Caller Card) : LeaseCall Caller Card → Bool
  | grant k _ | isActive k _ | touch k _ => k = key
  | isPinVerified k | markPinVerified k | clearPinVerified k => k = key
  | revoke k => k = key
  | revokeCard card => card = key.card
  | revokeCaller caller => caller = key.caller

lemma effect_of_not_concerns {key : LeaseKey Caller Card} {call : LeaseCall Caller Card}
    (h : call.concerns key = false) (config : LeaseConfig) (stored : Option Entry) :
    call.effect config key stored = stored := by
  cases call <;> simp only [concerns, decide_eq_false_iff_not] at h <;>
    simp [effect, Ne.symm h]

end LeaseCall

lemma performAll_filter_concerns (key : LeaseKey Caller Card) (calls : List (LeaseCall Caller Card))
    {m m' : LeaseManager Caller Card} (hco : m.config = m'.config)
    (h : m.leases key = m'.leases key) :
    (m.performAll calls).leases key
      = (m'.performAll (calls.filter (LeaseCall.concerns key))).leases key := by
  induction calls generalizing m m' with
  | nil => exact h
  | cons call calls ih =>
    cases hc : call.concerns key with
    | true =>
      rw [filter_cons_of_pos hc]
      refine ih ?_ ?_
      · rw [perform_config, perform_config, hco]
      · rw [perform_leases, perform_leases, hco, h]
    | false =>
      rw [filter_cons_of_neg (by simp [hc])]
      refine ih ?_ ?_
      · rw [perform_config, hco]
      · rw [perform_leases, LeaseCall.effect_of_not_concerns hc, h]

lemma answer_isActive (m : LeaseManager Caller Card) (calls : List (LeaseCall Caller Card))
    (key : LeaseKey Caller Card) (t : Int) : m.answer calls (.isActive key t)
      = some (reaped m.config t ((m.performAll calls).leases key)).isSome := by
  rw [← performAll_config m calls]
  exact congrArg some ((m.performAll calls).isActive_eq key t)

lemma answer_touch (m : LeaseManager Caller Card) (calls : List (LeaseCall Caller Card))
    (key : LeaseKey Caller Card) (t : Int) :
    m.answer calls (.touch key t) = m.answer calls (.isActive key t) :=
  congrArg some ((m.performAll calls).touch_eq key t)

/-- `isActive` and `touch` answer from the transcript, and calls about other keys make no difference
-/
theorem lease_answers (config : LeaseConfig) (calls : List (LeaseCall Caller Card))
    (key : LeaseKey Caller Card) (t : Int) (ask : LeaseCall Caller Card)
    (hask : ask = .isActive key t ∨ ask = .touch key t) :
    ((empty config).answer calls ask = some true ↔
      ∃ first ∈ earliestGrant key (transcript (.empty config) calls),
        ∃ last ∈ latestUse key (transcript (.empty config) calls),
          t - last < config.idleTimeout ∧
            (0 < config.maxLifetime → t - first < config.maxLifetime)) ∧
              (empty config).answer calls ask
      = (empty config).answer (calls.filter (LeaseCall.concerns key)) ask := by
  have ha : ∀ history, (empty config).answer history ask
      = some (reaped config t (((empty config).performAll history).leases key)).isSome := by
    intro history
    rcases hask with rfl | rfl
    · exact answer_isActive _ history key t
    · exact (answer_touch _ history key t).trans (answer_isActive _ history key t)
  refine ⟨?_, ?_⟩
  · rw [ha, Option.some_inj]
    exact reaped_isSome_iff (recalls_transcript config key calls) t
  · rw [ha, ha, ← performAll_filter_concerns key calls rfl rfl]

/-- sixty units of idling, no bound on the lifetime: a touch at 50 keeps a grant at 0 usable at 100
-/
theorem lease_answers_touched : (empty ⟨60, 0⟩ : LeaseManager Nat Nat).answer
      [.grant someKey 0, .revokeCard 8, .touch someKey 50] (.isActive someKey 100) = some true := by
  refine (lease_answers ⟨60, 0⟩ _ someKey 100 (.isActive someKey 100) (.inl rfl)).1.mpr ?_
  exact ⟨0, rfl, 50, rfl, by decide, by decide⟩

end LibreAgent.Pkcs11
