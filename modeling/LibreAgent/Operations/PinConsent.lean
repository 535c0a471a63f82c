import LibreAgent.Operations.RawCryptoFlow

/-!
# What a raw operation does with the PIN

A monitor follows an operation through its calls and keeps a tally of it: whether the lease was
verified when it was asked, whether a PIN was collected, which key was used last, and whether the
lease was marked.

* `Tally.Allows` : what the monitor lets pass.  The key is used without a PIN on a verified lease
  only, a key for which the card asks for consent only after a PIN was collected, and the lease is
  marked only after a PIN was collected and an ordinary key was used;
* `run_holds` : every operation respects it, whatever the answers; if it marks the lease, it ends
  well.
-/

namespace LibreAgent.Operations

open Interaction

def PromptResult.pin (prompt : PromptResult) : Option Bytes :=
  match RawCryptoFlow.dismissIfEmpty prompt with
  | ⟨.ok, secret⟩ => secret
  | _ => none

structure Tally where
  /-- a login, and not an operation with a key -/
  login : Bool := false
  verified : Bool := false
  collected : Bool := false
  /-- whether the card asks for consent to each use of the key that was used last -/
  lastKey : Option Bool := none
  marked : Bool := false

namespace Tally

def Allows (t : Tally) : Call → Prop
  | .isPinVerified => t.marked = false
  | .terminal none => t.verified = true
  | .sign key _ _ | .decipher key _ _ => key.cert.alwaysAuthenticate = true → t.collected = true
  | .markPinVerified => t.collected = true ∧ t.lastKey = some false
  -- a login does nothing else
  | .grant _ => t = { login := true }
  | _ => True

def next (t : Tally) : (c : Call) → c.Ans → Tally
  | .isPinVerified, answer => { t with verified := answer }
  | .requestPin _ _, prompt => { t with collected := t.collected || prompt.pin.isSome }
  | .sign key _ _, _ | .decipher key _ _, _ =>
    { t with lastKey := some key.cert.alwaysAuthenticate }
  | .markPinVerified, _ => { t with marked := true }
  | _, _ => t

abbrev Holds {α : Type} (post : Tally → α → Prop) (t : Tally) (p : Flow α) : Prop :=
  Respects Allows next post t p

end Tally

open Tally

abbrev Silent {α : Type} (p : Flow α) : Prop :=
  ∀ t : Tally, Holds (fun t' _ => t' = t) t p

variable {α β : Type} {t : Tally} {pin : Option Bytes} {operation : Flow RawCryptoResult}

lemma silent_pure (result : α) : Silent (pure result : Flow α) := fun _ => respects_pure rfl

lemma silent_bind {p : Flow α} {f : α → Flow β} (hp : Silent p)
    (hf : ∀ result, Silent (f result)) : Silent (p >>= f) := by
  intro t
  refine respects_bind (hp t) fun t' result h => ?_
  rw [h]
  exact hf result t

lemma holds_silent_bind {post : Tally → β → Prop} {p : Flow α} {f : α → Flow β} (hp : Silent p)
    (hf : ∀ result, Holds post t (f result)) : Holds post t (p >>= f) := by
  refine respects_bind (hp t) fun t' result h => ?_
  rw [h]
  exact hf result

lemma silent_call {c : Call} (hok : ∀ t : Tally, t.Allows c)
    (hn : ∀ (t : Tally) answer, t.next c answer = t) : Silent c.run :=
  fun t => respects_call (hok t) (hn t)

lemma silent_ite {cond : Prop} [Decidable cond] {p q : Flow α} (hp : Silent p) (hq : Silent q) :
    Silent (if cond then p else q) := by
  split
  · exact hp
  · exact hq

/-! ## Silent parts -/

lemma silent_isCancelled : Silent Call.isCancelled.run :=
  silent_call (fun _ => trivial) (fun _ _ => rfl)

lemma checkRequest_silent (selection : SigningSelection) (key : CertKeyClass)
    (mechanism : Mechanism)
    (input : Bytes) : Silent (checkRequest selection key mechanism input) := by
  have hc : Silent (Call.preReadAuthIsCan selection.plugin).run :=
    silent_call (fun _ => trivial) (fun _ _ => rfl)
  unfold checkRequest
  cases mechanism with
  | rsaPkcs1Sign | sha256RsaPkcs1Sign =>
    exact silent_ite (silent_pure _) (silent_bind hc fun _ =>
      silent_ite (silent_pure _) (silent_pure _))
  | ecdsaSign => exact silent_ite (silent_pure _) (silent_pure _)
  | rsaPkcs1Decrypt =>
    refine silent_ite (silent_pure _) (silent_bind ?_ fun _ => ?_)
    · exact silent_call (fun _ => trivial) (fun _ _ => rfl)
    · exact silent_ite (silent_pure _) (silent_ite (silent_pure _) (silent_pure _))
  | ecdhDerive =>
    refine silent_ite (silent_pure _) (silent_ite (silent_pure _) (silent_bind ?_ fun _ => ?_))
    · exact silent_call (fun _ => trivial) (fun _ _ => rfl)
    · exact silent_ite (silent_pure _) (silent_pure _)

lemma preflight_silent (certId : String) (mechanism : Mechanism) (input : Bytes) :
    Silent (preflight certId mechanism input) := by
  unfold preflight
  refine silent_bind (silent_call (fun _ => trivial) (fun _ _ => rfl)) fun found => ?_
  cases found with
  | none => exact silent_pure _
  | some selection =>
    refine silent_ite (silent_pure _) (silent_bind ?_ fun parsed => ?_)
    · exact silent_call (fun _ => trivial) (fun _ _ => rfl)
    · exact silent_bind (checkRequest_silent _ _ _ _) fun status =>
        silent_ite (silent_pure _) (silent_pure _)

lemma depositPin_silent (pin : Option Bytes) : Silent (depositPin pin) := by
  cases pin with
  | none => exact silent_pure ()
  | some secret => exact silent_call (fun _ => trivial) (fun _ _ => rfl)

lemma settlePin_silent (pin : Option Bytes) (perOperation : Bool) (out : RawCryptoResult) :
    Silent (settlePin pin perOperation out) := by
  unfold settlePin
  refine silent_ite ?_ (silent_ite ?_ (silent_pure ())) <;>
    exact silent_call (fun _ => trivial) (fun _ _ => rfl)

namespace RawCryptoFlow

lemma promptAllowed_silent (asked : Bool) : Silent (promptAllowed asked) :=
  silent_ite (silent_call (fun _ => trivial) (fun _ _ => rfl)) (silent_pure true)

lemma openSession_silent : Silent openSession := by
  unfold openSession
  refine silent_bind silent_isCancelled fun _ => silent_ite (silent_pure _) ?_
  refine silent_bind (silent_call (fun _ => trivial) (fun _ _ => rfl)) fun acquired => ?_
  cases acquired with
  | error message => exact silent_pure _
  | ok opened =>
    exact silent_bind silent_isCancelled fun _ => silent_ite (silent_pure _) (silent_pure _)

lemma runPreflight_silent (request : Request) : Silent (runPreflight request) := by
  unfold runPreflight
  refine silent_bind (preflight_silent _ _ _) fun checked => ?_
  split <;> exact silent_pure _

lemma evictCredentials_silent (outcome : Outcome) : Silent (evictCredentials outcome) := by
  unfold evictCredentials
  refine silent_ite (silent_bind ?_ fun _ => ?_) (silent_pure ())
  · exact silent_call (fun _ => trivial) (fun _ _ => rfl)
  · exact silent_call (fun _ => trivial) (fun _ _ => rfl)

lemma forgetVerified_silent (channelLost : Bool) : Silent (forgetVerified channelLost) :=
  silent_ite (silent_call (fun _ => trivial) (fun _ _ => rfl)) (silent_pure ())

lemma keyAgain_silent (request : Request) (key : SigningSelection) (channelLost : Bool) :
    Silent (keyAgain request key channelLost) :=
  silent_ite (runPreflight_silent request) (silent_pure _)

end RawCryptoFlow

/-! ## The use of the key -/

def UsedKey (t t' : Tally) (result : RawCryptoResult) : Prop :=
  (t' = t ∨ ∃ consent, t' = { t with lastKey := some consent }) ∧
    (result.status = .ok → t'.lastKey = some result.alwaysAuthenticate)

lemma usedKey_failed (t : Tally) {result : RawCryptoResult} (h : result.status ≠ .ok) :
    UsedKey t t result :=
  ⟨.inl rfl, fun hok => absurd hok h⟩

def Entitled (t : Tally) (pin : Option Bytes) : Prop :=
  match pin with
  | none => t.verified = true
  | some _ => t.collected = true

lemma underTheOperationsPin_holds {perOperation : Bool} (h : Holds (UsedKey t) t operation) :
    Holds (UsedKey t) t (underTheOperationsPin pin perOperation operation) := by
  unfold underTheOperationsPin
  split
  · refine holds_silent_bind (silent_call (fun _ => trivial) (fun _ _ => rfl)) fun _ => ?_
    exact respects_pure (usedKey_failed t nofun)
  · refine holds_silent_bind (depositPin_silent pin) fun _ => ?_
    refine respects_bind h fun t' out ho => ?_
    exact holds_silent_bind (settlePin_silent pin perOperation out) fun _ => respects_pure ho

lemma withConsent_holds {key : SigningSelection} (hp : Entitled t pin)
    (h : (key.cert.alwaysAuthenticate = true → t.collected = true) →
      Holds (UsedKey t) t operation) :
    Holds (UsedKey t) t (withConsent key pin operation) := by
  unfold withConsent
  split
  · exact respects_pure (usedKey_failed t nofun)
  · rename_i hc
    refine underTheOperationsPin_holds (h fun ha => ?_)
    -- a PIN is there, since the key would have been left alone without one
    cases pin with
    | none => exact absurd (by rw [ha]; rfl) hc
    | some secret => exact hp

variable (key : SigningSelection) (mechanism : Mechanism) (input : Bytes)

lemma signRaw_holds (hp : Entitled t pin) :
    Holds (UsedKey t) t (signRaw key mechanism input pin) := by
  unfold signRaw
  split
  · exact respects_pure (usedKey_failed t nofun)
  · split
    · exact respects_pure (usedKey_failed t nofun)
    · refine withConsent_holds hp fun hc => ?_
      exact respects_call_bind hc fun sr => respects_pure ⟨.inr ⟨_, rfl⟩, fun _ => rfl⟩

lemma decipherWithKey_holds (mechanism : DecipherMechanism) (input : Bytes) (hp : Entitled t pin) :
    Holds (UsedKey t) t (decipherWithKey key mechanism input pin) := by
  unfold decipherWithKey
  refine withConsent_holds hp fun hc => ?_
  exact respects_call_bind hc fun dr => respects_pure ⟨.inr ⟨_, rfl⟩, fun _ => rfl⟩

lemma decryptRaw_holds (hp : Entitled t pin) :
    Holds (UsedKey t) t (decryptRaw key mechanism input pin) := by
  unfold decryptRaw
  split
  · exact respects_pure (usedKey_failed t nofun)
  · split
    · exact respects_pure (usedKey_failed t nofun)
    · exact decipherWithKey_holds key _ input hp

lemma deriveRaw_holds (hp : Entitled t pin) :
    Holds (UsedKey t) t (deriveRaw key mechanism input pin) := by
  unfold deriveRaw
  split
  · exact respects_pure (usedKey_failed t nofun)
  · split
    · exact respects_pure (usedKey_failed t nofun)
    · refine respects_bind (decipherWithKey_holds key .ecdhRaw input hp) fun t' out ho => ?_
      split
      · exact respects_pure ho
      · refine holds_silent_bind (silent_call (fun _ => trivial) (fun _ _ => rfl)) fun parsed => ?_
        refine respects_pure ?_
        unfold ofFieldLength
        split
        · exact ⟨ho.1, nofun⟩
        · exact ho

namespace RawCryptoFlow

variable {t : Tally}

variable (op : Op)
variable (request : Request)

lemma terminal_holds (key : SigningSelection) {pin : Option Bytes} (hp : Entitled t pin) :
    Holds (UsedKey t) t (terminal op request key pin) := by
  unfold terminal
  have hok : t.Allows (.terminal pin) := by
    cases pin with
    | none => exact hp
    | some secret => trivial
  refine respects_call_bind hok fun _ => ?_
  cases op with
  | sign => exact signRaw_holds key _ _ hp
  | decrypt => exact decryptRaw_holds key _ _ hp
  | derive => exact deriveRaw_holds key _ _ hp

/-! ## The whole operation -/

def Settled (t : Tally) (result : Result) : Prop :=
  t.marked = true → result.outcome = .ok ∧ t.lastKey = some false

lemma settled_unmarked (h : t.marked = false) (result : Result) : Settled t result :=
  fun hm => absurd hm (by rw [h]; exact Bool.false_ne_true)

lemma mapStatus_eq_ok {status : RawCryptoStatus} : mapStatus status = .ok ↔ status = .ok := by
  cases status <;> decide

lemma conclude_holds (result : RawCryptoResult)
    (h : t.marked = true → result.status = .ok ∧ t.lastKey = some false) :
    Holds Settled t (conclude result) := by
  unfold conclude
  refine holds_silent_bind (evictCredentials_silent _) fun _ => ?_
  split
  · next hf => exact respects_pure fun hm => absurd (mapStatus_eq_ok.mpr (h hm).1) hf
  · exact respects_pure fun hm => ⟨rfl, (h hm).2⟩

lemma remember_conclude_holds {result : RawCryptoResult} (hm : t.marked = false)
    (hc : t.collected = true)
    (hk : result.status = .ok → t.lastKey = some result.alwaysAuthenticate) :
    Holds Settled t (remember result >>= fun _ => conclude result) := by
  unfold remember
  split
  · rename_i ho
    have hl : t.lastKey = some false := by
      rw [hk ho.1, Bool.eq_false_iff.mpr ho.2]
    exact respects_call_bind ⟨hc, hl⟩ fun _ =>
      conclude_holds result fun _ => ⟨ho.1, hl⟩
  · exact holds_silent_bind (silent_pure ()) fun _ =>
      conclude_holds result fun h => absurd h (by rw [hm]; exact Bool.false_ne_true)

lemma useWithPin_holds (key : SigningSelection) (pin : Bytes)
    (hm : t.marked = false) (hc : t.collected = true) :
    Holds Settled t (terminal op request key (some pin) >>= fun result =>
      remember result >>= fun _ => conclude result) := by
  have hp : Entitled t (some pin) := hc
  refine respects_bind (terminal_holds op request key hp) fun t' result hu => ?_
  obtain ⟨rfl | ⟨consent, rfl⟩, hk⟩ := hu <;> exact remember_conclude_holds hm hc hk

lemma obtainPin_holds (charge : Bool) :
    Holds (fun t' got => t'.marked = t.marked ∧ ∀ pin, got = .ok pin → t'.collected = true) t
      (obtainPin op request charge) := by
  unfold obtainPin
  refine holds_silent_bind (promptAllowed_silent charge) fun allowed => ?_
  split
  · exact respects_pure ⟨rfl, nofun⟩
  · refine respects_call_bind trivial fun prompt => ?_
    split
    · rename_i secret hp
      refine respects_pure ⟨rfl, fun pin _ => ?_⟩
      show (t.collected || prompt.pin.isSome) = true
      rw [PromptResult.pin, hp, Option.isSome_some, Bool.or_true]
    · exact respects_pure ⟨rfl, nofun⟩
    · exact respects_pure ⟨rfl, nofun⟩

lemma askAgain_holds (key : SigningSelection) (channelLost : Bool) (hm : t.marked = false) :
    Holds Settled t (askAgain op request key channelLost) := by
  unfold askAgain
  refine holds_silent_bind (forgetVerified_silent channelLost) fun _ => ?_
  refine holds_silent_bind silent_isCancelled fun cancelled => ?_
  split
  · exact respects_pure (settled_unmarked hm _)
  · refine holds_silent_bind (keyAgain_silent request key channelLost) fun checked => ?_
    cases checked with
    | error refusal => exact respects_pure (settled_unmarked hm _)
    | ok key =>
      refine respects_bind (obtainPin_holds op request true) fun t' got hg => ?_
      rw [hm] at hg
      cases got with
      | error refusal => exact respects_pure (settled_unmarked hg.1 _)
      | ok pin =>
        refine holds_silent_bind silent_isCancelled fun cancelled => ?_
        split
        · exact respects_pure (settled_unmarked hg.1 _)
        · exact useWithPin_holds op request key pin hg.1 (hg.2 pin rfl)

lemma runCold_holds (key : SigningSelection)
    (hm : t.marked = false) : Holds Settled t (runCold op request key) := by
  unfold runCold
  refine respects_bind (obtainPin_holds op request false) fun t' got hg => ?_
  rw [hm] at hg
  cases got with
  | error refusal => exact respects_pure (settled_unmarked hg.1 _)
  | ok pin =>
    refine holds_silent_bind silent_isCancelled fun cancelled => ?_
    split
    · exact respects_pure (settled_unmarked hg.1 _)
    · exact useWithPin_holds op request key pin hg.1 (hg.2 pin rfl)

lemma runVerified_holds (key : SigningSelection) (hv : t.verified = true) (hm : t.marked = false) :
    Holds Settled t (runVerified op request key) := by
  unfold runVerified
  refine holds_silent_bind silent_isCancelled fun cancelled => ?_
  split
  · exact respects_pure (settled_unmarked hm _)
  · have hp : Entitled t none := hv
    refine respects_bind (terminal_holds op request key hp) fun t' result hu => ?_
    have hm' : t'.marked = false := by
      obtain ⟨rfl | ⟨consent, rfl⟩, -⟩ := hu <;> exact hm
    split
    · exact askAgain_holds op request key false hm'
    · split
      · exact askAgain_holds op request key true hm'
      · exact conclude_holds result fun h => absurd h (by rw [hm']; exact Bool.false_ne_true)

lemma runOp_holds : Holds Settled {} (runOp op request) := by
  unfold runOp
  refine respects_call_bind rfl fun alreadyVerified => ?_
  refine holds_silent_bind (promptAllowed_silent _) fun allowed => ?_
  split
  · exact respects_pure (settled_unmarked rfl _)
  · refine holds_silent_bind openSession_silent fun notOpened => ?_
    cases notOpened with
    | some failure => exact respects_pure (settled_unmarked rfl _)
    | none =>
      refine holds_silent_bind silent_isCancelled fun cancelled => ?_
      split
      · exact respects_pure (settled_unmarked rfl _)
      · refine holds_silent_bind (runPreflight_silent request) fun checked => ?_
        cases checked with
        | error refusal => exact respects_pure (settled_unmarked rfl _)
        | ok key =>
          cases alreadyVerified with
          | true => exact runVerified_holds op request key rfl rfl
          | false => exact runCold_holds op request key rfl

lemma run_holds : Holds Settled {} (run request) := by
  unfold run
  split
  · exact runOp_holds .derive request
  · exact runOp_holds .decrypt request
  · exact runOp_holds .sign request

end RawCryptoFlow

end LibreAgent.Operations
