import LibreAgent.Cache.CardCaches
import LibreAgent.Cache.MrzPayload
import LibreAgent.Lib.Interaction
import LibreAgent.Operations.OperationBase

/-!
# The operations that read a card

An operation runs on the worker of its reader.  It looks into the caches, opens the card session,
lets the middleware read, and answers the middleware when it asks for the secret that opens the
card.

* `FlowCall` : what an operation asks of its surroundings; the answers are not fixed here;
* `ReadIdentityOperation`, `ListCredentialsOperation` : the operations.

How often, and for what, the middleware asks in the course of one read is an answer that the read
begins with. The log, the groups that are shown while a read goes on, and the exceptions of a
provider are left out.
-/

namespace LibreAgent.Cache

open Operations (ErrorCode OperationStatus OperationPhase Completion)

/-! ## The data -/

inductive PaceSecretKind where
  | can
  | mrz
  | pin
  | puk
  deriving DecidableEq

inductive ErrorKey where
  | genericComm
  | preReadAuthFailed
  | other
  deriving DecidableEq

structure AuthRequirement where
  paceKind : Option PaceSecretKind := none
  /-- why it asks again -/
  message : Option ErrorKey := none

inductive CredentialResult where
  | ok (entries : List (String × Bytes))
  | cancelled
  | error (key : ErrorKey)

def CredentialResult.isOk : CredentialResult → Bool
  | ok _ => true
  | cancelled | error _ => false

structure PromptOptions where
  requester : String := ""
  artifact : String := ""
  attempt : Nat := 0
  lastError : Option ErrorKey := none
  altKinds : List PaceSecretKind := []

inductive PromptStatus where
  | ok
  | cancelled
  | error
  | timeout
  | helperTooOld
  deriving DecidableEq

structure PromptResult where
  status : PromptStatus := .error
  secret : Option Bytes := none
  chosenKind : Option PaceSecretKind := none

structure AttemptContext where
  attempts : Nat := 0
  lastErrorKey : Option ErrorKey := none
  generationAtDispatch : Nat := 0

def AttemptContext.recordRejection (s : AttemptContext) (msgKey : ErrorKey) : AttemptContext :=
  { s with attempts := s.attempts + 1, lastErrorKey := some msgKey }

inductive OpenErrorKind where
  | readerUnavailable
  | noCardPresent
  | protocolError
  | sessionRefused

structure OpenError where
  kind : OpenErrorKind
  defaultText : String

structure CardCapabilities where
  identityData : Bool := false
  emrtdCrypto : Bool := false

abbrev CandidateList := List CardCapabilities

inductive SeamStatus where
  | ok
  | authFailed
  | unsupportedCard
  | communicationError
  | cancelled
  deriving DecidableEq

structure ReadOutcome where
  status : SeamStatus := .communicationError
  snapshot : Option CardReadSnapshot := none
  msgFallback : String := ""

structure CredentialListing where
  entries : List PinStatusEntry := []
  pluginId : Bytes := []

inductive ResultPayload where
  | identity (snapshot : CardReadSnapshot)
  | credentials (outcome : CredentialOutcome) (records : List CredentialRecord)

/-! ## Calls -/

inductive FlowCall where
  | cache (c : CacheCall)
  -- the operation
  | isCancelled
  | shutdownRequested
  | setPhase (phase : OperationPhase)
  | emitResult (payload : ResultPayload)
  | finish (completion : Completion)
  | onCardType (cardType : Bytes)
  -- the prompter, behind the gate of the card
  | acquireSlot
  | prompt (kind : PaceSecretKind) (options : PromptOptions)
  | releaseSlot
  -- the card session and the middleware
  | acquire
  | clearCachedPaceCredentials
  | depositMrz (parts : MrzParts)
  | beginRead
  | provided (result : CredentialResult)
  | read
  | list

@[reducible] def FlowCall.Ans : FlowCall → Type
  | cache c => c.Ans
  | isCancelled | shutdownRequested | emitResult _ | acquireSlot | depositMrz _ => Bool
  | prompt _ _ => PromptResult
  | acquire => Except OpenError CandidateList
  | beginRead => List AuthRequirement
  | read => ReadOutcome
  | list => CredentialListing
  | setPhase _ | finish _ | onCardType _ | releaseSlot | clearCachedPaceCredentials | provided _ =>
    Unit

abbrev Flow := Interaction FlowCall FlowCall.Ans

abbrev FlowCall.run (c : FlowCall) : Flow c.Ans :=
  Interaction.call c

abbrev CacheCall.run (c : CacheCall) : Flow c.Ans :=
  (FlowCall.cache c).run

/-! ## The secret of the card -/

structure RunFlags where
  prompterFailed : Bool := false
  userCancelled : Bool := false
  entryExpired : Bool := false
  helperTooOld : Bool := false
  providerMarkedWrong : Bool := false
  attempts : AttemptContext := {}
  /-- the machine-readable zone that a holder chose to enter instead -/
  mrzChoice : Option Bytes := none

def kMaxPaceAttempts : Nat := 3

def stillWantedFor (attempts : AttemptContext) : Flow Bool := do
  let generation ← CacheCall.refusalGenerationFor.run
  return generation ≤ attempts.generationAtDispatch

def applyRetryContext (attempts : AttemptContext) (opts : PromptOptions) : PromptOptions :=
  if attempts.attempts = 0 then opts
  else { opts with attempt := attempts.attempts + 1, lastError := attempts.lastErrorKey }

def dismissIfEmpty (r : PromptResult) : PromptResult :=
  if r.status = .ok ∧ r.secret = some [] then { status := .cancelled } else r

/-- `SerializingPrompter` : one prompt for a card at a time, and none that has become unwanted in
the queue -/
def gatedWithStillWanted (attempts : AttemptContext) (kind : PaceSecretKind)
    (options : PromptOptions) : Flow PromptResult := do
  if ← FlowCall.acquireSlot.run then
    let result ← do
      if ← stillWantedFor attempts then
        let answer ← (FlowCall.prompt kind options).run
        pure (dismissIfEmpty answer)
      else pure { status := .cancelled }
    FlowCall.releaseSlot.run
    return result
  else return { status := .cancelled }

def buildCanResult (secret : Bytes) : Option CredentialResult :=
  if newline ∈ secret then none else some (.ok [("can", secret)])

def buildMrzResult (secret : Bytes) : Option CredentialResult :=
  (parseMrzPayload secret).map fun parts =>
    .ok [("mrz", parts.mrzInfo), ("documentNumber", parts.documentNumber),
    ("dateOfBirth", parts.dateOfBirth),
      ("dateOfExpiry", parts.dateOfExpiry)]

def buildError : CredentialResult := .error .genericComm

def silenced (flags : RunFlags) : Flow (CredentialResult × RunFlags) := do
  let kind ← CacheCall.lastRefusalKindFor.run
  if kind = .cancelled then return (.cancelled, { flags with userCancelled := true })
  else return (buildError, { flags with entryExpired := true })

def promptRefused (flags : RunFlags) (status : PromptStatus) : Flow (CredentialResult × RunFlags) :=
  match status with
  | .cancelled => do
    (CacheCall.noteLastPromptYieldedNothing true).run
    (CacheCall.noteRefusal .cancelled).run
    return (.cancelled, { flags with userCancelled := true })
  | .timeout => do
    (CacheCall.noteLastPromptYieldedNothing true).run
    (CacheCall.noteRefusal .timeout).run
    return (buildError, { flags with entryExpired := true })
  | .error => return (buildError, { flags with prompterFailed := true })
  | .helperTooOld => return (buildError, { flags with helperTooOld := true })
  | .ok => return (buildError, flags)

/-- the place of one kind of secret in the cache, and what is made of the secret -/
structure SecretSlot where
  kind : PaceSecretKind
  getter : Flow (Option Bytes)
  putter : Bytes → Flow Unit
  resultBuilder : Bytes → Option CredentialResult

def SecretSlot.can : SecretSlot :=
  ⟨.can, CacheCall.getCan.run, fun secret => (CacheCall.putCan secret).run, buildCanResult⟩

def SecretSlot.mrz : SecretSlot :=
  ⟨.mrz, CacheCall.getMrz.run, fun secret => (CacheCall.putMrz secret).run, buildMrzResult⟩

/-- a prompt that gave a secret; `sink` if another kind was offered -/
def promptAnswered (slot : SecretSlot) (sink : Bool) (flags : RunFlags) (secret : Bytes)
    (chosenKind : Option PaceSecretKind) : Flow (CredentialResult × RunFlags) := do
  let flags := { flags with entryExpired := false }
  (CacheCall.noteLastPromptYieldedNothing false).run
  if chosenKind.any (· ≠ slot.kind) then
    if sink ∧ slot.kind = .can ∧ chosenKind = some .mrz then
      return (.cancelled, { flags with mrzChoice := some secret })
    return (buildError, { flags with prompterFailed := true })
  match slot.resultBuilder secret with
  | none => return (buildError, flags)
  | some result =>
    slot.putter secret
    return (result, flags)

def cacheOrPrompt (slot : SecretSlot) (options : PromptOptions) (sink : Bool) (flags : RunFlags) :
    Flow (CredentialResult × RunFlags) := do
  let cached ← slot.getter
  match cached with
  | some secret =>
    match slot.resultBuilder secret with
    | some result => return (result, flags)
    | none =>
      CacheCall.invalidateCredentials.run
      return (buildError, flags)
  | none =>
    if ¬ (← stillWantedFor flags.attempts) then silenced flags
    else if flags.attempts.attempts ≥ kMaxPaceAttempts then
      return (.error .preReadAuthFailed, flags)
    else
      let prompt ← gatedWithStillWanted flags.attempts slot.kind
        (applyRetryContext flags.attempts options)
      match prompt.status, prompt.secret with
      | .ok, some secret => promptAnswered slot sink flags secret prompt.chosenKind
      | status, _ =>
        if ← stillWantedFor flags.attempts then promptRefused flags status
        else silenced flags

/-- `CredentialCache::requestCredential` -/
def requestCredential (req : AuthRequirement) (options : PromptOptions) (sink : Bool)
    (flags : RunFlags) : Flow (CredentialResult × RunFlags) :=
  match req.paceKind with
  | some .can => cacheOrPrompt .can options sink flags
  | some .mrz => cacheOrPrompt .mrz options sink flags
  | some .pin | some .puk | none => return (buildError, flags)

/-! ## The provider -/

structure ReadProvider where
  requester : String := ""
  artifact : String := ""
  /-- the card takes a machine-readable zone in the place of a CAN -/
  offerMrzAlternative : Bool := false
  /-- the flow has a place for the zone -/
  hasSink : Bool := false
  /-- the flow wants to know whether a secret has been marked wrong -/
  tellsMarked : Bool := true

def isCardRejectionSignal (req : AuthRequirement) : Flow Bool := do
  if req.message = some .preReadAuthFailed then
    let yieldedNothing ← CacheCall.lastPromptYieldedNothingFor.run
    return !yieldedNothing
  else return false

def noteRejectedSecret (flags : RunFlags) : Flow RunFlags := do
  CacheCall.markCredentialWrong.run
  return { flags with attempts := flags.attempts.recordRejection .preReadAuthFailed }

def settleMark (p : ReadProvider) (markedNow : Bool) (result : CredentialResult)
    (flags : RunFlags) : RunFlags :=
  if ¬ p.tellsMarked then flags
  else if result.isOk then { flags with providerMarkedWrong := false }
  else if markedNow then { flags with providerMarkedWrong := true }
  else flags

/-- the answer to a requirement, once a rejected secret is out of the cache -/
def offerOrRequest (p : ReadProvider) (req : AuthRequirement) (flags : RunFlags) :
    Flow (CredentialResult × RunFlags) := do
  let opts : PromptOptions := { requester := p.requester, artifact := p.artifact }
  if p.offerMrzAlternative ∧ p.hasSink ∧ req.paceKind = some .can then
    let cached ← CacheCall.getMrz.run
    match cached with
    | some payload => return (.cancelled, { flags with mrzChoice := some payload })
    | none => requestCredential req { opts with altKinds := [.mrz] } true flags
  else requestCredential req opts false flags

/-- the provider of `makeReadCredentialProvider`, asked once -/
def readCredentialProvider (p : ReadProvider) (req : AuthRequirement) (flags : RunFlags) :
    Flow (CredentialResult × RunFlags) := do
  (FlowCall.setPhase .awaitingConsent).run
  let markedNow ← isCardRejectionSignal req
  let flags ← if markedNow then noteRejectedSecret flags else pure flags
  let (result, flags) ← offerOrRequest p req flags
  (FlowCall.setPhase .authenticating).run
  return (result, settleMark p markedNow result flags)

def provideAll (p : ReadProvider) : List AuthRequirement → RunFlags → Flow RunFlags
  | [], flags => pure flags
  | req :: reqs, flags => do
    let (result, flags) ← readCredentialProvider p req flags
    (FlowCall.provided result).run
    provideAll p reqs flags

def reading {α : Type} (p : ReadProvider) (flags : RunFlags) (seam : Flow α) :
    Flow (α × RunFlags) := do
  (FlowCall.setPhase .authenticating).run
  (FlowCall.setPhase .reading).run
  let reqs ← FlowCall.beginRead.run
  let flags ← provideAll p reqs flags
  let outcome ← seam
  return (outcome, flags)

/-! ## Opening the session -/

def mapOpenError : OpenErrorKind → ErrorCode
  | .noCardPresent => .cardRemoved
  | .readerUnavailable | .protocolError | .sessionRefused => .communicationError

inductive Failure where
  | cancelled
  | error (code : ErrorCode) (msgKey msgFallback : String)

def Failure.completion : Failure → Completion
  | .cancelled => ⟨.cancelled, .none, "op.cancelled", "Operation cancelled"⟩
  | .error code msgKey msgFallback => ⟨.error, code, msgKey, msgFallback⟩

def openSession : Flow (Except Failure CandidateList) := do
  if ← FlowCall.isCancelled.run then return .error .cancelled
  let acquired ← FlowCall.acquire.run
  match acquired with
  | .error e => return .error (.error (mapOpenError e.kind) "op.open_failed" e.defaultText)
  | .ok candidates =>
    if ← FlowCall.isCancelled.run then return .error .cancelled
    return .ok candidates

def mapSeamStatus : SeamStatus → ErrorCode
  | .ok | .cancelled => .none
  | .authFailed => .authFailed
  | .unsupportedCard => .unsupportedCard
  | .communicationError => .communicationError

/-! ## The reads -/

/-- a read has been refused: a secret that the card rejected goes, and the reason is told -/
def readRefused (flags : RunFlags) (status : SeamStatus) (msgFallback : String) : Flow Failure := do
  if status = .authFailed then
    if ¬ (flags.entryExpired ∨ flags.userCancelled) ∧ ¬ flags.providerMarkedWrong then
      let _ ← noteRejectedSecret flags
    FlowCall.clearCachedPaceCredentials.run
  if flags.helperTooOld then
    return .error .capabilityMissing "op.helper_too_old"
      "The credential window helper is out of date; restart your session."
  if ¬ flags.prompterFailed ∧ flags.userCancelled then return .cancelled
  if ¬ flags.prompterFailed ∧ flags.entryExpired then
    return .error .entryExpired "op.entry_expired"
      "The entry window closed before a code was entered."
  return .error (if flags.prompterFailed then .prompterError else mapSeamStatus status)
    "op.read_failed" msgFallback

structure FlowDeps where
  requester : String := ""
  artifact : String := ""

namespace IdentityReadFlow

def offersMrzAlternative (candidates : CandidateList) : Bool :=
  (candidates.filter (·.identityData)).any (·.emrtdCrypto)

def conclude (flags : RunFlags) (outcome : ReadOutcome) : Flow (Except Failure CardReadSnapshot) :=
  do
  let cancelled ← if outcome.status = .cancelled then pure true else FlowCall.isCancelled.run
  if cancelled then return .error .cancelled
  match outcome.status, outcome.snapshot with
  | .ok, some snapshot =>
    if snapshot.cardType ≠ [] then (FlowCall.onCardType snapshot.cardType).run
    return .ok snapshot
  | status, _ =>
    let failure ← readRefused flags status outcome.msgFallback
    return .error failure

/-- a CAN prompt that came back with a machine-readable zone: the card is read again -/
def renegotiate (p : ReadProvider) (flags : RunFlags) (outcome : ReadOutcome) (payload : Bytes) :
    Flow (Except Failure CardReadSnapshot) := do
  let flags := { flags with mrzChoice := none }
  match parseMrzPayload payload with
  | none =>
    let mapped := mapSeamStatus outcome.status
    return .error (.error (if mapped ≠ .none then mapped else .prompterError) "op.read_failed"
      outcome.msgFallback)
  | some parts =>
    (CacheCall.putMrz payload).run
    if ¬ (← (FlowCall.depositMrz parts).run) then
      return .error (.error .capabilityMissing "op.read_failed"
        "No installed card driver can accept the entered document data for this card.")
    if ← FlowCall.isCancelled.run then return .error .cancelled
    let (outcome, flags) ← reading p flags FlowCall.read.run
    conclude flags outcome

def run (deps : FlowDeps) : Flow (Except Failure CardReadSnapshot) := do
  let opened ← openSession
  match opened with
  | .error failure => return .error failure
  | .ok candidates =>
    let generation ← CacheCall.refusalGenerationFor.run
    let p : ReadProvider :=
      { requester := deps.requester
        artifact := deps.artifact
        offerMrzAlternative := offersMrzAlternative candidates
        hasSink := true }
    if ← FlowCall.isCancelled.run then return .error .cancelled
    let (outcome, flags) ← reading p { attempts := { generationAtDispatch := generation } }
      FlowCall.read.run
    if ← FlowCall.isCancelled.run then return .error .cancelled
    match flags.mrzChoice with
    | some payload => renegotiate p flags outcome payload
    | none => conclude flags outcome

end IdentityReadFlow

namespace CredentialListFlow

/-- what is done with a listing, once the token has been looked at -/
def conclude (flags : RunFlags) (listing : CredentialListing) :
    Flow (Except Failure CredentialSnapshot) := do
  if flags.userCancelled then return .error .cancelled
  if flags.helperTooOld then
    return .error (.error .capabilityMissing "op.helper_too_old"
      "The credential window helper is out of date; restart your session.")
  if listing.entries.isEmpty ∧ flags.prompterFailed then
    return .error (.error .prompterError "op.read_failed" "Credential prompt unavailable")
  if listing.entries.isEmpty ∧ flags.entryExpired then
    return .error (.error .entryExpired "op.entry_expired"
      "The entry window closed before a code was entered.")
  match listing.entries.mapM toCredentialRecord with
  | none => return .error (.error .parseError "op.read_failed" "Malformed credential metadata")
  | some records =>
    let snapshot : CredentialSnapshot :=
      { records := disambiguateCredentialIds records, listPluginId := listing.pluginId }
    let version ← (CacheCall.putSnapshot snapshot).run
    return .ok { snapshot with version }

def run (deps : FlowDeps) : Flow (Except Failure CredentialSnapshot) := do
  let opened ← openSession
  match opened with
  | .error failure => return .error failure
  | .ok _ =>
    let generation ← CacheCall.refusalGenerationFor.run
    let p : ReadProvider :=
      { requester := deps.requester, artifact := deps.artifact, tellsMarked := false }
    if ← FlowCall.isCancelled.run then return .error .cancelled
    let (listing, flags) ← reading p { attempts := { generationAtDispatch := generation } }
      FlowCall.list.run
    if ← FlowCall.isCancelled.run then return .error .cancelled
    conclude flags listing

end CredentialListFlow

/-! ## The operations -/

def completionOk (msgFallback : String) : Completion :=
  ⟨.ok, .none, "op.ok", msgFallback⟩

def resultFailed : Completion :=
  ⟨.error, .communicationError, "op.result_failed", "Failed to deliver the operation result"⟩

def noSessionHolder : Completion :=
  ⟨.error, .communicationError, "op.internal", "operation has no session holder"⟩

def deliver (payload : ResultPayload) (failed completion : Completion) : Flow Unit := do
  if ← (FlowCall.emitResult payload).run then (FlowCall.finish completion).run
  else (FlowCall.finish failed).run

/-- `holder` : the operation has been given a session holder -/
def ReadIdentityOperation.doWork (holder : Bool) (deps : FlowDeps) : Flow Unit := do
  if ¬ holder then (FlowCall.finish noSessionHolder).run
  else
    (FlowCall.setPhase .connecting).run
    let cached ← CacheCall.get.run
    match cached with
    | some snapshot =>
      if ← FlowCall.shutdownRequested.run then return
      deliver (.identity snapshot) resultFailed (completionOk "Read completed")
    | none =>
      let result ← IdentityReadFlow.run deps
      if ← FlowCall.shutdownRequested.run then return
      match result with
      | .error failure => (FlowCall.finish failure.completion).run
      | .ok snapshot =>
        (CacheCall.put snapshot).run
        deliver (.identity snapshot) resultFailed (completionOk "Read completed")

namespace ListCredentialsOperation

def listOutcomeFor : Failure → CredentialOutcome
  | .cancelled => .userCancelled
  | .error .cardRemoved _ _ => .cardRemoved
  | .error .prompterError _ _ => .missingFields
  | .error _ _ _ => .unspecified

def doWork (holder : Bool) (deps : FlowDeps) : Flow Unit := do
  if ¬ holder then (FlowCall.finish noSessionHolder).run
  else
    (FlowCall.setPhase .connecting).run
    let result ← CredentialListFlow.run deps
    if ← FlowCall.shutdownRequested.run then return
    match result with
    | .ok snapshot =>
      deliver (.credentials .ok snapshot.records) resultFailed (completionOk "Read completed")
    | .error failure =>
      deliver (.credentials (listOutcomeFor failure) []) resultFailed failure.completion

end ListCredentialsOperation

end LibreAgent.Cache
