import LibreAgent.Lib.Runs
import LibreAgent.Wire.Types

/-!
# The client's operation object

`AgentOperation` of the Qt client: one operation, from its minting to its terminal signal.  It is
driven by callbacks of the transport, by its stall timer and by the client that owns it.

* `OperationPayload`, `SeamError` : what the transport hands over;
* `AgentOperation` : the members of `AgentOperation::Private`, and beside them the `finished`
  signals so far and the kinds of the payloads that were stored;
* `OperationCall`, `AgentOperation.step` : every call that can reach the object.

The answer of a recovery pull is part of the call that makes the pull.  A consumer that is called by
a signal may make any further call, so each call is a step of its own.
-/

namespace LibreAgent.Wire

/-! ## The named values of the numeric enums -/

namespace OperationPhase
def created : OperationPhase := ⟨0⟩
def connecting : OperationPhase := ⟨1⟩
def awaitingConsent : OperationPhase := ⟨2⟩
def authenticating : OperationPhase := ⟨3⟩
def reading : OperationPhase := ⟨4⟩
def signing : OperationPhase := ⟨5⟩
def timestamping : OperationPhase := ⟨6⟩
def done : OperationPhase := ⟨7⟩
end OperationPhase

namespace OperationStatus
def ok : OperationStatus := ⟨0⟩
def cancelled : OperationStatus := ⟨1⟩
def error : OperationStatus := ⟨2⟩
end OperationStatus

namespace ErrorCode
def none : ErrorCode := ⟨0⟩
def cardRemoved : ErrorCode := ⟨1⟩
def communicationError : ErrorCode := ⟨4⟩
end ErrorCode

end LibreAgent.Wire

namespace LibreAgent.Client

open OrdMap
open Wire (OperationPhase OperationStatus ErrorCode SyncError StdMap IdentityField PhotoItem
  CertInfo SignMeta
  CredentialOpResult CredentialRecord SignBatchRow)

def isKnownPhase (phase : OperationPhase) : Bool :=
  phase ∈ [OperationPhase.created, .connecting, .awaitingConsent, .authenticating, .reading,
      .signing, .timestamping, .done]

def isKnownStatus (status : OperationStatus) : Bool :=
  status ∈ [OperationStatus.ok, .cancelled, .error]

/-! ## What crosses the seam -/

inductive CallError where
  | none
  | agentUnavailable
  | timeout
  | accessDenied
  | invalidArguments
  | transportFailure
  | protocolError
deriving DecidableEq

structure SeamError where
  callError : CallError := .none
  errorCode : ErrorCode := .none
  syncError : Option SyncError := none
  message : Bytes := []
deriving DecidableEq

def SeamError.isError (e : SeamError) : Bool :=
  e.callError ≠ .none || e.errorCode ≠ .none

inductive OperationKind where
  | identity
  | photo
  | certificates
  | sign
  | credentials
  | batchSign
deriving DecidableEq

/-- `OperationPayload`, whose members other than those of its kind nothing reads.  A descriptor that
could not be duplicated is `none`. -/
inductive OperationPayload where
  | identity (groups : StdMap (StdMap IdentityField))
  | photo (photos : List PhotoItem)
  | certificates (certs : List CertInfo)
  | sign (artifact : Option UInt64) (signMeta : SignMeta)
  | credentials (pin : CredentialOpResult) (records : List CredentialRecord)
  | batchSign (rows : List SignBatchRow)

def OperationPayload.kind : OperationPayload → OperationKind
  | .identity _ => .identity
  | .photo _ => .photo
  | .certificates _ => .certificates
  | .sign _ _ => .sign
  | .credentials _ _ => .credentials
  | .batchSign _ => .batchSign

structure DerOutcome where
  error : SeamError := {}
  der : Bytes := []

structure TerminalSnapshot where
  completed : Bool
  status : OperationStatus
  errorCode : ErrorCode

/-! ## The object -/

/-- `AgentOperation::Kind` -/
inductive Kind where
  | identity
  | photo
  | certificates
  | sign
  | credentials
  | batchSign
  | certificateDer
deriving DecidableEq

def OperationKind.toKind : OperationKind → Kind
  | .identity => .identity
  | .photo => .photo
  | .certificates => .certificates
  | .sign => .sign
  | .credentials => .credentials
  | .batchSign => .batchSign

def kLongOperationTimeoutMs : Int := 35000

structure Verdict where
  status : OperationStatus := .error
  errorCode : ErrorCode := .none
  callError : CallError := .none
  syncError : Option SyncError := none
  messageKey : Bytes := []
  messageFallback : Bytes := []
deriving DecidableEq

structure AgentOperation where
  kind : Kind
  finishedEmitted : Bool := false
  resultSeen : Bool := false
  inCtorRecovery : Bool := false
  verdict : Verdict := {}
  phase : OperationPhase := .created
  identityResult : StdMap (StdMap IdentityField) := SortedMap.empty
  certificatesResult : List CertInfo := []
  photos : List PhotoItem := []
  signedArtifact : Option UInt64 := none
  signMeta : Option SignMeta := none
  batchRows : List SignBatchRow := []
  pinResult : Option CredentialOpResult := none
  credentialsResult : List CredentialRecord := []
  der : Bytes := []
  /-- nonzero while a fetch is in flight -/
  derToken : Nat := 0
  /-- the budget the timer was started with, while it runs -/
  stallTimer : Option Int := none
  stallBudgetMs : Int := kLongOperationTimeoutMs
  /-- the `finished` signals that consumers have received -/
  emitted : Nat := 0
  /-- the `finished` signals that wait for the event loop -/
  queued : Nat := 0
  /-- the kinds of result that were stored, for the specification -/
  stored : List Kind := []

namespace AgentOperation
variable (op : AgentOperation)

def personAtPrompt (current : OperationPhase) : Bool :=
  current = .awaitingConsent || current = .authenticating

def armForPhase (current : OperationPhase) : AgentOperation :=
  if op.finishedEmitted || op.stallBudgetMs ≤ 0 || personAtPrompt current then
    { op with stallTimer := none }
  else { op with stallTimer := some op.stallBudgetMs }

def emitFinishedOnce (verdict : Verdict) : AgentOperation :=
  if op.finishedEmitted then op
  else
    let op := { op with finishedEmitted := true, stallTimer := none, verdict := verdict }
    if op.inCtorRecovery then { op with queued := op.queued + 1 }
      else { op with emitted := op.emitted + 1 }

def storePayload (payload : OperationPayload) : AgentOperation :=
  let op := { op with stored := payload.kind.toKind :: op.stored }
  match payload with
  | .identity groups => { op with identityResult := groups }
  | .certificates certs => { op with certificatesResult := certs }
  | .photo photos => { op with photos := photos }
  | .sign artifact signMeta => { op with signedArtifact := artifact, signMeta := some signMeta }
  | .credentials pin records => { op with pinResult := some pin, credentialsResult := records }
  | .batchSign rows => { op with batchRows := rows }

def isRecoverable : OperationPayload → Bool
  | .identity groups => !groups.entries.isEmpty
  | .certificates certs => !certs.isEmpty
  | .photo photos => !photos.isEmpty
  | .sign artifact _ => artifact.isSome
  | .credentials _ _ => true
  | .batchSign rows => !rows.isEmpty

def recoverResult (reply : Option OperationPayload) : AgentOperation × Bool :=
  match reply with
  | none => (op, false)
  | some payload =>
    if isRecoverable payload then ({ op.storePayload payload with resultSeen := true }, true)
      else (op, false)

def finalizeTerminal (status : OperationStatus) (code : ErrorCode) (msgKey msgFallback : Bytes)
    (reply : Option OperationPayload) : AgentOperation :=
  let status := if isKnownStatus status then status else .error
  let terminal : Verdict := ⟨status, code, .none, none, msgKey, msgFallback⟩
  let lost : Verdict := ⟨.error, .communicationError, .none, none, msgKey, msgFallback⟩
  if !op.resultSeen && op.kind = .credentials then
    let (op, recovered) := op.recoverResult reply
    op.emitFinishedOnce (if recovered then terminal else lost)
  else if status = .ok && !op.resultSeen then
    let (op, recovered) := op.recoverResult reply
    op.emitFinishedOnce (if recovered then terminal else lost)
  else op.emitFinishedOnce terminal

def onPhaseChanged (phase : OperationPhase) : AgentOperation :=
  let op := if isKnownPhase phase then { op with phase := phase } else op
  op.armForPhase op.phase

def onResult (payload : OperationPayload) : AgentOperation :=
  { op.storePayload payload with resultSeen := true }

def onCertificateDer (token : Nat) (outcome : DerOutcome) : AgentOperation :=
  if token ≠ op.derToken then op
  else
    let op := { op with derToken := 0 }
    if outcome.error.isError then
      op.emitFinishedOnce ⟨.error, outcome.error.errorCode, outcome.error.callError,
        outcome.error.syncError, [],
        outcome.error.message⟩
    else
      { op with der := outcome.der, resultSeen := true,
                stored := .certificateDer :: op.stored }.emitFinishedOnce
        ⟨.ok, .none, .none, none, [], []⟩

/-- `cancel` and `cancelCertificateDer` are calls of the transport that call nothing back -/
def giveUpStalled : AgentOperation :=
  if op.finishedEmitted then op
  else
    { op with derToken := 0 }.emitFinishedOnce
      ⟨.error, .none, .timeout, none, [], Bytes.lit "The card agent stopped reporting progress."⟩

def setStallBudget (milliseconds : Int) : AgentOperation :=
  let op := { op with stallBudgetMs := milliseconds }
  if op.stallTimer.isSome || milliseconds ≤ 0 then op.armForPhase op.phase else op

def terminate (status : OperationStatus) (code : ErrorCode) (call : CallError)
    (msgKey msgFallback : Bytes) : AgentOperation :=
  op.emitFinishedOnce ⟨status, code, call, none, msgKey, msgFallback⟩

def failEntry (error : SeamError) : AgentOperation :=
  { ({ op with inCtorRecovery := true } : AgentOperation).emitFinishedOnce
      ⟨.error, error.errorCode, error.callError, error.syncError, [],
        error.message⟩ with inCtorRecovery := false }

def recoverIfAlreadyFinished (snapshot : Option TerminalSnapshot)
    (reply : Option OperationPayload) : AgentOperation :=
  match snapshot with
  | none => op
  | some snapshot =>
    if snapshot.completed then op.finalizeTerminal snapshot.status snapshot.errorCode [] [] reply
      else op

/-- the constructor of an operation that the transport has started -/
def subscribed (kind : OperationKind) (snapshot : Option TerminalSnapshot)
    (reply : Option OperationPayload) : AgentOperation :=
  let op : AgentOperation := { kind := kind.toKind, inCtorRecovery := true }
  let op := { op.recoverIfAlreadyFinished snapshot reply with inCtorRecovery := false }
  op.armForPhase op.phase

def startCertificateDer (token : Nat) : AgentOperation :=
  let op := { op with derToken := token }
  op.armForPhase op.phase

end AgentOperation

/-! ## Calls -/

/-- a call that reaches the object.  `finished` carries what the recovery pull would answer, and
tokens are counted from one. -/
inductive OperationCall where
  | phaseChanged (phase : OperationPhase)
  | groupReady (groupKey : Bytes) (cells : StdMap IdentityField)
  | result (payload : OperationPayload)
  | finished (status : OperationStatus) (code : ErrorCode) (msgKey msgFallback : Bytes)
      (reply : Option OperationPayload)
  | certificateDer (token : Nat) (outcome : DerOutcome)
  | stallTimeout
  | setStallBudget (milliseconds : Int)
  | terminate (status : OperationStatus) (code : ErrorCode) (call : CallError)
      (msgKey msgFallback : Bytes)
  | failEntry (error : SeamError)
  /-- the event loop delivers a queued `finished` -/
  | deliverQueued

def OperationCall.isFailEntry : OperationCall → Bool
  | .failEntry _ => true
  | _ => false

namespace AgentOperation

def step (op : AgentOperation) : OperationCall → AgentOperation
  | .phaseChanged phase => op.onPhaseChanged phase
  | .groupReady _ _ => op
  | .result payload => op.onResult payload
  | .finished status code msgKey msgFallback reply =>
    op.finalizeTerminal status code msgKey msgFallback reply
  | .certificateDer token outcome => op.onCertificateDer (token + 1) outcome
  | .stallTimeout =>
    if op.stallTimer.isSome then { op with stallTimer := none }.giveUpStalled else op
  | .setStallBudget milliseconds => op.setStallBudget milliseconds
  | .terminate status code call msgKey msgFallback =>
    op.terminate status code call msgKey msgFallback
  | .failEntry error => op.failEntry error
  | .deliverQueued =>
    if op.queued = 0 then op else { op with queued := op.queued - 1, emitted := op.emitted + 1 }

end AgentOperation

/-- how an operation is made: by a method the agent has started, by one that was refused at entry
(the refusal is a `failEntry`), or by `AgentClient::certificateDer` -/
inductive Minting where
  | started (kind : OperationKind) (snapshot : Option TerminalSnapshot)
      (reply : Option OperationPayload)
  | refused (kind : Kind)
  | certificateDer (token : Nat)

def Minting.operation : Minting → AgentOperation
  | .started kind snapshot reply => .subscribed kind snapshot reply
  | .refused kind => { kind := kind }
  | .certificateDer token => AgentOperation.startCertificateDer { kind := .certificateDer } token

end LibreAgent.Client
