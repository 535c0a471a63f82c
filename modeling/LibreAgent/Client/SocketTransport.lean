import LibreAgent.Lib.Runs
import LibreAgent.Wire.ClientCodec
import LibreAgent.Client.AgentOperation

/-!
# The client's socket transport

`SocketTransport` of the Qt client: one connection at a time, a queue of what has arrived and waits
for the event loop, and the listeners and requests of the client.

* `SocketTransport` : the members, and beside them the number of each connection and the events
  received, for the specification.

A blocking call waits on the socket alone, so it is one step.  A listener that is called may call
the transport again: the next step of the queue comes after any number of other steps.
-/

namespace LibreAgent.Wire.ErrorCode

def unsupportedCard : ErrorCode := ⟨6⟩
def authFailed : ErrorCode := ⟨7⟩
def capabilityMissing : ErrorCode := ⟨9⟩
def keyNotFound : ErrorCode := ⟨11⟩
def rateLimited : ErrorCode := ⟨17⟩
def invalidDocument : ErrorCode := ⟨19⟩

end LibreAgent.Wire.ErrorCode

namespace LibreAgent.Client

open Bytes
open Wire (OperationPhase OperationStatus ErrorCode SyncError StdMap IdentityField CborValue
  ReaderState CardState PreReadAuth
  DecodedReply ReplyVariant DecodedEvent Reply Event OpResult ErrInfo readerInterfaceToken)

/-! ## What the wire says, in the words of the seam -/

inductive ObjectKind where
  | reader
  | card
deriving DecidableEq

/-- a `QVariantMap` of object properties -/
abbrev Props := List (Bytes × CborValue)

def kReaderIface : Bytes := lit "org.librescrs.Agent.Reader1"
def kCardIface : Bytes := lit "org.librescrs.Agent.Card1"

def preAuthToken (preAuth : PreReadAuth) : Bytes :=
  if preAuth.raw = 0 then lit "None"
  else if preAuth.raw = 1 then lit "Mrz"
  else if preAuth.raw = 2 then lit "Can"
  else lit "Unknown" ++ lit (toString preAuth.raw.toNat)

def readerProps (reader : ReaderState) : Props :=
  [(lit "Name", .text reader.name), (lit "HasCard", .bool reader.hasCard),
      (lit "Card", .text (reader.card.getD [])),
    (lit "Model", .text reader.model), (lit "Interface", .text (readerInterfaceToken reader.iface))]

def cardProps (card : CardState) : Props :=
  [(lit "Capabilities", .uint card.caps.toUInt64),
      (lit "PreReadAuthMethod", .text (preAuthToken card.preAuth)),
    (lit "Reader", .text card.reader), (lit "CardType", .text (card.cardType.getD [])),
      (lit "Atr", .text (card.atr.getD []))]

/-- `classifyAgentErrorShortName`, over the names the decoder can produce -/
def classifyAgentError : SyncError → CallError × ErrorCode
  | .unknownCard => (.none, .unsupportedCard)
  | .keyNotFound => (.none, .keyNotFound)
  | .authFailed => (.none, .authFailed)
  | .rateLimited => (.none, .rateLimited)
  | .unsupportedOnThisCard | .notSupported => (.none, .capabilityMissing)
  | .inputTooLarge => (.none, .invalidDocument)
  | .communicationError | .noResult | .cancelled => (.none, .communicationError)
  | .invalidRequest | .unknownCredential | .unsupportedSignatureParameter | .unknownConfigKey
  | .readOnlyConfig
  | .invalidConfigValue | .masterListReplayed => (.invalidArguments, .none)
  | .notAuthorized | .userNotLoggedIn => (.accessDenied, .none)
  | .unsupportedProtocol => (.protocolError, .none)

def mapAgentError (name : SyncError) (message : Bytes) : SeamError :=
  ⟨(classifyAgentError name).1, (classifyAgentError name).2, some name, message⟩

def mapErrInfo (err : ErrInfo) : SeamError :=
  let message := (err.msgFallback.or err.msgKey).getD []
  match err.code with
  | .name name => mapAgentError name message
  | .code code => { errorCode := code, message := message }

def toPayload : OpResult → OperationPayload
  | .identity fields => .identity fields
  | .photo photos => .photo photos
  | .certificates certs => .certificates certs
  | .sign r => .sign (some r.artifact) r.signMeta
  | .signBatch rows => .batchSign rows
  | .credentials c => .credentials c.result c.records

def propsOf (objectId : Bytes) (kind : ObjectKind) : ReplyVariant → Option Props
  | .known (.state readers cards) =>
    match kind with
    | .reader => (readers.find? fun r => r.handle = objectId).map readerProps
    | .card => (cards.find? fun c => c.handle = objectId).map cardProps
  | _ => none

def derOutcomeOf : ReplyVariant → DerOutcome
  | .known (.certDer der) => { der := der }
  | .known (.error err) => { error := mapErrInfo err }
  | _ =>
    { error := { callError := .protocolError,
                 message := lit "unexpected reply arm for GetCertDer" } }

/-! ## What the peer does -/

/-- a body that is neither a reply nor an event is malformed -/
inductive Frame where
  | reply (reply : DecodedReply)
  | event (event : DecodedEvent)
  | malformed

inductive PumpStatus where
  | ok
  | peerClosed
  | ioError
  | protocolError
deriving DecidableEq

structure PumpResult where
  frames : List Frame
  status : PumpStatus := .ok

/-- a wakeup of `poll`: an error, or something to read.  Interrupts and empty wakeups change
nothing. -/
inductive Poll where
  | failed
  | ready (pumped : PumpResult)

/-- the socket during a blocking call: whether the request goes out, and what is read until the
deadline -/
structure Exchange where
  sent : Bool := true
  polls : List Poll := []

/-- an attempt to connect, and the handshake if it succeeds -/
structure Dial where
  connects : Bool := true
  hello : Exchange := {}

/-! ## State -/

/-- Listeners are addresses.  An address may be used again once its listener is gone. -/
structure PropertyWatch where
  listener : Nat
  objectId : Bytes
  kind : ObjectKind
deriving DecidableEq

structure OperationWatch where
  listener : Nat
  op : UInt64
  kind : OperationKind
  /-- the connection on which the operation was started, for the specification -/
  conn : Nat
deriving DecidableEq

structure PendingProps where
  requestId : Nat
  token : Nat
  objectId : Bytes
  kind : ObjectKind
  listener : Nat
deriving DecidableEq

structure PendingDer where
  requestId : Nat
  token : Nat
deriving DecidableEq

/-- The source stamps only the loss notice.  The connection of an event and of a loss are for the
specification. -/
inductive DeferredItem where
  | event (conn : Nat) (event : DecodedEvent)
  | reply (reply : DecodedReply)
  | connectionLost (conn generation : Nat) (lostProps : List PendingProps)
      (lostDer : List PendingDer)

inductive QueuedFailure where
  | props (token : Nat) (objectId : Bytes) (listener : Nat)
  | der (token : Nat)
deriving DecidableEq

/-- The generation, the request ids and the tokens are 64 bits wide in the source, and are taken not
to wrap. -/
structure SocketTransport where
  /-- the number of the open socket; sockets are numbered from one -/
  socket : Option Nat := none
  /-- how many sockets were opened, for the specification -/
  sockets : Nat := 0
  established : Bool := false
  quiesced : Bool := false
  generation : Nat := 0
  /-- the socket of the last completed handshake, for the specification -/
  current : Nat := 0
  features : List Bytes := []
  configFetched : Bool := false
  deferred : List DeferredItem := []
  drainQueued : Bool := false
  draining : Bool := false
  propertyWatches : List PropertyWatch := []
  operationWatches : List OperationWatch := []
  /-- `DerListenerRegistry`: tokens with their listeners -/
  derListeners : List (Nat × Nat) := []
  nextDerToken : Nat := 0
  pendingProps : List PendingProps := []
  pendingDer : List PendingDer := []
  nextRequestId : Nat := 0
  nextPropsToken : Nat := 0
  /-- what `QMetaObject::invokeMethod` has queued -/
  queued : List QueuedFailure := []
  /-- the events received so far, for the specification -/
  received : List DecodedEvent := []

inductive OperationEvent where
  | phaseChanged (phase : OperationPhase)
  | groupReady (groupKey : Bytes) (cells : StdMap IdentityField)
  | result (payload : OperationPayload)
  | finished (status : OperationStatus) (code : ErrorCode) (msgKey msgFallback : Bytes)

inductive Callback where
  | unregistered
  | readerAdded (id : Bytes) (props : Props)
  | readerRemoved (id : Bytes)
  | cardAdded (id : Bytes) (props : Props)
  | cardRemoved (id : Bytes)
  | configChanged (key : Bytes)
  | propertiesChanged (listener : Nat) (changed : Props)
  | propertiesFetched (listener token : Nat) (props : Option Props)
  | operation (listener : Nat) (event : OperationEvent)
  | certificateDer (listener token : Nat) (outcome : DerOutcome)

namespace SocketTransport
variable (s : SocketTransport)

/-! ## The queue -/

def isConnected : Bool :=
  s.socket.isSome && s.established

def scheduleDrain : SocketTransport :=
  { s with drainQueued := true }

def defer (item : DeferredItem) : SocketTransport :=
  scheduleDrain { s with deferred := s.deferred ++ [item] }

def receive (event : DecodedEvent) : SocketTransport :=
  defer { s with received := s.received ++ [event] } (.event (s.socket.getD 0) event)

def dropConnection : SocketTransport :=
  match s.socket with
  | none => s
  | some conn =>
    let dropped :=
      { s with socket := none, established := false, quiesced := false, features := [],
               configFetched := false }
    if s.established then
      defer { dropped with pendingProps := [], pendingDer := [] }
        (.connectionLost conn s.generation s.pendingProps s.pendingDer)
    else dropped

/-! ## Blocking calls -/

/-- the frames of one reading, up to a malformed one: the awaited reply is taken, everything else is
deferred -/
def absorbFrames (s : SocketTransport) (awaited : Option Nat) : List Frame →
    SocketTransport × Option ReplyVariant × Bool
  | [] => (s, none, false)
  | .malformed :: _ => (s, none, true)
  | .event event :: frames => absorbFrames (s.receive event) awaited frames
  | .reply reply :: frames =>
    if awaited = some reply.req.toNat then
      let (s', _, failed) := absorbFrames s none frames
      (s', some reply.reply, failed)
    else absorbFrames (s.defer (.reply reply)) awaited frames

def orReply (failure : CallError) : Option ReplyVariant → Except CallError ReplyVariant
  | some reply => .ok reply
  | none => .error failure

def pollLoop (s : SocketTransport) (requestId : Nat) : List Poll →
    SocketTransport × Except CallError ReplyVariant
  | [] => (s, .error .timeout)
  | .failed :: _ => (s.dropConnection, .error .transportFailure)
  | .ready pumped :: polls =>
    match s.absorbFrames (some requestId) pumped.frames with
    | (s, got, true) => (s.dropConnection, orReply .protocolError got)
    | (s, got, false) =>
      match pumped.status with
      | .peerClosed => (s.dropConnection, orReply .agentUnavailable got)
      | .ioError => (s.dropConnection, orReply .transportFailure got)
      | .protocolError => (s.dropConnection, orReply .protocolError got)
      | .ok =>
        match got with
        | some reply => (s, .ok reply)
        | none => pollLoop s requestId polls

def callSync (x : Exchange) : SocketTransport × Except CallError ReplyVariant :=
  match s.socket with
  | none => (s, .error .agentUnavailable)
  | some _ =>
    let requestId := s.nextRequestId + 1
    let s := { s with nextRequestId := requestId }
    if x.sent then
      let (s, result) := s.pollLoop requestId x.polls
      (if s.deferred.isEmpty then s else s.scheduleDrain, result)
    else (s.dropConnection, .error .agentUnavailable)

def connectAndHandshake (dial : Dial) : SocketTransport × Bool :=
  if dial.connects then
    let conn := s.sockets + 1
    match callSync { s with socket := some conn, sockets := conn } dial.hello with
    | (s, .ok (.known (.helloAck _ features))) =>
      ({ s with features := features, configFetched := false, established := true,
                quiesced := false,
                generation := s.generation + 1, current := conn }, true)
    | (s, _) => ({ s with socket := none }, false)
  else (s, false)

/-- `probeAvailability`, and `startAgent`, which is no more on this wire.  The exchange is the one
of a quiesced agent. -/
def probeAvailability (dial : Dial) (x : Exchange) : SocketTransport × Bool :=
  match s.socket with
  | none => s.connectAndHandshake dial
  | some _ =>
    if s.quiesced then
      match s.callSync x with
      | (s, .ok (.known (.state _ _))) => ({ s with quiesced := false }, true)
      | (s, _) => (s, false)
    else (s, true)

def fetchRegistry (x : Exchange) : SocketTransport × Option (List ReaderState × List CardState) :=
  match s.callSync x with
  | (s, .ok (.known (.state readers cards))) => (s, some (readers, cards))
  | (s, _) => (s, none)

def configSnapshot (x : Exchange) : SocketTransport :=
  if s.configFetched then s else (callSync { s with configFetched := true } x).1

/-- a method entry.  The methods on credentials are refused without the feature. -/
def startOperation (credentials : Bool) (x : Exchange) :
    SocketTransport × Except SeamError UInt64 :=
  if credentials && !s.features.contains (lit "credentials") then
    (s, .error (mapAgentError .notSupported
      (lit "agent does not advertise the credentials feature")))
  else
    match s.callSync x with
    | (s, .error failure) =>
      (s, .error { callError := failure, message := lit "method entry produced no reply" })
    | (s, .ok (.known (.opStarted op))) => (s, .ok op)
    | (s, .ok (.known (.error err))) => (s, .error (mapErrInfo err))
    | (s, .ok _) =>
      (s, .error { callError := .protocolError,
                   message := lit "method entry returned an unexpected reply arm" })

def fetchOperationResult (kind : OperationKind) (x : Exchange) :
    SocketTransport × Option OperationPayload :=
  if kind = .sign then
    match s.callSync x with
    | (s, .ok (.known (.signRecovery r))) => (s, some (toPayload (.sign r)))
    | (s, _) => (s, none)
  else (s, none)

/-! ## Listeners and requests -/

def subscribeOperation (op : UInt64) (kind : OperationKind) (listener conn : Nat) :
    SocketTransport :=
  { s with operationWatches := s.operationWatches.filter (·.listener ≠ listener) ++
             [⟨listener, op, kind, conn⟩] }

def unsubscribeOperation (listener : Nat) : SocketTransport :=
  { s with operationWatches := s.operationWatches.filter (·.listener ≠ listener) }

def cancelOperation (sent : Bool) : SocketTransport :=
  if s.isConnected then
    let s := { s with nextRequestId := s.nextRequestId + 1 }
    if sent then s else s.dropConnection
  else s

def subscribeProperties (objectId : Bytes) (kind : ObjectKind) (listener : Nat) : SocketTransport :=
  { s with propertyWatches := s.propertyWatches.filter (·.listener ≠ listener) ++
             [⟨listener, objectId, kind⟩] }

def unsubscribeProperties (listener : Nat) : SocketTransport :=
  { s with propertyWatches := s.propertyWatches.filter (·.listener ≠ listener) }

def watches (listener : Nat) (objectId : Bytes) : Bool :=
  (s.propertyWatches.find? (·.listener = listener)).any (·.objectId = objectId)

def requestProperties (objectId : Bytes) (kind : ObjectKind) (listener : Nat) (sent : Bool) :
    SocketTransport :=
  let token := s.nextPropsToken + 1
  let s := { s with nextPropsToken := token }
  if s.isConnected then
    let requestId := s.nextRequestId + 1
    let s := { s with nextRequestId := requestId }
    if sent then { s with
        pendingProps := s.pendingProps ++ [⟨requestId, token, objectId, kind, listener⟩] }
    else
      let s := s.dropConnection
      { s with queued := s.queued ++ [.props token objectId listener] }
  else { s with queued := s.queued ++ [.props token objectId listener] }

def requestCertificateDer (listener : Nat) (sent : Bool) : SocketTransport :=
  let token := s.nextDerToken + 1
  let s := { s with nextDerToken := token, derListeners := s.derListeners ++ [(token, listener)] }
  if s.isConnected then
    let requestId := s.nextRequestId + 1
    let s := { s with nextRequestId := requestId }
    if sent then { s with pendingDer := s.pendingDer ++ [⟨requestId, token⟩] }
    else
      let s := s.dropConnection
      { s with queued := s.queued ++ [.der token] }
  else { s with queued := s.queued ++ [.der token] }

def cancelCertificateDer (token : Nat) : SocketTransport :=
  { s with derListeners := s.derListeners.filter (·.1 ≠ token) }

def answerProps (token : Nat) (objectId : Bytes) (listener : Nat) (props : Option Props) :
    List Callback :=
  if s.watches listener objectId then [.propertiesFetched listener token props] else []

/-- `takeIfPresent`, and the answer if the token is registered -/
def answerDer (token : Nat) (outcome : DerOutcome) : SocketTransport × List Callback :=
  match s.derListeners.find? (·.1 = token) with
  | none => (s, [])
  | some (_, listener) => (s.cancelCertificateDer token, [.certificateDer listener token outcome])

def propsTimeout (requestId : Nat) : SocketTransport × List Callback :=
  match s.pendingProps.find? (·.requestId = requestId) with
  | none => (s, [])
  | some pending =>
    ({ s with pendingProps := s.pendingProps.eraseP (·.requestId = requestId) },
      s.answerProps pending.token pending.objectId pending.listener none)

def derTimeout (requestId : Nat) : SocketTransport × List Callback :=
  match s.pendingDer.find? (·.requestId = requestId) with
  | none => (s, [])
  | some pending =>
    answerDer { s with pendingDer := s.pendingDer.eraseP (·.requestId = requestId) } pending.token
      { error := { callError := .timeout,
                   message := lit "no GetCertDer reply within the call budget" } }

def runQueued : SocketTransport × List Callback :=
  match s.queued with
  | [] => (s, [])
  | .props token objectId listener :: queued =>
    ({ s with queued := queued }, s.answerProps token objectId listener none)
  | .der token :: queued =>
    answerDer { s with queued := queued } token
      { error := { callError := .agentUnavailable,
                   message := lit "the agent socket is not connected" } }

/-! ## Dispatch -/

def operationListenerFor (op : UInt64) : Option OperationWatch :=
  s.operationWatches.find? (·.op = op)

def callOperation (op : UInt64) (event : OperationEvent) : List Callback :=
  match s.operationListenerFor op with
  | none => []
  | some watch => [.operation watch.listener event]

def propertyTargets (handle iface : Bytes) : List PropertyWatch :=
  let kind? : Option ObjectKind :=
    if iface = kReaderIface then some .reader else if iface = kCardIface then some .card else none
  s.propertyWatches.filter fun watch => watch.objectId = handle ∧ kind? = some watch.kind

def dispatchEvent (x : Exchange) : DecodedEvent → SocketTransport × List Callback
  | .known (.readerAdded reader) => (s, [.readerAdded reader.handle (readerProps reader)])
  | .known (.readerRemoved handle) => (s, [.readerRemoved handle])
  | .known (.cardAdded card) => (s, [.cardAdded card.handle (cardProps card)])
  | .known (.cardRemoved handle) => (s, [.cardRemoved handle])
  | .known (.propertyChanged e) =>
    (s, (s.propertyTargets e.handle e.iface).map fun watch =>
      .propertiesChanged watch.listener e.props.entries)
  | .known (.opProgress op phase) => (s, s.callOperation op (.phaseChanged phase))
  | .known (.opIdentityGroup op groupKey fields) =>
    (s, s.callOperation op (.groupReady groupKey fields))
  | .known (.opResultReady op result) => (s, s.callOperation op (.result (toPayload result)))
  | .known (.opFinished e) =>
    (s, s.callOperation e.op (.finished e.status e.code e.msgKey e.msgFallback))
  | .known (.configChanged key) =>
    (if s.configFetched then (s.callSync x).1 else s, [.configChanged key])
  | .known (.agentQuiesced _) => ({ s with quiesced := true }, [.unregistered])
  | .unknownEvent => (s, [])

def dispatchAsyncReply (reply : DecodedReply) : SocketTransport × List Callback :=
  match s.pendingProps.find? (·.requestId = reply.req.toNat) with
  | some pending =>
    ({ s with pendingProps := s.pendingProps.eraseP (·.requestId = reply.req.toNat) },
      s.answerProps pending.token pending.objectId pending.listener
        (propsOf pending.objectId pending.kind reply.reply))
  | none =>
    match s.pendingDer.find? (·.requestId = reply.req.toNat) with
    | some pending =>
      answerDer { s with pendingDer := s.pendingDer.eraseP (·.requestId = reply.req.toNat) }
        pending.token
        (derOutcomeOf reply.reply)
    | none => (s, [])

/-- The next piece of the loop of `drainDeferred`.  A loss notice stays in front until its requests
are answered one by one, and is announced last, unless a connection was made in the meantime. -/
def dispatch (x : Exchange) : SocketTransport × List Callback :=
  match s.deferred with
  | [] => ({ s with draining := false }, [])
  | .event _ event :: deferred => dispatchEvent { s with deferred := deferred } x event
  | .reply reply :: deferred => dispatchAsyncReply { s with deferred := deferred } reply
  | .connectionLost conn generation (pending :: lostProps) lostDer :: deferred =>
    ({ s with deferred := .connectionLost conn generation lostProps lostDer :: deferred },
      s.answerProps pending.token pending.objectId pending.listener none)
  | .connectionLost conn generation [] (pending :: lostDer) :: deferred =>
    answerDer { s with deferred := .connectionLost conn generation [] lostDer :: deferred }
      pending.token
      { error := { callError := .agentUnavailable,
                   message := lit "the agent connection was lost" } }
  | .connectionLost _ generation [] [] :: deferred =>
    ({ s with deferred := deferred }, if generation = s.generation then [.unregistered] else [])

/-- the queued call of `drainDeferred`; a drain that runs already goes on -/
def drainDeferred : SocketTransport :=
  { s with drainQueued := false, draining := true }

def onReadable (pumped : PumpResult) : SocketTransport :=
  match s.socket with
  | none => s
  | some _ =>
    match s.absorbFrames none pumped.frames with
    | (s, _, true) => s.dropConnection.drainDeferred
    | (s, _, false) =>
      if pumped.status = .ok then s.drainDeferred else s.dropConnection.drainDeferred

end SocketTransport

/-! ## Steps -/

inductive TransportAction where
  | probe (dial : Dial) (x : Exchange)
  /-- a blocking call whose result the transport does not keep: a snapshot, a setting, a recovery
  pull -/
  | call (x : Exchange)
  | configSnapshot (x : Exchange)
  /-- a method entry, and the subscription of the operation it starts -/
  | startOperation (credentials : Bool) (kind : OperationKind) (listener : Nat) (x : Exchange)
  | unsubscribeOperation (listener : Nat)
  | cancelOperation (sent : Bool)
  | subscribeProperties (objectId : Bytes) (kind : ObjectKind) (listener : Nat)
  | unsubscribeProperties (listener : Nat)
  | requestProperties (objectId : Bytes) (kind : ObjectKind) (listener : Nat) (sent : Bool)
  | requestCertificateDer (listener : Nat) (sent : Bool)
  | cancelCertificateDer (token : Nat)
  | readable (pumped : PumpResult)
  | drain
  | dispatch (x : Exchange)
  | runQueued
  | propsTimeout (requestId : Nat)
  | derTimeout (requestId : Nat)

namespace SocketTransport
variable (s : SocketTransport)

def startAndSubscribe (credentials : Bool) (kind : OperationKind) (listener : Nat) (x : Exchange) :
    SocketTransport :=
  match s.startOperation credentials x with
  | (s', .ok op) => s'.subscribeOperation op kind listener (s.socket.getD 0)
  | (s', .error _) => s'

def step : TransportAction → SocketTransport × List Callback
  | .probe dial x => ((s.probeAvailability dial x).1, [])
  | .call x => ((s.callSync x).1, [])
  | .configSnapshot x => (s.configSnapshot x, [])
  | .startOperation credentials kind listener x =>
    (s.startAndSubscribe credentials kind listener x, [])
  | .unsubscribeOperation listener => (s.unsubscribeOperation listener, [])
  | .cancelOperation sent => (s.cancelOperation sent, [])
  | .subscribeProperties objectId kind listener =>
    (s.subscribeProperties objectId kind listener, [])
  | .unsubscribeProperties listener => (s.unsubscribeProperties listener, [])
  | .requestProperties objectId kind listener sent =>
    (s.requestProperties objectId kind listener sent, [])
  | .requestCertificateDer listener sent => (s.requestCertificateDer listener sent, [])
  | .cancelCertificateDer token => (s.cancelCertificateDer token, [])
  | .readable pumped => (s.onReadable pumped, [])
  | .drain => (s.drainDeferred, [])
  | .dispatch x => if s.draining then s.dispatch x else (s, [])
  | .runQueued => s.runQueued
  | .propsTimeout requestId => s.propsTimeout requestId
  | .derTimeout requestId => s.derTimeout requestId

end SocketTransport

end LibreAgent.Client
