import Mathlib.Logic.Function.Basic
import LibreAgent.Client.SocketTransport

/-!
# The Qt client

`AgentClient` over the socket transport, with its readers, cards and operations.

* `ReaderProperties`, `CardProperties` : what `applyProps` fills; the conversions of `QVariant` are
  parameters (`QVariants`);
* `AgentClient` : the members, and beside them the operations of consumers, for the specification;
* `Work` : the rest of a sweep, of the removal of a card or of a reconcile, which calls consumers on
  the way;
* `ClientAction`, `AgentClient.step` : the calls of consumers, the event loop, and the next piece of
  work.

A consumer that is called may call the client again or run the event loop, which dispatches the
queue of the transport.  So each call is a step and the rest of the call that was interrupted stays
on a stack.  Objects are numbered in the order in which they are made.
-/

namespace LibreAgent.Client

open Bytes
open Wire (CborValue ReaderState CardState ReaderInterface OperationStatus readerInterfaceFromToken)

/-! ## Properties -/

structure QVariants where
  toString : CborValue → Bytes
  toBool : CborValue → Bool
  toUInt : CborValue → UInt32

structure ReaderProperties where
  name : Bytes := []
  model : Bytes := []
  iface : ReaderInterface := .unknown
  hasCard : Bool := false
  cardId : Bytes := []
deriving DecidableEq

structure CardProperties where
  capabilities : UInt32 := 0
  preReadAuth : Bytes := lit "None"
  readerId : Bytes := []
  cardType : Bytes := []
  atrHex : Bytes := []
deriving DecidableEq

def Props.read {α : Type} (props : Props) (key : String) (convert : CborValue → α) (old : α) : α :=
  match props.find? (·.1 = lit key) with
  | some (_, value) => convert value
  | none => old

def ReaderProperties.applyProps (qt : QVariants) (r : ReaderProperties) (props : Props) :
    ReaderProperties where
  name := Props.read props "Name" qt.toString r.name
  model := Props.read props "Model" qt.toString r.model
  iface := Props.read props "Interface" (fun v =>
      (readerInterfaceFromToken (qt.toString v)).getD .unknown) r.iface
  hasCard := Props.read props "HasCard" qt.toBool r.hasCard
  cardId := Props.read props "Card" qt.toString r.cardId

def CardProperties.applyProps (qt : QVariants) (k : CardProperties) (props : Props) :
    CardProperties where
  capabilities := Props.read props "Capabilities" qt.toUInt k.capabilities
  preReadAuth := Props.read props "PreReadAuthMethod" qt.toString k.preReadAuth
  readerId := Props.read props "Reader" qt.toString k.readerId
  cardType := Props.read props "CardType" qt.toString k.cardType
  atrHex := Props.read props "Atr" qt.toString k.atrHex

/-- what an `AgentReader` or an `AgentCard` holds -/
def ObjectKind.Fields : ObjectKind → Type
  | .reader => ReaderProperties
  | .card => CardProperties

def ObjectKind.initial : (k : ObjectKind) → k.Fields
  | .reader => ({} : ReaderProperties)
  | .card => ({} : CardProperties)

def ObjectKind.applyProps (qt : QVariants) : (k : ObjectKind) → k.Fields → Props → k.Fields
  | .reader => ReaderProperties.applyProps qt
  | .card => CardProperties.applyProps qt

/-- an `AgentReader` or `AgentCard` -/
structure Tracked (F : Type) where
  address : Nat
  id : Bytes
  properties : F

/-- `primeFrom` on the object with an id -/
def primed {F : Type} (applyProps : F → Props → F) (id : Bytes) (props : Props)
    (objects : List (Tracked F)) : List (Tracked F) :=
  objects.map fun o =>
    if o.id = id then { o with properties := applyProps o.properties props } else o

/-- `onPropertiesChanged` of the object at an address; nothing is ever invalidated on this wire -/
def changed {F : Type} (applyProps : F → Props → F) (address : Nat) (props : Props)
    (objects : List (Tracked F)) : List (Tracked F) :=
  objects.map fun o =>
    if o.address = address then { o with properties := applyProps o.properties props } else o

/-! ## State -/

/-- what `fetchRegistry` brings -/
structure RegistrySnapshot where
  readers : List ReaderState
  cards : List CardState

/-- An operation that a consumer was given.  It stays on the list when it is destroyed. -/
structure ClientOperation where
  address : Nat
  /-- the card it belongs to; a fetch of a certificate belongs to the client -/
  card : Option Nat
  operation : AgentOperation
  /-- the id of the agent's operation, empty if it was refused -/
  operationId : Option UInt64 := none
  alive : Bool := true
  /-- destroyed by the consumer, for the specification -/
  dismissed : Bool := false
  /-- the connection on which it was started, for the specification -/
  conn : Option Nat := none
  /-- the connection whose loss finished it, for the specification -/
  finishedBy : Option Nat := none

/-- why operations are ended from outside.  The connection whose loss was announced is for the
specification. -/
inductive Sweep where
  | agentGone (lost : Option Nat)
  | cardRemoved
deriving DecidableEq

inductive Work where
  | terminate (operation : Nat) (sweep : Sweep)
  | deleteCard (card : Nat)
  | clearRegistry
  /-- the cards that are still to be removed, and then the rest of `repopulate` -/
  | reconcile (gone : List Bytes) (snapshot : RegistrySnapshot)

structure AgentClient where
  transport : SocketTransport := {}
  available : Bool := false
  /-- the readers and the cards -/
  objects : (k : ObjectKind) → List (Tracked k.Fields) := fun _ => []
  operations : List ClientOperation := []
  /-- what the calls under way have still to do, the innermost first -/
  todo : List Work := []
  lastAddress : Nat := 0

def Sweep.terminate (op : AgentOperation) : Sweep → AgentOperation
  | .agentGone _ =>
    op.terminate .cancelled .communicationError .agentUnavailable []
      (lit "The card agent stopped responding.")
  | .cardRemoved =>
    op.terminate .cancelled .cardRemoved .none [] (lit "The smart card was removed.")

def Sweep.lost : Sweep → Option Nat
  | .agentGone lost => lost
  | .cardRemoved => none

def seamKindFor : Kind → OperationKind
  | .identity | .certificateDer => .identity
  | .photo => .photo
  | .certificates => .certificates
  | .sign => .sign
  | .credentials => .credentials
  | .batchSign => .batchSign

/-- whether `finalizeTerminal` makes the recovery pull -/
def AgentOperation.pulls (op : AgentOperation) (status : OperationStatus) : Bool :=
  !op.resultSeen && (op.kind = .credentials || (if isKnownStatus status then status else .error) =
      .ok)

namespace ClientOperation
variable (o : ClientOperation)

def release (s : SocketTransport) : SocketTransport :=
  let s := if o.operationId.isSome then s.unsubscribeOperation o.address else s
  if o.operation.derToken ≠ 0 then s.cancelCertificateDer o.operation.derToken else s

def isAt (address : Nat) : Bool :=
  o.alive && o.address = address

def swept (sweep : Sweep) : ClientOperation :=
  { o with operation := sweep.terminate o.operation,
           finishedBy := if o.operation.finishedEmitted then o.finishedBy else sweep.lost }

end ClientOperation

namespace AgentClient
variable (qt : QVariants) (c : AgentClient)

/-! ## Operations -/

def operationAt (address : Nat) : Option ClientOperation :=
  c.operations.find? (·.isAt address)

def updateOperation (address : Nat) (f : ClientOperation → ClientOperation) : AgentClient :=
  { c with operations := c.operations.map fun o => if o.isAt address then f o else o }

def callOperation (address : Nat) (call : OperationCall) : AgentClient :=
  c.updateOperation address fun o => { o with operation := o.operation.step call }

def destroyOperations (p : ClientOperation → Bool) : AgentClient :=
  { c with transport := (c.operations.filter fun o => o.alive && p o).foldl
             (fun s o => o.release s) c.transport,
           operations := c.operations.map fun o => if o.alive && p o then { o with alive := false }
             else o }

def liveOperations (p : ClientOperation → Bool) : List Nat :=
  (c.operations.filter fun o => o.alive && p o).map (·.address)

def mint (s : SocketTransport) (card : Option Nat) (operation : AgentOperation)
    (operationId : Option UInt64) (conn : Option Nat) : AgentClient :=
  { c with transport := s, lastAddress := c.lastAddress + 1,
           operations := c.operations ++
             [{ address := c.lastAddress + 1, card := card, operation := operation,
                operationId := operationId, conn := conn }] }

/-! ## The registry -/

/-- `addReader` and `addCard`: an object that is known is primed, another one is made -/
def addObject (k : ObjectKind) (id : Bytes) (props : Props) : AgentClient :=
  if (c.objects k).any (·.id = id) then
    { c with objects := Function.update c.objects k
               (primed (k.applyProps qt) id props (c.objects k)) }
  else
    { c with transport := c.transport.subscribeProperties id k (c.lastAddress + 1),
             lastAddress := c.lastAddress + 1,
             objects := Function.update c.objects k
               (c.objects k ++ [⟨c.lastAddress + 1, id, k.applyProps qt k.initial props⟩]) }

def addReader (readerId : Bytes) (props : Props) : AgentClient :=
  c.addObject qt .reader readerId props

def addCard (cardId : Bytes) (props : Props) : AgentClient :=
  c.addObject qt .card cardId props

/-- the object leaves the map -/
def takeObject (k : ObjectKind) (id : Bytes) : AgentClient :=
  { c with objects := Function.update c.objects k ((c.objects k).filter (·.id ≠ id)) }

def removeReader (readerId : Bytes) : AgentClient :=
  match (c.objects .reader).find? (·.id = readerId) with
  | none => c
  | some reader =>
    { c.takeObject .reader readerId with
      transport := c.transport.unsubscribeProperties reader.address }

/-- the card leaves the map at once; its operations are ended, and then it is deleted -/
def removeCard (cardId : Bytes) : AgentClient :=
  match (c.objects .card).find? (·.id = cardId) with
  | none => c
  | some card =>
    { c.takeObject .card cardId with
      todo := (c.liveOperations (·.card = some card.address)).map (.terminate · .cardRemoved) ++
        .deleteCard card.address :: c.todo }

def deleteCard (card : Nat) : AgentClient :=
  destroyOperations { c with transport := c.transport.unsubscribeProperties card }
    (·.card = some card)

def clearRegistry : AgentClient :=
  let addresses := (c.objects .reader).map (·.address) ++ (c.objects .card).map (·.address)
  let c' :=
    destroyOperations c fun o => (c.objects .card).any fun card => o.card = some card.address
  { c' with transport := addresses.foldl (fun s address => s.unsubscribeProperties address)
              c'.transport,
            objects := fun _ => [] }

def onServiceUnregistered (lost : Option Nat) : AgentClient :=
  if c.available then
    { c with available := false,
             todo := (c.liveOperations fun _ => true).map (.terminate · (.agentGone lost)) ++
               .clearRegistry :: c.todo }
  else c

def repopulate (x : Exchange) : AgentClient :=
  match c.transport.fetchRegistry x with
  | (s, none) => { c with transport := s }
  | (s, some (readers, cards)) =>
    let gone :=
      ((c.objects .card).filter fun k => !cards.any fun card => card.handle = k.id).map (·.id)
    { c with transport := s, todo := .reconcile gone ⟨readers, cards⟩ :: c.todo }

/-- the rest of `repopulate`: readers that are gone, then cards, then readers -/
def finishReconcile (snapshot : RegistrySnapshot) : AgentClient :=
  let gone := ((c.objects .reader).filter fun r =>
    !snapshot.readers.any fun reader => reader.handle = r.id).map (·.id)
  let c := gone.foldl (fun c id => c.removeReader id) c
  let c := snapshot.cards.foldl (fun c card => c.addCard qt card.handle (cardProps card)) c
  snapshot.readers.foldl (fun c reader => c.addReader qt reader.handle (readerProps reader)) c

def onServiceRegistered (x : Exchange) : AgentClient :=
  if c.available then c else repopulate { c with available := true } x

def work : AgentClient :=
  match c.todo with
  | [] => c
  | .terminate operation sweep :: todo =>
    updateOperation { c with todo := todo } operation fun o => o.swept sweep
  | .deleteCard card :: todo => deleteCard { c with todo := todo } card
  | .clearRegistry :: todo => clearRegistry { c with todo := todo }
  | .reconcile [] snapshot :: todo => finishReconcile qt { c with todo := todo } snapshot
  | .reconcile (id :: gone) snapshot :: todo =>
    removeCard { c with todo := .reconcile gone snapshot :: todo } id

/-! ## Calls of consumers -/

def ensureAgent (dial : Dial) (probe x : Exchange) : AgentClient :=
  if c.available then c
  else
    match c.transport.probeAvailability dial probe with
    | (s, true) => onServiceRegistered { c with transport := s } x
    | (s, false) => { c with transport := s }

def refreshDiscovery (dial : Dial) (probe x : Exchange) : AgentClient :=
  match c.transport.probeAvailability dial probe with
  | (s, true) =>
    if c.available then repopulate { c with transport := s } x
      else onServiceRegistered { c with transport := s } x
  | (s, false) => onServiceUnregistered { c with transport := s } none

def cardAlive (card : Nat) : Bool :=
  (c.objects .card).any (·.address = card) || c.todo.any fun
    | .deleteCard doomed => doomed = card
    | _ => false

/-- `AgentCard::startOperation`, whose own refusals are an argument -/
def startOperation (card : Nat) (kind : OperationKind) (credentials : Bool)
    (refusal : Option SeamError) (x : Exchange) : AgentClient :=
  if c.cardAlive card then
    match refusal with
    | some error =>
      c.mint c.transport (some card) (AgentOperation.failEntry { kind := kind.toKind } error) none
        none
    | none =>
      match c.transport.startOperation credentials x with
      | (_, .ok op) =>
        c.mint (c.transport.startAndSubscribe credentials kind (c.lastAddress + 1) x) (some card)
          (.subscribed kind none none) (some op) c.transport.socket
      | (s, .error error) =>
        c.mint s (some card) (AgentOperation.failEntry { kind := kind.toKind } error) none none
  else c

/-- after `ensureAgent` -/
def certificateDer (sent : Bool) : AgentClient :=
  if c.available then
    c.mint (c.transport.requestCertificateDer (c.lastAddress + 1) sent) none
      (AgentOperation.startCertificateDer { kind := .certificateDer }
        (c.transport.nextDerToken + 1)) none
      (if c.transport.isConnected then c.transport.socket else none)
  else
    c.mint c.transport none (AgentOperation.failEntry { kind := .certificateDer }
      { callError := .agentUnavailable, message := lit "The card agent is not reachable." }) none
        none

def cancel (operation : Nat) (sent : Bool) : AgentClient :=
  match c.operationAt operation with
  | none => c
  | some o =>
    if o.operationId.isSome then { c with transport := c.transport.cancelOperation sent } else c

def dismiss (operation : Nat) : AgentClient :=
  destroyOperations (c.updateOperation operation fun o => { o with dismissed := true }) fun o =>
    o.address = operation

/-- the stall timer fires: the agent is told to stop, and the operation finishes here -/
def giveUpStalled (operation : Nat) (sent : Bool) : AgentClient :=
  match c.operationAt operation with
  | none => c
  | some o =>
    if o.operation.stallTimer.isSome && !o.operation.finishedEmitted then
      let s := if o.operationId.isSome then c.transport.cancelOperation sent else c.transport
      let s := if o.operation.derToken ≠ 0 then s.cancelCertificateDer o.operation.derToken else s
      callOperation { c with transport := s } operation .stallTimeout
    else c.callOperation operation .stallTimeout

/-! ## Calls of the transport -/

def onOperationEvent (x : Exchange) (operation : Nat) : OperationEvent → AgentClient
  | .phaseChanged phase => c.callOperation operation (.phaseChanged phase)
  | .groupReady groupKey cells => c.callOperation operation (.groupReady groupKey cells)
  | .result payload => c.callOperation operation (.result payload)
  | .finished status code msgKey msgFallback =>
    match c.operationAt operation with
    | none => c
    | some o =>
      let (s, reply) :=
        if o.operation.pulls status then c.transport.fetchOperationResult
          (seamKindFor o.operation.kind) x
        else (c.transport, none)
      callOperation { c with transport := s } operation
        (.finished status code msgKey msgFallback reply)

/-- No reader and no card asks for properties on this wire, so that the answer to such a request is
not theirs.  Tokens are counted from one. -/
def handle (x : Exchange) (lost : Option Nat) (c : AgentClient) : Callback → AgentClient
  | .unregistered => c.onServiceUnregistered lost
  | .readerAdded id props => c.addReader qt id props
  | .readerRemoved id => c.removeReader id
  | .cardAdded id props => c.addCard qt id props
  | .cardRemoved id => c.removeCard id
  | .configChanged _ => c
  | .propertiesChanged listener props =>
    { c with objects := fun k => changed (k.applyProps qt) listener props (c.objects k) }
  | .propertiesFetched _ _ _ => c
  | .operation listener event => c.onOperationEvent x listener event
  | .certificateDer listener token outcome =>
    c.callOperation listener (.certificateDer (token - 1) outcome)

end AgentClient

def SocketTransport.losing (s : SocketTransport) : Option Nat :=
  match s.deferred with
  | .connectionLost conn _ _ _ :: _ => some conn
  | _ => none

/-! ## Steps -/

inductive ClientAction where
  | ensureAgent (dial : Dial) (probe x : Exchange)
  | refreshDiscovery (dial : Dial) (probe x : Exchange)
  /-- another blocking call to the agent -/
  | call (x : Exchange)
  | configSnapshot (x : Exchange)
  | startOperation (card : Nat) (kind : OperationKind) (credentials : Bool)
      (refusal : Option SeamError) (x : Exchange)
  | certificateDer (sent : Bool)
  | cancel (operation : Nat) (sent : Bool)
  | setStallBudget (operation : Nat) (milliseconds : Int)
  | dismiss (operation : Nat)
  | work
  | readable (pumped : PumpResult)
  | drain
  | dispatch (x : Exchange)
  | runQueued
  | derTimeout (requestId : Nat)
  | stallTimeout (operation : Nat) (sent : Bool)
  /-- a queued `finished` is delivered -/
  | deliverQueued (operation : Nat)

namespace AgentClient
variable (qt : QVariants) (c : AgentClient)

def deliver (x : Exchange) (a : TransportAction) : AgentClient :=
  (c.transport.step a).2.foldl (handle qt x c.transport.losing)
    { c with transport := (c.transport.step a).1 }

def step : ClientAction → AgentClient
  | .ensureAgent dial probe x => c.ensureAgent dial probe x
  | .refreshDiscovery dial probe x => c.refreshDiscovery dial probe x
  | .call x => c.deliver qt x (.call x)
  | .configSnapshot x => c.deliver qt x (.configSnapshot x)
  | .startOperation card kind credentials refusal x =>
    c.startOperation card kind credentials refusal x
  | .certificateDer sent => c.certificateDer sent
  | .cancel operation sent => c.cancel operation sent
  | .setStallBudget operation milliseconds =>
    c.callOperation operation (.setStallBudget milliseconds)
  | .dismiss operation => c.dismiss operation
  | .work => c.work qt
  | .readable pumped => c.deliver qt {} (.readable pumped)
  | .drain => c.deliver qt {} .drain
  | .dispatch x => c.deliver qt x (.dispatch x)
  | .runQueued => c.deliver qt {} .runQueued
  | .derTimeout requestId => c.deliver qt {} (.derTimeout requestId)
  | .stallTimeout operation sent => c.giveUpStalled operation sent
  | .deliverQueued operation => c.callOperation operation .deliverQueued

end AgentClient

end LibreAgent.Client
