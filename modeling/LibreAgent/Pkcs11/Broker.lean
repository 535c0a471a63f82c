import LibreAgent.Lib.Runs
import LibreAgent.Operations.PinConsent
import LibreAgent.Pkcs11.LeaseManager

/-!
# The PKCS#11 broker and the workers of the readers

Requests of the clients are checked at once; what touches a card is put on the queue of its reader,
whose worker takes one job after the other.  A worker makes one call at a time, and anything may
happen between two of them.

* `runLogin`, `runCrypto` : the two kinds of jobs, up to their completions;
* `World` : the leases, the cards, the logins that wait for the authority, the workers, and all that
  has happened so far;
* `Action`, `World.step` : the requests, the comings and goings of cards and clients, and the calls
  of the workers.

The clock, the authority, the prompter, the cards and their plugins answer as they like: their
answers are part of the action.  The registry of the cards is a list, and a card is always on the
same reader, `home`.
-/

namespace LibreAgent.Pkcs11

open Operations RawCryptoFlow

/-! ## Jobs -/

inductive CryptoOutcome where
  | ok
  | cancelled
  | keyNotFound
  | authFailed
  | notSupported
  | cardError
  | unknownCard
  | userNotLoggedIn
  | rateLimited
  | invalidInput
  deriving DecidableEq

inductive LoginOutcome where
  | ok
  | cancelled
  | notAuthorizedByCard
  | cardError
  | unknownCard
  | notAuthorized
  deriving DecidableEq

structure CryptoResult where
  outcome : CryptoOutcome
  bytes : Bytes
  deriving DecidableEq

def hostOutcome : Outcome → CryptoOutcome
  | .ok => .ok
  | .cancelled => .cancelled
  | .keyNotFound => .keyNotFound
  | .authFailed => .authFailed
  | .notSupported => .notSupported
  | .cardError => .cardError
  | .rateLimited => .rateLimited
  | .invalidInput => .invalidInput

/-- how a job has ended; there is no reply once the agent shuts down -/
inductive Finish where
  | login (reply : Option LoginOutcome)
  | crypto (outcome : Outcome) (reply : Option CryptoResult)
  deriving DecidableEq

def loginDone : LoginOutcome → Flow LoginOutcome
  | .ok => do
    let now ← Call.now.run
    (Call.grant now).run
    return .ok
  | .cancelled => pure .cancelled
  | .notAuthorizedByCard => pure .notAuthorizedByCard
  | .cardError => pure .cardError
  | .unknownCard | .notAuthorized => pure .cardError

def runLogin : Flow Finish := do
  let acquired ← Call.acquire.run
  if ← Call.isCancelled.run then return .login none
  let reply ← loginDone (if acquired.isOk then .ok else .cardError)
  return .login (some reply)

def cryptoDone (result : Result) : Flow (Option CryptoResult) :=
  match result.outcome with
  | .ok => pure (some ⟨.ok, result.bytes⟩)
  | .authFailed => do
    if ← Call.isCancelled.run then return none
    Call.revoke.run
    return some ⟨.authFailed, []⟩
  | outcome => pure (some ⟨hostOutcome outcome, []⟩)

def runCrypto (request : Request) : Flow Finish := do
  let result ← run request
  if ← Call.isCancelled.run then return .crypto result.outcome none
  let reply ← cryptoDone result
  return .crypto result.outcome reply

inductive Task where
  | login
  | crypto (request : Request)

def Task.program : Task → Flow Finish
  | login => runLogin
  | crypto request => runCrypto request

def Task.tally : Task → Tally
  | login => { login := true }
  | crypto _ => {}

structure Job (Caller Card : Type*) where
  /-- which request the job comes from -/
  request : Nat
  key : LeaseKey Caller Card
  task : Task

/-! ## The world -/

inductive QuiesceReason where
  | systemSleep
  | screenLocked
  | sessionInactive
  deriving DecidableEq

/-- what happens; an operation is known by the number with which it was started -/
inductive Event (Caller Card : Type*) where
  | requested (request : Nat) (caller : Caller)
  | loginRefused (request : Nat) (outcome : LoginOutcome)
  | granted (request : Nat) (key : LeaseKey Caller Card)
  | cryptoRefused (caller : Caller) (outcome : CryptoOutcome)
  | loginActive (caller : Caller) (answer : Bool)
  -- the calls of an operation that matter, and its end with the last key that it has used
  | collected (op : Nat) (key : LeaseKey Caller Card)
  | started (op : Nat) (key : LeaseKey Caller Card) (withPin : Bool)
  | used (op : Nat) (key : LeaseKey Caller Card) (alwaysAuthenticate : Bool)
  | ended (op : Nat) (key : LeaseKey Caller Card) (finish : Finish) (lastKey : Option Bool)
  -- revocations from outside
  | loggedOut (key : LeaseKey Caller Card)
  | disconnected (caller : Caller)
  | removed (card : Card)
  | quiesced (reason : QuiesceReason) (cards : List Card)
  deriving DecidableEq

/-- a job at work: what it still has to do, and what it has done -/
structure Running (Caller Card : Type*) where
  op : Nat
  job : Job Caller Card
  rest : Flow Finish
  tally : Tally

structure Worker (Caller Card : Type*) where
  running : Option (Running Caller Card) := none
  queue : List (Job Caller Card) := []

structure PendingLogin (Caller Reader : Type*) where
  request : Nat
  reader : Reader
  caller : Caller

structure World (Caller Card Reader : Type*) where
  lease : LeaseManager Caller Card
  cards : List Card := []
  authorizing : List (PendingLogin Caller Reader) := []
  workers : Reader → Worker Caller Card := fun _ => {}
  shutdown : Bool := false
  nextRequest : Nat := 0
  nextOp : Nat := 0
  /-- the newest first -/
  history : List (Event Caller Card) := []

def kMaxQueuedOpsPerReader : Nat := 32

inductive AuthorizationOutcome where
  | granted
  | denied
  | undecided

structure MechParamsEcdh where
  peerPublicPoint : Bytes
  kdf : UInt32
  sharedData : Bytes

inductive MechanismParams where
  | empty
  | ecdh (params : MechParamsEcdh)

def kEcdhKdfNull : UInt32 := 1

inductive CryptoCall where
  | signRaw (mechanism : Mechanism) (input : Bytes)
  | decrypt (mechanism : Mechanism) (ciphertext : Bytes)
  | derive (params : MechanismParams)

def CryptoCall.wired : CryptoCall → Option (Mechanism × Bytes)
  | signRaw mechanism input =>
    if mechanism ∈ [.rsaPkcs1Sign, .sha256RsaPkcs1Sign, .ecdsaSign] then some (mechanism, input)
      else none
  | decrypt mechanism ciphertext =>
    if mechanism ∈ [.rsaPkcs1Decrypt] then some (mechanism, ciphertext) else none
  | derive .empty => none
  | derive (.ecdh params) =>
    if params.kdf ≠ kEcdhKdfNull ∨ params.sharedData ≠ [] then none
    else some (.ecdhDerive, params.peerPublicPoint)

variable {Caller Card Reader : Type*} [DecidableEq Caller] [DecidableEq Card] [DecidableEq Reader]

/-! ## The broker -/

namespace World

variable (home : Card → Reader) (w : World Caller Card Reader)

def record (e : Event Caller Card) : World Caller Card Reader :=
  { w with history := e :: w.history }

def setWorker (reader : Reader) (worker : Worker Caller Card) : World Caller Card Reader :=
  { w with workers := Function.update w.workers reader worker }

def resolveCardKey (reader : Reader) : Option Card :=
  w.cards.find? fun card => home card = reader

/-- the queue is shared with other operations, and there may be no `room` on it for more reasons
than its length, or no such reader any longer -/
def enqueueOnReaderWorker (reader : Reader) (job : Job Caller Card)
    (room : Bool) : Option (World Caller Card Reader) :=
  if room ∧ (w.workers reader).queue.length < kMaxQueuedOpsPerReader then
    some (w.setWorker reader { w.workers reader with queue := (w.workers reader).queue ++ [job] })
  else none

def login (reader : Reader) (caller : Caller) : World Caller Card Reader :=
  record { w with
    authorizing := w.authorizing ++ [⟨w.nextRequest, reader, caller⟩]
    nextRequest := w.nextRequest + 1 } (.requested w.nextRequest caller)

def continueLogin (pending : PendingLogin Caller Reader) (room : Bool) : World Caller Card Reader :=
  match w.resolveCardKey home pending.reader with
  | none => w.record (.loginRefused pending.request .unknownCard)
  | some card =>
    match w.enqueueOnReaderWorker pending.reader
      ⟨pending.request, ⟨pending.caller, card⟩, .login⟩ room with
    | none => w.record (.loginRefused pending.request .cardError)
    | some w => w

def authorized (request : Nat)
    (outcome : AuthorizationOutcome) (room : Bool) : World Caller Card Reader :=
  match w.authorizing.find? fun pending => pending.request = request with
  | none => w
  | some pending =>
    let w := { w with authorizing := w.authorizing.filter fun pending => pending.request ≠ request }
    match outcome with
    | .granted => if w.shutdown then w else continueLogin home w pending room
    | .denied | .undecided => w.record (.loginRefused pending.request .notAuthorized)

def logout (reader : Reader) (caller : Caller) : World Caller Card Reader :=
  match w.resolveCardKey home reader with
  | none => w
  | some card =>
    record { w with lease := w.lease.revoke ⟨caller, card⟩ } (.loggedOut ⟨caller, card⟩)

def loginActive (reader : Reader) (caller : Caller) (now : Int) : World Caller Card Reader :=
  match w.resolveCardKey home reader with
  | none => w.record (.loginActive caller false)
  | some card =>
    let asked := w.lease.isActive ⟨caller, card⟩ now
    record { w with lease := asked.2 } (.loginActive caller asked.1)

def dispatchCrypto (reader : Reader) (key : LeaseKey Caller Card)
    (request : Request) (room : Bool) : World Caller Card Reader :=
  let counted := { w with nextRequest := w.nextRequest + 1 }
  match counted.enqueueOnReaderWorker reader ⟨w.nextRequest, key, .crypto request⟩ room with
  | none => counted.record (.cryptoRefused key.caller .cardError)
  | some w => w

def runCrypto (call : CryptoCall) (reader : Reader) (certId label : String) (caller : Caller)
    (now : Int) (room : Bool) : World Caller Card Reader :=
  match call.wired, w.resolveCardKey home reader with
  | none, _ => w.record (.cryptoRefused caller .notSupported)
  | some _, none => w.record (.cryptoRefused caller .unknownCard)
  | some (mechanism, bytes), some card =>
    let touched := w.lease.touch ⟨caller, card⟩ now
    if touched.1 then
      dispatchCrypto { w with lease := touched.2 } reader ⟨caller, card⟩
        ⟨label, certId, mechanism, bytes⟩ room
    else record { w with lease := touched.2 } (.cryptoRefused caller .userNotLoggedIn)

def onCardRemoved (card : Card) : World Caller Card Reader :=
  record { w with lease := w.lease.revokeCard card } (.removed card)

def onClientDisconnected (client : Caller) : World Caller Card Reader :=
  record { w with lease := w.lease.revokeCaller client } (.disconnected client)

def quiesce (reason : QuiesceReason) : World Caller Card Reader :=
  record { w with lease := w.cards.foldl LeaseManager.revokeCard w.lease }
    (.quiesced reason w.cards)

def removeReader (reader : Reader) : World Caller Card Reader :=
  w.setWorker reader { w.workers reader with queue := [] }

/-! ## The workers -/

def respond (key : LeaseKey Caller Card) (answers : (c : Call) → c.Ans) : (c : Call) → c.Ans
  | .isPinVerified => w.lease.isPinVerified key
  | .isCancelled => w.shutdown
  | c => answers c

def leaseAfter (lease : LeaseManager Caller Card) (key : LeaseKey Caller Card) :
    Call → LeaseManager Caller Card
  | .markPinVerified => lease.markPinVerified key
  | .clearPinVerified => lease.clearPinVerified key
  | .grant now => lease.grant key now
  | .revoke => lease.revoke key
  | _ => lease

def callEvent (op : Nat) (job : Job Caller Card) : (c : Call) → c.Ans → Option (Event Caller Card)
  | .grant _, _ => some (.granted job.request job.key)
  | .requestPin _ _, prompt => if prompt.pin.isSome then some (.collected op job.key) else none
  | .terminal pin, _ => some (.started op job.key pin.isSome)
  | .sign key _ _, _ | .decipher key _ _, _ => some (.used op job.key key.cert.alwaysAuthenticate)
  | _, _ => none

def begin (reader : Reader) : World Caller Card Reader :=
  match (w.workers reader).queue with
  | [] => w
  | job :: queue =>
    { w with nextOp := w.nextOp + 1 }.setWorker reader
      { running := some ⟨w.nextOp, job, job.task.program, job.task.tally⟩, queue }

def makeCall (reader : Reader) (r : Running Caller Card) (c : Call)
    (goOn : c.Ans → Flow Finish) (answer : c.Ans) : World Caller Card Reader :=
  { w with
      lease := leaseAfter w.lease r.job.key c
      history := (callEvent r.op r.job c answer).toList ++ w.history }.setWorker reader
    { w.workers reader with
      running := some { r with rest := goOn answer, tally := r.tally.next c answer } }

def finish (reader : Reader) (r : Running Caller Card) (finish : Finish) :
    World Caller Card Reader :=
  (w.record (.ended r.op r.job.key finish r.tally.lastKey)).setWorker reader
    { w.workers reader with running := none }

def work (reader : Reader) (answers : (c : Call) → c.Ans) : World Caller Card Reader :=
  match (w.workers reader).running with
  | none => w.begin reader
  | some r =>
    match r.rest with
    | .done result => w.finish reader r result
    | .ask c goOn => w.makeCall reader r c goOn (w.respond r.job.key answers c)

end World

/-! ## Steps -/

inductive Action (Caller Card Reader : Type*) where
  | cardInserted (card : Card)
  | cardGone (card : Card)
  | login (reader : Reader) (caller : Caller)
  | authorized (request : Nat) (outcome : AuthorizationOutcome) (room : Bool)
  | logout (reader : Reader) (caller : Caller)
  | loginActive (reader : Reader) (caller : Caller) (now : Int)
  | crypto (call : CryptoCall) (reader : Reader) (certId label : String)
      (caller : Caller) (now : Int)
      (room : Bool)
  | onCardRemoved (card : Card)
  | onClientDisconnected (client : Caller)
  | quiesce (reason : QuiesceReason)
  | removeReader (reader : Reader)
  | shutdown
  | work (reader : Reader) (answers : (c : Call) → c.Ans)

namespace World

def step (home : Card → Reader) (w : World Caller Card Reader) :
    Action Caller Card Reader → World Caller Card Reader
  | .cardInserted card => { w with cards := card :: w.cards }
  | .cardGone card => { w with cards := w.cards.filter fun c => c ≠ card }
  | .login reader caller => w.login reader caller
  | .authorized request outcome room => w.authorized home request outcome room
  | .logout reader caller => w.logout home reader caller
  | .loginActive reader caller now => w.loginActive home reader caller now
  | .crypto call reader certId label caller now room =>
    w.runCrypto home call reader certId label caller now room
  | .onCardRemoved card => w.onCardRemoved card
  | .onClientDisconnected client => w.onClientDisconnected client
  | .quiesce reason => w.quiesce reason
  | .removeReader reader => w.removeReader reader
  | .shutdown => { w with shutdown := true }
  | .work reader answers => w.work reader answers

def start (config : LeaseConfig) : World Caller Card Reader :=
  { lease := .empty config }

end World

end LibreAgent.Pkcs11
