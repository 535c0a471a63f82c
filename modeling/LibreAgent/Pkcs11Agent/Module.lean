import LibreAgent.Pkcs11Agent.EcEncoding
import LibreAgent.Pkcs11Agent.SessionState

/-!
# The PKCS#11 module (`pkcs11/Module`)

The `C_*` functions of a process, on any number of threads.  One lock guards the state; a function
that asks the agent releases it for the call.  A step is one section under the lock, or the answer
to a call.

* `Module`, `Module.step` : the process.

Left out are the checks of pointers, the contents of the info structures, the object searches and
attributes, which only read, and the names of the certificates.  A length that the module knows is
given without the agent; the answer in the model's step is then not looked at.
-/

namespace LibreAgent.Pkcs11Agent

open Operations (KeyType)

/-! ## Answers -/

inductive CkRv where
  | ok
  | argumentsBad
  | attributeReadOnly
  | attributeTypeInvalid
  | attributeValueInvalid
  | actionProhibited
  | bufferTooSmall
  | cryptokiAlreadyInitialized
  | cryptokiNotInitialized
  | dataLenRange
  | deviceError
  | deviceRemoved
  | encryptedDataLenRange
  | functionCanceled
  | functionFailed
  | functionNotSupported
  | functionRejected
  | generalError
  | keyFunctionNotPermitted
  | keyHandleInvalid
  | keyTypeInconsistent
  | mechanismInvalid
  | mechanismParamInvalid
  | objectHandleInvalid
  | operationActive
  | operationNotInitialized
  | pinIncorrect
  | sessionHandleInvalid
  | sessionParallelNotSupported
  | slotIdInvalid
  | templateIncomplete
  | templateInconsistent
  | tokenNotPresent
  | userAlreadyLoggedIn
  | userNotLoggedIn
  | userTypeInvalid
  deriving DecidableEq

inductive Status where
  | ok
  | userNotLoggedIn
  | notAuthorized
  | authFailed
  | cancelled
  | keyNotFound
  | unknownCard
  | notSupported
  | rateLimited
  | communication
  | deviceRemoved
  | invalidInput
  | generalError
  deriving DecidableEq

def ckrFromStatus (invalidInputRv : CkRv) : Status → CkRv
  | .ok => .ok
  | .userNotLoggedIn => .userNotLoggedIn
  | .notAuthorized => .functionFailed
  | .authFailed => .pinIncorrect
  | .cancelled => .functionCanceled
  | .keyNotFound => .keyHandleInvalid
  | .unknownCard => .tokenNotPresent
  | .notSupported => .functionNotSupported
  | .rateLimited => .functionRejected
  | .communication => .deviceError
  | .deviceRemoved => .deviceRemoved
  | .invalidInput => invalidInputRv
  | .generalError => .generalError

inductive Out where
  | nothing
  | session (h : Nat)
  | object (h : UInt64)
  | length (n : Nat)
  | bytes (data : Bytes)
  | info (slot : Nat) (loggedIn : Bool) (flags : UInt64)
  deriving DecidableEq

structure Answer where
  rv : CkRv
  out : Out := .nothing
  deriving DecidableEq

/-! ## The calls -/

inductive UserType where
  | so
  | user
  | contextSpecific
  deriving DecidableEq

def kSerialSession : UInt64 := 4

/-- the functions that refresh the model, and what they then look at -/
inductive SlotQuery where
  | getSlotList
  | getSlotInfo (slot : Nat)
  | getTokenInfo (slot : Nat)
  | getMechanismList (slot : Nat)
  | getMechanismInfo (slot : Nat) (type : CkMechanism)
  | openSession (slot : Nat) (flags : UInt64)

inductive LocalCall where
  | closeSession (h : Nat)
  | closeAllSessions (slot : Nat)
  | logout (h : Nat)
  | destroyObject (h : Nat) (object : UInt64)
  | signInit (h : Nat) (mechanism : CkMechanism) (key : UInt64)
  | signUpdate (h : Nat) (part : Bytes)
  | decryptInit (h : Nat) (mechanism : CkMechanism) (key : UInt64)
  | decryptUpdate (h : Nat) (part : Bytes)

/-- the arguments of `C_DeriveKey`: the parameters as far as they can be used, and the template as
it has been parsed -/
structure DeriveArgs where
  mechanism : CkMechanism
  hasParams : Bool
  isRawSecret : Bool
  baseKey : UInt64
  publicData : Option Bytes
  template : Except CkRv DerivedKeyTemplate

/-- functions that ask the agent; a buffer is known by its length, a size query has none -/
inductive BlockingCall where
  | login (h : Nat) (userType : UserType)
  | sign (h : Nat) (data : Bytes) (buffer : Option Nat)
  | signFinal (h : Nat) (buffer : Option Nat)
  | decrypt (h : Nat) (ciphertext : Bytes) (buffer : Option Nat)
  | decryptFinal (h : Nat) (buffer : Option Nat)
  | deriveKey (h : Nat) (args : DeriveArgs)

def BlockingCall.session : BlockingCall → Nat
  | login h _ | sign h _ _ | signFinal h _ | decrypt h _ _ | decryptFinal h _ | deriveKey h _ => h

inductive CCall where
  | cInitialize
  | cFinalize
  | query (q : SlotQuery)
  | getSessionInfo (h : Nat)
  | within (c : LocalCall)
  | blocking (c : BlockingCall)

structure SignJob where
  cursor : SignCursor
  data : Bytes
  buffer : Option Nat

structure DecryptJob where
  cursor : DecryptCursor
  ciphertext : Bytes
  buffer : Option Nat

structure DeriveJob where
  slot : Nat
  reader : Bytes
  certId : Bytes
  tokenSerial : Bytes
  peerPoint : Bytes
  wanted : DerivedKeyTemplate

inductive Calling where
  | snapshot (ticket : Nat) (q : SlotQuery)
  /-- the function keeps the reader of the slot; the slot as it was is for the specification -/
  | login (h slot : Nat) (shown : Slot)
  | loginActive (h slot generation : Nat) (reader : Bytes)
  | sign (h : Nat) (job : SignJob)
  | decrypt (h : Nat) (job : DecryptJob)
  | derive (h : Nat) (job : DeriveJob)

inductive AgentReply where
  | snapshot (snapshot : AgentSnapshot)
  | status (status : Status)
  | active (active : Option Bool)
  | bytes (status : Status) (bytes : Bytes)
  /-- the client throws -/
  | threw

/-! ## The sections before a call -/

namespace SessionState

variable (s : SessionState)

/-- `C_Login`, up to the release of the lock -/
def checkLogin (h : Nat) (userType : UserType) : Except CkRv Calling :=
  if userType = .so then .error .userTypeInvalid
  else match s.session h with
    | none => .error .sessionHandleInvalid
    | some session =>
      if session.rpcInFlight then .error .operationActive
      else if userType = .user ∧ s.isLoggedIn session.slot then .error .userAlreadyLoggedIn
      else match s.slotById session.slot with
        | none => .error .tokenNotPresent
        | some slot =>
          if ¬ slot.tokenPresent then .error .tokenNotPresent
          else if slot.objects = [] then .error .keyHandleInvalid
          else .ok (.login h session.slot slot)

/-- `doSign`; without data, those that have been gathered are signed -/
def checkSign (h : Nat) (data : Option Bytes) (buffer : Option Nat) : Except CkRv Calling :=
  match s.session h with
  | none => .error .sessionHandleInvalid
  | some session =>
    if ¬ session.sign.active then .error .operationNotInitialized
    else if session.rpcInFlight then .error .operationActive
    else .ok (.sign h ⟨session.sign, data.getD session.sign.accumulated, buffer⟩)

/-- `doDecrypt` -/
def checkDecrypt (h : Nat) (ciphertext : Option Bytes) (buffer : Option Nat) :
    Except CkRv Calling :=
  match s.session h with
  | none => .error .sessionHandleInvalid
  | some session =>
    if ¬ session.decrypt.active then .error .operationNotInitialized
    else if session.rpcInFlight then .error .operationActive
    else .ok (.decrypt h ⟨session.decrypt, ciphertext.getD session.decrypt.accumulated, buffer⟩)

/-- the base key of a derivation, and what can be refused without the card -/
def checkBase (slot : Nat) (shown : Slot) (args : DeriveArgs) : Except CkRv DeriveJob :=
  match s.resolveObject slot args.baseKey with
  | none => .error .keyHandleInvalid
  | some base =>
    if base.cls ≠ .privateKey then .error .keyHandleInvalid
    else if base.keyType ≠ .ec then .error .keyTypeInconsistent
    else if ¬ base.derive then .error .keyFunctionNotPermitted
    else match args.publicData.bind (peerPointFromPublicData · base.keyBits) with
      | none => .error .mechanismParamInvalid
      | some peerPoint => do
        let wanted ← args.template
        if wanted.valueLen.any (· > (base.keyBits.toNat + 7) / 8) then .error .templateInconsistent
        else .ok ⟨slot, shown.readerPath, base.certId, shown.tokenSerial, peerPoint, wanted⟩

/-- `C_DeriveKey`, up to the release of the lock -/
def checkDerive (h : Nat) (args : DeriveArgs) : Except CkRv Calling :=
  match s.session h with
  | none => .error .sessionHandleInvalid
  | some session =>
    if session.rpcInFlight then .error .operationActive
    else match s.slotById session.slot with
      | none => .error .sessionHandleInvalid
      | some slot =>
        if args.mechanism ≠ .ecdh1Derive ∨
          .ecdh1Derive ∉ slot.mechanisms then .error .mechanismInvalid
        else if ¬ s.isLoggedIn session.slot then .error .userNotLoggedIn
        else if ¬ args.hasParams ∨ ¬ args.isRawSecret then .error .mechanismParamInvalid
        else (s.checkBase session.slot slot args).map (.derive h)

def check : BlockingCall → Except CkRv Calling
  | .login h userType => s.checkLogin h userType
  | .sign h data buffer => s.checkSign h (some data) buffer
  | .signFinal h buffer => s.checkSign h none buffer
  | .decrypt h ciphertext buffer => s.checkDecrypt h (some ciphertext) buffer
  | .decryptFinal h buffer => s.checkDecrypt h none buffer
  | .deriveKey h args => s.checkDerive h args

/-! ## The functions under the lock -/

def signInit (session : Session) (mechanism : CkMechanism) (key : UInt64) :
    Except CkRv SignCursor :=
  if session.sign.active then .error .operationActive
  else match s.slotById session.slot with
    | none => .error .sessionHandleInvalid
    | some slot =>
      if (mechanism ≠ .rsaPkcs ∧ mechanism ≠ .sha256RsaPkcs ∧ mechanism ≠ .ecdsa) ∨
        mechanism ∉ slot.mechanisms then
        .error .mechanismInvalid
      else match s.resolveObject session.slot key with
        | none => .error .keyHandleInvalid
        | some obj =>
          if obj.cls ≠ .privateKey then .error .keyHandleInvalid
          else if decide (mechanism = .ecdsa) ≠ decide (obj.keyType = .ec) then .error
            .keyTypeInconsistent
          else if ¬ obj.sign then .error .keyFunctionNotPermitted
          else .ok
            { active := true, reader := slot.readerPath, certId := obj.certId, mechanism,
              keyType := obj.keyType,
              keyBits := obj.keyBits }

def decryptInit (session : Session) (mechanism : CkMechanism) (key : UInt64) :
    Except CkRv DecryptCursor :=
  if session.decrypt.active then .error .operationActive
  else match s.slotById session.slot with
    | none => .error .sessionHandleInvalid
    | some slot =>
      if mechanism ≠ .rsaPkcs ∨ .rsaPkcs ∉ slot.mechanisms then .error .mechanismInvalid
      else match s.resolveObject session.slot key with
        | none => .error .keyHandleInvalid
        | some obj =>
          if obj.cls ≠ .privateKey then .error .keyHandleInvalid
          else if obj.keyType ≠ .rsa then .error .keyTypeInconsistent
          else if ¬ obj.decrypt then .error .keyFunctionNotPermitted
          else .ok { active := true, reader := slot.readerPath, certId := obj.certId,
                     keyBits := obj.keyBits }

def signUpdate (session : Session) (part : Bytes) : Except CkRv SignCursor :=
  if ¬ session.sign.active then .error .operationNotInitialized
  else .ok { session.sign with accumulated := session.sign.accumulated ++ part }

def decryptUpdate (session : Session) (part : Bytes) : Except CkRv DecryptCursor :=
  if ¬ session.decrypt.active then .error .operationNotInitialized
  else if session.rpcInFlight then .error .operationActive
  else .ok { session.decrypt with accumulated := session.decrypt.accumulated ++ part }

def changeSession {α : Type} (h : Nat) (check : Session → Except CkRv α)
    (change : α → Session → Session) : SessionState × CkRv :=
  match s.session h with
  | none => (s, .sessionHandleInvalid)
  | some session =>
    match check session with
    | .error rv => (s, rv)
    | .ok value => (s.setSession h (change value session), .ok)

def destroyObject (h : Nat) (object : UInt64) : SessionState × CkRv :=
  match s.session h with
  | none => (s, .sessionHandleInvalid)
  | some session =>
    if isDerivedHandle object then
      if (s.derivedKey h object).isNone then (s, .objectHandleInvalid)
        else (s.destroyDerivedKey object, .ok)
    else if (s.resolveObject session.slot object).isSome then (s, .actionProhibited)
    else (s, .objectHandleInvalid)

def within : LocalCall → SessionState × CkRv
  | .closeSession h =>
    if (s.session h).isNone then (s, .sessionHandleInvalid) else (s.closeSession h, .ok)
  | .closeAllSessions slot => (s.closeAllSessions slot, .ok)
  | .logout h =>
    match s.session h with
    | none => (s, .sessionHandleInvalid)
    | some session => (s.endLogin session.slot, .ok)
  | .destroyObject h object => s.destroyObject h object
  | .signInit h mechanism key =>
    s.changeSession h (fun session => s.signInit session mechanism key) fun cursor session =>
      { session with sign := cursor }
  | .signUpdate h part =>
    s.changeSession h (signUpdate · part) fun cursor session => { session with sign := cursor }
  | .decryptInit h mechanism key =>
    s.changeSession h (fun session => s.decryptInit session mechanism key) fun cursor session =>
      { session with decrypt := cursor }
  | .decryptUpdate h part =>
    s.changeSession h (decryptUpdate · part) fun cursor session =>
      { session with decrypt := cursor }

def query : SlotQuery → SessionState × Answer
  | .getSlotList => (s, ⟨.ok, .nothing⟩)
  | .getSlotInfo slot | .getMechanismList slot =>
    (s, ⟨if (s.slotById slot).isNone then .slotIdInvalid else .ok, .nothing⟩)
  | .getTokenInfo slot =>
    match s.slotById slot with
    | none => (s, ⟨.slotIdInvalid, .nothing⟩)
    | some shown => (s, ⟨if shown.tokenPresent then .ok else .tokenNotPresent, .nothing⟩)
  | .getMechanismInfo slot type =>
    match s.slotById slot with
    | none => (s, ⟨.slotIdInvalid, .nothing⟩)
    | some shown => (s, ⟨if type ∈ shown.mechanisms then .ok else .mechanismInvalid, .nothing⟩)
  | .openSession slot flags =>
    match s.slotById slot with
    | none => (s, ⟨.slotIdInvalid, .nothing⟩)
    | some shown =>
      if ¬ shown.tokenPresent then (s, ⟨.tokenNotPresent, .nothing⟩)
      else ((s.openSession slot flags).1, ⟨.ok, .session (s.openSession slot flags).2⟩)

end SessionState

/-! ## The sections after a call -/

inductive Section where
  /-- the guard of the call goes: the mark of the session, if it has one, and the count -/
  | release (h : Option Nat)
  | publish (ticket : Nat) (snapshot : AgentSnapshot) (q : SlotQuery)
  | recordLogin (h : Nat) (status : Status) (slot : Nat) (shown : Slot)
  | recordActive (h slot generation : Nat) (active : Option Bool)
  | clearSign (h : Nat)
  | clearDecrypt (h : Nat)
  /-- the lease has lapsed -/
  | dropLogin (h : Nat)
  | keepKey (h : Nat) (job : DeriveJob) (value : Bytes)

def dropLoginOnLapsedLease (status : Status) (h : Nat) : List Section :=
  if status = .userNotLoggedIn then [.dropLogin h] else []

def signatureLength (type : KeyType) (bits : UInt32) : Nat :=
  match type with
  | .rsa => (bits.toNat + 7) / 8
  | .ec => 2 * ((bits.toNat + 7) / 8)
  | .other => 0

/-- the signature goes into the buffer if it fits; a size query and a short buffer keep the
operation -/
def giveBytes (clear : Section) (h : Nat) (buffer : Option Nat) (bytes : Bytes) :
    List Section × Answer :=
  match buffer with
  | none => ([.release (some h)], ⟨.ok, .length bytes.length⟩)
  | some room =>
    if room < bytes.length then ([.release (some h)], ⟨.bufferTooSmall, .length bytes.length⟩)
    else ([clear, .release (some h)], ⟨.ok, .bytes bytes⟩)

def unwind (h : Option Nat) : List Section × Answer :=
  ([.release h], ⟨.deviceError, .nothing⟩)

/-- `doSign`, after the lock has been released; there is no result if the client throws -/
def SignJob.conclude (h : Nat) (job : SignJob) (result : Option (Status × Bytes)) :
    List Section × Answer :=
  let sigLen := signatureLength job.cursor.keyType job.cursor.keyBits
  if job.cursor.mechanism = .ecdsa ∧ job.data.length ≠ 32 ∧ job.data.length ≠ 48 ∧
    job.data.length ≠ 64 then
    ([.clearSign h, .release (some h)], ⟨.dataLenRange, .nothing⟩)
  else if sigLen ≠ 0 ∧ job.buffer.all (· < sigLen) then
    ([.release (some h)], ⟨if job.buffer.isNone then .ok else .bufferTooSmall, .length sigLen⟩)
  else match result with
    | none => unwind (some h)
    | some (status, bytes) =>
      if status ≠ .ok then
        (.clearSign h :: dropLoginOnLapsedLease status h ++ [.release (some h)],
          ⟨ckrFromStatus .dataLenRange status, .nothing⟩)
      else if job.cursor.mechanism = .ecdsa ∧ bytes.length ≠ sigLen then
        ([.clearSign h, .release (some h)], ⟨.deviceError, .nothing⟩)
      else giveBytes (.clearSign h) h job.buffer bytes

/-- `doDecrypt`, after the lock has been released -/
def DecryptJob.conclude (h : Nat) (job : DecryptJob) (result : Option (Status × Bytes)) :
    List Section × Answer :=
  if job.buffer.isNone ∧ job.cursor.keyBits ≠ 0 then
    ([.release (some h)], ⟨.ok, .length ((job.cursor.keyBits.toNat + 7) / 8)⟩)
  else match result with
    | none => unwind (some h)
    | some (status, bytes) =>
      if status ≠ .ok then
        (.clearDecrypt h :: dropLoginOnLapsedLease status h ++ [.release (some h)],
          ⟨ckrFromStatus .encryptedDataLenRange status, .nothing⟩)
      else giveBytes (.clearDecrypt h) h job.buffer bytes

def derivedKeyValue (z : Bytes) (t : DerivedKeyTemplate) : Except CkRv Bytes :=
  match t.valueLen with
  | none => .ok z
  | some length =>
    if length > z.length then .error .templateInconsistent else .ok (z.drop (z.length - length))

/-- `C_DeriveKey`, after the answer -/
def DeriveJob.conclude (h : Nat) (job : DeriveJob) (status : Status) (bytes : Bytes) :
    List Section × Answer :=
  if status ≠ .ok then
    (dropLoginOnLapsedLease status h ++ [.release (some h)],
      ⟨ckrFromStatus .mechanismParamInvalid status, .nothing⟩)
  else match derivedKeyValue bytes job.wanted with
    | .error rv => ([.release (some h)], ⟨rv, .nothing⟩)
    | .ok value => ([.keepKey h job value, .release (some h)], ⟨.ok, .nothing⟩)

/-- what is left to do with the lock taken again; an answer of another kind is none -/
def Calling.conclude : Calling → AgentReply → Option (List Section × Answer)
  | .snapshot ticket q, .snapshot readers =>
    some ([.release none, .publish ticket readers q], ⟨.ok, .nothing⟩)
  | .login h slot shown, .status status =>
    some ([.recordLogin h status slot shown, .release (some h)],
      ⟨ckrFromStatus .generalError status, .nothing⟩)
  | .loginActive h slot generation reader, .active active =>
    some ([.recordActive h slot generation (if reader = [] then none else active), .release none],
      ⟨.ok, .nothing⟩)
  | .sign h job, .bytes status bytes => some (job.conclude h (some (status, bytes)))
  | .sign h job, .threw => some (job.conclude h none)
  | .decrypt h job, .bytes status bytes => some (job.conclude h (some (status, bytes)))
  | .decrypt h job, .threw => some (job.conclude h none)
  | .derive h job, .bytes status bytes => some (job.conclude h status bytes)
  | .login h _ _, .threw | .derive h _, .threw => some (unwind (some h))
  | .snapshot _ _, .threw | .loginActive _ _ _ _, .threw => some (unwind none)
  | _, _ => none

/-! ## The process -/

inductive Pc where
  | idle
  | calling (c : Calling)
  | closing (todo : List Section) (answer : Answer)
  /-- `C_Finalize` waits for the calls in flight -/
  | draining

structure Module (Tid : Type*) where
  lib : Option SessionState := none
  /-- the threads that are counted as having a call in flight -/
  guards : List Tid := []
  /-- 64 bits in the source, taken not to wrap -/
  snapshotsStarted : Nat := 0
  snapshotPublished : Nat := 0
  threads : Tid → Pc := fun _ => .idle
  returned : Tid → Option Answer := fun _ => none
  /-- for each slot, what it showed when the login was requested that last marked it -/
  marks : Nat → Option Slot := fun _ => none

inductive ModuleAction (Tid : Type*) where
  | call (t : Tid) (c : CCall) (now : Int)
  | reply (t : Tid) (r : AgentReply)
  /-- the next section under the lock -/
  | proceed (t : Tid) (now : Int)
  /-- the time of a waiting `C_Finalize` is up -/
  | giveUp (t : Tid)

namespace Module

variable {Tid : Type*} [DecidableEq Tid] (s : Module Tid)
variable (t : Tid)

def setThread (pc : Pc) : Module Tid :=
  { s with threads := Function.update s.threads t pc }

lemma setThread_self (pc : Pc) : (s.setThread t pc).threads t = pc :=
  Function.update_self ..

lemma setThread_of_ne {t t' : Tid} (h : t' ≠ t) (pc : Pc) : (s.setThread t pc).threads t' =
    s.threads t' :=
  Function.update_of_ne h ..

def setState (state : SessionState) : Module Tid :=
  { s with lib := some state }

def ret (answer : Answer) : Module Tid :=
  { s.setThread t .idle with returned := Function.update s.returned t (some answer) }

def guard (c : Calling) : Module Tid :=
  { s.setThread t (.calling c) with guards := t :: s.guards }

def start (state : SessionState) (h : Nat) : Except CkRv Calling → Module Tid
  | .error rv => s.ret t ⟨rv, .nothing⟩
  | .ok c =>
    (s.setState (state.updateSession h fun session => { session with rpcInFlight := true })).guard t
      c

def finalize : Module Tid :=
  if s.guards = [] then { s with lib := none }.ret t ⟨.ok, .nothing⟩ else s.setThread t .draining

/-- `refreshModel`, up to the release of the lock -/
def refresh (q : SlotQuery) : Module Tid :=
  { s with snapshotsStarted := s.snapshotsStarted + 1 }.guard t
    (.snapshot (s.snapshotsStarted + 1) q)

def beginQuery : SlotQuery → Module Tid
  | .openSession slot flags =>
    if flags &&& kSerialSession = 0 then s.ret t ⟨.sessionParallelNotSupported, .nothing⟩
    else s.refresh t (.openSession slot flags)
  | q => s.refresh t q

/-- `C_GetSessionInfo`: the agent is asked about a login that has not been checked for a while -/
def beginSessionInfo (state : SessionState) (h : Nat) (now : Int) : Module Tid :=
  match state.session h with
  | none => s.ret t ⟨.sessionHandleInvalid, .nothing⟩
  | some session =>
    match state.slotById session.slot with
    | some shown =>
      if state.loginCheckDue session.slot now then
        (s.setState (state.markLoginChecked session.slot now)).guard t
          (.loginActive h session.slot (state.loginGeneration session.slot) shown.readerPath)
      else s.setThread t (.closing [.recordActive h session.slot 0 none] ⟨.ok, .nothing⟩)
    | none => s.setThread t (.closing [.recordActive h session.slot 0 none] ⟨.ok, .nothing⟩)

def call (now : Int) (c : CCall) : Module Tid :=
  match s.lib, c with
  | none, .cInitialize => { s with lib := some {} }.ret t ⟨.ok, .nothing⟩
  | none, _ => s.ret t ⟨.cryptokiNotInitialized, .nothing⟩
  | some _, .cInitialize => s.ret t ⟨.cryptokiAlreadyInitialized, .nothing⟩
  | some _, .cFinalize => s.finalize t
  | some _, .query q => s.beginQuery t q
  | some state, .getSessionInfo h => s.beginSessionInfo t state h now
  | some state, .within c => (s.setState (state.within c).1).ret t ⟨(state.within c).2, .nothing⟩
  | some state, .blocking c => s.start t state c.session (state.check c)

/-- a refresh that started after the last one that was published is published, and the function goes
on -/
def publish (ticket : Nat) (snapshot : AgentSnapshot) (q : SlotQuery) : Module Tid × Answer :=
  match s.lib with
  | none => (s, ⟨.cryptokiNotInitialized, .nothing⟩)
  | some state =>
    if ticket > s.snapshotPublished then
      let state := state.setModel (.build snapshot)
      ({ s with snapshotPublished := ticket }.setState (state.query q).1, (state.query q).2)
    else (s.setState (state.query q).1, (state.query q).2)

/-- the login is recorded if its session is still open, whatever the slot shows by now -/
def recordLogin (h : Nat) (status : Status) (shown : Slot) (now : Int) : Module Tid :=
  match s.lib with
  | none => s
  | some state =>
    if status ≠ .ok then s
    else match state.session h with
      | none => s
      | some session =>
        { s.setState (state.setLoggedIn session.slot now) with
            marks := Function.update s.marks session.slot (some shown) }

def endIfLapsed (state : SessionState) (slot generation : Nat) (active : Option Bool) :
    SessionState :=
  if active = some false ∧ state.isLoggedIn slot ∧ state.loginGeneration slot =
    generation then state.endLogin slot
  else state

def recordActive (h slot generation : Nat) (active : Option Bool) : Module Tid × Answer :=
  match s.lib with
  | none => (s, ⟨.cryptokiNotInitialized, .nothing⟩)
  | some state =>
    let state := endIfLapsed state slot generation active
    (s.setState state,
      match state.session h with
      | none => ⟨.sessionHandleInvalid, .nothing⟩
      | some session => ⟨.ok, .info session.slot (state.isLoggedIn session.slot) session.flags⟩)

def onState (change : SessionState → SessionState) : Module Tid :=
  { s with lib := s.lib.map change }

def dropLogin (h : Nat) (state : SessionState) : SessionState :=
  match state.session h with
  | none => state
  | some session => state.endLogin session.slot

def keepKey (h : Nat) (job : DeriveJob) (value : Bytes) : Module Tid × Answer :=
  match s.lib with
  | none => (s, ⟨.cryptokiNotInitialized, .nothing⟩)
  | some state =>
    match state.session h with
    | none => (s, ⟨.sessionHandleInvalid, .nothing⟩)
    | some session =>
      if ¬ (state.slotById job.slot).any (fun now => now.tokenPresent && now.tokenSerial =
        job.tokenSerial) then
        (s, ⟨.deviceRemoved, .nothing⟩)
      else if ¬ state.isLoggedIn session.slot then (s, ⟨.userNotLoggedIn, .nothing⟩)
      else
        let kept := state.addDerivedKey ⟨job.slot, h, job.wanted, value⟩
        (s.setState kept.1, ⟨.ok, .object kept.2⟩)

def release (h : Option Nat) : Module Tid :=
  { s.onState (fun state => h.elim state fun h =>
      state.updateSession h fun session => { session with rpcInFlight := false }) with
    guards := s.guards.erase t }

def perform (now : Int) : Section → Module Tid × Option Answer
  | .release h => (s.release t h, none)
  | .publish ticket snapshot q =>
    ((s.publish ticket snapshot q).1, some (s.publish ticket snapshot q).2)
  | .recordLogin h status _ shown => (s.recordLogin h status shown now, none)
  | .recordActive h slot generation active =>
    ((s.recordActive h slot generation active).1, some (s.recordActive h slot generation active).2)
  | .clearSign h => (s.onState (·.updateSession h fun session => { session with sign := {} }), none)
  | .clearDecrypt h =>
    (s.onState (·.updateSession h fun session => { session with decrypt := {} }), none)
  | .dropLogin h => (s.onState (dropLogin h), none)
  | .keepKey h job value => ((s.keepKey h job value).1, some (s.keepKey h job value).2)

def proceed (now : Int) : Pc → Module Tid
  | .closing [] answer => s.ret t answer
  | .closing (todo :: rest) answer =>
    (s.perform t now todo).1.setThread t (.closing rest ((s.perform t now todo).2.getD answer))
  | .draining => s.finalize t
  | .idle | .calling _ => s

def step : ModuleAction Tid → Module Tid
  | .call t c now =>
    match s.threads t with
    | .idle => s.call t now c
    | _ => s
  | .reply t r =>
    match s.threads t with
    | .calling c => (c.conclude r).elim s fun (todo, answer) => s.setThread t (.closing todo answer)
    | _ => s
  | .proceed t now => s.proceed t now (s.threads t)
  | .giveUp t =>
    match s.threads t with
    | .draining => s.ret t ⟨.functionFailed, .nothing⟩
    | _ => s

end Module

end LibreAgent.Pkcs11Agent
