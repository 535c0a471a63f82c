import Mathlib.Logic.Relation
import LibreAgent.Client.SocketTransport

/-!
# What the transport does in one step

* `callSync_moves`, `onReadable_moves` and the other calls; `probe_cases` : the one call that may
  open a connection.
-/

namespace LibreAgent.Client

open Relation
open Wire (DecodedReply DecodedEvent)

namespace SocketTransport
variable {s s' s₁ : SocketTransport} {conn : Nat}

/-- a change that concerns no listener and opens no connection -/
inductive Move (s : SocketTransport) : SocketTransport → Prop where
  | request : Move s { s with nextRequestId := s.nextRequestId + 1 }
  | receive (conn : Nat) (event : DecodedEvent) (hsocket : s.socket = some conn) :
      Move s (s.receive event)
  | reply (reply : DecodedReply) : Move s (s.defer (.reply reply))
  | drop : Move s s.dropConnection
  | schedule : Move s s.scheduleDrain
  | drain : Move s s.drainDeferred
  | config : Move s { s with configFetched := true }
  | awake : Move s { s with quiesced := false }

abbrev Moves : SocketTransport → SocketTransport → Prop :=
  ReflTransGen Move

lemma Move.moves (h : Move s s') : Moves s s' := .single h

structure Kept (s s' : SocketTransport) : Prop where
  sockets : s'.sockets = s.sockets
  generation : s'.generation = s.generation
  current : s'.current = s.current
  propertyWatches : s'.propertyWatches = s.propertyWatches
  operationWatches : s'.operationWatches = s.operationWatches
  derListeners : s'.derListeners = s.derListeners
  nextDerToken : s'.nextDerToken = s.nextDerToken
  nextPropsToken : s'.nextPropsToken = s.nextPropsToken
  queued : s'.queued = s.queued
  socket : s'.socket = s.socket ∨ s'.socket = none

lemma Kept.refl (s : SocketTransport) : Kept s s :=
  ⟨rfl, rfl, rfl, rfl, rfl, rfl, rfl, rfl, rfl, .inl rfl⟩

lemma Kept.trans (h : Kept s s') (h' : Kept s' s₁) : Kept s s₁ where
  sockets := h'.sockets.trans h.sockets
  generation := h'.generation.trans h.generation
  current := h'.current.trans h.current
  propertyWatches := h'.propertyWatches.trans h.propertyWatches
  operationWatches := h'.operationWatches.trans h.operationWatches
  derListeners := h'.derListeners.trans h.derListeners
  nextDerToken := h'.nextDerToken.trans h.nextDerToken
  nextPropsToken := h'.nextPropsToken.trans h.nextPropsToken
  queued := h'.queued.trans h.queued
  socket := by
    rcases h'.socket with hs | hs
    · rw [hs]
      exact h.socket
    · exact .inr hs

/-- a connection is lost: nothing happens without one, and only an established one leaves a notice
-/
lemma dropConnection_cases (s : SocketTransport) :
    (s.socket = none ∧ s.dropConnection = s) ∨ ∃ conn, s.socket = some conn ∧
      ((s.established = false ∧ s.dropConnection =
        { s with socket := none, established := false, quiesced := false, features := [],
                 configFetched := false }) ∨
      (s.established = true ∧ s.dropConnection =
        defer { s with socket := none, established := false, quiesced := false, features := [],
                       configFetched := false,
                       pendingProps := [], pendingDer := [] }
          (.connectionLost conn s.generation s.pendingProps s.pendingDer))) := by
  unfold dropConnection
  cases hs : s.socket with
  | none => exact .inl ⟨rfl, rfl⟩
  | some conn =>
    refine .inr ⟨conn, rfl, ?_⟩
    cases he : s.established with
    | false => exact .inl ⟨rfl, rfl⟩
    | true => exact .inr ⟨rfl, rfl⟩

lemma dropConnection_kept (s : SocketTransport) : Kept s s.dropConnection := by
  rcases s.dropConnection_cases with ⟨-, h⟩ | ⟨conn, -, ⟨-, h⟩ | ⟨-, h⟩⟩
  · rw [h]
    exact .refl s
  all_goals
    rw [h]
    exact ⟨rfl, rfl, rfl, rfl, rfl, rfl, rfl, rfl, rfl, .inr rfl⟩

lemma Move.kept (h : Move s s') : Kept s s' := by
  cases h with
  | drop => exact s.dropConnection_kept
  | request | receive | reply | schedule | drain | config | awake =>
    exact ⟨rfl, rfl, rfl, rfl, rfl, rfl, rfl, rfl, rfl, .inl rfl⟩

lemma Moves.kept (h : Moves s s') : Kept s s' := by
  induction h with
  | refl => exact .refl s
  | tail _ hm ih => exact ih.trans hm.kept

variable {P : SocketTransport → Prop} {x : Exchange}

/-! ## Blocking calls -/

lemma absorbFrames_moves (awaited : Option Nat) (frames : List Frame) (hs : s.socket = some conn) :
    Moves s (s.absorbFrames awaited frames).1 := by
  induction frames generalizing s awaited with
  | nil => exact .refl
  | cons frame frames ih =>
    cases frame with
    | malformed => exact .refl
    | event event =>
      have hr : Moves (s.receive event) ((s.receive event).absorbFrames awaited frames).1 :=
        ih awaited hs
      exact .head (.receive conn event hs) hr
    | reply reply =>
      unfold absorbFrames
      split
      · exact ih none hs
      · exact .head (.reply reply) (ih awaited hs)

lemma absorbFrames_socket (awaited : Option Nat) (frames : List Frame) :
    (s.absorbFrames awaited frames).1.socket = s.socket := by
  induction frames generalizing s awaited with
  | nil => rfl
  | cons frame frames ih =>
    cases frame with
    | malformed => rfl
    | event event => exact ih awaited
    | reply reply =>
      unfold absorbFrames
      split
      · exact ih none
      · exact ih awaited

lemma pollLoop_moves (requestId : Nat) (polls : List Poll) (hs : s.socket = some conn) :
    Moves s (s.pollLoop requestId polls).1 := by
  induction polls generalizing s with
  | nil => exact .refl
  | cons poll polls ih =>
    cases poll with
    | failed => exact (Move.drop).moves
    | ready pumped =>
      have hr := s.absorbFrames_moves (some requestId) pumped.frames hs
      have ho := s.absorbFrames_socket (some requestId) pumped.frames
      unfold pollLoop
      revert hr ho
      rcases s.absorbFrames (some requestId) pumped.frames with ⟨s₁, got, failed⟩
      intro hr ho
      cases failed with
      | true => exact hr.tail .drop
      | false =>
        cases pumped.status with
        | peerClosed | ioError | protocolError => exact hr.tail .drop
        | ok =>
          cases got with
          | some reply => exact hr
          | none => exact hr.trans (ih (ho.trans hs))

lemma callSync_moves (s : SocketTransport) (x : Exchange) : Moves s (s.callSync x).1 := by
  have hr : Moves s { s with nextRequestId := s.nextRequestId + 1 } := (Move.request).moves
  unfold callSync
  split
  · exact .refl
  · rename_i conn hs
    have hp : Moves s (pollLoop { s with nextRequestId := s.nextRequestId + 1 }
      (s.nextRequestId + 1) x.polls).1 :=
      hr.trans (pollLoop_moves _ _ hs)
    split
    · dsimp only
      split
      · exact hp
      · exact hp.tail .schedule
    · exact hr.tail .drop

lemma callSync_closed (hs : s.socket = none) : s.callSync x = (s, .error .agentUnavailable) := by
  unfold callSync
  rw [hs]

lemma fetchRegistry_moves (s : SocketTransport) (x : Exchange) : Moves s (s.fetchRegistry x).1 := by
  have hc := s.callSync_moves x
  unfold fetchRegistry
  split <;> rename_i heq <;> rw [heq] at hc <;> exact hc

lemma configSnapshot_moves (s : SocketTransport) (x : Exchange) : Moves s (s.configSnapshot x) := by
  unfold configSnapshot
  split
  · exact .refl
  · exact .head .config (callSync_moves _ x)

lemma startOperation_moves (s : SocketTransport) (credentials : Bool) (x : Exchange) :
    Moves s (s.startOperation credentials x).1 := by
  have hc := s.callSync_moves x
  unfold startOperation
  split
  · exact .refl
  · split <;> rename_i heq <;> rw [heq] at hc <;> exact hc

lemma startOperation_socket {credentials : Bool} {op : UInt64}
    (h : (s.startOperation credentials x).2 = .ok op) : ∃ conn, s.socket = some conn := by
  cases hs : s.socket with
  | some conn => exact ⟨conn, rfl⟩
  | none =>
    unfold startOperation at h
    rw [callSync_closed hs] at h
    split at h <;> exact nomatch h

section
variable (s)

lemma cancelOperation_moves (sent : Bool) : Moves s (s.cancelOperation sent) := by
  unfold cancelOperation
  split
  · have hr : Moves s { s with nextRequestId := s.nextRequestId + 1 } := (Move.request).moves
    cases sent with
    | true => exact hr
    | false => exact hr.tail .drop
  · exact .refl

lemma onReadable_moves (pumped : PumpResult) : Moves s (s.onReadable pumped) := by
  unfold onReadable
  cases hs : s.socket with
  | none => exact .refl
  | some conn =>
    have hr := s.absorbFrames_moves none pumped.frames hs
    revert hr
    rcases s.absorbFrames none pumped.frames with ⟨s₁, got, failed⟩
    intro hr
    cases failed with
    | true => exact (hr.tail .drop).tail .drain
    | false =>
      dsimp only
      split
      · exact hr.tail .drain
      · exact (hr.tail .drop).tail .drain

lemma dispatchEvent_cases (x : Exchange) (event : DecodedEvent) :
    ((∃ reason, event = .known (.agentQuiesced reason)) ∧ (s.dispatchEvent x event).1 =
      { s with quiesced := true }) ∨
      Moves s (s.dispatchEvent x event).1 := by
  have hc : Moves s (if s.configFetched then (s.callSync x).1 else s) := by
    split
    · exact s.callSync_moves x
    · exact .refl
  cases event with
  | unknownEvent => exact .inr .refl
  | known event =>
    cases event with
    | agentQuiesced reason => exact .inl ⟨⟨reason, rfl⟩, rfl⟩
    | configChanged => exact .inr hc
    | _ => exact .inr .refl

/-! ## Connecting -/

def opened : SocketTransport :=
  { s with socket := some (s.sockets + 1), sockets := s.sockets + 1 }

def completed (features : List Bytes) (conn : Nat) : SocketTransport :=
  { s with features := features, configFetched := false, established := true, quiesced := false,
           generation := s.generation + 1, current := conn }

/-- a dialling: nothing, or a socket is opened and the handshake succeeds or not -/
lemma connectAndHandshake_cases (dial : Dial) :
    s.connectAndHandshake dial = (s, false) ∨ ∃ s₁, Moves s.opened s₁ ∧
      ((∃ features, s.connectAndHandshake dial = (s₁.completed features (s.sockets + 1), true)) ∨
        s.connectAndHandshake dial = ({ s₁ with socket := none }, false)) := by
  have hc := s.opened.callSync_moves dial.hello
  unfold connectAndHandshake
  unfold opened at hc ⊢
  split
  · dsimp only
    split <;> rename_i heq <;> rw [heq] at hc
    · exact .inr ⟨_, hc, .inl ⟨_, rfl⟩⟩
    · exact .inr ⟨_, hc, .inr rfl⟩
  · exact .inl rfl

lemma probe_cases (dial : Dial) (x : Exchange) :
    (s.socket.isSome = true ∧ Moves s (s.probeAvailability dial x).1) ∨
      (s.socket = none ∧ s.probeAvailability dial x = s.connectAndHandshake dial) := by
  unfold probeAvailability
  cases hs : s.socket with
  | none => exact .inr ⟨rfl, rfl⟩
  | some conn =>
    refine .inl ⟨rfl, ?_⟩
    have hc := s.callSync_moves x
    dsimp only
    split
    · split <;> rename_i heq <;> rw [heq] at hc
      · exact hc.tail .awake
      · exact hc
    · exact .refl

end

/-! ## Every step -/

/-- only the books of requests and of property listeners differ -/
structure Books (s s' : SocketTransport) : Prop where
  socket : s'.socket = s.socket
  sockets : s'.sockets = s.sockets
  established : s'.established = s.established
  generation : s'.generation = s.generation
  current : s'.current = s.current
  deferred : s'.deferred = s.deferred
  drainQueued : s'.drainQueued = s.drainQueued
  draining : s'.draining = s.draining
  operationWatches : s'.operationWatches = s.operationWatches
  received : s'.received = s.received
  nextRequestId : s'.nextRequestId = s.nextRequestId

/-- a part of a step that opens no connection and starts no operation -/
inductive Part (s : SocketTransport) : SocketTransport → Prop where
  | move {s' : SocketTransport} (hmove : Move s s') : Part s s'
  | books {s' : SocketTransport} (hbooks : Books s s') : Part s s'
  | unwatch (listener : Nat) : Part s (s.unsubscribeOperation listener)
  | idle (hempty : s.deferred = []) : Part s { s with draining := false }
  | pop {item : DeferredItem} {deferred : List DeferredItem}
      (hfront : s.deferred = item :: deferred)
      (hdraining : s.draining = true) : Part s { s with deferred := deferred }
  /-- requests in a loss notice are answered -/
  | lighten {conn generation : Nat} {props props' : List PendingProps} {der der' : List PendingDer}
      {deferred : List DeferredItem} (hfront :
        s.deferred = .connectionLost conn generation props der :: deferred) :
      Part s { s with deferred := .connectionLost conn generation props' der' :: deferred }

abbrev Parts : SocketTransport → SocketTransport → Prop :=
  ReflTransGen Part

lemma Books.parts (h : Books s s') : Parts s s' := .single (.books h)

lemma Moves.parts (h : Moves s s') : Parts s s' := by
  induction h with
  | refl => exact .refl
  | tail _ hm ih => exact ih.tail (.move hm)

section
variable (s)

lemma answerDer_books (token : Nat) (outcome : DerOutcome) :
    Books s (s.answerDer token outcome).1 := by
  unfold answerDer
  split <;> constructor <;> rfl

lemma runQueued_books : Books s s.runQueued.1 := by
  unfold runQueued
  split
  · constructor <;> rfl
  · constructor <;> rfl
  · rename_i token queued _
    have h := answerDer_books { s with queued := queued } token
      { error := { callError := .agentUnavailable,
                   message := Bytes.lit "the agent socket is not connected" } }
    exact { h with }

lemma propsTimeout_books (requestId : Nat) : Books s (s.propsTimeout requestId).1 := by
  unfold propsTimeout
  split <;> constructor <;> rfl

lemma derTimeout_books (requestId : Nat) : Books s (s.derTimeout requestId).1 := by
  unfold derTimeout
  split
  · constructor <;> rfl
  · rename_i pending _
    have h :=
      answerDer_books { s with pendingDer := s.pendingDer.eraseP (·.requestId = requestId) }
        pending.token
      { error := { callError := .timeout,
                   message := Bytes.lit "no GetCertDer reply within the call budget" } }
    exact { h with }

lemma dispatchAsyncReply_books (reply : DecodedReply) : Books s (s.dispatchAsyncReply reply).1 := by
  unfold dispatchAsyncReply
  split
  · constructor <;> rfl
  · split
    · rename_i pending _
      have h :=
        answerDer_books { s with pendingDer := s.pendingDer.eraseP (·.requestId = reply.req.toNat) }
          pending.token
        (derOutcomeOf reply.reply)
      exact { h with }
    · constructor <;> rfl

end

lemma dispatch_parts (hd : s.draining = true) (x : Exchange) : Parts s (s.dispatch x).1 := by
  have hp {item : DeferredItem} {deferred : List DeferredItem}
    (hf : s.deferred = item :: deferred) :
      Parts s { s with deferred := deferred } := .single (.pop hf hd)
  unfold dispatch
  split
  · next he => exact .single (.idle he)
  · rename_i hf
    refine (hp hf).trans ?_
    rcases dispatchEvent_cases _ x _ with ⟨-, hq⟩ | hm
    · rw [hq]
      exact .single (.books (by constructor <;> rfl))
    · exact hm.parts
  · next hf => exact (hp hf).trans (dispatchAsyncReply_books _ _).parts
  · next hf => exact .single (.lighten hf)
  · next hf => exact .head (.lighten hf) (answerDer_books _ _ _).parts
  · next hf => exact hp hf

lemma request_parts (sent : Bool) : Parts s
    (if sent = true then { s with nextRequestId := s.nextRequestId + 1 }
      else dropConnection { s with nextRequestId := s.nextRequestId + 1 }) := by
  have hr : Moves s { s with nextRequestId := s.nextRequestId + 1 } := (Move.request).moves
  cases sent with
  | true => exact hr.parts
  | false => exact hr.parts.tail (.move .drop)

section
variable (s)

lemma requestProperties_parts (objectId : Bytes) (kind : ObjectKind)
    (listener : Nat) (sent : Bool) : Parts s (s.requestProperties objectId kind listener sent) := by
  have ht : Parts s { s with nextPropsToken := s.nextPropsToken + 1 } :=
    .single (.books (by constructor <;> rfl))
  unfold requestProperties
  dsimp only
  split
  · have hr := ht.trans (request_parts sent)
    cases sent <;> exact hr.tail (.books (by constructor <;> rfl))
  · exact ht.tail (.books (by constructor <;> rfl))

lemma requestCertificateDer_parts (listener : Nat) (sent : Bool) :
    Parts s (s.requestCertificateDer listener sent) := by
  have ht : Parts s { s with
      nextDerToken := s.nextDerToken + 1,
      derListeners := s.derListeners ++ [(s.nextDerToken + 1, listener)] } :=
    .single (.books (by constructor <;> rfl))
  unfold requestCertificateDer
  dsimp only
  split
  · have hr := ht.trans (request_parts sent)
    cases sent <;> exact hr.tail (.books (by constructor <;> rfl))
  · exact ht.tail (.books (by constructor <;> rfl))

/-- a method entry, and the subscription if an operation was started on the open connection -/
lemma startAndSubscribe_cases (credentials : Bool) (kind : OperationKind) (listener : Nat)
    (x : Exchange) : ∃ s₁, Moves s s₁ ∧ (s.startAndSubscribe credentials kind listener x = s₁ ∨
      ∃ op conn, s.socket = some conn ∧
        s.startAndSubscribe credentials kind listener x =
          s₁.subscribeOperation op kind listener conn) := by
  have hm := s.startOperation_moves credentials x
  have ho (op : UInt64) (h : (s.startOperation credentials x).2 = .ok op) :
    ∃ conn, s.socket = some conn :=
    startOperation_socket h
  refine ⟨(s.startOperation credentials x).1, hm, ?_⟩
  unfold startAndSubscribe
  revert ho
  rcases s.startOperation credentials x with ⟨s₁, outcome⟩
  intro ho
  cases outcome with
  | error => exact .inl rfl
  | ok op =>
    obtain ⟨conn, hs⟩ := ho op rfl
    refine .inr ⟨op, conn, hs, ?_⟩
    rw [hs]
    rfl

lemma step_parts (a : TransportAction) :
    (∃ dial x, a = .probe dial x) ∨ (∃ credentials kind listener x, a =
      .startOperation credentials kind listener x) ∨
      Parts s (s.step a).1 := by
  cases a with
  | probe dial x => exact .inl ⟨dial, x, rfl⟩
  | startOperation credentials kind listener x =>
    exact .inr (.inl ⟨credentials, kind, listener, x, rfl⟩)
  | call x => exact .inr (.inr (s.callSync_moves x).parts)
  | configSnapshot x => exact .inr (.inr (s.configSnapshot_moves x).parts)
  | unsubscribeOperation listener => exact .inr (.inr (.single (.unwatch listener)))
  | cancelOperation sent => exact .inr (.inr (s.cancelOperation_moves sent).parts)
  | subscribeProperties | unsubscribeProperties | cancelCertificateDer =>
    exact .inr (.inr (.single (.books (by constructor <;> rfl))))
  | requestProperties objectId kind listener sent =>
    exact .inr (.inr (s.requestProperties_parts objectId kind listener sent))
  | requestCertificateDer listener sent =>
    exact .inr (.inr (s.requestCertificateDer_parts listener sent))
  | readable pumped => exact .inr (.inr (s.onReadable_moves pumped).parts)
  | drain => exact .inr (.inr (.single (.move .drain)))
  | dispatch x =>
    refine .inr (.inr ?_)
    show Parts s (if s.draining = true then s.dispatch x else (s, [])).1
    split
    · next hd => exact dispatch_parts hd x
    · exact .refl
  | runQueued => exact .inr (.inr s.runQueued_books.parts)
  | propsTimeout requestId => exact .inr (.inr (s.propsTimeout_books requestId).parts)
  | derTimeout requestId => exact .inr (.inr (s.derTimeout_books requestId).parts)

end

/-! ## The queue is drained -/

/-- what every part keeps, and the opening of a socket, its end and a subscription, steps keep -/
lemma step_keeps (hp : ∀ {s s'}, Part s s' → P s → P s') (ho : ∀ {s}, P s → P s.opened)
    (hc : ∀ {s} features conn, P s → P (s.completed features conn))
    (hcl : ∀ {s}, P s → P { s with socket := none })
    (hs : ∀ {s} op kind listener conn, P s → P (s.subscribeOperation op kind listener conn))
    (h : P s) (a : TransportAction) : P (s.step a).1 := by
  rcases s.step_parts a with ⟨dial, x, rfl⟩ | ⟨credentials, kind, listener, x, rfl⟩ | hpa
  · show P (s.probeAvailability dial x).1
    rcases s.probe_cases dial x with ⟨-, hm⟩ | ⟨-, hd⟩
    · exact hm.parts.keeps hp h
    · rw [hd]
      rcases s.connectAndHandshake_cases dial with hn | ⟨s₁, hm, ⟨features, hdo⟩ | hdo⟩
      · rw [hn]
        exact h
      · rw [hdo]
        exact hc features _ (hm.parts.keeps hp (ho h))
      · rw [hdo]
        exact hcl (hm.parts.keeps hp (ho h))
  · show P (s.startAndSubscribe credentials kind listener x)
    obtain ⟨s₁, hm, hdo | ⟨op, conn, -, hdo⟩⟩ :=
      s.startAndSubscribe_cases credentials kind listener x
    · rw [hdo]
      exact hm.parts.keeps hp h
    · rw [hdo]
      exact hs op kind listener conn (hm.parts.keeps hp h)
  · exact hpa.keeps hp h

def Scheduled (s : SocketTransport) : Prop :=
  s.deferred ≠ [] → s.drainQueued = true ∨ s.draining = true

lemma Scheduled.move (hm : Move s s') (h : Scheduled s) : Scheduled s' := by
  cases hm with
  | request | config | awake => exact h
  | receive | reply | schedule => exact fun _ => .inl rfl
  | drain => exact fun _ => .inr rfl
  | drop =>
    rcases s.dropConnection_cases with ⟨-, hs⟩ | ⟨conn, -, ⟨-, hs⟩ | ⟨-, hs⟩⟩
    · rw [hs]
      exact h
    · rw [hs]
      exact h
    · rw [hs]
      exact fun _ => .inl rfl

lemma Scheduled.part (hp : Part s s') (h : Scheduled s) : Scheduled s' := by
  cases hp with
  | move hm => exact h.move hm
  | books hb =>
    unfold Scheduled
    rw [hb.deferred, hb.drainQueued, hb.draining]
    exact h
  | unwatch => exact h
  | idle he => exact absurd he
  | pop _ hd => exact fun _ => .inr hd
  | lighten hf => exact fun _ => h (hf ▸ List.cons_ne_nil _ _)

lemma Scheduled.step (h : Scheduled s) (a : TransportAction) : Scheduled (s.step a).1 :=
  step_keeps Scheduled.part id (fun _ _ => id) id (fun _ _ _ _ => id) h a

lemma Part.requestId_le (h : Part s s') : s.nextRequestId ≤ s'.nextRequestId := by
  cases h with
  | move hm =>
    cases hm with
    | request => exact Nat.le_succ _
    | drop =>
      rcases s.dropConnection_cases with ⟨-, hs⟩ | ⟨conn, -, ⟨-, hs⟩ | ⟨-, hs⟩⟩
      · rw [hs]
      · rw [hs]
      · rw [hs]
        exact le_rfl
    | _ => exact le_rfl
  | books hb => exact hb.nextRequestId.ge
  | unwatch | idle | pop | lighten => exact le_rfl

lemma requestId_step (s : SocketTransport) (a : TransportAction) :
    s.nextRequestId ≤ (s.step a).1.nextRequestId :=
  have hpa {t t' : SocketTransport} (hp : Part t t') (h : s.nextRequestId ≤ t.nextRequestId) :
      s.nextRequestId ≤ t'.nextRequestId := h.trans hp.requestId_le
  step_keeps hpa id (fun _ _ => id) id (fun _ _ _ _ => id) le_rfl a

end SocketTransport

end LibreAgent.Client
