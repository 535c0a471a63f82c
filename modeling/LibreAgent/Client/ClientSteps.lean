import LibreAgent.Client.TransportSteps
import LibreAgent.Client.AgentClient

/-!
# What a step of the client does

* `Beside` : the calls and events that concern single operations and the transport, and nothing else
  of the client;
* `aside_keeps` : what such a call to the transport keeps.
-/

namespace LibreAgent.Client

open Relation

/-! ## The transport of the client -/

namespace SocketTransport
variable {s s' s₁ : SocketTransport}

lemma fetchOperationResult_call (s : SocketTransport) (kind : OperationKind) (x : Exchange) :
    (s.fetchOperationResult kind x).1 = s ∨ (s.fetchOperationResult kind x).1 =
      (s.step (.call x)).1 := by
  show _ ∨ _ = (s.callSync x).1
  unfold fetchOperationResult
  split
  · refine .inr ?_
    split <;> rename_i heq <;> rw [heq]
  · exact .inl rfl

lemma startOperation_error {credentials : Bool} {x : Exchange} {error : SeamError}
    (h : s.startOperation credentials x = (s₁, .error error)) (kind : OperationKind)
    (listener : Nat) : s₁ = (s.step (.startOperation credentials kind listener x)).1 := by
  show s₁ = s.startAndSubscribe credentials kind listener x
  unfold startAndSubscribe
  rw [h]

end SocketTransport

open SocketTransport

/-! ## Calls beside the registry -/

/-- the calls to the transport that concern no connection to come and no reader or card -/
def TransportAction.aside : TransportAction → Bool
  | .probe _ _ | .dispatch _ | .subscribeProperties _ _ _ | .unsubscribeProperties _
  | .requestProperties _ _ _ _
  | .propsTimeout _ => false
  | .call _ | .configSnapshot _ | .startOperation _ _ _ _ | .unsubscribeOperation _
  | .cancelOperation _
  | .requestCertificateDer _ _ | .cancelCertificateDer _ | .readable _ | .drain | .runQueued
  | .derTimeout _ => true

def Callback.isAnswer : Callback → Bool
  | .propertiesFetched _ _ _ | .certificateDer _ _ _ => true
  | _ => false

namespace AgentClient
variable {c c' : AgentClient} {qt : QVariants}

inductive BesidePart (c : AgentClient) : AgentClient → Prop where
  | transport (a : TransportAction) (ha : a.aside = true) :
      BesidePart c { c with transport := (c.transport.step a).1 }
  | operation (address : Nat) (call : OperationCall) (hcall : call.isFailEntry = false) :
      BesidePart c (c.callOperation address call)

abbrev Beside : AgentClient → AgentClient → Prop :=
  ReflTransGen BesidePart

section
variable (c)

lemma beside_transport {a : TransportAction} (ha : a.aside = true) :
    Beside c { c with transport := (c.transport.step a).1 } :=
  .single (.transport a ha)

lemma beside_operation (address : Nat) {call : OperationCall}
    (hc : call.isFailEntry = false) : Beside c (c.callOperation address call) :=
  .single (.operation address call hc)

lemma cancel_beside (operation : Nat) (sent : Bool) : Beside c (c.cancel operation sent) := by
  unfold cancel
  split
  · exact .refl
  · split
    · exact beside_transport c (a := .cancelOperation sent) rfl
    · exact .refl

lemma giveUpStalled_beside (operation : Nat) (sent : Bool) :
    Beside c (c.giveUpStalled operation sent) := by
  unfold giveUpStalled
  split
  · exact .refl
  · rename_i o _
    split
    · have hc : Beside c { c with
          transport := if o.operationId.isSome then c.transport.cancelOperation sent
            else c.transport } := by
        split
        · exact beside_transport c (a := .cancelOperation sent) rfl
        · exact .refl
      have hf (s : SocketTransport) : Beside { c with transport := s }
          { c with
            transport := if o.operation.derToken ≠ 0 then
              s.cancelCertificateDer o.operation.derToken else s } := by
        split
        · exact beside_transport { c with transport := s }
            (a := .cancelCertificateDer o.operation.derToken) rfl
        · exact .refl
      exact (hc.trans (hf _)).trans (beside_operation _ operation rfl)
    · exact beside_operation c operation rfl

lemma onOperationEvent_beside (x : Exchange) (operation : Nat)
    (event : OperationEvent) : Beside c (c.onOperationEvent x operation event) := by
  cases event with
  | phaseChanged | groupReady | result => exact beside_operation c operation rfl
  | finished status code msgKey msgFallback =>
    unfold onOperationEvent
    dsimp only
    split
    · exact .refl
    · rename_i o _
      split
      · have hc : Beside c { c with
            transport :=
              (c.transport.fetchOperationResult (seamKindFor o.operation.kind) x).1 } := by
          rcases c.transport.fetchOperationResult_call (seamKindFor o.operation.kind) x with hs | hs
          · rw [hs]
          · rw [hs]
            exact beside_transport c (a := .call x) rfl
        exact hc.trans (beside_operation _ operation rfl)
      · exact beside_operation c operation rfl

end

variable {x : Exchange} {lost : Option Nat}

lemma handle_beside {cb : Callback} (hcb : cb.isAnswer = true) :
    Beside c (handle qt x lost c cb) := by
  cases cb with
  | propertiesFetched => exact .refl
  | certificateDer listener token outcome => exact beside_operation c listener rfl
  | _ => exact nomatch hcb

lemma handles_beside {cbs : List Callback} (h : ∀ cb ∈ cbs, cb.isAnswer = true) :
    Beside c (cbs.foldl (handle qt x lost) c) := by
  induction cbs generalizing c with
  | nil => exact .refl
  | cons cb cbs ih =>
    exact (handle_beside (h cb List.mem_cons_self)).trans
      (ih fun cb hcb => h cb (List.mem_cons_of_mem _ hcb))

end AgentClient

/-! ## What they do to the transport -/

namespace SocketTransport
variable {s s' : SocketTransport}

/-- neither the connection nor the stream has changed -/
structure Aloof (s s' : SocketTransport) : Prop where
  socket : s'.socket = s.socket
  sockets : s'.sockets = s.sockets
  established : s'.established = s.established
  generation : s'.generation = s.generation
  received : s'.received = s.received
  deferred : s'.deferred = s.deferred
  propertyWatches : s'.propertyWatches = s.propertyWatches
  quiesced : s'.quiesced = s.quiesced

lemma answerDer_aloof (s : SocketTransport) (token : Nat) (outcome : DerOutcome) :
    Aloof s (s.answerDer token outcome).1 := by
  unfold answerDer
  split <;> constructor <;> rfl

/-- what moves keep, and changes that are neither of the connection nor of the stream -/
lemma aside_keeps {P : SocketTransport → Prop} (hm : ∀ {s s'}, Move s s' → P s → P s')
    (ha : ∀ {s s'}, Aloof s s' → P s → P s')
    (h : P s) {a : TransportAction} (has : a.aside = true) : P (s.step a).1 := by
  cases a with
  | call x => exact (s.callSync_moves x).keeps hm h
  | configSnapshot x => exact (s.configSnapshot_moves x).keeps hm h
  | startOperation credentials kind listener x =>
    show P (s.startAndSubscribe credentials kind listener x)
    obtain ⟨s₁, hmo, hd | ⟨op, conn, -, hd⟩⟩ :=
      s.startAndSubscribe_cases credentials kind listener x
    · rw [hd]
      exact hmo.keeps hm h
    · rw [hd]
      exact ha (by constructor <;> rfl) (hmo.keeps hm h)
  | unsubscribeOperation | cancelCertificateDer => exact ha (by constructor <;> rfl) h
  | cancelOperation sent => exact (s.cancelOperation_moves sent).keeps hm h
  | requestCertificateDer listener sent =>
    have ht : P { s with
        nextDerToken := s.nextDerToken + 1,
        derListeners := s.derListeners ++ [(s.nextDerToken + 1, listener)] } :=
      ha (by constructor <;> rfl) h
    show P (s.requestCertificateDer listener sent)
    unfold requestCertificateDer
    dsimp only
    split
    · cases sent with
      | true => exact ha (by constructor <;> rfl) h
      | false => exact ha (by constructor <;> rfl) (hm .drop (hm .request ht))
    · exact ha (by constructor <;> rfl) h
  | readable pumped => exact (s.onReadable_moves pumped).keeps hm h
  | drain => exact hm .drain h
  | runQueued =>
    show P s.runQueued.1
    unfold runQueued
    split
    · exact h
    · exact ha (by constructor <;> rfl) h
    · exact ha (answerDer_aloof _ _ _) (ha (by constructor <;> rfl) h)
  | derTimeout requestId =>
    show P (s.derTimeout requestId).1
    unfold derTimeout
    split
    · exact h
    · exact ha (answerDer_aloof _ _ _) (ha (by constructor <;> rfl) h)
  | probe | dispatch | subscribeProperties | unsubscribeProperties | requestProperties
  | propsTimeout => exact nomatch has

end SocketTransport

/-! ## Who is called -/

namespace SocketTransport
variable (s : SocketTransport)
variable {token : Nat}

lemma answerProps_answers {s : SocketTransport} {listener : Nat} {objectId : Bytes}
    {props : Option Props} :
    ∀ cb ∈ s.answerProps token objectId listener props, cb.isAnswer = true := by
  unfold answerProps
  split
  · intro cb hcb
    rw [List.mem_singleton.mp hcb]
    rfl
  · exact List.forall_mem_nil _

lemma answerDer_answers {s : SocketTransport} {outcome : DerOutcome} :
    ∀ cb ∈ (s.answerDer token outcome).2, cb.isAnswer = true := by
  unfold answerDer
  split
  · exact List.forall_mem_nil _
  · intro cb hcb
    rw [List.mem_singleton.mp hcb]
    rfl

lemma dispatchAsyncReply_answers (reply : Wire.DecodedReply) :
    ∀ cb ∈ (s.dispatchAsyncReply reply).2, cb.isAnswer = true := by
  unfold dispatchAsyncReply
  split
  · exact answerProps_answers
  · split
    · exact answerDer_answers
    · exact List.forall_mem_nil _

lemma aside_answers {a : TransportAction} (ha : a.aside = true) :
    ∀ cb ∈ (s.step a).2, cb.isAnswer = true := by
  cases a with
  | runQueued =>
    show ∀ cb ∈ s.runQueued.2, cb.isAnswer = true
    unfold runQueued
    split
    · exact List.forall_mem_nil _
    · exact answerProps_answers
    · exact answerDer_answers
  | derTimeout requestId =>
    show ∀ cb ∈ (s.derTimeout requestId).2, cb.isAnswer = true
    unfold derTimeout
    split
    · exact List.forall_mem_nil _
    · exact answerDer_answers
  | probe | dispatch | subscribeProperties | unsubscribeProperties | requestProperties
  | propsTimeout => exact nomatch ha
  | _ => exact List.forall_mem_nil _

end SocketTransport

namespace AgentClient
variable {c : AgentClient}

lemma deliver_beside (qt : QVariants) (c : AgentClient) (x : Exchange) {a : TransportAction}
    (ha : a.aside = true) : Beside c (c.deliver qt x a) :=
  (beside_transport c ha).trans (handles_beside (c.transport.aside_answers ha))

lemma deliver_dispatch (qt : QVariants) (c : AgentClient) (x : Exchange) :
    c.deliver qt x (.dispatch x) =
      (if c.transport.draining then c.transport.dispatch x else (c.transport, [])).2.foldl
        (handle qt x c.transport.losing)
        { c with
          transport := (if c.transport.draining then c.transport.dispatch x
            else (c.transport, [])).1 } := rfl

/-! ## What repeated calls keep -/

variable {qt : QVariants}

lemma foldl_keeps {σ α : Type*} {P : σ → Prop} {f : σ → α → σ} (hf : ∀ {s} a, P s → P (f s a))
    (as : List α) {s : σ} (h : P s) : P (as.foldl f s) :=
  as.foldlRecOn f h fun _ hs a _ => hf a hs

lemma finishReconcile_keeps {P : AgentClient → Prop} {snapshot : RegistrySnapshot}
    (hr : ∀ {c} id, (∀ reader ∈ snapshot.readers, reader.handle ≠ id) → P c → P (c.removeReader id))
    (hc : ∀ {c}, ∀ card ∈ snapshot.cards, P c → P (c.addCard qt card.handle (cardProps card)))
    (ha : ∀ {c}, ∀ reader ∈ snapshot.readers, P c →
      P (c.addReader qt reader.handle (readerProps reader)))
    (h : P c) : P (c.finishReconcile qt snapshot) := by
  refine List.foldlRecOn _ _ (List.foldlRecOn _ _ (List.foldlRecOn _ _ h fun c h id hid => ?_)
    fun c h card hm => hc card hm h) fun c h reader hm => ha reader hm h
  obtain ⟨r, hm, rfl⟩ := List.mem_map.mp hid
  refine hr r.id (fun reader hreader heq => ?_) h
  have hn := (List.mem_filter.mp hm).2
  rw [List.any_eq_true.mpr ⟨reader, hreader, decide_eq_true heq⟩] at hn
  exact nomatch hn

lemma destroyOperations_keeps {P : SocketTransport → Prop}
    (hu : ∀ {s} listener, P s → P (s.unsubscribeOperation listener))
    (hd : ∀ {s} token, P s → P (s.cancelCertificateDer token)) (p : ClientOperation → Bool)
    (h : P c.transport) : P (c.destroyOperations p).transport := by
  refine foldl_keeps (fun {s} o h => ?_) _ h
  have hs : P (if o.operationId.isSome then s.unsubscribeOperation o.address else s) := by
    split
    · exact hu _ h
    · exact h
  unfold ClientOperation.release
  dsimp only
  split
  · exact hd _ hs
  · exact hs

lemma onServiceUnregistered_transport (c : AgentClient) (lost : Option Nat) :
    (c.onServiceUnregistered lost).transport = c.transport := by
  unfold onServiceUnregistered
  split <;> rfl

end AgentClient

end LibreAgent.Client
