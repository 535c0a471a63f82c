import LibreAgent.Client.TransportSteps

/-!
# Requests that are out

* `outstanding`, `calls` : the errands of a transport, and whom the answer of one would call.
-/

namespace LibreAgent.Client

open List

open Wire (DecodedReply DecodedEvent)

/-! ## Errands -/

inductive Ticket where
  | props (token : Nat)
  | der (token : Nat)
deriving DecidableEq

inductive Errand where
  | props (token : Nat) (objectId : Bytes) (listener : Nat) (requestId : Option Nat)
  | der (token : Nat) (requestId : Option Nat)
deriving DecidableEq

namespace Errand

def ticket : Errand → Ticket
  | .props token _ _ _ => .props token
  | .der token _ => .der token

def requestId : Errand → Option Nat
  | .props _ _ _ requestId => requestId
  | .der _ requestId => requestId

def isOf (listener : Nat) (objectId : Bytes) : Errand → Bool
  | .props _ o l _ => l = listener && o = objectId
  | .der _ _ => false

end Errand

def PendingProps.errand (p : PendingProps) : Errand :=
  .props p.token p.objectId p.listener (some p.requestId)

def PendingDer.errand (p : PendingDer) : Errand :=
  .der p.token (some p.requestId)

def QueuedFailure.errand : QueuedFailure → Errand
  | .props token objectId listener => .props token objectId listener none
  | .der token => .der token none

def DeferredItem.errands : DeferredItem → List Errand
  | .connectionLost _ _ lostProps lostDer => lostProps.map (·.errand) ++ lostDer.map (·.errand)
  | _ => []

namespace SocketTransport

def outstanding (s : SocketTransport) : List Errand :=
  s.pendingProps.map (·.errand) ++ s.pendingDer.map (·.errand) ++ s.deferred.flatMap (·.errands) ++
    s.queued.map (·.errand)

def Drained (s : SocketTransport) : Prop :=
  s.deferred = [] ∧ s.queued = [] ∧ s.pendingProps = [] ∧ s.pendingDer = []

lemma Drained.outstanding {s : SocketTransport} (h : s.Drained) : s.outstanding = [] := by
  unfold SocketTransport.outstanding
  rw [h.1, h.2.1, h.2.2.1, h.2.2.2]
  rfl

def calls (s : SocketTransport) : Errand → Option Nat
  | .props _ objectId listener _ => if s.watches listener objectId then some listener else none
  | .der token _ => (s.derListeners.find? (·.1 = token)).map (·.2)

def replying (s : SocketTransport) (a : TransportAction) : Option Nat :=
  match a, s.deferred with
  | .dispatch _, .reply reply :: _ => some reply.req.toNat
  | _, _ => none

end SocketTransport

def Callback.answer : Callback → Option (Ticket × Nat)
  | .propertiesFetched listener token _ => some (.props token, listener)
  | .certificateDer listener token _ => some (.der token, listener)
  | _ => none

def TransportAction.books : TransportAction → Bool
  | .requestProperties _ _ _ _ | .requestCertificateDer _ _ | .cancelCertificateDer _
  | .subscribeProperties _ _ _
  | .unsubscribeProperties _ => true
  | _ => false

/-! ## What a step does to the errands -/

lemma perm_cons_eraseP {α : Type*} {p : α → Bool} {l : List α} {a : α} (h : l.find? p = some a) :
    l.Perm (a :: l.eraseP p) := by
  induction l with
  | nil => exact nomatch h
  | cons x l ih =>
    by_cases hx : p x = true
    · rw [List.find?_cons_of_pos hx] at h
      cases h
      rw [List.eraseP_cons_of_pos hx]
    · rw [List.find?_cons_of_neg hx] at h
      rw [List.eraseP_cons_of_neg hx]
      exact ((ih h).cons x).trans (.swap a x _)

namespace SocketTransport
variable {s s' s₁ : SocketTransport} {e : Errand} {cs : List Callback}

def tokens (s : SocketTransport) : Nat × Nat :=
  (s.nextPropsToken, s.nextDerToken)

/-- who would be called, and the tokens given out -/
def desk (s : SocketTransport) : List PropertyWatch × List (Nat × Nat) × Nat × Nat :=
  (s.propertyWatches, s.derListeners, s.tokens)

structure Same (s s' : SocketTransport) : Prop where
  outstanding : s'.outstanding.Perm s.outstanding
  desk : s'.desk = s.desk

lemma calls_props (s : SocketTransport) (token : Nat) (objectId : Bytes) (listener : Nat)
    (requestId : Option Nat) :
    s.calls (.props token objectId listener requestId) = if s.watches listener objectId then some
      listener else none :=
  rfl

lemma calls_der (s : SocketTransport) (token : Nat) (requestId : Option Nat) :
    s.calls (.der token requestId) = (s.derListeners.find? (·.1 = token)).map (·.2) :=
  rfl

section Desk
variable (h : s'.desk = s.desk)
include h

lemma derListeners_eq : s'.derListeners = s.derListeners := congrArg (·.2.1) h

lemma tokens_eq : s'.tokens = s.tokens := congrArg (·.2.2) h

lemma calls_congr (e : Errand) : s'.calls e = s.calls e := by
  cases e with
  | props =>
    have hw : s'.propertyWatches = s.propertyWatches := congrArg (·.1) h
    unfold calls watches
    rw [hw]
  | der => rw [calls_der, calls_der, derListeners_eq h]

end Desk

lemma outstanding_defer (s : SocketTransport) (item : DeferredItem) :
    (s.defer item).outstanding.Perm (item.errands ++ s.outstanding) := by
  show (s.pendingProps.map _ ++ s.pendingDer.map _ ++ (s.deferred ++ [item]).flatMap _ ++
      s.queued.map _).Perm _
  rw [List.flatMap_append, List.flatMap_singleton]
  unfold outstanding
  simp only [← append_assoc]
  refine List.Perm.append_right _ ?_
  exact perm_append_comm.trans (by simp only [append_assoc]; exact .refl _)

lemma outstanding_drop (s : SocketTransport) : s.dropConnection.outstanding.Perm s.outstanding := by
  rcases s.dropConnection_cases with ⟨-, h⟩ | ⟨conn, -, ⟨-, h⟩ | ⟨-, h⟩⟩
  · rw [h]
  · rw [h]
    exact .refl _
  · rw [h]
    refine (outstanding_defer _ _).trans ?_
    unfold outstanding DeferredItem.errands
    simp only [map_nil, nil_append, append_assoc]
    exact .refl _

lemma Move.outstanding (h : Move s s') : s'.outstanding.Perm s.outstanding := by
  cases h with
  | request | schedule | drain | config | awake => exact .refl _
  | receive | reply => exact outstanding_defer _ _
  | drop => exact s.outstanding_drop

lemma Moves.same (h : Moves s s') : Same s s' where
  outstanding := by
    induction h with
    | refl => exact .refl _
    | tail _ hm ih => exact hm.outstanding.trans ih
  desk := by
    have hk := h.kept
    simp only [SocketTransport.desk, tokens, hk.propertyWatches, hk.derListeners, hk.nextPropsToken,
      hk.nextDerToken]

structure Removed (s : SocketTransport) (e : Errand) (s₁ : SocketTransport) : Prop where
  outstanding : s.outstanding.Perm (e :: s₁.outstanding)
  desk : s₁.desk = s.desk

structure Answers (s : SocketTransport) (e : Errand) (s' : SocketTransport) (cs : List Callback) :
    Prop where
  outstanding : s.outstanding.Perm (e :: s'.outstanding)
  others : ∀ {e'}, e'.ticket ≠ e.ticket → s'.calls e' = s.calls e'
  tokens : s'.tokens = s.tokens
  derListeners : ∀ x ∈ s'.derListeners, x ∈ s.derListeners
  called : cs.filterMap Callback.answer = (s.calls e).toList.map fun listener =>
    (e.ticket, listener)

variable {token : Nat} {requestId : Option Nat} {item : DeferredItem} {deferred : List DeferredItem}
  {a : TransportAction}

lemma Removed.answerProps {listener : Nat} {objectId : Bytes}
    (h : Removed s (.props token objectId listener requestId) s₁) (props : Option Props) :
    Answers s (.props token objectId listener requestId) s₁
      (s.answerProps token objectId listener props) where
  outstanding := h.outstanding
  others _ := calls_congr h.desk _
  tokens := tokens_eq h.desk
  derListeners x hx := derListeners_eq h.desk ▸ hx
  called := by
    unfold SocketTransport.answerProps
    rw [calls_props]
    split <;> rfl

lemma find_cancelCertificateDer {token' : Nat} (hne : token' ≠ token) :
    (s.cancelCertificateDer token).derListeners.find? (·.1 = token') = s.derListeners.find?
      (·.1 = token') := by
  unfold cancelCertificateDer
  rw [List.find?_filter]
  congr 1
  funext x
  by_cases hx : x.1 = token'
  · simp [hx, hne]
  · simp [hx]

lemma calls_cancelCertificateDer (hne : e.ticket ≠ .der token) :
    (s.cancelCertificateDer token).calls e = s.calls e := by
  cases e with
  | props => rfl
  | der token' =>
    have ht : token' ≠ token := fun h => hne (congrArg Ticket.der h)
    rw [calls_der, calls_der, find_cancelCertificateDer ht]

lemma Removed.answerDer (h : Removed s (.der token requestId) s₁) (outcome : DerOutcome) :
    Answers s (.der token requestId) (s₁.answerDer token outcome).1
      (s₁.answerDer token outcome).2 := by
  have hc (e' : Errand) : s₁.calls e' = s.calls e' := calls_congr h.desk e'
  have hf : s.calls (.der token requestId) = (s₁.derListeners.find? (·.1 = token)).map (·.2) :=
    (hc (.der token requestId)).symm
  unfold SocketTransport.answerDer
  split
  · rename_i hn
    refine ⟨h.outstanding, fun _ => hc _, tokens_eq h.desk, fun x hx =>
      derListeners_eq h.desk ▸ hx, ?_⟩
    rw [hf, hn]
    rfl
  · rename_i listener hs
    refine ⟨h.outstanding, fun hne => ?_, (tokens_eq h.desk :), fun x hx => ?_, ?_⟩
    · exact (calls_cancelCertificateDer hne).trans (hc _)
    · exact derListeners_eq h.desk ▸ mem_of_mem_filter hx
    · rw [hf, hs]
      rfl

/-! ### The tables -/

lemma removed_props {requestId : Nat} {pending : PendingProps}
    (h : s.pendingProps.find? (·.requestId = requestId) = some pending) :
    Removed s pending.errand { s with
        pendingProps := s.pendingProps.eraseP (·.requestId = requestId) } := by
  refine ⟨?_, rfl⟩
  unfold outstanding
  simp only [append_assoc]
  exact ((perm_cons_eraseP h).map _).append_right _

lemma removed_der {requestId : Nat} {pending : PendingDer}
    (h : s.pendingDer.find? (·.requestId = requestId) = some pending) :
    Removed s pending.errand { s with
        pendingDer := s.pendingDer.eraseP (·.requestId = requestId) } := by
  refine ⟨?_, rfl⟩
  unfold outstanding
  simp only [append_assoc]
  have he := ((perm_cons_eraseP h).map (·.errand)).append_right
    (s.deferred.flatMap (·.errands) ++ s.queued.map (·.errand))
  exact (he.append_left _).trans perm_middle

lemma removed_queued {failure : QueuedFailure} {queued : List QueuedFailure}
    (h : s.queued = failure :: queued) : Removed s failure.errand { s with queued := queued } := by
  refine ⟨?_, rfl⟩
  unfold outstanding
  rw [h]
  exact perm_middle

lemma removed_front {front : DeferredItem} (h : s.deferred = front :: deferred)
    (he : front.errands.Perm (e :: item.errands)) :
    Removed s e { s with deferred := item :: deferred } := by
  refine ⟨?_, rfl⟩
  unfold outstanding
  rw [h]
  simp only [List.flatMap_cons, append_assoc]
  have hf := he.append_right (deferred.flatMap (·.errands) ++ s.queued.map (·.errand))
  exact ((hf.append_left _).append_left _).trans ((perm_middle.append_left _).trans perm_middle)

lemma same_pop (h : s.deferred = item :: deferred) (hn : item.errands = []) :
    Same s { s with deferred := deferred } := by
  refine ⟨?_, rfl⟩
  unfold outstanding
  rw [h, List.flatMap_cons, hn]
  exact .refl _

lemma Same.trans (h : Same s s₁) (h' : Same s₁ s') : Same s s' :=
  ⟨h'.outstanding.trans h.outstanding, h'.desk.trans h.desk⟩

lemma Same.answers (h : Same s s₁) (h' : Answers s₁ e s' cs) : Answers s e s' cs where
  outstanding := h.outstanding.symm.trans h'.outstanding
  others hne := (h'.others hne).trans (calls_congr h.desk _)
  tokens := h'.tokens.trans (tokens_eq h.desk)
  derListeners x hx := derListeners_eq h.desk ▸ h'.derListeners x hx
  called := by rw [h'.called, calls_congr h.desk]

/-- a step that touches no request, or answers one; if with a reply, the one to this request -/
inductive Errands (s : SocketTransport) (replies : Nat → Prop)
    (next : SocketTransport × List Callback) : Prop where
  | same (hsame : Same s next.1) (hnone : next.2.filterMap Callback.answer = [])
  | answers (e : Errand) (hanswers : Answers s e next.1 next.2)
      (hreply : ∀ r, replies r → e.requestId = some r)

lemma Same.errands {replies : Nat → Prop} {next : SocketTransport × List Callback} (h : Same s s₁)
    (h' : Errands s₁ replies next) : Errands s replies next := by
  cases h' with
  | same hs hn => exact .same (h.trans hs) hn
  | answers e ha hr => exact .answers e (h.answers ha) hr

section
variable (s)

lemma dispatchEvent_answers (x : Exchange) (event : DecodedEvent) :
    (s.dispatchEvent x event).2.filterMap Callback.answer = [] := by
  have hca (op : UInt64) (ev : OperationEvent) :
    (s.callOperation op ev).filterMap Callback.answer = [] := by
    unfold callOperation
    split <;> rfl
  cases event with
  | unknownEvent => rfl
  | known event =>
    cases event with
    | propertyChanged e =>
      refine List.filterMap_eq_nil_iff.mpr fun c hc => ?_
      obtain ⟨watch, -, rfl⟩ := mem_map.mp hc
      rfl
    | opProgress | opIdentityGroup | opResultReady | opFinished => exact hca _ _
    | _ => rfl

lemma dispatchAsyncReply_errands (reply : DecodedReply) :
    Errands s (· = reply.req.toNat) (s.dispatchAsyncReply reply) := by
  unfold dispatchAsyncReply
  -- the request that is found was sent under the id of the reply
  split
  · rename_i pending hp
    have hid : pending.requestId = reply.req.toNat := by simpa using List.find?_some hp
    exact .answers pending.errand ((removed_props hp).answerProps _) fun r hr =>
      congrArg some (hid.trans hr.symm)
  · split
    · rename_i pending hp
      have hid : pending.requestId = reply.req.toNat := by simpa using List.find?_some hp
      exact .answers pending.errand ((removed_der hp).answerDer _) fun r hr =>
        congrArg some (hid.trans hr.symm)
    · exact .same ⟨.refl _, rfl⟩ rfl

lemma dispatch_errands (x : Exchange) :
    Errands s (fun r => ∃ reply rest, s.deferred = .reply reply :: rest ∧ r = reply.req.toNat)
      (s.dispatch x) := by
  unfold dispatch
  split
  · exact .same ⟨.refl _, rfl⟩ rfl
  · rename_i hf
    refine .same ((same_pop hf rfl).trans ?_) (dispatchEvent_answers _ x _)
    rcases dispatchEvent_cases _ x _ with ⟨-, hq⟩ | hm
    · rw [hq]
      exact ⟨.refl _, rfl⟩
    · exact hm.same
  · rename_i reply deferred hf
    have hp : Same s { s with deferred := deferred } := same_pop hf rfl
    cases hp.errands (dispatchAsyncReply_errands _ reply) with
    | same hs hn => exact .same hs hn
    | answers e ha hre =>
      refine .answers e ha fun r hr => ?_
      obtain ⟨reply', rest, hf', rfl⟩ := hr
      cases hf.symm.trans hf'
      exact hre _ rfl
  · rename_i hf
    refine .answers _ ((removed_front hf (.refl _)).answerProps _) fun r hr => ?_
    obtain ⟨reply, rest, hf', -⟩ := hr
    exact nomatch hf.symm.trans hf'
  · rename_i hf
    refine .answers _ ((removed_front hf (.refl _)).answerDer _) fun r hr => ?_
    obtain ⟨reply, rest, hf', -⟩ := hr
    exact nomatch hf.symm.trans hf'
  · rename_i hf
    refine .same (same_pop hf rfl) ?_
    split <;> rfl

lemma runQueued_errands : Errands s (fun _ => False) s.runQueued := by
  unfold runQueued
  split
  · exact .same ⟨.refl _, rfl⟩ rfl
  · next hq => exact .answers _ ((removed_queued hq).answerProps _) nofun
  · next hq => exact .answers _ ((removed_queued hq).answerDer _) nofun

lemma propsTimeout_errands (requestId : Nat) :
    Errands s (fun _ => False) (s.propsTimeout requestId) := by
  unfold propsTimeout
  split
  · exact .same ⟨.refl _, rfl⟩ rfl
  · next hp => exact .answers _ ((removed_props hp).answerProps _) nofun

lemma derTimeout_errands (requestId : Nat) :
    Errands s (fun _ => False) (s.derTimeout requestId) := by
  unfold derTimeout
  split
  · exact .same ⟨.refl _, rfl⟩ rfl
  · next hp => exact .answers _ ((removed_der hp).answerDer _) nofun

lemma probe_same (dial : Dial) (x : Exchange) : Same s (s.probeAvailability dial x).1 := by
  rcases s.probe_cases dial x with ⟨-, hm⟩ | ⟨-, hd⟩
  · exact hm.same
  rw [hd]
  have ho : Same s s.opened := ⟨.refl _, rfl⟩
  rcases s.connectAndHandshake_cases dial with hn | ⟨s₁, hm, ⟨features, hdo⟩ | hdo⟩
  · rw [hn]
    exact ⟨.refl _, rfl⟩
  all_goals
    rw [hdo]
    exact (ho.trans hm.same).trans ⟨.refl _, rfl⟩

lemma startAndSubscribe_same (credentials : Bool) (kind : OperationKind)
    (listener : Nat) (x : Exchange) : Same s (s.startAndSubscribe credentials kind listener x) := by
  obtain ⟨s₁, hm, hd | ⟨op, conn, -, hd⟩⟩ := s.startAndSubscribe_cases credentials kind listener x
  · rw [hd]
    exact hm.same
  · rw [hd]
    exact hm.same.trans ⟨.refl _, rfl⟩

/-! ### New requests -/

lemma outstanding_queue (failure : QueuedFailure) :
    ({ s with queued := s.queued ++ [failure] } : SocketTransport).outstanding.Perm
      (failure.errand :: s.outstanding) := by
  unfold outstanding
  rw [map_append, ← append_assoc]
  exact perm_append_singleton _ _

lemma outstanding_pendProps (pending : PendingProps) :
    ({ s with pendingProps := s.pendingProps ++ [pending] } : SocketTransport).outstanding.Perm
      (pending.errand :: s.outstanding) := by
  unfold outstanding
  simp only [map_append, append_assoc]
  exact perm_middle

lemma outstanding_pendDer (pending : PendingDer) :
    ({ s with pendingDer := s.pendingDer ++ [pending] } : SocketTransport).outstanding.Perm
      (pending.errand :: s.outstanding) := by
  unfold outstanding
  simp only [map_append, append_assoc]
  exact (perm_middle.append_left _).trans perm_middle

end

structure Issued (s : SocketTransport) (e : Errand) (s' : SocketTransport) : Prop where
  outstanding : s'.outstanding.Perm (e :: s.outstanding)
  desk : s'.desk = s.desk

/-- a request cannot be sent: the connection is lost, and the failure of the request is queued -/
lemma unsent_issued (s : SocketTransport) (failure : QueuedFailure) : Issued s failure.errand
      (let s₁ := dropConnection { s with nextRequestId := s.nextRequestId + 1 }
       { s₁ with queued := s₁.queued ++ [failure] }) := by
  have hm : Moves s (dropConnection { s with nextRequestId := s.nextRequestId + 1 }) :=
    .tail (.single .request) .drop
  have hs := hm.same
  exact ⟨(outstanding_queue _ failure).trans (hs.outstanding.cons _), hs.desk⟩

lemma requestProperties_issued (s : SocketTransport) (objectId : Bytes) (kind : ObjectKind)
    (listener : Nat) (sent : Bool) :
    Issued { s with nextPropsToken := s.nextPropsToken + 1 }
      (.props (s.nextPropsToken + 1) objectId listener
        (if s.isConnected && sent then some (s.nextRequestId + 1) else none))
      (s.requestProperties objectId kind listener sent) := by
  cases hc : s.isConnected with
  | false =>
    have heq : s.requestProperties objectId kind listener sent =
        { s with nextPropsToken := s.nextPropsToken + 1,
                 queued := s.queued ++ [.props (s.nextPropsToken + 1) objectId listener] } :=
      if_neg (ne_true_of_eq_false hc)
    rw [heq]
    exact ⟨outstanding_queue { s with nextPropsToken := s.nextPropsToken + 1 } _, rfl⟩
  | true =>
    cases sent with
    | true =>
      have heq : s.requestProperties objectId kind listener true =
          { s with nextPropsToken := s.nextPropsToken + 1, nextRequestId := s.nextRequestId + 1,
                   pendingProps := s.pendingProps ++
                     [⟨s.nextRequestId + 1, s.nextPropsToken + 1, objectId, kind, listener⟩] } :=
                       if_pos hc
      rw [heq]
      exact ⟨outstanding_pendProps { s with
          nextPropsToken := s.nextPropsToken + 1,
          nextRequestId := s.nextRequestId + 1 } _,
        rfl⟩
    | false =>
      have heq : s.requestProperties objectId kind listener false = _ := if_pos hc
      rw [heq]
      exact unsent_issued { s with nextPropsToken := s.nextPropsToken + 1 }
        (.props (s.nextPropsToken + 1) objectId listener)

lemma requestCertificateDer_issued (s : SocketTransport) (listener : Nat) (sent : Bool) :
    Issued { s with nextDerToken := s.nextDerToken + 1,
                    derListeners := s.derListeners ++ [(s.nextDerToken + 1, listener)] }
      (.der (s.nextDerToken + 1) (if s.isConnected && sent then some (s.nextRequestId + 1)
        else none))
      (s.requestCertificateDer listener sent) := by
  let s₀ : SocketTransport := { s with
      nextDerToken := s.nextDerToken + 1,
      derListeners := s.derListeners ++ [(s.nextDerToken + 1, listener)] }
  cases hc : s.isConnected with
  | false =>
    have heq : s.requestCertificateDer listener sent =
      { s₀ with queued := s.queued ++ [.der (s.nextDerToken + 1)] } :=
      if_neg (ne_true_of_eq_false hc)
    rw [heq]
    exact ⟨outstanding_queue s₀ _, rfl⟩
  | true =>
    cases sent with
    | true =>
      have heq : s.requestCertificateDer listener true =
          { s₀ with nextRequestId := s.nextRequestId + 1,
                    pendingDer := s.pendingDer ++ [⟨s.nextRequestId + 1, s.nextDerToken + 1⟩] } :=
                      if_pos hc
      rw [heq]
      exact ⟨outstanding_pendDer { s₀ with nextRequestId := s.nextRequestId + 1 } _, rfl⟩
    | false =>
      have heq : s.requestCertificateDer listener false = _ := if_pos hc
      rw [heq]
      exact unsent_issued s₀ (.der (s.nextDerToken + 1))

/-! ### Every other step -/

lemma mem_replying {r : Nat} (h : r ∈ s.replying a) :
    (∃ x, a = .dispatch x) ∧ ∃ reply rest, s.deferred = .reply reply :: rest ∧
      r = reply.req.toNat := by
  unfold replying at h
  split at h
  · next x reply rest hf => exact ⟨⟨x, rfl⟩, reply, rest, hf, (Option.mem_some_iff.mp h).symm⟩
  · exact nomatch h

lemma step_errands (s : SocketTransport) (ha : a.books = false) :
    Errands s (· ∈ s.replying a) (s.step a) := by
  have hq {next : SocketTransport × List Callback} (h : Errands s (fun _ => False) next)
      (hno : ∀ x, a ≠ .dispatch x) : Errands s (· ∈ s.replying a) next := by
    cases h with
    | same hs hn => exact .same hs hn
    | answers e han _ =>
      refine .answers e han fun r hr => ?_
      obtain ⟨⟨x, hx⟩, -⟩ := mem_replying hr
      exact absurd hx (hno x)
  cases a with
  | probe dial x => exact .same (s.probe_same dial x) rfl
  | call x => exact .same (s.callSync_moves x).same rfl
  | configSnapshot x => exact .same (s.configSnapshot_moves x).same rfl
  | startOperation credentials kind listener x =>
    exact .same (s.startAndSubscribe_same credentials kind listener x) rfl
  | unsubscribeOperation | drain => exact .same ⟨.refl _, rfl⟩ rfl
  | cancelOperation sent => exact .same (s.cancelOperation_moves sent).same rfl
  | readable pumped => exact .same (s.onReadable_moves pumped).same rfl
  | dispatch x =>
    show Errands s _ (if s.draining = true then s.dispatch x else (s, []))
    split
    · cases s.dispatch_errands x with
      | same hs hn => exact .same hs hn
      | answers e han hre => exact .answers e han fun r hr => hre r (mem_replying hr).2
    · exact .same ⟨.refl _, rfl⟩ rfl
  | runQueued => exact hq s.runQueued_errands nofun
  | propsTimeout requestId => exact hq (s.propsTimeout_errands requestId) nofun
  | derTimeout requestId => exact hq (s.derTimeout_errands requestId) nofun
  | requestProperties | requestCertificateDer | cancelCertificateDer | subscribeProperties
  | unsubscribeProperties =>
    exact nomatch ha

end SocketTransport

end LibreAgent.Client
