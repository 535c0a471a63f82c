import LibreAgent.Lib.Runs
import LibreAgent.Client.Errands
import LibreAgent.Client.ConnectionIsolation

/-!
# Answers to asynchronous requests

* `requests_answered_once` : each request is answered once, or never if it was withdrawn, with its
  own reply; as long as no listener is subscribed at an address for which an older request on the
  same object is still out (`NotReused`).

Property requests are told apart by the address of their listener: `reused_address_answered`.
-/

namespace LibreAgent.Client

open Runs SocketTransport List Function Option

/-! ## What was asked, and what was answered -/

inductive Fate where
  | waiting
  | answered
  | withdrawn
deriving DecidableEq

structure Asked where
  listener : Nat
  objectId : Bytes := []
  sentAs : Option Nat
  fate : Fate := .waiting

/-- a listener is called, with the reply to this request id if with one -/
structure Answer where
  ticket : Ticket
  before : Option Asked
  listener : Nat
  reply : Option Nat

structure Correspondence where
  transport : SocketTransport := {}
  asked : Ticket → Option Asked := fun _ => none
  answers : List Answer := []

namespace Correspondence
variable (w : Correspondence)

def withdraw (p : Ticket → Asked → Bool) (k : Ticket) : Option Asked :=
  (w.asked k).map fun q => if q.fate = .waiting ∧ p k q = true then { q with fate := .withdrawn }
    else q

def sentAs (sent : Bool) : Option Nat :=
  if w.transport.isConnected && sent then some (w.transport.nextRequestId + 1) else none

/-- What a call of the client asks for or withdraws.  A listener that is gone, or watches another
object, has withdrawn; one that does not watch the object it asks for is not waiting. -/
def book : TransportAction → Ticket → Option Asked
  | .requestProperties objectId _ listener sent =>
    update w.asked (.props (w.transport.nextPropsToken + 1)) (some
      { listener := listener, objectId := objectId, sentAs := w.sentAs sent,
        fate := if w.transport.watches listener objectId then .waiting else .withdrawn })
  | .requestCertificateDer listener sent =>
    update w.asked (.der (w.transport.nextDerToken + 1))
      (some { listener := listener, sentAs := w.sentAs sent })
  | .cancelCertificateDer token => w.withdraw fun k _ => k = .der token
  | .unsubscribeProperties listener =>
    w.withdraw fun k q => k matches .props _ && q.listener = listener
  | .subscribeProperties objectId _ listener =>
    w.withdraw fun k q => k matches .props _ && q.listener = listener && q.objectId ≠ objectId
  | _ => w.asked

def recorded (a : TransportAction) : List Answer :=
  (w.transport.step a).2.filterMap fun c => c.answer.map fun x =>
    ⟨x.1, w.asked x.1, x.2, w.transport.replying a⟩

def settle (answers : List Answer) (asked : Ticket → Option Asked) (k : Ticket) : Option Asked :=
  if answers.any (·.ticket = k) then (asked k).map fun q =>
    { q with fate := .answered } else asked k

def step (a : TransportAction) : Correspondence where
  transport := (w.transport.step a).1
  asked := settle (w.recorded a) (w.book a)
  answers := w.recorded a ++ w.answers

end Correspondence

/-! ## The books are right -/

def Asked.Fits (q : Asked) : Errand → Prop
  | .props _ objectId listener requestId =>
    q.listener = listener ∧ q.objectId = objectId ∧ ∀ r ∈ requestId, q.sentAs = some r
  | .der _ requestId => ∀ r ∈ requestId, q.sentAs = some r

lemma Asked.Fits.sent {q : Asked} {e : Errand} (h : q.Fits e) :
    ∀ r ∈ e.requestId, q.sentAs = some r := by
  cases e with
  | props => exact h.2.2
  | der => exact h

def Asked.caller (q : Asked) : Option Nat :=
  if q.fate = .waiting then some q.listener else none

def answeredOf : Option Asked → Nat
  | some q => if q.fate = .answered then 1 else 0
  | none => 0

def Answer.Due (x : Answer) : Prop :=
  ∃ q ∈ x.before, q.fate = .waiting ∧ q.listener = x.listener ∧ ∀ r ∈ x.reply, q.sentAs = some r

instance (x : Answer) : Decidable x.Due :=
  inferInstanceAs (Decidable (∃ _ ∈ _, _))

def Ticket.Minted : Ticket → Nat × Nat → Prop
  | .props n, tokens => n ≤ tokens.1
  | .der n, tokens => n ≤ tokens.2

/-- where a ticket stands: what was asked with it, the errands that are out for it, and how often it
was answered -/
inductive Entered (s : SocketTransport) (k : Ticket) : Option Asked → List Errand → Nat → Prop
  | unasked : Entered s k none [] 0
  | out {q e} : k.Minted s.tokens → q.fate ≠ .answered → q.Fits e → s.calls e = q.caller →
      Entered s k (some q) [e] 0
  | past {q} : k.Minted s.tokens → q.fate ≠ .waiting → Entered s k (some q) [] (answeredOf (some q))

structure Accounted (w : Correspondence) : Prop where
  entered : ∀ k, Entered w.transport k (w.asked k) (w.transport.outstanding.filter (·.ticket = k))
    (w.answers.filter (·.ticket = k)).length
  registered : ∀ x ∈ w.transport.derListeners, (Ticket.der x.1).Minted w.transport.tokens
  due : ∀ x ∈ w.answers, x.Due

namespace Entered
variable {s t : SocketTransport} {k : Ticket} {a : Option Asked} {e : Errand} {es es' : List Errand}
  {n : Nat} {q : Asked}

lemma mono (h : Entered s k a es n) (hp : es'.Perm es) (hm : k.Minted s.tokens → k.Minted t.tokens)
    (hc : ∀ e ∈ es, t.calls e = s.calls e) : Entered t k a es' n := by
  cases h with
  | unasked =>
    rw [hp.eq_nil]
    exact .unasked
  | out hk hf hfi hca =>
    rw [perm_singleton.mp hp]
    exact .out (hm hk) hf hfi ((hc _ mem_cons_self).trans hca)
  | past hk hf =>
    rw [hp.eq_nil]
    exact .past (hm hk) hf

lemma counted (h : Entered s k a es n) : n = answeredOf a := by
  cases h with
  | unasked => rfl
  | out _ hf => exact (if_neg hf).symm
  | past => rfl

lemma waits (h : Entered s k (some q) [] n) : q.fate ≠ .waiting := by
  cases h with
  | past _ hf => exact hf

lemma unminted (h : Entered s k a es n) (hk : ¬ k.Minted s.tokens) : es = [] ∧ n = 0 := by
  cases h with
  | unasked => exact ⟨rfl, rfl⟩
  | out hm | past hm => exact absurd hm hk

lemma first (h : Entered s k a (e :: es) n) : ∃ q, a = some q ∧ es = [] ∧ n = 0 ∧
    k.Minted s.tokens ∧ q.fate ≠ .answered ∧
    q.Fits e ∧ s.calls e = q.caller := by
  cases h with
  | out hk hf hfi hc => exact ⟨_, rfl, rfl, rfl, hk, hf, hfi, hc⟩

lemma withdraw {p : Ticket → Asked → Bool} (h : Entered s k a es n) (ht : t.tokens = s.tokens)
    (hc : ∀ e ∈ es, ∀ q, q.Fits e → t.calls e = if p k q then none else s.calls e) :
    Entered t k (a.map fun q => if q.fate = .waiting ∧
      p k q = true then { q with fate := .withdrawn } else q) es n := by
  cases h with
  | unasked => exact .unasked
  | @out q e hk hf hfi hca =>
    have hn := hc e mem_cons_self q hfi
    rw [← ht] at hk
    rw [map_some]
    by_cases hp : p k q = true
    · rw [if_pos hp] at hn
      by_cases hw : q.fate = .waiting
      · rw [if_pos ⟨hw, hp⟩]
        exact .out hk (by simp) (by cases e <;> exact hfi) hn
      · rw [if_neg fun hand => hw hand.1]
        exact .out hk hf hfi (hn.trans (if_neg hw).symm)
    · rw [if_neg hp] at hn
      rw [if_neg fun hand => hp hand.2]
      exact .out hk hf hfi (hn.trans hca)
  | past hk hf =>
    rw [map_some, if_neg fun hand => hf hand.1]
    exact .past (ht ▸ hk) hf

end Entered

section
variable {w : Correspondence} {t : SocketTransport} {e : Errand}

lemma accounted_init : Accounted {} := ⟨fun _ => .unasked, forall_mem_nil _, forall_mem_nil _⟩

lemma Accounted.same (h : Accounted w) (hs : Same w.transport t) :
    Accounted ⟨t, w.asked, w.answers⟩ where
  entered k := (h.entered k).mono (hs.outstanding.filter _) (fun hk => tokens_eq hs.desk ▸ hk)
    fun e _ => calls_congr hs.desk e
  registered x hx := tokens_eq hs.desk ▸ h.registered x (derListeners_eq hs.desk ▸ hx)
  due := h.due

lemma settle_nil (asked : Ticket → Option Asked) : Correspondence.settle [] asked = asked :=
  rfl

variable {asked : Ticket → Option Asked} {x : Answer} {q : Asked} {k : Ticket}

lemma settle_self (h : asked x.ticket = some q) :
    Correspondence.settle [x] asked x.ticket = some { q with fate := .answered } := by
  simp [Correspondence.settle, h]

lemma settle_other (h : k ≠ x.ticket) : Correspondence.settle [x] asked k = asked k := by
  simp [Correspondence.settle, h.symm]

lemma Accounted.other (h : Accounted w) (hne : k ≠ e.ticket)
    (hp : (t.outstanding.filter (·.ticket = k)).Perm
      (w.transport.outstanding.filter (·.ticket = k)))
    (hm : k.Minted w.transport.tokens → k.Minted t.tokens)
    (ho : ∀ {e'}, e'.ticket ≠ e.ticket → t.calls e' = w.transport.calls e') :
    Entered t k (w.asked k) (t.outstanding.filter (·.ticket = k))
      (w.answers.filter (·.ticket = k)).length :=
  (h.entered k).mono hp hm fun _ he' => ho fun heq =>
    hne ((of_decide_eq_true (mem_filter.mp he').2).symm.trans heq)

lemma Accounted.answers (h : Accounted w) {cs : List Callback} (ha : Answers w.transport e t cs)
    {reply : Option Nat} (hre : ∀ r ∈ reply, e.requestId = some r) {answers : List Answer}
    (han : answers = (cs.filterMap Callback.answer).map fun x => ⟨x.1, w.asked x.1, x.2, reply⟩) :
    Accounted ⟨t, Correspondence.settle answers w.asked, answers ++ w.answers⟩ := by
  have he := (h.entered e.ticket).mono (ha.outstanding.filter _).symm id fun _ _ => rfl
  rw [filter_cons_of_pos (by simp)] at he
  obtain ⟨q, hq, hout, hn, hm, hf, hfi, hc⟩ := he.first
  rw [← ha.tokens] at hm
  have hother {k : Ticket} (hne : k ≠ e.ticket) := by
    have hp := ha.outstanding.filter (·.ticket = k)
    rw [filter_cons_of_neg (fun heq => hne (of_decide_eq_true heq).symm)] at hp
    exact h.other hne hp.symm (fun hk => ha.tokens ▸ hk) ha.others
  have hreg (x) (hx : x ∈ t.derListeners) : (Ticket.der x.1).Minted t.tokens :=
    ha.tokens ▸ h.registered x (ha.derListeners x hx)
  rw [ha.called, hc] at han
  by_cases hw : q.fate = .waiting
  · -- its listener is called, and its ticket is answered from now on
    have hca : q.caller = some q.listener := if_pos hw
    rw [hca] at han
    obtain ⟨x, hx, hxs⟩ : ∃ x : Answer, x = ⟨e.ticket, w.asked e.ticket, q.listener, reply⟩ ∧
      answers = [x] := ⟨_, rfl, han⟩
    have ht : x.ticket = e.ticket := congrArg Answer.ticket hx
    rw [hxs]
    refine ⟨fun k => ?_, hreg, forall_mem_cons.mpr ⟨?_, h.due⟩⟩
    · show Entered t k (Correspondence.settle [x] w.asked k) _ ((x :: w.answers).filter _).length
      rw [← ht] at hq hm hother hn hout
      by_cases hk : k = x.ticket
      · subst hk
        rw [settle_self hq, hout, filter_cons_of_pos (by simp), length_cons, hn]
        exact .past hm (by simp)
      · rw [settle_other hk, filter_cons_of_neg (fun heq => hk (of_decide_eq_true heq).symm)]
        exact hother hk
    · rw [hx]
      exact ⟨q, hq, hw, rfl, fun r hr => hfi.sent r (hre r hr)⟩
  · -- nobody is called for a request that was withdrawn
    have hca : q.caller = none := if_neg hw
    rw [hca] at han
    have hno : answers = [] := han
    rw [hno, settle_nil]
    refine ⟨fun k => ?_, hreg, h.due⟩
    by_cases hk : k = e.ticket
    · have hz : answeredOf (some q) = 0 := if_neg hf
      subst hk
      show Entered t _ (w.asked _) _ (w.answers.filter _).length
      rw [hq, hout, hn, ← hz]
      exact .past hm hw
    · exact hother hk

lemma Accounted.issued (h : Accounted w) (hou : t.outstanding.Perm (e :: w.transport.outstanding))
    (hn : ¬ e.ticket.Minted w.transport.tokens) (he : e.ticket.Minted t.tokens)
    (hm : ∀ {k : Ticket}, k.Minted w.transport.tokens → k.Minted t.tokens)
    (hf : q.fate ≠ .answered) (hfi : q.Fits e) (hc : t.calls e = q.caller)
    (ho : ∀ {e'}, e'.ticket ≠ e.ticket → t.calls e' = w.transport.calls e')
    (hr : ∀ x ∈ t.derListeners, (Ticket.der x.1).Minted t.tokens) :
    Accounted ⟨t, update w.asked e.ticket (some q), w.answers⟩ where
  entered k := by
    have hp := hou.filter (·.ticket = k)
    show Entered t k (update w.asked e.ticket (some q) k) _ _
    by_cases hk : k = e.ticket
    · subst hk
      obtain ⟨hes, hz⟩ := (h.entered e.ticket).unminted hn
      rw [filter_cons_of_pos (by simp), hes] at hp
      rw [update_self, perm_singleton.mp hp, hz]
      exact .out he hf hfi hc
    · rw [filter_cons_of_neg (fun heq => hk (of_decide_eq_true heq).symm)] at hp
      rw [update_of_ne hk]
      exact h.other hk hp hm ho
  registered := hr
  due := h.due

/-- some of the requests that wait are withdrawn, and would call nobody from now on -/
lemma Accounted.withdraw (h : Accounted w) {p : Ticket → Asked → Bool}
    (ho : t.outstanding = w.transport.outstanding)
    (ht : t.tokens = w.transport.tokens)
    (hr : ∀ x ∈ t.derListeners, x ∈ w.transport.derListeners)
    (hc : ∀ e ∈ w.transport.outstanding, ∀ q, q.Fits e →
      t.calls e = if p e.ticket q then none else w.transport.calls e) :
        Accounted ⟨t, w.withdraw p, w.answers⟩ where
  entered k := by
    rw [ho]
    refine (h.entered k).withdraw ht fun e he => ?_
    obtain ⟨hmem, hk⟩ := mem_filter.mp he
    cases of_decide_eq_true hk
    exact hc e hmem
  registered x hx := ht ▸ h.registered x (hr x hx)
  due := h.due

end

/-! ## Steps -/

/-- a listener subscribes when no request of its own for that object is still outstanding -/
def NotReused (w : Correspondence) : TransportAction → Prop
  | .subscribeProperties objectId _ listener =>
    w.transport.watches listener objectId = false →
      ∀ e ∈ w.transport.outstanding, e.isOf listener objectId = false
  | _ => True

instance (w : Correspondence) : ∀ a : TransportAction, Decidable (NotReused w a)
  | .subscribeProperties objectId _ listener =>
    inferInstanceAs (Decidable (w.transport.watches listener objectId = false →
      ∀ e ∈ w.transport.outstanding, e.isOf listener objectId = false))
  | .probe _ _ | .call _ | .configSnapshot _ | .startOperation _ _ _ _ | .unsubscribeOperation _
  | .cancelOperation _ | .unsubscribeProperties _ | .requestProperties _ _ _ _
  | .requestCertificateDer _ _ | .cancelCertificateDer _ | .readable _ | .drain | .dispatch _
  | .runQueued | .propsTimeout _ | .derTimeout _ => .isTrue trivial

section
variable {w : Correspondence} {a : TransportAction}

lemma recorded_eq (w : Correspondence) (a : TransportAction) :
    w.recorded a = ((w.transport.step a).2.filterMap Callback.answer).map
      fun x => ⟨x.1, w.asked x.1, x.2, w.transport.replying a⟩ :=
  map_filterMap.symm

lemma recorded_books (w : Correspondence) (ha : a.books = true) : w.recorded a = [] := by
  cases a with
  | requestProperties | requestCertificateDer | cancelCertificateDer | subscribeProperties
  | unsubscribeProperties => rfl
  | _ => exact nomatch ha

lemma book_of_not_books (w : Correspondence) (ha : a.books = false) : w.book a = w.asked := by
  cases a with
  | requestProperties | requestCertificateDer | cancelCertificateDer | subscribeProperties
  | unsubscribeProperties =>
    exact nomatch ha
  | _ => rfl

lemma Accounted.requestProperties (h : Accounted w) (objectId : Bytes) (kind : ObjectKind)
    (listener : Nat) (sent : Bool) :
    Accounted (w.step (.requestProperties objectId kind listener sent)) := by
  have hi := w.transport.requestProperties_issued objectId kind listener sent
  have hc (e : Errand) : (w.transport.requestProperties objectId kind listener sent).calls e =
    w.transport.calls e :=
    calls_congr hi.desk e
  have hm {k : Ticket} (hk : k.Minted w.transport.tokens) :
      k.Minted (w.transport.requestProperties objectId kind listener sent).tokens := by
    rw [tokens_eq hi.desk]
    cases k with
    | props => exact Nat.le_succ_of_le hk
    | der => exact hk
  refine h.issued hi.outstanding (Nat.not_succ_le_self _)
    ((congrArg Prod.fst (tokens_eq hi.desk)).ge) hm ?_
    ⟨rfl, rfl, fun r hr => hr⟩ ?_ (fun _ => hc _) fun x hx =>
      hm (h.registered x (derListeners_eq hi.desk ▸ hx))
  · split <;> simp
  · rw [hc, calls_props]
    unfold Asked.caller
    cases w.transport.watches listener objectId <;> rfl

lemma Accounted.requestCertificateDer (h : Accounted w) (listener : Nat) (sent : Bool) :
    Accounted (w.step (.requestCertificateDer listener sent)) := by
  have hi := w.transport.requestCertificateDer_issued listener sent
  have hd := derListeners_eq hi.desk
  have hto := congrArg Prod.snd (tokens_eq hi.desk)
  have hm {k : Ticket} (hk : k.Minted w.transport.tokens) :
      k.Minted (w.transport.requestCertificateDer listener sent).tokens := by
    rw [tokens_eq hi.desk]
    cases k with
    | props => exact hk
    | der => exact Nat.le_succ_of_le hk
  -- the new token is not registered yet
  have hu : w.transport.derListeners.find? (·.1 = w.transport.nextDerToken + 1) = none := by
    refine List.find?_eq_none.mpr fun x hx heq => ?_
    have hle : x.1 ≤ w.transport.nextDerToken := h.registered x hx
    have heq : x.1 = w.transport.nextDerToken + 1 := of_decide_eq_true heq
    omega
  refine h.issued hi.outstanding (Nat.not_succ_le_self _) hto.ge hm (by simp) (fun r hr => hr) ?_
    (fun {e} hne => ?_)
    fun x hx => ?_
  · show ((w.transport.requestCertificateDer listener sent).derListeners.find? _).map _ = _
    rw [hd]
    simp [List.find?_append, hu, Asked.caller]
  · rw [calls_congr hi.desk]
    cases e with
    | props => rfl
    | der token =>
      have ht : w.transport.nextDerToken + 1 ≠ token :=
        fun heq => hne (congrArg Ticket.der heq.symm)
      rw [calls_der, calls_der]
      simp [List.find?_append, ht]
  · rw [hd] at hx
    rcases mem_append.mp hx with hx | hx
    · exact hm (h.registered x hx)
    · rw [mem_singleton.mp hx]
      exact hto.ge

lemma Accounted.cancelCertificateDer (h : Accounted w) (token : Nat) :
    Accounted (w.step (.cancelCertificateDer token)) := by
  refine h.withdraw rfl rfl (fun x => mem_of_mem_filter) fun e _ q _ => ?_
  by_cases he : e.ticket = .der token
  · rw [if_pos (decide_eq_true he)]
    cases e with
    | props => exact nomatch he
    | der token' =>
      cases he
      rw [calls_der]
      exact congrArg _ (List.find?_eq_none.mpr fun x hx => by simpa using (mem_filter.mp hx).2)
  · rw [if_neg (fun hp => he (of_decide_eq_true hp))]
    exact calls_cancelCertificateDer he

lemma find_others {l : List PropertyWatch} {listener listener' : Nat} (hne : listener' ≠ listener) :
    (l.filter (·.listener ≠ listener)).find? (·.listener = listener') =
      l.find? (·.listener = listener') := by
  rw [List.find?_filter]
  congr 1
  funext x
  by_cases hx : x.listener = listener'
  · simp [hx, hne]
  · simp [hx]

lemma find_gone (l : List PropertyWatch) (listener : Nat) :
    (l.filter (·.listener ≠ listener)).find? (·.listener = listener) = none :=
  List.find?_eq_none.mpr fun x hx => by simpa using (mem_filter.mp hx).2

lemma Accounted.unsubscribeProperties (h : Accounted w) (listener : Nat) :
    Accounted (w.step (.unsubscribeProperties listener)) := by
  refine h.withdraw (t := w.transport.unsubscribeProperties listener) rfl rfl
    (fun _ => id) fun e _ q hf => ?_
  cases e with
  | der => rfl
  | props token objectId l requestId =>
    obtain ⟨rfl, -, -⟩ := hf
    rw [calls_props, calls_props]
    by_cases hl : q.listener = listener
    · subst hl
      have hg : (w.transport.unsubscribeProperties q.listener).watches q.listener objectId =
        false :=
        congrArg (Option.any _) (find_gone _ _)
      rw [hg]
      simp [Errand.ticket]
    · have hk : (w.transport.unsubscribeProperties listener).watches q.listener objectId =
          w.transport.watches q.listener objectId := congrArg (Option.any _) (find_others hl)
      rw [hk]
      simp [hl]

lemma Accounted.subscribeProperties (h : Accounted w) (objectId : Bytes) (kind : ObjectKind)
    (listener : Nat) (hn : NotReused w (.subscribeProperties objectId kind listener)) :
    Accounted (w.step (.subscribeProperties objectId kind listener)) := by
  refine h.withdraw (t := w.transport.subscribeProperties objectId kind listener) rfl rfl
    (fun _ => id) fun e he q hf => ?_
  cases e with
  | der => rfl
  | props token o l requestId =>
    obtain ⟨rfl, rfl, -⟩ := hf
    rw [calls_props, calls_props]
    by_cases hl : q.listener = listener
    · subst hl
      have hno : (w.transport.subscribeProperties objectId kind q.listener).watches
        q.listener q.objectId =
          decide (objectId = q.objectId) := by
        unfold watches SocketTransport.subscribeProperties
        rw [List.find?_append, find_gone]
        simp
      rw [hno]
      by_cases ho : q.objectId = objectId
      · -- a request for the object it watches: the condition says that it did so before
        have hb : w.transport.watches q.listener q.objectId = true := by
          by_contra hfa
          have hou := hn (ho ▸ Bool.not_eq_true _ ▸ hfa) _ he
          simp [Errand.isOf, ho] at hou
        rw [hb]
        simp [ho]
      · simp [ho, Ne.symm ho, Errand.ticket]
    · have hk : (w.transport.subscribeProperties objectId kind listener).watches
        q.listener q.objectId =
          w.transport.watches q.listener q.objectId := by
        unfold watches SocketTransport.subscribeProperties
        rw [List.find?_append, find_others hl]
        simp [Ne.symm hl]
      rw [hk]
      simp [hl]

lemma Accounted.step (h : Accounted w) (hno : NotReused w a) : Accounted (w.step a) := by
  cases ha : a.books with
  | true =>
    cases a with
    | requestProperties objectId kind listener sent =>
      exact h.requestProperties objectId kind listener sent
    | requestCertificateDer listener sent => exact h.requestCertificateDer listener sent
    | cancelCertificateDer token => exact h.cancelCertificateDer token
    | subscribeProperties objectId kind listener =>
      exact h.subscribeProperties objectId kind listener hno
    | unsubscribeProperties listener => exact h.unsubscribeProperties listener
    | _ => exact nomatch ha
  | false =>
    unfold Correspondence.step
    rw [book_of_not_books w ha]
    cases w.transport.step_errands ha with
    | same hs hn =>
      have hr : w.recorded a = [] := by
        rw [recorded_eq, hn]
        rfl
      rw [hr]
      exact h.same hs
    | answers e han hre => exact h.answers han hre (recorded_eq w a)

/-! ### The ids of requests -/

structure Numbered (w : Correspondence) : Prop where
  below : ∀ {k q r}, w.asked k = some q → q.sentAs = some r → r ≤ w.transport.nextRequestId
  distinct : ∀ {k k' q q' r}, w.asked k = some q → w.asked k' = some q' → q.sentAs = some r →
    q'.sentAs = some r → k = k'

def Correspondence.ticketOf (w : Correspondence) : TransportAction → Ticket
  | .requestProperties _ _ _ _ => .props (w.transport.nextPropsToken + 1)
  | _ => .der (w.transport.nextDerToken + 1)

def Correspondence.SentBefore (w : Correspondence) (a : TransportAction) (k : Ticket)
    (r : Nat) : Prop :=
  (∃ q, w.asked k = some q ∧ q.sentAs = some r) ∨
    (k = w.ticketOf a ∧ r = w.transport.nextRequestId + 1 ∧
      r ≤ (w.transport.step a).1.nextRequestId)

variable {k : Ticket} {q : Asked} {r : Nat} {sent : Bool}

lemma withdraw_sent {p : Ticket → Asked → Bool} (h : w.withdraw p k = some q)
    (hr : q.sentAs = some r) : w.SentBefore a k r := by
  obtain ⟨q₀, hq₀, rfl⟩ := map_eq_some_iff.mp h
  refine .inl ⟨q₀, hq₀, ?_⟩
  split at hr <;> exact hr

lemma sentAs_eq (h : w.sentAs sent = some r) :
    w.transport.isConnected = true ∧ sent = true ∧ r = w.transport.nextRequestId + 1 := by
  unfold Correspondence.sentAs at h
  split at h
  · rename_i hs
    obtain ⟨hc, hs⟩ := Bool.and_eq_true_iff.mp hs
    cases h
    exact ⟨hc, hs, rfl⟩
  · exact nomatch h

lemma update_sent {q₀ : Asked}
    (h : update w.asked (w.ticketOf a) (some q₀) k = some q) (hr : q.sentAs = some r)
    (hq₀ : q₀.sentAs = w.sentAs sent)
    (hn : w.transport.isConnected = true → sent = true →
      (w.transport.step a).1.nextRequestId = w.transport.nextRequestId + 1) :
        w.SentBefore a k r := by
  by_cases hk : k = w.ticketOf a
  · subst hk
    rw [update_self] at h
    cases h
    obtain ⟨hc, hs, rfl⟩ := sentAs_eq (hq₀.symm.trans hr)
    exact .inr ⟨rfl, rfl, (hn hc hs).ge⟩
  · rw [update_of_ne hk] at h
    exact .inl ⟨q, h, hr⟩

lemma book_sent (h : w.book a k = some q) (hr : q.sentAs = some r) : w.SentBefore a k r := by
  cases a with
  | requestProperties | requestCertificateDer =>
    refine update_sent h hr rfl fun hc hs => ?_
    subst hs
    exact congrArg SocketTransport.nextRequestId (if_pos hc)
  | cancelCertificateDer | subscribeProperties | unsubscribeProperties =>
    unfold Correspondence.book at h
    exact withdraw_sent h hr
  | _ => exact .inl ⟨q, h, hr⟩

lemma step_sent (h : (w.step a).asked k = some q) (hr : q.sentAs = some r) :
    w.SentBefore a k r := by
  have h : Correspondence.settle (w.recorded a) (w.book a) k = some q := h
  unfold Correspondence.settle at h
  split at h
  · obtain ⟨q₀, hq₀, rfl⟩ := map_eq_some_iff.mp h
    exact book_sent hq₀ hr
  · exact book_sent h hr

lemma Numbered.step (h : Numbered w) (a : TransportAction) : Numbered (w.step a) where
  below hk hr := by
    rcases step_sent hk hr with ⟨q, hq, hr⟩ | ⟨-, -, hle⟩
    · exact (h.below hq hr).trans (w.transport.requestId_step a)
    · exact hle
  distinct {k k' _ _ r} hk hk' hr hr' := by
    rcases step_sent hk hr with ⟨q, hq, hr⟩ | ⟨hke, hn, -⟩ <;>
      rcases step_sent hk' hr' with ⟨q', hq', hr'⟩ | ⟨hke', hn', -⟩
    · exact h.distinct hq hq' hr hr'
    · have hle := h.below hq hr
      omega
    · have hle := h.below hq' hr'
      omega
    · exact hke.trans hke'.symm

end

/-! ## Every run -/

structure AnsweredOnce (w : Correspondence) : Prop where
  /-- an answer goes to the listener of a request that waits; a reply answers the request that was
  sent under its id -/
  due : ∀ x ∈ w.answers, x.Due
  distinct : ∀ {k k' q q' r}, w.asked k = some q → w.asked k' = some q' → q.sentAs = some r →
    q'.sentAs = some r → k = k'
  /-- a request is answered once if it counts as answered, and never otherwise -/
  counted : ∀ k, (w.answers.filter (·.ticket = k)).length = answeredOf (w.asked k)
  /-- in the end each request is answered or withdrawn -/
  drained : w.transport.Drained → ∀ {k q}, w.asked k = some q → q.fate ≠ .waiting
  scheduled : w.transport.Scheduled
  /-- no listener is called by the call that makes a request -/
  outside : ∀ {a : TransportAction}, a.books = true → w.recorded a = []

lemma Accounted.answeredOnce {w : Correspondence} (h : Accounted w) (hn : Numbered w)
    (hs : w.transport.Scheduled) : AnsweredOnce w where
  due := h.due
  distinct := hn.distinct
  counted k := (h.entered k).counted
  drained hd {k q} hk := by
    have he := h.entered k
    rw [hk, hd.outstanding] at he
    exact he.waits
  scheduled := hs
  outside ha := recorded_books w ha

/-- In every run in which no address is subscribed for an object while an older request of that
address for it is out, each request is answered once or withdrawn, and its listener is called with
its own reply. -/
theorem requests_answered_once {actions : List TransportAction}
    (hnot : Along Correspondence.step NotReused {} actions) :
    AnsweredOnce (run Correspondence.step {} actions) := by
  have hs (w : Correspondence) (a : TransportAction) (hnot : NotReused w a)
      (h : Accounted w ∧ Numbered w ∧ w.transport.Scheduled) :
      Accounted (w.step a) ∧ Numbered (w.step a) ∧ (w.step a).transport.Scheduled :=
    ⟨h.1.step hnot, h.2.1.step a, h.2.2.step a⟩
  have hi : Accounted {} ∧ Numbered {} ∧ ({} : Correspondence).transport.Scheduled :=
    ⟨accounted_init, ⟨nofun, nofun⟩, absurd rfl⟩
  obtain ⟨ha, hn, hsc⟩ := run_invariant_along hs hi hnot
  exact ha.answeredOnce hn hsc

/-- two certificates and the properties of a reader: one reply, one request given up, and the
connection ends -/
def errandsOfLoss : List TransportAction :=
  [connecting 1, .subscribeProperties [1] .reader 1, .requestProperties [1] .reader 1 true,
      .requestCertificateDer 5 true,
    .requestCertificateDer 6 true, .cancelCertificateDer 2,
    .readable ⟨[.reply ⟨3, .known (.certDer [7])⟩], .peerClosed⟩,
    .drain, .dispatch {}, .dispatch {}, .dispatch {}, .dispatch {}, .dispatch {}]

theorem requests_answered_once_loss :
    Along Correspondence.step NotReused {} errandsOfLoss ∧
      AnsweredOnce (run Correspondence.step {} errandsOfLoss) :=
  ⟨by decide +kernel, requests_answered_once (by decide +kernel)⟩

/-- a listener is destroyed, and the next one at its address gets the answer -/
theorem reused_address_answered : ¬ AnsweredOnce (run Correspondence.step {}
      [connecting 1, .subscribeProperties [1] .reader 1, .requestProperties [1] .reader 1 true,
        .unsubscribeProperties 1,
        .subscribeProperties [1] .reader 1, .propsTimeout 2]) :=
  fun h => absurd h.due (by decide +kernel)

end LibreAgent.Client
