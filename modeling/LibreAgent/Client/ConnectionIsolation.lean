import LibreAgent.Client.TransportSteps

/-!
# Events of one connection

* `deliveries_isolated` : no event of an earlier connection is handed over, and an operation sees
  only events of its own, if each connection is made with no event left in the queue and no
  operation watched (`Quiet`).

Events carry no mark of their connection: `stale_event_dispatched`.
-/

namespace LibreAgent.Client

open Runs List
open Wire (DecodedEvent)

/-! ## Deliveries -/

/-- the connection an event was received on, the last one made by now, and where the operation was
started if it concerns one -/
structure Delivery where
  conn : Nat
  current : Nat
  startedOn : Option Nat

def Delivery.Isolated (d : Delivery) : Prop :=
  d.current ≤ d.conn ∧ ∀ conn ∈ d.startedOn, conn = d.conn

instance (d : Delivery) : Decidable d.Isolated :=
  inferInstanceAs (Decidable (_ ∧ _))

/-- where the operation that is called was started; `none` for the calls to other listeners -/
def SocketTransport.startedOn (s : SocketTransport) : Callback → Option (Option Nat)
  | .operation listener _ => some ((s.operationWatches.find? (·.listener = listener)).map (·.conn))
  | .propertiesChanged _ _ | .propertiesFetched _ _ _ | .certificateDer _ _ _ => none
  | .unregistered | .readerAdded _ _ | .readerRemoved _ | .cardAdded _ _ | .cardRemoved _
  | .configChanged _ => some none

def SocketTransport.deliveries (s : SocketTransport) (a : TransportAction) : List Delivery :=
  match a, s.deferred with
  | .dispatch _, .event conn _ :: _ =>
    (s.step a).2.filterMap fun c => (s.startedOn c).map fun startedOn =>
      ⟨conn, s.current, startedOn⟩
  | _, _ => []

structure Dispatching where
  transport : SocketTransport := {}
  deliveries : List Delivery := []

namespace Dispatching

def step (w : Dispatching) (a : TransportAction) : Dispatching :=
  ⟨(w.transport.step a).1, w.transport.deliveries a ++ w.deliveries⟩

end Dispatching

def DeferredItem.isEvent : DeferredItem → Bool
  | .event _ _ => true
  | _ => false

/-- a connection is made when no operation is watched and no event of the last one waits -/
def Quiet (w : Dispatching) : TransportAction → Prop
  | .probe _ _ =>
    w.transport.socket = none → w.transport.operationWatches = [] ∧
      ∀ item ∈ w.transport.deferred, item.isEvent = false
  | _ => True

instance (w : Dispatching) : ∀ a : TransportAction, Decidable (Quiet w a)
  | .probe _ _ => inferInstanceAs (Decidable (_ → _))
  | .call _ | .configSnapshot _ | .startOperation _ _ _ _ | .unsubscribeOperation _
  | .cancelOperation _ | .subscribeProperties _ _ _ | .unsubscribeProperties _
  | .requestProperties _ _ _ _ | .requestCertificateDer _ _ | .cancelCertificateDer _ | .readable _
  | .drain | .dispatch _ | .runQueued | .propsTimeout _ | .derTimeout _ => .isTrue trivial

/-! ## The queue belongs to the last connection -/

namespace SocketTransport
variable {s s' : SocketTransport}

structure Fresh (s : SocketTransport) : Prop where
  low : ∀ {conn event}, .event conn event ∈ s.deferred → s.current ≤ conn
  live : ∀ {conn}, s.socket = some conn → conn = s.current
  own : s.socket.isSome = true ∨ s.operationWatches ≠ [] →
    ∀ {conn event}, .event conn event ∈ s.deferred → conn = s.current
  watched : ∀ {watch}, watch ∈ s.operationWatches → watch.conn = s.current
  bound : s.current ≤ s.sockets

lemma Fresh.pop (h : Fresh s) {deferred : List DeferredItem}
    (hs : ∀ {conn event}, .event conn event ∈ deferred → .event conn event ∈ s.deferred) :
    Fresh { s with deferred := deferred } :=
  ⟨fun hm => h.low (hs hm), h.live, fun ho _ _ hm => h.own ho (hs hm), h.watched, h.bound⟩

variable {conn : Nat} {a : TransportAction}

lemma mem_defer_event {item : DeferredItem} {event : DecodedEvent}
    (hm : .event conn event ∈ s.deferred ++ [item]) : .event conn event ∈ s.deferred ∨
    item = .event conn event := by
  rcases mem_append.mp hm with hm | hm
  · exact .inl hm
  · exact .inr (mem_singleton.mp hm).symm

lemma Fresh.move (hm : Move s s') (h : Fresh s) : Fresh s' := by
  cases hm with
  | request | schedule | drain | config | awake => exact { h with }
  | receive conn event hso =>
    have hn : conn = s.current := h.live hso
    have ha {c : Nat} {e : DecodedEvent} (hme : .event c e ∈ s.deferred ++
      [.event (s.socket.getD 0) event]) :
        c = s.current := by
      rcases mem_defer_event hme with hold | hne
      · exact h.own (.inl (hso ▸ rfl)) hold
      · cases hne
        rw [hso]
        exact hn
    exact ⟨fun hme => (ha hme).ge, h.live, fun _ _ _ => ha, h.watched, h.bound⟩
  | reply reply =>
    have hold {c : Nat} {e : DecodedEvent} (hme : .event c e ∈ s.deferred ++ [.reply reply]) :
      .event c e ∈ s.deferred :=
      (mem_defer_event hme).resolve_right nofun
    exact ⟨fun hme => h.low (hold hme), h.live, fun ho _ _ hme => h.own ho (hold hme),
      h.watched, h.bound⟩
  | drop =>
    rcases s.dropConnection_cases with ⟨-, hs⟩ | ⟨conn, hso, ⟨-, hs⟩ | ⟨-, hs⟩⟩
    · rw [hs]
      exact h
    · rw [hs]
      exact ⟨h.low, nofun, fun _ => h.own (.inl (hso ▸ rfl)), h.watched, h.bound⟩
    · rw [hs]
      have hold {c : Nat} {e : DecodedEvent} (hme : .event c e ∈ s.deferred ++
          [.connectionLost conn s.generation s.pendingProps s.pendingDer]) :
            .event c e ∈ s.deferred :=
        (mem_defer_event hme).resolve_right nofun
      exact ⟨fun hme => h.low (hold hme), nofun, fun _ _ _ hme =>
        h.own (.inl (hso ▸ rfl)) (hold hme), h.watched,
        h.bound⟩

/-! ## A connection is made -/

/-- the socket, if one is open, and all events in the queue are of one connection -/
structure AllOf (conn : Nat) (s : SocketTransport) : Prop where
  socket : ∀ {c}, s.socket = some c → c = conn
  events : ∀ {c event}, .event c event ∈ s.deferred → c = conn

lemma AllOf.move (hm : Move s s') (h : AllOf conn s) : AllOf conn s' := by
  cases hm with
  | request | schedule | drain | config | awake => exact ⟨h.socket, h.events⟩
  | receive c event hso =>
    refine ⟨h.socket, fun hme => ?_⟩
    rcases mem_defer_event hme with hold | hn
    · exact h.events hold
    · cases hn
      exact h.socket (by rw [hso]; rfl)
  | reply reply => exact ⟨h.socket, fun hme => h.events ((mem_defer_event hme).resolve_right nofun)⟩
  | drop =>
    rcases s.dropConnection_cases with ⟨-, hs⟩ | ⟨c, -, ⟨-, hs⟩ | ⟨-, hs⟩⟩
    · rw [hs]
      exact h
    · rw [hs]
      exact ⟨nofun, h.events⟩
    · rw [hs]
      exact ⟨nofun, fun hme => h.events ((mem_defer_event hme).resolve_right nofun)⟩

lemma Fresh.connect (h : Fresh s) (hw : s.operationWatches = [])
    (he : ∀ item ∈ s.deferred, item.isEvent = false)
    (dial : Dial) : Fresh (s.connectAndHandshake dial).1 := by
  rcases s.connectAndHandshake_cases dial with hn | ⟨s₁, hm, hd⟩
  · rw [hn]
    exact h
  have hk := hm.kept
  have ha : AllOf (s.sockets + 1) s₁ := by
    refine hm.keeps AllOf.move ⟨fun hs => (Option.some.inj hs).symm, fun hme => ?_⟩
    exact nomatch he _ hme
  have hno : s₁.operationWatches = [] := hk.operationWatches.trans hw
  rcases hd with ⟨features, hd⟩ | hd
  · rw [hd]
    refine ⟨fun hme => (ha.events hme).ge, ha.socket, fun _ _ _ => ha.events, fun hme => ?_, ?_⟩
    · exact nomatch hno ▸ hme
    · exact hk.sockets.ge
  · rw [hd]
    have hc : s₁.current ≤ s.sockets := hk.current.trans_le h.bound
    refine ⟨fun hme => ?_, nofun, fun ho => ?_, fun hme => ?_, ?_⟩
    · have hco := ha.events hme
      show s₁.current ≤ _
      omega
    · exact absurd hno (ho.resolve_left nofun)
    · exact nomatch hno ▸ hme
    · have hso : s₁.sockets = s.sockets + 1 := hk.sockets
      show s₁.current ≤ s₁.sockets
      omega

/-! ## Every step -/

lemma Fresh.startAndSubscribe (h : Fresh s) (credentials : Bool) (kind : OperationKind)
    (listener : Nat) (x : Exchange) : Fresh (s.startAndSubscribe credentials kind listener x) := by
  obtain ⟨s₁, hm, hd | ⟨op, conn, hs, hd⟩⟩ := s.startAndSubscribe_cases credentials kind listener x
  · rw [hd]
    exact hm.keeps Fresh.move h
  rw [hd]
  have hf : Fresh s₁ := hm.keeps Fresh.move h
  have hc : s₁.current = s.current := hm.kept.current
  -- the connection was open, so what is in the queue belongs to it even if it is gone by now
  have ha : AllOf s.current s₁ := hm.keeps AllOf.move ⟨h.live, h.own (.inl (hs ▸ rfl))⟩
  refine ⟨hf.low, hf.live, fun _ _ _ hme => (ha.events hme).trans hc.symm, fun hme => ?_, hf.bound⟩
  rcases mem_append.mp hme with hme | hme
  · exact hf.watched (mem_of_mem_filter hme)
  · rw [mem_singleton.mp hme]
    exact (h.live hs).trans hc.symm

lemma Fresh.part (hp : Part s s') (h : Fresh s) : Fresh s' := by
  cases hp with
  | move hm => exact h.move hm
  | books hb =>
    refine ⟨fun hme => ?_, fun hs => ?_, fun ho _ _ hme => ?_, fun hme => ?_, ?_⟩
    · rw [hb.current]
      exact h.low (hb.deferred ▸ hme)
    · rw [hb.current]
      exact h.live (hb.socket ▸ hs)
    · rw [hb.current]
      rw [hb.socket, hb.operationWatches] at ho
      exact h.own ho (hb.deferred ▸ hme)
    · rw [hb.current]
      exact h.watched (hb.operationWatches ▸ hme)
    · rw [hb.current, hb.sockets]
      exact h.bound
  | unwatch listener =>
    have hw (hne : (s.unsubscribeOperation listener).operationWatches ≠ []) :
      s.operationWatches ≠ [] := by
      intro hn
      refine hne ?_
      show s.operationWatches.filter _ = []
      rw [hn]
      rfl
    exact ⟨h.low, h.live, fun ho => h.own (ho.imp_right hw), fun hme =>
      h.watched (mem_of_mem_filter hme), h.bound⟩
  | idle => exact { h with }
  | pop hf => exact h.pop fun hme => hf ▸ mem_cons_of_mem _ hme
  | lighten hf =>
    -- the notice in front is no event
    refine h.pop fun hme => ?_
    exact hf ▸ mem_cons_of_mem _ ((mem_cons.mp hme).resolve_left nofun)

lemma Fresh.step (h : Fresh s) {log : List Delivery} (hq : Quiet ⟨s, log⟩ a) :
    Fresh (s.step a).1 := by
  rcases s.step_parts a with ⟨dial, x, rfl⟩ | ⟨credentials, kind, listener, x, rfl⟩ | hp
  · show Fresh (s.probeAvailability dial x).1
    rcases s.probe_cases dial x with ⟨-, hm⟩ | ⟨hs, hd⟩
    · exact hm.keeps Fresh.move h
    · obtain ⟨hw, he⟩ := hq hs
      rw [hd]
      exact h.connect hw he dial
  · exact h.startAndSubscribe credentials kind listener x
  · exact hp.keeps Fresh.part h

lemma fresh_init : Fresh {} := ⟨nofun, nofun, fun _ => nofun, nofun, le_rfl⟩

lemma Fresh.isolated (h : Fresh s) {d : Delivery} (hd : d ∈ s.deliveries a) : d.Isolated := by
  unfold deliveries at hd
  split at hd
  · rename_i x conn event rest hf
    have hm : .event conn event ∈ s.deferred := hf ▸ mem_cons_self
    obtain ⟨c, -, hc⟩ := mem_filterMap.mp hd
    obtain ⟨startedOn, hst, rfl⟩ := Option.map_eq_some_iff.mp hc
    refine ⟨h.low hm, fun started hs => ?_⟩
    -- only a call to an operation listener says where the operation was started
    cases c with
    | operation listener event =>
      cases hst
      obtain ⟨watch, hw, rfl⟩ := Option.map_eq_some_iff.mp hs
      have hin : watch ∈ s.operationWatches := mem_of_find?_eq_some hw
      rw [h.watched hin]
      exact (h.own (.inr (ne_nil_of_mem hin)) hm).symm
    | _ => cases hst <;> cases hs
  · exact absurd hd not_mem_nil

end SocketTransport

open SocketTransport

/-- In every run in which connections are made with no event left to dispatch and no operation
watched, each event is handed over before a newer connection is made, and to operations of its own
connection only. -/
theorem deliveries_isolated {actions : List TransportAction}
    (hquiet : Along Dispatching.step Quiet {} actions) :
    ∀ d ∈ (run Dispatching.step {} actions).deliveries, d.Isolated := by
  have hs (w : Dispatching) (a : TransportAction) (hw : Quiet w a)
      (h : Fresh w.transport ∧ ∀ d ∈ w.deliveries, d.Isolated) :
      Fresh (w.step a).transport ∧ ∀ d ∈ (w.step a).deliveries, d.Isolated := by
    refine ⟨h.1.step hw, fun d hd => ?_⟩
    rcases mem_append.mp hd with hd | hd
    · exact h.1.isolated hd
    · exact h.2 d hd
  have hi : Fresh ({} : Dispatching).transport ∧ ∀ d ∈ ({} : Dispatching).deliveries, d.Isolated :=
    ⟨fresh_init, nofun⟩
  exact (run_invariant_along hs hi hquiet).2

def oneFrame (frame : Frame) (status : PumpStatus := .ok) : Exchange :=
  { polls := [.ready ⟨[frame], status⟩] }

def connecting (requestId : UInt64) : TransportAction :=
  .probe { hello := oneFrame (.reply ⟨requestId, .known (.helloAck [] [])⟩) } {}

def sleepAndClose : List TransportAction :=
  [connecting 1, .call (oneFrame (.event (.known (.agentQuiesced ⟨0⟩))) .peerClosed)]

/-- everything is dispatched before the next connection, on which an operation is started and makes
progress -/
def dispatchedFirst : List TransportAction :=
  sleepAndClose ++ [.drain, .dispatch {}, .dispatch {}, .dispatch {}, connecting 3,
    .startOperation false .identity 1 (oneFrame (.reply ⟨4, .known (.opStarted 7)⟩)),
    .readable ⟨[.event (.known (.opProgress 7 .reading))], .ok⟩, .dispatch {}]

theorem deliveries_isolated_sleep : Along Dispatching.step Quiet {} dispatchedFirst ∧
      ∀ d ∈ (run Dispatching.step {} dispatchedFirst).deliveries, d.Isolated :=
  ⟨by decide +kernel, deliveries_isolated (by decide +kernel)⟩

/-- the event of the first connection is handed over after the second one has been made -/
theorem stale_event_dispatched :
    ¬ ∀ d ∈ (run Dispatching.step {} (sleepAndClose ++ [connecting 3, .drain,
      .dispatch {}])).deliveries, d.Isolated := by
  decide +kernel

end LibreAgent.Client
