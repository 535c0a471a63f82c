import LibreAgent.Client.ConnectionLoss
import LibreAgent.Client.RegistryView

/-!
# The client's registry and the agent's

* `registry_converges` : on one connection, once no event waits, the client's readers and cards are
  the agent's, with their properties, if the queue is dispatched only while no reconcile is under
  way.

A reconcile calls consumers between its removals and its additions.  An event loop that runs there
may dispatch the removal of a card which the reconcile then adds again: `registry_revives`.
-/

namespace LibreAgent.Client

open Runs SocketTransport List
open Wire (DecodedEvent)

/-! ## The stream -/

def DeferredItem.event? : DeferredItem → Option DecodedEvent
  | .event _ e => some e
  | .reply _ | .connectionLost _ _ _ _ => none

/-- the agent goes on, and properties have their own types -/
def Regular : DecodedEvent → Prop
  | .known (.agentQuiesced _) => False
  | .known (.propertyChanged e) => ∀ k : ObjectKind, e.iface = k.iface → k.Typed e.props.entries
  | _ => True

namespace SocketTransport
variable {s s' : SocketTransport}

/-- the events that are not dispatched yet -/
def waiting (s : SocketTransport) : List DecodedEvent :=
  s.deferred.filterMap (·.event?)

/-- no connection was made but the one that is open, and its events are regular -/
structure First (s : SocketTransport) : Prop where
  only : s.socket = some 1 ∨ s.sockets = 0
  regular : ∀ e ∈ s.received, Regular e

lemma First.before {more : List DecodedEvent} (h : First s') (hs : s'.sockets = s.sockets)
    (hso : s'.socket = s.socket ∨ s'.socket = none) (hr : s'.received = s.received ++ more) :
    First s where
  only := by
    rcases h.only with ho | ho
    · rcases hso with hso | hso
      · exact .inl (hso.symm.trans ho)
      · exact nomatch hso.symm.trans ho
    · exact .inr (hs.symm.trans ho)
  regular e he := h.regular e (hr ▸ mem_append_left _ he)

lemma waiting_defer (s : SocketTransport) (item : DeferredItem) :
    (s.defer item).waiting = s.waiting ++ item.event?.toList := by
  show (s.deferred ++ [item]).filterMap _ = _
  rw [filterMap_append]
  cases item <;> rfl

/-- what is received waits -/
lemma Move.grows (h : Move s s') :
    ∃ more, s'.received = s.received ++ more ∧ s'.waiting = s.waiting ++ more := by
  have hn (l : List DecodedEvent) : l = l ++ [] := (append_nil l).symm
  cases h with
  | receive conn event => exact ⟨[event], rfl, waiting_defer _ _⟩
  | reply reply => exact ⟨[], hn _, waiting_defer s _⟩
  | drop =>
    refine ⟨[], ?_⟩
    rcases s.dropConnection_cases with ⟨-, hs⟩ | ⟨conn, -, ⟨-, hs⟩ | ⟨-, hs⟩⟩ <;> rw [hs]
    · exact ⟨hn _, hn _⟩
    · exact ⟨hn _, hn _⟩
    · exact ⟨hn _, waiting_defer _ _⟩
  | request | schedule | drain | config | awake => exact ⟨[], hn _, hn _⟩

lemma Moves.grows (h : Moves s s') :
    ∃ more, s'.received = s.received ++ more ∧ s'.waiting = s.waiting ++ more := by
  induction h with
  | refl => exact ⟨[], (append_nil _).symm, (append_nil _).symm⟩
  | tail _ hm ih =>
    obtain ⟨more, hr, hw⟩ := ih
    obtain ⟨more', hr', hw'⟩ := hm.grows
    exact ⟨more ++ more', by rw [hr', hr, append_assoc], by rw [hw', hw, append_assoc]⟩

lemma dispatchAsyncReply_aloof (s : SocketTransport) (reply : Wire.DecodedReply) :
    Aloof s (s.dispatchAsyncReply reply).1 := by
  unfold dispatchAsyncReply
  split
  · constructor <;> rfl
  · split
    · exact { answerDer_aloof { s with pendingDer := _ } _ _ with }
    · constructor <;> rfl

/-- what a fetch brings is the agent's state at a place in the stream after the request -/
def Placed (s : SocketTransport) (x : Exchange) : Prop :=
  ∀ readers cards, (s.fetchRegistry x).2 = some (readers, cards) →
    ∃ past, s.received <+: past ∧ past <+: (s.fetchRegistry x).1.received ∧
      RegistrySnapshot.Shows ⟨readers, cards⟩ past

end SocketTransport

/-! ## Work -/

def Work.isReconcile : Work → Bool
  | .reconcile _ _ => true
  | .terminate _ _ | .deleteCard _ | .clearRegistry => false

/-- a reconcile brings nothing but what the agent had when the events that wait began, or later -/
def Work.Sound (s : SocketTransport) : Work → Prop
  | .terminate _ _ | .deleteCard _ => True
  | .clearRegistry => False
  | .reconcile gone snapshot =>
    (∃ past new, s.received = past ++ new ∧ new <:+ s.waiting ∧ snapshot.Shows past) ∧
      ∀ id ∈ gone, ∀ v, (id, v) ∉ snapshot.entries .card

lemma Work.Sound.grows {s s' : SocketTransport} {work : Work} (h : work.Sound s)
    {more : List DecodedEvent} (hr : s'.received = s.received ++ more)
    (hw : s'.waiting = s.waiting ++ more) : work.Sound s' := by
  cases work with
  | terminate | deleteCard => trivial
  | clearRegistry => exact h
  | reconcile gone snapshot =>
    obtain ⟨⟨past, new, hp, ⟨seen, hs⟩, hsh⟩, hg⟩ := h
    refine ⟨⟨past, new ++ more, ?_, ⟨seen, ?_⟩, hsh⟩, hg⟩
    · rw [hr, hp, append_assoc]
    · rw [hw, ← hs, append_assoc]

namespace AgentClient
variable {qt : QVariants} {c c' : AgentClient} {k : ObjectKind} {id : Bytes} {props : Props}
  {x : Exchange} {s s' : SocketTransport} {item : DeferredItem} {rest : List DeferredItem}
  {snapshot : RegistrySnapshot}

/-! ## The invariant -/

/-- the client on its only connection -/
structure Attached (c : AgentClient) : Prop extends Watched c where
  counted : c.transport.socket ≠ none → c.transport.sockets ≠ 0
  fresh : c.transport.sockets = 0 → c.available = false
  awake : c.transport.quiesced = false
  lossless : c.transport.notices = []
  stream : c.transport.waiting <:+ c.transport.received
  sound : ∀ work ∈ c.todo, work.Sound c.transport

/-- with the events that wait, the client's registry becomes the agent's -/
structure Synced (c : AgentClient) : Prop extends Attached c where
  mirrored : ∀ k id, c.transport.waiting.foldl (k.after id) (c.view k id) =
    agentObject k c.transport.received id

def Follows (c : AgentClient) : Prop :=
  First c.transport → Synced c

lemma Synced.transport (h : Synced c) {more : List DecodedEvent}
    (hr : s.received = c.transport.received ++ more) (hw : s.waiting = c.transport.waiting ++ more)
    (hp : s.propertyWatches = c.transport.propertyWatches) (hc : s.socket ≠ none → s.sockets ≠ 0)
    (hs : s.sockets = 0 → c.transport.sockets = 0) (hq : s.quiesced = false) (hn : s.notices = []) :
    Synced { c with transport := s } where
  toWatched := h.toWatched.mono hp le_rfl (fun _ o ho => ⟨o, ho, rfl, rfl⟩) fun _ ht => ht
  counted := hc
  fresh h0 := h.fresh (hs h0)
  awake := hq
  lossless := hn
  stream := by
    obtain ⟨past, hpast⟩ := h.stream
    exact ⟨past, by rw [hw, hr, ← hpast, append_assoc]⟩
  sound work hm := (h.sound work hm).grows hr hw
  mirrored k id := by
    show s.waiting.foldl _ (c.view k id) = _
    rw [hw, foldl_append, h.mirrored, agentObject, ← foldl_append, ← hr]
    rfl

lemma Follows.move (hm : Move s s') (h : Follows { c with transport := s }) :
    Follows { c with transport := s' } := by
  obtain ⟨more, hr, hw⟩ := hm.grows
  intro hf
  have hy := h (hf.before hm.kept.sockets hm.kept.socket hr)
  cases hm with
  | drop =>
    rcases s.dropConnection_cases with ⟨-, hs⟩ | ⟨conn, hso, hs⟩
    · rw [hs]
      exact hy
    · -- without its connection, the client would be on none yet
      have hno : s.dropConnection.socket = none := by
        rcases hs with ⟨-, hs⟩ | ⟨-, hs⟩ <;> exact congrArg (·.socket) hs
      rcases hf.only with ho | ho
      · exact nomatch hno.symm.trans ho
      · exact absurd (s.dropConnection_kept.sockets.symm.trans ho)
          (hy.counted (hso ▸ Option.some_ne_none conn))
  | receive | reply =>
    exact hy.transport hr hw rfl hy.counted id hy.awake
      ((notices_defer _ _).trans ((append_nil _).trans hy.lossless))
  | awake => exact hy.transport hr hw rfl hy.counted id rfl hy.lossless
  | request | schedule | drain | config =>
    exact hy.transport hr hw rfl hy.counted id hy.awake hy.lossless

lemma Follows.moves (h : Follows c) (hm : Moves c.transport s) :
    Follows { c with transport := s } :=
  hm.keeps (P := fun s => Follows { c with transport := s }) Follows.move h

lemma Follows.aloof (ha : Aloof s s') (h : Follows { c with transport := s }) :
    Follows { c with transport := s' } := by
  intro hf
  have hr : s'.received = s.received ++ [] := ha.received.trans (append_nil _).symm
  have hy := h (hf.before ha.sockets (.inl ha.socket) hr)
  refine hy.transport hr ?_ ha.propertyWatches ?_ ?_ (ha.quiesced.trans hy.awake) ?_
  · rw [append_nil, waiting, ha.deferred]
    rfl
  · rw [ha.socket, ha.sockets]
    exact hy.counted
  · rw [ha.sockets]
    exact fun h0 => h0
  · rw [notices, ha.deferred]
    exact hy.lossless

lemma Follows.aside (h : Follows c) {a : TransportAction} (ha : a.aside = true) :
    Follows { c with transport := (c.transport.step a).1 } :=
  aside_keeps (P := fun s => Follows { c with transport := s }) Follows.move Follows.aloof h ha

lemma Follows.beside (h : Follows c) (hb : Beside c c') : Follows c' := by
  refine hb.keeps (fun hp h => ?_) h
  cases hp with
  | transport a ha => exact h.aside ha
  | operation => exact fun hf => { h hf with }

lemma Follows.destroyOperations (h : Follows c) (p : ClientOperation → Bool) :
    Follows (c.destroyOperations p) := by
  have hd := destroyOperations_keeps (P := fun s => Follows { c with transport := s })
    (fun _ => Follows.aloof (by constructor <;> rfl))
    (fun _ => Follows.aloof (by constructor <;> rfl)) p h
  exact fun hf => { hd hf with }

lemma Follows.mint (h : Follows { c with transport := s }) (card : Option Nat)
    (operation : AgentOperation) (operationId : Option UInt64) (conn : Option Nat) :
    Follows (c.mint s card operation operationId conn) := by
  intro hf
  have hy := h hf
  exact { hy with
    toWatched := hy.toWatched.mono rfl (Nat.le_succ _) (fun _ o ho => ⟨o, ho, rfl, rfl⟩)
      fun _ ht => ht }

/-! ## Changes of the registry -/

/-- the registry differs, and what is new on the stack is sound whatever waits -/
structure Edits (c c' : AgentClient) : Prop where
  transport : ∃ watches, c'.transport = { c.transport with propertyWatches := watches }
  available : c'.available = c.available
  todo : ∀ work ∈ c'.todo, work ∈ c.todo ∨ ∀ s, work.Sound s

lemma edits_addObject (qt : QVariants) (c : AgentClient) (k : ObjectKind) (id : Bytes)
    (props : Props) : Edits c (c.addObject qt k id props) := by
  unfold addObject
  split <;> exact ⟨⟨_, rfl⟩, rfl, fun _ => .inl⟩

lemma edits_removeReader (c : AgentClient) (id : Bytes) : Edits c (c.removeReader id) := by
  unfold removeReader
  split <;> exact ⟨⟨_, rfl⟩, rfl, fun _ => .inl⟩

lemma edits_removeCard (c : AgentClient) (id : Bytes) : Edits c (c.removeCard id) := by
  unfold removeCard
  split
  · exact ⟨⟨_, rfl⟩, rfl, fun _ => .inl⟩
  · refine ⟨⟨_, rfl⟩, rfl, fun work hm => ?_⟩
    rcases mem_append.mp hm with hm | hm
    · obtain ⟨operation, -, rfl⟩ := mem_map.mp hm
      exact .inr fun _ => trivial
    · rcases mem_cons.mp hm with rfl | hm
      · exact .inr fun _ => trivial
      · exact .inl hm

lemma Attached.edited (h : Attached c) (he : Edits c c') (hw : Watched c') : Attached c' := by
  obtain ⟨watches, ht⟩ := he.transport
  refine ⟨hw, ?_, ?_, ?_, ?_, ?_, fun work hm => ?_⟩ <;> rw [ht]
  · exact h.counted
  · exact fun h0 => he.available.trans (h.fresh h0)
  · exact h.awake
  · exact h.lossless
  · exact h.stream
  · rcases he.todo work hm with hm | hs
    · exact h.sound work hm
    · exact hs _

/-- An object may be taken over as it was after a part of the events that wait: when they are
dispatched, that part comes again. -/
lemma Synced.past (h : Synced c) {past new : List DecodedEvent}
    (hr : c.transport.received = past ++ new) (hn : new <:+ c.transport.waiting) (k : ObjectKind)
    (id : Bytes) : c.transport.waiting.foldl (k.after id) (agentObject k past id) =
      agentObject k c.transport.received id := by
  obtain ⟨done, hd⟩ := h.stream
  obtain ⟨seen, hs⟩ := hn
  have hp : past = done ++ seen := by
    refine append_cancel_right (?_ : past ++ new = _ ++ new)
    rw [← hr, ← hd, ← hs, append_assoc]
  rw [hp, ← hd, agentObject, agentObject, foldl_append, foldl_append]
  exact (k.after_absorbs id).replay (hs ▸ subset_append_left seen new) _

lemma Synced.shown (h : Synced c) {gone : List Bytes}
    (hs : (Work.reconcile gone snapshot).Sound c.transport) (he : Edits c c') (hw : Watched c')
    {o : Option k.Fields} (hv : c'.view = setAt c.view k id o)
    (ho : ∀ v, (id, v) ∈ snapshot.entries k ↔ o = some v) :
    Synced c' ∧ (Work.reconcile gone snapshot).Sound c'.transport := by
  obtain ⟨past, new, hr, hn, hsh⟩ := hs.1
  have heq : o = agentObject k past id :=
    Option.ext fun v => (ho v).symm.trans (hsh k id v)
  obtain ⟨watches, ht⟩ := he.transport
  refine ⟨{ h.toAttached.edited he hw with mirrored := ?_ }, ht ▸ hs⟩
  rw [ht, hv]
  exact forall_setAt (P := fun k id o => c.transport.waiting.foldl (k.after id) o =
    agentObject k c.transport.received id) (heq ▸ h.past hr hn k id) fun k id _ => h.mirrored k id

/-! ## Work -/

lemma Edits.first (h : Edits c c') (hf : First c'.transport) : First c.transport := by
  obtain ⟨watches, ht⟩ := h.transport
  rw [ht] at hf
  exact ⟨hf.only, hf.regular⟩

lemma Follows.finishReconcile (hqt : qt.Lawful)
    (h : First c.transport → Synced c ∧ (Work.reconcile [] snapshot).Sound c.transport) :
    Follows (c.finishReconcile qt snapshot) := by
  have ha {s : SocketTransport} {k : ObjectKind} {id : Bytes} {v : k.Fields}
      (hs : (Work.reconcile [] snapshot).Sound s) (hm : (id, v) ∈ snapshot.entries k)
      (v' : k.Fields) : (id, v') ∈ snapshot.entries k ↔ some v = some v' := by
    obtain ⟨past, new, -, -, hsh⟩ := hs.1
    rw [hsh, (hsh k id v).mp hm]
  refine fun hf => (finishReconcile_keeps (P := fun c => First c.transport → Synced c ∧
    (Work.reconcile [] snapshot).Sound c.transport)
    (fun {c} id hn h hf => ?_) (fun {c} card hm h hf => ?_) (fun {c} reader hm h hf => ?_) h hf).1
  · have he := edits_removeReader c id
    obtain ⟨hy, hs⟩ := h (he.first hf)
    refine hy.shown hs he (hy.removeReader id) (view_removeReader c id) fun v =>
      iff_of_false (fun hm => ?_) (Option.some_ne_none v).symm
    obtain ⟨reader, hreader, heq⟩ := mem_map.mp hm
    exact hn reader hreader (congrArg Prod.fst heq)
  · have he := edits_addObject qt c .card card.handle (cardProps card)
    obtain ⟨hy, hs⟩ := h (he.first hf)
    exact hy.shown hs he (hy.addObject qt _ _ _)
      (view_addObject c _ fun f => applyProps_cardProps hqt f card) (ha hs (mem_map_of_mem hm))
  · have he := edits_addObject qt c .reader reader.handle (readerProps reader)
    obtain ⟨hy, hs⟩ := h (he.first hf)
    exact hy.shown hs he (hy.addObject qt _ _ _)
      (view_addObject c _ fun f => applyProps_readerProps hqt f reader) (ha hs (mem_map_of_mem hm))

lemma Synced.stack (h : Synced c) {todo : List Work}
    (hd : ∀ card, .deleteCard card ∈ todo → .deleteCard card ∈ c.todo)
    (hs : ∀ work ∈ todo, work.Sound c.transport) : Synced { c with todo := todo } :=
  { h with
    toWatched := h.toWatched.mono rfl le_rfl (fun _ o ho => ⟨o, ho, rfl, rfl⟩) hd
    sound := hs }

lemma Synced.pop (h : Synced c) {work : Work} {todo : List Work} (ht : c.todo = work :: todo) :
    Synced { c with todo := todo } :=
  h.stack (fun _ hm => ht ▸ mem_cons_of_mem _ hm) fun work hm =>
    h.sound work (ht ▸ mem_cons_of_mem _ hm)

lemma Synced.reconcile (h : Synced c) {gone : List Bytes}
    (hs : (Work.reconcile gone snapshot).Sound c.transport) :
    Synced { c with todo := .reconcile gone snapshot :: c.todo } :=
  h.stack (fun _ hm => (mem_cons.mp hm).resolve_left (by simp)) (forall_mem_cons.mpr ⟨hs, h.sound⟩)

lemma Follows.work (h : Follows c) (hqt : qt.Lawful) : Follows (c.work qt) := by
  unfold AgentClient.work
  split
  · exact h
  · next ht => exact fun hf => { (h hf).pop ht with }
  · next card todo ht =>
    refine Follows.destroyOperations (fun hf => ?_) _
    have hy := h ⟨hf.only, hf.regular⟩
    have hpo := hy.pop ht
    have hdo := (hy.doomed card (ht ▸ mem_cons_self)).2
    exact { hpo with toWatched := hpo.toWatched.unsubscribed hdo }
  · next ht =>
    -- nothing is cleared on the only connection
    intro hf
    have hc : First c.clearRegistry.transport → First c.transport := by
      refine foldl_keeps (P := fun s => First s → First c.transport)
        (f := fun s address => s.unsubscribeProperties address)
        (fun _ hs hf => hs ⟨hf.only, hf.regular⟩) _ ?_
      exact destroyOperations_keeps (P := fun s => First s → First c.transport)
        (fun _ hs hf => hs ⟨hf.only, hf.regular⟩) (fun _ hs hf => hs ⟨hf.only, hf.regular⟩) _ id
    exact False.elim ((h (hc hf)).sound .clearRegistry (ht ▸ mem_cons_self))
  · next ht =>
    exact Follows.finishReconcile hqt fun hf =>
      ⟨(h hf).pop ht, (h hf).sound _ (ht ▸ mem_cons_self)⟩
  · next id gone snapshot todo ht =>
    intro hf
    have he := edits_removeCard { c with todo := .reconcile gone snapshot :: todo } id
    have hy := h (he.first hf)
    obtain ⟨hsh, hg⟩ := hy.sound _ (ht ▸ mem_cons_self)
    have hr := (hy.pop ht).reconcile ⟨hsh, fun id hm => hg id (mem_cons_of_mem _ hm)⟩
    exact (hr.shown ⟨hsh, hg⟩ he (hr.removeCard id) (view_removeCard _ id) fun v =>
      iff_of_false (hg id mem_cons_self v) (Option.some_ne_none v).symm).1

/-! ## Events -/

lemma after_write {view : (k : ObjectKind) → Bytes → Option k.Fields} {e : DecodedEvent}
    {change : ObjectKind.Change k.Fields} (hw : k.write e = some (id, change))
    (hn : ∀ k', k' ≠ k → k'.write e = none) :
    setAt view k id (k.change (view k id) change) = fun k id => k.after id (view k id) e := by
  funext k' id'
  refine forall_setAt (P := fun k id o => o = k.after id (view k id) e) ?_ (fun k' id' hne => ?_)
    k' id'
  · simp [ObjectKind.after, ObjectKind.effect, hw]
  · by_cases hk : k' = k
    · subst hk
      have hid : id' ≠ id := fun hid => hne ⟨rfl, hid⟩
      simp [ObjectKind.after, ObjectKind.effect, hw, hid, ObjectKind.change]
    · rw [ObjectKind.after, ObjectKind.effect, hn k' hk]
      rfl

lemma after_propertyChanged (k : ObjectKind) (id : Bytes) (o : Option k.Fields)
    (e : Wire.PropertyChanged) : k.after id o (.known (.propertyChanged e)) =
      if id = e.handle ∧ e.iface = k.iface then o.map (k.patch · e.props.entries) else o := by
  have hw : k.write (.known (.propertyChanged e)) =
      if e.iface = k.iface then some (e.handle, .patch e.props.entries) else none := by
    cases k <;> rfl
  rw [ObjectKind.after, ObjectKind.effect, hw]
  grind [ObjectKind.change]

lemma edits_propertiesChanged (c : AgentClient) (watches : List PropertyWatch) (props : Props) :
    Edits c ((watches.map fun watch => .propertiesChanged watch.listener props).foldl
      (handle qt x none) c) := by
  rw [foldl_map]
  refine foldl_keeps (P := Edits c) (fun _ he => ?_) _ ⟨⟨_, rfl⟩, rfl, fun _ => .inl⟩
  exact ⟨he.transport, he.available, he.todo⟩

lemma Watched.propertyChanged (h : Watched c) (hqt : qt.Lawful) (x : Exchange) (lost : Option Nat)
    {e : Wire.PropertyChanged} (hc : c' = ((c.transport.propertyTargets e.handle e.iface).map
      fun watch => .propertiesChanged watch.listener e.props.entries).foldl (handle qt x lost) c) :
    Watched c' ∧ (Regular (.known (.propertyChanged e)) →
      c'.view = fun k id => k.after id (c.view k id) (.known (.propertyChanged e))) := by
  rw [h.told] at hc
  subst hc
  refine ⟨h.mono rfl le_rfl (fun k o hm => ?_) fun _ hm => hm, fun hr => ?_⟩
  · obtain ⟨o', hm', rfl⟩ := mem_map.mp hm
    exact ⟨o', hm', by split <;> exact ⟨rfl, rfl⟩⟩
  · funext k id
    rw [after_propertyChanged]
    refine (trackedAt_map (p := id = e.handle ∧ e.iface = k.iface)
      (k.applyProps qt · e.props.entries) fun o _ hid => by rw [hid]).trans ?_
    split
    · next hi =>
      exact congrArg (Option.map · _) (funext fun v => applyProps_typed hqt k v (hr k hi.2))
    · rfl

lemma Attached.dispatched (h : Attached c) (hf : c.transport.deferred = item :: rest)
    (hr : ∀ work ∈ c.todo, work.isReconcile = false) :
    Attached { c with transport := { c.transport with deferred := rest } } := by
  have hs : rest <:+ c.transport.deferred := hf ▸ suffix_cons item rest
  refine { h with lossless := ?_, stream := (hs.filterMap _).trans h.stream, sound := ?_ }
  · exact suffix_nil.mp (h.lossless ▸ hs.filterMap _)
  · intro work hm
    have hso := h.sound work hm
    have hre := hr work hm
    cases work with
    | terminate | deleteCard => trivial
    | clearRegistry => exact hso
    | reconcile => exact nomatch hre

lemma Synced.regular (h : Synced c) (hf : First c.transport) (hm : item ∈ c.transport.deferred) :
    ∀ e ∈ item.event?, Regular e :=
  fun e he => hf.regular e (h.stream.subset (mem_filterMap.mpr ⟨item, hm, he⟩))

section
variable (h : Follows c)
include h

/-- an item is taken off the queue, and the registry changes as its event says -/
lemma Follows.popped (hd : c.transport.deferred = item :: rest)
    (hr : ∀ work ∈ c.todo, work.isReconcile = false)
    {c₀ : AgentClient} (hc : c₀ = { c with transport := { c.transport with deferred := rest } })
    (he : Edits c₀ c') (hw : Watched c₀ → Watched c')
    (hv : Watched c₀ → (∀ e ∈ item.event?, Regular e) →
      c'.view = fun k id => item.event?.toList.foldl (k.after id) (c₀.view k id)) : Follows c' := by
  subst hc
  intro hf
  have hf := he.first hf
  have hf : First c.transport := ⟨hf.only, hf.regular⟩
  have hy := h hf
  have ha := hy.toAttached.dispatched hd hr
  obtain ⟨watches, ht⟩ := he.transport
  refine { ha.edited he (hw ha.toWatched) with mirrored := fun k id => ?_ }
  have hwa : c.transport.waiting = item.event?.toList ++ rest.filterMap (·.event?) := by
    rw [waiting, hd]
    cases item <;> rfl
  have hm := hy.mirrored k id
  rw [hwa, foldl_append] at hm
  rw [ht, hv ha.toWatched (hy.regular hf (hd ▸ mem_cons_self))]
  exact hm

lemma Follows.event (hqt : qt.Lawful) {conn : Nat} {event : DecodedEvent}
    (hd : c.transport.deferred = .event conn event :: rest)
    (hr : ∀ work ∈ c.todo, work.isReconcile = false) (x : Exchange) :
    Follows ((dispatchEvent { c.transport with deferred := rest } x event).2.foldl
      (handle qt x none)
      { c with transport := (dispatchEvent { c.transport with deferred := rest } x event).1 }) := by
  obtain ⟨c₀, hc⟩ : ∃ c₀, c₀ = { c with transport := { c.transport with deferred := rest } } :=
    ⟨_, rfl⟩
  have ho (hn : ∀ k, ObjectKind.write k event = none) : Follows c₀ := by
    refine h.popped hd hr hc ⟨⟨_, rfl⟩, rfl, fun _ => .inl⟩ id fun _ _ => ?_
    funext k id
    show _ = k.after id (c₀.view k id) event
    rw [ObjectKind.after, ObjectKind.effect, hn]
    rfl
  have hop (hn : ∀ k, ObjectKind.write k event = none) (op : UInt64) (e : OperationEvent) :
      Follows ((c₀.transport.callOperation op e).foldl (handle qt x none) c₀) := by
    unfold SocketTransport.callOperation
    split
    · exact ho hn
    · exact (ho hn).beside (onOperationEvent_beside c₀ x _ e)
  have hwr {k : ObjectKind} {id : Bytes} {change : ObjectKind.Change k.Fields} {c' : AgentClient}
      (hwr : k.write event = some (id, change)) (hn : ∀ k', k' ≠ k → k'.write event = none)
      (he : Edits c₀ c') (hw : Watched c₀ → Watched c')
      (hv : c'.view = setAt c₀.view k id (k.change (c₀.view k id) change)) : Follows c' :=
    h.popped hd hr hc he hw fun _ _ => hv.trans (after_write hwr hn)
  subst hc
  cases event with
  | unknownEvent => exact ho fun k => by cases k <;> rfl
  | known event =>
    cases event with
    | readerAdded reader =>
      exact hwr (k := .reader) rfl (by rintro (_ | _) <;> simp [ObjectKind.write])
        (edits_addObject qt _ _ _ _) (·.addObject qt _ _ _)
        (view_addObject (k := .reader) _ _ fun f => applyProps_readerProps hqt f reader)
    | readerRemoved id =>
      exact hwr (k := .reader) rfl (by rintro (_ | _) <;> simp [ObjectKind.write])
        (edits_removeReader _ id) (·.removeReader id) (view_removeReader _ id)
    | cardAdded card =>
      exact hwr (k := .card) rfl (by rintro (_ | _) <;> simp [ObjectKind.write])
        (edits_addObject qt _ _ _ _) (·.addObject qt _ _ _)
        (view_addObject (k := .card) _ _ fun f => applyProps_cardProps hqt f card)
    | cardRemoved id =>
      exact hwr (k := .card) rfl (by rintro (_ | _) <;> simp [ObjectKind.write])
        (edits_removeCard _ id) (·.removeCard id) (view_removeCard _ id)
    | propertyChanged e =>
      exact h.popped hd hr rfl (edits_propertiesChanged _ _ _)
        (·.propertyChanged hqt x none rfl |>.1)
        fun hw hreg => (hw.propertyChanged hqt x none rfl).2 (hreg _ rfl)
    | opProgress op | opIdentityGroup op | opResultReady op =>
      exact hop (fun k => by cases k <;> rfl) op _
    | opFinished e => exact hop (fun k => by cases k <;> rfl) e.op _
    | configChanged key =>
      refine (ho fun k => by cases k <;> rfl).moves ?_
      rcases dispatchEvent_cases _ x (.known (.configChanged key)) with ⟨⟨_, he⟩, -⟩ | hm
      · exact nomatch he
      · exact hm
    | agentQuiesced reason =>
      intro hf
      have hf : First (AgentClient.onServiceUnregistered _ none).transport := hf
      rw [onServiceUnregistered_transport] at hf
      have hf : First c.transport := ⟨hf.only, hf.regular⟩
      have hreg := (h hf).regular hf (hd ▸ mem_cons_self) (.known (.agentQuiesced reason)) rfl
      exact False.elim hreg

lemma Follows.dispatch (hqt : qt.Lawful) (hr : ∀ work ∈ c.todo, work.isReconcile = false)
    (x : Exchange) : Follows (c.deliver qt x (.dispatch x)) := by
  rw [deliver_dispatch]
  split
  · cases hq : c.transport.deferred with
    | nil =>
      rw [SocketTransport.dispatch, hq]
      exact Follows.aloof (s := c.transport) (by constructor <;> first | rfl | exact hq.symm) h
    | cons item rest =>
      rw [SocketTransport.dispatch, hq, SocketTransport.losing, hq]
      cases item with
      | event conn event => exact h.event hqt hq hr x
      | reply reply =>
        have hp := h.popped hq hr rfl ⟨⟨_, rfl⟩, rfl, fun _ => .inl⟩ id fun _ _ => rfl
        exact (Follows.aloof (dispatchAsyncReply_aloof _ reply) hp).beside
          (handles_beside (dispatchAsyncReply_answers _ reply))
      | connectionLost conn generation lostProps lostDer =>
        have hno : ¬ First c.transport := fun hf => by
          have hl := (h hf).lossless
          rw [notices, hq] at hl
          exact cons_ne_nil _ _ hl
        have hv {l : List DeferredItem} :
            Follows { c with transport := { c.transport with deferred := l } } :=
          fun hf => absurd ⟨hf.only, hf.regular⟩ hno
        cases lostProps with
        | cons pending lostProps => exact hv.beside (handles_beside answerProps_answers)
        | nil =>
          cases lostDer with
          | cons pending lostDer =>
            exact (Follows.aloof (answerDer_aloof _ _ _) hv).beside
              (handles_beside answerDer_answers)
          | nil =>
            dsimp only
            split
            · intro hf
              have hf : First (AgentClient.onServiceUnregistered _ (some conn)).transport := hf
              rw [onServiceUnregistered_transport] at hf
              exact absurd ⟨hf.only, hf.regular⟩ hno
            · exact hv
  · exact h

/-! ## Calls of consumers -/

lemma Follows.probe {dial : Dial} {up : Bool}
    (heq : c.transport.probeAvailability dial x = (s, up)) :
    Follows { c with transport := s } ∧ (First s → (up = true ↔ s.sockets ≠ 0)) := by
  rcases c.transport.probe_cases dial x with ⟨hs, hm⟩ | ⟨hs, hp⟩
  · rw [heq] at hm
    refine ⟨h.moves hm, fun hf => ?_⟩
    obtain ⟨more, hr, -⟩ := hm.grows
    have hy := h (hf.before hm.kept.sockets hm.kept.socket hr)
    have hn : c.transport.sockets ≠ 0 := hy.counted fun hn => nomatch hn ▸ hs
    obtain ⟨conn, hc⟩ := Option.isSome_iff_exists.mp hs
    rw [probeAvailability, hc, hy.awake] at heq
    cases heq
    exact iff_of_true rfl hn
  · rw [hp] at heq
    have ho : Follows { c with transport := c.transport.opened } := by
      intro hf
      have h0 : c.transport.sockets = 0 := by
        rcases hf.only with hf | hf
        · exact Nat.succ.inj (Option.some.inj hf)
        · exact nomatch hf
      have hy := h ⟨.inr h0, hf.regular⟩
      exact { hy with counted := fun _ => Nat.succ_ne_zero _, fresh := fun h0 => nomatch h0 }
    rcases c.transport.connectAndHandshake_cases dial with hn | ⟨s₁, hm, ⟨features, hd⟩ | hd⟩
    · cases hn.symm.trans heq
      refine ⟨h, fun hf => iff_of_false Bool.false_ne_true fun hne => ?_⟩
      rcases hf.only with hf | hf
      · exact nomatch hs.symm.trans hf
      · exact hne hf
    · cases hd.symm.trans heq
      refine ⟨fun hf => ?_, fun _ => iff_of_true rfl ?_⟩
      · exact { ho.moves hm ⟨hf.only, hf.regular⟩ with awake := rfl }
      · exact hm.kept.sockets.trans_ne (Nat.succ_ne_zero _)
    · cases hd.symm.trans heq
      have hn : s₁.sockets ≠ 0 := hm.kept.sockets.trans_ne (Nat.succ_ne_zero _)
      have hno : ¬ First { s₁ with socket := none } := fun hf => hf.only.elim nofun hn
      exact ⟨fun hf => absurd hf hno, fun hf => absurd hf hno⟩

lemma Follows.repopulate (hp : c.transport.Placed x) : Follows (c.repopulate x) := by
  have hm := c.transport.fetchRegistry_moves x
  unfold AgentClient.repopulate
  split <;> rename_i hf <;> rw [hf] at hm
  · exact h.moves hm
  · rename_i s readers cards
    intro hfi
    obtain ⟨past, ⟨older, ho⟩, ⟨new, hn⟩, hs⟩ := hp readers cards (by rw [hf])
    rw [hf] at hn
    obtain ⟨more, hr, hw⟩ := hm.grows
    refine (h.moves hm hfi).reconcile ⟨⟨past, new, hn.symm, ?_, hs⟩, fun id hid v hv => ?_⟩
    · have hmo : older ++ new = more := by
        refine append_cancel_left (?_ : c.transport.received ++ _ = _ ++ _)
        rw [← hr, ← append_assoc, ho, hn]
      exact ⟨c.transport.waiting ++ older, by rw [append_assoc, hmo, ← hw]⟩
    · obtain ⟨o, hm, rfl⟩ := mem_map.mp hid
      obtain ⟨card, hc, heq⟩ := mem_map.mp hv
      have hno := (mem_filter.mp hm).2
      rw [any_eq_true.mpr ⟨card, hc, decide_eq_true (congrArg Prod.fst heq)⟩] at hno
      exact nomatch hno

lemma Follows.onServiceRegistered (hs : First c.transport → c.transport.sockets ≠ 0)
    (hp : c.transport.Placed x) : Follows (c.onServiceRegistered x) := by
  unfold AgentClient.onServiceRegistered
  split
  · exact h
  · exact Follows.repopulate (c := { c with available := true })
      (fun hf => { h hf with fresh := fun h0 => absurd h0 (hs hf) }) hp

lemma Follows.startOperation (card : Nat) (kind : OperationKind)
    (credentials : Bool) (refusal : Option SeamError) (x : Exchange) :
    Follows (c.startOperation card kind credentials refusal x) := by
  unfold AgentClient.startOperation
  split
  · split
    · exact Follows.mint h _ _ _ _
    · split
      · exact Follows.mint
          (h.aside (a := .startOperation credentials kind (c.lastAddress + 1) x) rfl) _ _ _ _
      · rename_i heq
        refine Follows.mint ?_ _ _ _ _
        rw [startOperation_error heq kind 0]
        exact h.aside rfl
  · exact h

end

/-! ## Runs -/

/-- a snapshot is the agent's state at its own place in the stream -/
def Placing (c : AgentClient) : ClientAction → Prop
  | .ensureAgent dial probe x =>
    c.available = false → (c.transport.probeAvailability dial probe).1.Placed x
  | .refreshDiscovery dial probe x => (c.transport.probeAvailability dial probe).1.Placed x
  | _ => True

/-- the queue is dispatched only while no reconcile is under way -/
def settled (c : AgentClient) : ClientAction → Bool
  | .dispatch _ => c.todo.all (!·.isReconcile)
  | _ => true

lemma Follows.step (hqt : qt.Lawful) (h : Follows c) {a : ClientAction} (hp : c.Placing a)
    (hs : c.settled a = true) : Follows (c.step qt a) := by
  cases a with
  | ensureAgent dial probe x =>
    show Follows (c.ensureAgent dial probe x)
    unfold AgentClient.ensureAgent
    split
    · exact h
    · rename_i hd
      have hp := hp (Bool.eq_false_of_not_eq_true hd)
      split <;> rename_i heq <;> obtain ⟨hpr, hup⟩ := h.probe heq <;> rw [heq] at hp
      · exact hpr.onServiceRegistered (fun hf => (hup hf).mp rfl) hp
      · exact hpr
  | refreshDiscovery dial probe x =>
    show Follows (c.refreshDiscovery dial probe x)
    unfold AgentClient.refreshDiscovery
    split <;> rename_i heq <;> obtain ⟨hpr, hup⟩ := h.probe heq <;> rw [Placing, heq] at hp
    · split
      · exact hpr.repopulate hp
      · exact hpr.onServiceRegistered (fun hf => (hup hf).mp rfl) hp
    · -- the agent is not reachable, and it never was
      unfold AgentClient.onServiceUnregistered
      split
      · rename_i hav
        refine fun hf => absurd ((hpr hf).fresh ?_) (Bool.eq_false_iff.not_left.mpr hav)
        by_contra hne
        exact nomatch (hup hf).mpr hne
      · exact hpr
  | startOperation card kind credentials refusal x => exact h.startOperation card kind _ refusal x
  | certificateDer sent =>
    show Follows (c.certificateDer sent)
    unfold AgentClient.certificateDer
    split
    · exact Follows.mint
        (h.aside (a := .requestCertificateDer (c.lastAddress + 1) sent) rfl) _ _ _ _
    · exact Follows.mint h _ _ _ _
  | cancel operation sent => exact h.beside (cancel_beside c operation sent)
  | setStallBudget operation | deliverQueued operation =>
    exact h.beside (beside_operation c operation rfl)
  | dismiss operation =>
    exact Follows.destroyOperations
      (c := c.updateOperation operation fun o => { o with dismissed := true })
      (fun hf => { h hf with }) _
  | work => exact h.work hqt
  | dispatch x =>
    exact h.dispatch hqt (fun work hm => by simpa using all_eq_true.mp hs work hm) x
  | stallTimeout operation sent => exact h.beside (giveUpStalled_beside c operation sent)
  | call x | configSnapshot x => exact h.beside (deliver_beside qt c x rfl)
  | readable | drain | runQueued | derTimeout => exact h.beside (deliver_beside qt c {} rfl)

end AgentClient

open AgentClient

def cardAt (id : String) : Wire.CardState :=
  ⟨Bytes.lit id, Bytes.lit "r1", 1, ⟨0⟩, none, none⟩

end LibreAgent.Client
