import LibreAgent.Client.ConnectionIsolation
import LibreAgent.Client.LossNotices

/-!
# Operations on a lost connection

* `loss_finishes_operations` : every operation of a lost connection has finished once nothing waits,
  and no operation is finished by the loss of an older connection.

A notice that waits while the next connection is made is never announced: `loss_unannounced`.
-/

namespace LibreAgent.Client

open Runs SocketTransport List
open Wire (DecodedEvent)
open AgentOperation (Terminal Direct)

/-! ## Operations that wait -/

def Work.Harmless (card : Option Nat) : Work → Prop
  | .deleteCard doomed => card ≠ some doomed
  | .clearRegistry => card = none
  | .terminate _ _ | .reconcile _ _ => True

instance (card : Option Nat) : ∀ work : Work, Decidable (work.Harmless card)
  | .deleteCard doomed => inferInstanceAs (Decidable (card ≠ some doomed))
  | .clearRegistry => inferInstanceAs (Decidable (card = none))
  | .terminate _ _ | .reconcile _ _ => inferInstanceAs (Decidable True)

namespace ClientOperation
variable {o o' : ClientOperation}

/-- it was started on a connection, and its consumer waits for the end -/
structure Waits (o : ClientOperation) (conn : Nat) : Prop where
  alive : o.alive = true
  started : o.conn = some conn
  unfinished : o.operation.finishedEmitted = false

/-- in the client's work, the end of the operation comes before whatever destroys it -/
def Spared (o : ClientOperation) : List Work → Prop
  | [] => True
  | .terminate operation _ :: todo => operation = o.address ∨ o.Spared todo
  | .deleteCard card :: todo => o.card ≠ some card ∧ o.Spared todo
  | .clearRegistry :: todo => o.card = none ∧ o.Spared todo
  | .reconcile _ _ :: todo => o.Spared todo

lemma spared_congr (ha : o'.address = o.address) (hc : o'.card = o.card) (todo : List Work) :
    o'.Spared todo ↔ o.Spared todo := by
  induction todo with
  | nil => exact Iff.rfl
  | cons work todo ih =>
    cases work with
    | terminate operation sweep =>
      show operation = o'.address ∨ o'.Spared todo ↔ _
      rw [ha, ih]
      rfl
    | deleteCard card =>
      show o'.card ≠ some card ∧ o'.Spared todo ↔ _
      rw [hc, ih]
      rfl
    | clearRegistry =>
      show o'.card = none ∧ o'.Spared todo ↔ _
      rw [hc, ih]
      rfl
    | reconcile => exact ih

lemma spared_terminates (sweep : Sweep) (addresses : List Nat) (todo : List Work) :
    o.Spared (addresses.map (.terminate · sweep) ++ todo) ↔ o.address ∈ addresses ∨
      o.Spared todo := by
  induction addresses with
  | nil => exact (or_iff_right not_mem_nil).symm
  | cons address addresses ih =>
    show address = o.address ∨ o.Spared (addresses.map (.terminate · sweep) ++ todo) ↔ _
    rw [ih, mem_cons, ← or_assoc, eq_comm]

lemma spared_of_harmless {todo : List Work} (h : ∀ work ∈ todo, work.Harmless o.card) :
    o.Spared todo := by
  induction todo with
  | nil => trivial
  | cons work todo ih =>
    have hh := h work mem_cons_self
    have ht := ih fun work hw => h work (mem_cons_of_mem _ hw)
    cases work with
    | terminate => exact .inr ht
    | deleteCard | clearRegistry => exact ⟨hh, ht⟩
    | reconcile => exact ht

/-- destroyed before its end only by its consumer -/
def Buried (o : ClientOperation) : Prop :=
  o.conn ≠ none → o.alive = false → o.dismissed = false → o.operation.finishedEmitted = true

structure Goes (o o' : ClientOperation) : Prop where
  address : o'.address = o.address
  card : o'.card = o.card
  conn : o'.conn = o.conn
  waits : ∀ {n}, o'.Waits n → o.Waits n
  buried : o.Buried → o'.Buried
  terminal : Terminal o.operation → Terminal o'.operation
  direct : Direct o.operation → Direct o'.operation

section
variable (o)

lemma Goes.refl : Goes o o := ⟨rfl, rfl, rfl, id, id, id, id⟩

lemma goes_call (call : OperationCall) (hc : call.isFailEntry = false) :
    Goes o { o with operation := o.operation.step call } := by
  refine ⟨rfl, rfl, rfl, fun hw => ⟨hw.alive, hw.started, ?_⟩, fun hb hc ha hd =>
      AgentOperation.finished_step (hb hc ha hd) call,
    fun h => AgentOperation.terminal_step h call, fun h => h.step hc⟩
  by_contra hf
  exact nomatch hw.unfinished.symm.trans (AgentOperation.finished_step
      (Bool.eq_true_of_not_eq_false hf) call)

lemma sweep_call (sweep : Sweep) (op : AgentOperation) :
    ∃ status code error key fallback, sweep.terminate op =
      op.step (.terminate status code error key fallback) := by
  cases sweep <;> exact ⟨_, _, _, _, _, rfl⟩

lemma goes_swept (sweep : Sweep) : Goes o (o.swept sweep) := by
  obtain ⟨status, code, error, key, fallback, hc⟩ := sweep_call sweep o.operation
  have hg := goes_call o (.terminate status code error key fallback) rfl
  rw [← hc] at hg
  exact ⟨rfl, rfl, rfl, fun hw => hg.waits ⟨hw.alive, hw.started, hw.unfinished⟩, hg.buried,
      hg.terminal, hg.direct⟩

lemma swept_finished (sweep : Sweep) : (o.swept sweep).operation.finishedEmitted = true := by
  show (sweep.terminate o.operation).finishedEmitted = true
  obtain ⟨status, code, error, key, fallback, hc⟩ := sweep_call sweep o.operation
  rw [hc]
  show (o.operation.emitFinishedOnce _).finishedEmitted = true
  unfold AgentOperation.emitFinishedOnce
  split
  · assumption
  · dsimp only
    split <;> rfl

end

end ClientOperation

namespace AgentClient
variable {qt : QVariants} {c c' : AgentClient}

structure Kept (c : AgentClient) (o : ClientOperation) : Prop where
  terminal : Terminal o.operation
  /-- operations that were started finish without the event loop -/
  direct : o.conn ≠ none → Direct o.operation
  low : o.address ≤ c.lastAddress
  counted : ∀ m ∈ o.conn, m ≤ c.transport.sockets
  buried : o.Buried
  attended : ∀ {n}, o.Waits n → (c.available = true ∧ c.transport.Holds n) ∨
    ∃ sweep, .terminate o.address sweep ∈ c.todo
  spared : ∀ {n}, o.Waits n → o.Spared c.todo
  blamed : ∀ n ∈ o.finishedBy, ∀ m ∈ o.conn, m ≤ n

structure Loyal (c : AgentClient) : Prop where
  shaken : Shaken c.transport
  current : ∀ {n}, c.transport.Recent n → n = c.transport.sockets
  kept : ∀ o ∈ c.operations, c.Kept o
  aimed : ∀ {operation sweep}, .terminate operation sweep ∈ c.todo → operation ≤ c.lastAddress ∧
    ∀ o ∈ c.operations, o.address = operation → ∀ n ∈ sweep.lost, ∀ m ∈ o.conn, m ≤ n

/-! ### The transport -/

lemma Loyal.same (h : Loyal c) (ht : Tells c.transport c'.transport)
    (hop : c'.operations = c.operations) (hto : c'.todo = c.todo)
    (ha : c.available = true → c'.available = true) (hl : c.lastAddress ≤ c'.lastAddress) :
    Loyal c' := by
  obtain ⟨s, available, objects, operations, todo, lastAddress⟩ := c'
  subst hop hto
  refine { h with
    shaken := ht.shaken
    current := fun hn => (h.current (ht.recent hn)).trans ht.sockets.symm
    kept := fun o ho => ?_
    aimed := fun hwo => ⟨(h.aimed hwo).1.trans hl, (h.aimed hwo).2⟩ }
  have hk := h.kept o ho
  exact { hk with
    low := hk.low.trans hl
    counted := ht.sockets ▸ hk.counted
    attended := fun hw => (hk.attended hw).imp_left fun hh => ⟨ha hh.1, ht.holds hh.2⟩ }

variable {s : SocketTransport} {x : Exchange} {f : ClientOperation → ClientOperation}
  {todo : List Work}
  {p : ClientOperation → Bool} {lost : Option Nat}

section
variable (h : Loyal c)
include h

lemma Loyal.transport (ht : Tells c.transport s) : Loyal { c with transport := s } :=
  h.same ht rfl rfl id le_rfl

/-- a new connection is dialled when no notice waits, so no operation waits for one -/
lemma Loyal.dialled (hc : c.transport.socket = none) (hq : c.transport.notices = [])
    (hs : Shaken s) (hso : s.sockets = c.transport.sockets + 1)
    (hn : ∀ {n}, s.Recent n → n = c.transport.sockets + 1) : Loyal { c with transport := s } := by
  refine { h with
    shaken := hs
    current := fun hr => (hn hr).trans hso.symm
    kept := fun o ho => ?_ }
  have hk := h.kept o ho
  refine { hk with
    counted := fun m hm => ((hk.counted m hm).trans (Nat.le_succ _)).trans hso.ge
    attended := fun hw => .inr ?_ }
  rcases hk.attended hw with ⟨-, hop | ⟨x, hx, -⟩⟩ | hp
  · exact nomatch hc.symm.trans hop
  · exact absurd (hq ▸ hx) not_mem_nil
  · exact hp

lemma Loyal.probe {dial : Dial} {up : Bool}
    (hq : c.transport.socket = none → dial.connects = true → c.transport.notices = [])
    (hp : c.transport.probeAvailability dial x = (s, up)) : Loyal { c with transport := s } := by
  rcases c.transport.probe_cases dial x with ⟨-, hm⟩ | ⟨hc, hd⟩
  · rw [hp] at hm
    exact h.transport (hm.tells h.shaken)
  · by_cases hco : dial.connects = true
    · have hq := hq hc hco
      rw [hd] at hp
      obtain hs | ⟨s₁, hm, hdo⟩ := c.transport.connectAndHandshake_cases dial
      · cases hs.symm.trans hp
        exact h
      · have hk := Moves.kept hm
        have hr {n : Nat} (hn : s₁.Recent n) : n = c.transport.sockets + 1 := by
          rcases Moves.recent hm hn with ho | hn
          · exact (Option.some.inj ho).symm
          · exact absurd (hq ▸ hn : n ∈ [].map _) not_mem_nil
        rcases hdo with ⟨features, hdo⟩ | hdo
        · cases hdo.symm.trans hp
          exact h.dialled hc hq (fun _ => rfl) hk.sockets hr
        · cases hdo.symm.trans hp
          exact h.dialled hc hq (absurd rfl) hk.sockets fun hn =>
            hr (.inr (hn.resolve_left (Option.some_ne_none _).symm))
    · unfold connectAndHandshake at hd
      rw [if_neg hco] at hd
      cases hd.symm.trans hp
      exact h

/-! ### Operations -/

/-- operations go on, and work may be done that no operation waits for any more -/
lemma Loyal.map (hg : ∀ o ∈ c.operations, ClientOperation.Goes o (f o))
    (hb : ∀ o ∈ c.operations, ∀ n ∈ (f o).finishedBy, ∀ m ∈ o.conn, m ≤ n)
    (ht : ∀ work ∈ todo, work ∈ c.todo)
    (hp : ∀ o ∈ c.operations, ∀ {n}, (f o).Waits n → ∀ sweep, .terminate o.address sweep ∈ c.todo →
      .terminate o.address sweep ∈ todo)
    (hs : ∀ o ∈ c.operations, ∀ {n}, (f o).Waits n → o.Spared c.todo → o.Spared todo) :
    Loyal { c with operations := c.operations.map f, todo := todo } := by
  refine { h with
    kept := forall_mem_map.mpr fun o ho => ?_
    aimed := fun hwo => ⟨(h.aimed (ht _ hwo)).1, forall_mem_map.mpr fun o ho => ?_⟩ }
  · have hk := h.kept o ho
    have hgo := hg o ho
    refine ⟨hgo.terminal hk.terminal, fun hc => hgo.direct (hk.direct (hgo.conn ▸ hc)),
      hgo.address ▸ hk.low, hgo.conn ▸ hk.counted,
      hgo.buried hk.buried, fun hw => ?_, fun hw => ?_, hgo.conn ▸ hb o ho⟩
    · rw [hgo.address]
      exact (hk.attended (hgo.waits hw)).imp_right fun ⟨sweep, hsw⟩ => ⟨sweep, hp o ho hw sweep hsw⟩
    · rw [ClientOperation.spared_congr hgo.address hgo.card]
      exact hs o ho hw (hk.spared (hgo.waits hw))
  · rw [(hg o ho).address, (hg o ho).conn]
    exact (h.aimed (ht _ hwo)).2 o ho

lemma Loyal.called (hg : ∀ o ∈ c.operations, ClientOperation.Goes o (f o))
    (hb : ∀ o, (f o).finishedBy = o.finishedBy) :
    Loyal { c with operations := c.operations.map f } :=
  h.map hg (fun o ho n hn => (h.kept o ho).blamed n (hb o ▸ hn)) (fun _ => id) (fun _ _ _ _ _ => id)
    fun _ _ _ _ => id

lemma Loyal.updateOperation (address : Nat) (hg : ∀ o, ClientOperation.Goes o (f o))
    (hb : ∀ o, (f o).finishedBy = o.finishedBy) : Loyal (c.updateOperation address f) := by
  refine h.called (fun o _ => ?_) fun o => ?_
  · split
    · exact hg o
    · exact .refl o
  · split
    · exact hb o
    · rfl

end

lemma Loyal.besidePart (hp : BesidePart c c') (h : Loyal c) : Loyal c' := by
  cases hp with
  | transport a ha => exact h.transport (aside_tells h.shaken ha)
  | operation address call hc =>
    exact h.updateOperation address (fun o => o.goes_call call hc) fun _ => rfl

section
variable (h : Loyal c)
include h

lemma Loyal.beside (hb : Beside c c') : Loyal c' := hb.keeps Loyal.besidePart h

lemma Loyal.append {o : ClientOperation} (hk : c.Kept o)
    (hf : ∀ {operation sweep}, .terminate operation sweep ∈ c.todo → operation ≠ o.address) :
    Loyal { c with operations := c.operations ++ [o] } := by
  refine { h with
    kept := forall_mem_append.mpr ⟨fun o ho => ?_, forall_mem_singleton.mpr ?_⟩
    aimed := fun hwo => ⟨(h.aimed hwo).1,
      forall_mem_append.mpr ⟨(h.aimed hwo).2, forall_mem_singleton.mpr ?_⟩⟩ }
  · exact { h.kept o ho with }
  · exact { hk with }
  · exact fun heq => absurd heq.symm (hf hwo)

/-- a new operation is on a connection that the client holds, and on a card that stays -/
lemma Loyal.mint (ht : Tells c.transport s) {card : Option Nat}
    {operation : AgentOperation} {operationId : Option UInt64} {conn : Option Nat}
    (hte : Terminal operation) (hd : conn ≠ none → Direct operation)
    (hc : ∀ n ∈ conn, c.transport.socket = some n ∧ c.available = true)
    (hs : conn ≠ none → ∀ o : ClientOperation, o.card = card → o.Spared c.todo) :
    Loyal (c.mint s card operation operationId conn) := by
  have ha : Loyal { c with transport := s, lastAddress := c.lastAddress + 1 } :=
    h.same ht rfl rfl id (Nat.le_succ _)
  refine ha.append ⟨hte, hd, le_rfl, fun m hm => ?_, (fun _ hde => nomatch hde), fun hw => .inl ?_,
    fun hw => hs (hw.started.trans_ne (Option.some_ne_none _)) _ rfl, nofun⟩ fun hw heq => ?_
  · rw [ht.sockets]
    exact (h.current (.inl (hc m hm).1)).le
  · obtain ⟨ho, hup⟩ := hc _ hw.started
    exact ⟨hup, ht.holds (.inl ho)⟩
  · have hle := (h.aimed hw).1
    dsimp only at heq
    omega

/-- operations are destroyed that have finished or that their consumers have given up -/
lemma Loyal.destroyOperations
    (hd : ∀ o ∈ c.operations, p o = true → ∀ n, o.Waits n → o.dismissed = true) :
    Loyal (c.destroyOperations p) := by
  have ha := h.transport (destroyOperations_keeps
    (fun _ hs => hs.trans (tells_of hs.shaken rfl rfl rfl rfl rfl))
    (fun _ hs => hs.trans (tells_of hs.shaken rfl rfl rfl rfl rfl)) p (.refl h.shaken))
  refine ha.called (fun o ho => ?_) fun o => ?_
  · split
    · rename_i hp
      obtain ⟨hal, hp⟩ := Bool.and_eq_true_iff.mp hp
      refine ⟨rfl, rfl, rfl, (fun hw => nomatch hw.alive), fun _ hc _ hdi => ?_, id, id⟩
      by_contra hun
      obtain ⟨n, hn⟩ := Option.ne_none_iff_exists'.mp hc
      exact nomatch hdi.symm.trans (hd o ho hp n ⟨hal, hn, Bool.eq_false_of_not_eq_true hun⟩)
    · exact .refl o
  · split <;> rfl

/-! ### The client's work -/

/-- ends for the operations with a property are put on the stack, and after them something that
destroys only these -/
lemma Loyal.sweep {available : Bool} {objects : (k : ObjectKind) → List (Tracked k.Fields)}
    {sweep : Sweep} {last : Work} (ha : available = c.available ∨ ∀ o, p o = true)
    (hs : ∀ o : ClientOperation, p o = false → o.Spared c.todo → o.Spared (last :: c.todo))
    (hl : ∀ operation sweep, last ≠ .terminate operation sweep)
    (hlo : ∀ n ∈ sweep.lost, ∀ o ∈ c.operations, ∀ m ∈ o.conn, m ≤ n) :
    Loyal { c with
      available := available, objects := objects
      todo := (c.liveOperations p).map (.terminate · sweep) ++ last :: c.todo } := by
  have hli {o : ClientOperation} (ho : o ∈ c.operations) (hal : o.alive = true) (hp : p o = true) :
      o.address ∈ c.liveOperations p :=
    mem_map.mpr ⟨o, mem_filter.mpr ⟨ho, Bool.and_eq_true_iff.mpr ⟨hal, hp⟩⟩, rfl⟩
  refine { h with kept := fun o ho => { h.kept o ho with
      attended := fun hw => ?_, spared := fun hw => ?_ }, aimed := fun hwo => ?_ }
  · by_cases hp : p o = true
    · exact .inr ⟨sweep, mem_append_left _ (mem_map_of_mem (hli ho hw.alive hp))⟩
    · rcases ha with rfl | hall
      · refine ((h.kept o ho).attended hw).imp_right fun ⟨sweep, hsw⟩ => ⟨sweep, ?_⟩
        exact mem_append_right _ (mem_cons_of_mem _ hsw)
      · exact absurd (hall o) hp
  · rw [ClientOperation.spared_terminates]
    by_cases hp : p o = true
    · exact .inl (hli ho hw.alive hp)
    · exact .inr (hs o (Bool.eq_false_of_not_eq_true hp) ((h.kept o ho).spared hw))
  · rcases mem_append.mp hwo with hwo | hwo
    · obtain ⟨address, had, heq⟩ := mem_map.mp hwo
      cases heq
      obtain ⟨o, ho, rfl⟩ := mem_map.mp had
      exact ⟨(h.kept o (mem_of_mem_filter ho)).low, fun o ho _ n hn => hlo n hn o ho⟩
    · rcases mem_cons.mp hwo with heq | hwo
      · exact absurd heq.symm (hl _ _)
      · exact h.aimed hwo

lemma Loyal.onServiceUnregistered (hl : ∀ n ∈ lost, ∀ o ∈ c.operations, ∀ m ∈ o.conn, m ≤ n) :
    Loyal (c.onServiceUnregistered lost) := by
  unfold AgentClient.onServiceUnregistered
  split
  · exact h.sweep (p := fun _ => true) (.inr fun _ => rfl) (fun _ hn => absurd hn (by decide))
      (fun _ _ heq => nomatch heq) hl
  · exact h

lemma Loyal.removeCard (id : Bytes) : Loyal (c.removeCard id) := by
  unfold AgentClient.removeCard
  split
  · exact h
  · exact h.sweep (.inl rfl) (fun o hp hs => ⟨of_decide_eq_false hp, hs⟩)
      (fun _ _ heq => nomatch heq)
      fun n hn => nomatch hn

lemma Loyal.pop {work : Work} (ht : c.todo = work :: todo)
    (hw : ∀ operation sweep, work ≠ .terminate operation sweep)
    (hs : ∀ o : ClientOperation, o.Spared (work :: todo) → o.Spared todo) :
    Loyal { c with todo := todo } := by
  refine { h with kept := fun o ho => { h.kept o ho with
      attended := fun hwa => ?_, spared := fun hwa => ?_ }, aimed := fun hm => ?_ }
  · refine ((h.kept o ho).attended hwa).imp_right fun ⟨sweep, hsw⟩ => ⟨sweep, ?_⟩
    rw [ht] at hsw
    rcases mem_cons.mp hsw with heq | hsw
    · exact absurd heq.symm (hw _ _)
    · exact hsw
  · exact hs o (ht ▸ (h.kept o ho).spared hwa)
  · exact h.aimed (ht ▸ mem_cons_of_mem _ hm)

lemma Loyal.reconcile (gone : List Bytes) (snapshot : RegistrySnapshot) :
    Loyal { c with todo := .reconcile gone snapshot :: c.todo } := by
  refine { h with
    kept := fun o ho => { h.kept o ho with attended := fun hw => ?_ }
    aimed := fun hwo => h.aimed ((mem_cons.mp hwo).resolve_left nofun) }
  exact ((h.kept o ho).attended hw).imp_right fun ⟨sweep, hs⟩ => ⟨sweep, mem_cons_of_mem _ hs⟩

lemma Loyal.addObject (k : ObjectKind) (id : Bytes) (props : Props) :
    Loyal (c.addObject qt k id props) := by
  unfold AgentClient.addObject
  split
  · exact h.same (.refl h.shaken) rfl rfl (fun ha => ha) le_rfl
  · exact h.same (tells_of h.shaken rfl rfl rfl rfl rfl) rfl rfl (fun ha => ha) (Nat.le_succ _)

lemma Loyal.removeReader (id : Bytes) : Loyal (c.removeReader id) := by
  unfold AgentClient.removeReader
  split
  · exact h
  · exact h.same (tells_of h.shaken rfl rfl rfl rfl rfl) rfl rfl (fun ha => ha) le_rfl

lemma Loyal.finishReconcile (snapshot : RegistrySnapshot) : Loyal (c.finishReconcile qt snapshot) :=
  finishReconcile_keeps (P := Loyal) (fun id _ h => h.removeReader id)
    (fun _ _ h => h.addObject .card _ _) (fun _ _ h => h.addObject .reader _ _) h

lemma Loyal.clearRegistry (hn : ∀ o ∈ c.operations, ∀ n, o.Waits n → o.card = none) :
    Loyal c.clearRegistry := by
  have hd :=
    h.destroyOperations (p := fun o =>
      (c.objects .card).any fun card => o.card = some card.address) fun o ho hp n hw => by
      obtain ⟨card, -, hc⟩ := any_eq_true.mp hp
      exact nomatch (hn o ho n hw).symm.trans (of_decide_eq_true hc)
  refine hd.same (foldl_keeps (fun address hs => hs.trans ?_) _ (.refl hd.shaken)) rfl rfl
    (fun ha => ha) le_rfl
  exact tells_of hs.shaken rfl rfl rfl rfl rfl

lemma Loyal.work : Loyal (c.work qt) := by
  unfold AgentClient.work
  split
  · exact h
  · rename_i operation sweep todo ht
    have ha := (h.aimed (ht ▸ mem_cons_self)).2
    have hh {o : ClientOperation} {n : Nat}
      (hw : ClientOperation.Waits (if o.isAt operation then o.swept sweep else o) n) :
        o.address ≠ operation := by
      intro heq
      split at hw
      · exact nomatch hw.unfinished.symm.trans (o.swept_finished sweep)
      · next hat => exact hat (Bool.and_eq_true_iff.mpr ⟨hw.alive, decide_eq_true heq⟩)
    refine h.map (fun o _ => ?_) (fun o ho n hn m hm => ?_)
      (fun work hwo => ht ▸ mem_cons_of_mem _ hwo)
      (fun o ho {n} hw sweep' hs => ?_) fun o ho {n} hw hsp => ?_
    · split
      · exact o.goes_swept sweep
      · exact .refl o
    · split at hn
      · rename_i hat
        have hat := (Bool.and_eq_true_iff.mp hat).2
        have hn : n ∈ if o.operation.finishedEmitted then o.finishedBy else sweep.lost := hn
        split at hn
        · exact (h.kept o ho).blamed n hn m hm
        · exact ha o ho (of_decide_eq_true hat) n hn m hm
      · exact (h.kept o ho).blamed n hn m hm
    · rw [ht] at hs
      rcases mem_cons.mp hs with heq | hs
      · cases heq
        exact absurd rfl (hh hw)
      · exact hs
    · rw [ht] at hsp
      exact hsp.resolve_left (hh hw).symm
  · rename_i card todo ht
    have hpo := h.pop ht nofun fun o ho => ho.2
    have hu :=
      hpo.transport (s := c.transport.unsubscribeProperties card)
        (tells_of h.shaken rfl rfl rfl rfl rfl)
    refine hu.destroyOperations fun o ho hp n hw => ?_
    have hsp := (h.kept o ho).spared hw
    rw [ht] at hsp
    exact absurd (of_decide_eq_true hp) hsp.1
  · rename_i todo ht
    refine (h.pop ht nofun fun o ho => ho.2).clearRegistry fun o ho n hw => ?_
    have hsp := (h.kept o ho).spared hw
    rw [ht] at hsp
    exact hsp.1
  · next snapshot todo ht => exact (h.pop ht nofun fun o ho => ho).finishReconcile snapshot
  · next id gone snapshot todo ht =>
    exact ((h.pop ht nofun fun o ho => ho).reconcile gone snapshot).removeCard id

/-! ### The queue -/

lemma Loyal.popNotice {x : Nat × Nat} (hs : Shaken s)
    (hso : s.socket = c.transport.socket) (hsoc : s.sockets = c.transport.sockets)
    (hg : s.generation = c.transport.generation) (hno : c.transport.notices = x :: s.notices)
    (hst : x.2 ≠ c.transport.generation ∨ c.available = false) :
    Loyal { c with transport := s } := by
  have hr {n : Nat} (hn : s.Recent n) : c.transport.Recent n := by
    refine hn.imp hso.symm.trans fun hm => ?_
    rw [hno]
    exact mem_cons_of_mem _ hm
  refine { h with
    shaken := hs
    current := fun hn => (h.current (hr hn)).trans hsoc.symm
    kept := fun o ho => { h.kept o ho with
      counted := fun m hm => ((h.kept o ho).counted m hm).trans hsoc.ge
      attended := fun hw => ?_ } }
  refine ((h.kept o ho).attended hw).imp_left fun hh =>
    ⟨hh.1, hh.2.imp hso.trans fun ⟨y, hy, hl⟩ => ⟨y, ?_, hl.trans hg.symm⟩⟩
  rcases mem_cons.mp (hno ▸ hy) with rfl | hy
  · rcases hst with hst | hd
    · exact absurd hl hst
    · exact nomatch hd.symm.trans hh.1
  · exact hy

end

lemma onServiceUnregistered_with (c : AgentClient) (s : SocketTransport) (lost : Option Nat) :
    AgentClient.onServiceUnregistered { c with transport := s } lost =
      { c.onServiceUnregistered lost with transport := s } := by
  unfold AgentClient.onServiceUnregistered
  split <;> rfl

lemma onServiceUnregistered_down (c : AgentClient) (lost : Option Nat) :
    (c.onServiceUnregistered lost).available = false := by
  unfold AgentClient.onServiceUnregistered
  split
  · rfl
  · next hd => exact Bool.eq_false_of_not_eq_true hd

lemma Loyal.answers (h : Loyal c) {cbs : List Callback}
    (ha : ∀ cb ∈ cbs, cb.isAnswer = true) : Loyal (cbs.foldl (handle qt x lost) c) :=
  h.beside (handles_beside ha)

lemma Loyal.event (h : Loyal c) (x : Exchange) (event : DecodedEvent) :
    Loyal ((c.transport.dispatchEvent x event).2.foldl (handle qt x none)
      { c with transport := (c.transport.dispatchEvent x event).1 }) := by
  have ho (op : UInt64) (e : OperationEvent) :
    Loyal ((c.transport.callOperation op e).foldl (handle qt x none) c) := by
    unfold SocketTransport.callOperation
    split
    · exact h
    · exact h.beside (onOperationEvent_beside c x _ e)
  cases event with
  | unknownEvent => exact h
  | known event =>
    cases event with
    | readerAdded reader => exact h.addObject .reader _ _
    | readerRemoved handle => exact h.removeReader handle
    | cardAdded card => exact h.addObject .card _ _
    | cardRemoved handle => exact h.removeCard handle
    | propertyChanged e =>
      show Loyal (((c.transport.propertyTargets e.handle e.iface).map _).foldl (handle qt x none) c)
      rw [foldl_map]
      refine foldl_keeps (fun watch h => ?_) _ h
      exact h.same (.refl h.shaken) rfl rfl (fun ha => ha) le_rfl
    | opProgress op | opIdentityGroup op | opResultReady op => exact ho op _
    | opFinished e => exact ho e.op _
    | configChanged key =>
      have hc : Tells c.transport (if c.transport.configFetched then (c.transport.callSync x).1
        else c.transport) := by
        split
        · exact (c.transport.callSync_moves x).tells h.shaken
        · exact .refl h.shaken
      exact h.transport hc
    | agentQuiesced reason =>
      have hasl : Tells c.transport { c.transport with quiesced := true } :=
        tells_of h.shaken rfl rfl rfl rfl rfl
      exact (h.transport hasl).onServiceUnregistered nofun

lemma Loyal.dispatch (h : Loyal c) (x : Exchange) : Loyal (c.deliver qt x (.dispatch x)) := by
  obtain ⟨lost, hl⟩ : ∃ lost, lost = c.transport.losing := ⟨_, rfl⟩
  rw [deliver_dispatch, ← hl]
  have hp {l : List DeferredItem} (hi : l.filterMap DeferredItem.notice? = c.transport.notices) :
      Tells c.transport { c.transport with deferred := l } := tells_of h.shaken rfl rfl rfl rfl hi
  split
  · unfold SocketTransport.dispatch
    split
    · exact h.transport (tells_of h.shaken rfl rfl rfl rfl rfl)
    · rename_i conn e rest hf
      have hp := hp (l := rest) (by rw [notices, hf]; rfl)
      have hno : lost = none := by
        rw [hl, SocketTransport.losing, hf]
      subst hno
      exact (h.transport hp).event x e
    · rename_i reply rest hf
      have hp := hp (l := rest) (by rw [notices, hf]; rfl)
      have hr :=
        (dispatchAsyncReply_books { c.transport with deferred := rest } reply).tells hp.shaken
      exact (h.transport (hp.trans hr)).answers (dispatchAsyncReply_answers _ reply)
    · rename_i conn generation pending lostProps lostDer rest hf
      have hli := hp (l := .connectionLost conn generation lostProps lostDer :: rest)
        (by rw [notices, hf]; rfl)
      exact (h.transport hli).answers answerProps_answers
    · rename_i conn generation pending lostDer rest hf
      have hli := hp (l := .connectionLost conn generation [] lostDer :: rest)
        (by rw [notices, hf]; rfl)
      have ha :=
        (answerDer_books { c.transport with
            deferred := .connectionLost conn generation [] lostDer :: rest } pending.token
        { error := { callError := .agentUnavailable,
                     message := Bytes.lit "the agent connection was lost" } }).tells hli.shaken
      exact (h.transport (hli.trans ha)).answers answerDer_answers
    · rename_i conn generation rest hf
      have hnot : c.transport.notices = (conn, generation) ::
        notices { c.transport with deferred := rest } := by
        unfold notices
        rw [hf]
        rfl
      have hc : lost = some conn := by
        rw [hl, SocketTransport.losing, hf]
      subst hc
      split
      · -- the notice is announced: the sweep comes first, and then the notice is not needed any
        -- more
        have hs : Loyal (c.onServiceUnregistered (some conn)) := by
          refine h.onServiceUnregistered fun n hn o ho m hm => ?_
          have hcu : n = c.transport.sockets :=
            h.current (.inr (by rw [hnot, ← Option.some.inj hn]; exact mem_cons_self))
          exact ((h.kept o ho).counted m hm).trans hcu.ge
        have ht := onServiceUnregistered_transport c (some conn)
        show Loyal (AgentClient.onServiceUnregistered
          { c with transport := { c.transport with deferred := rest } } (some conn))
        rw [onServiceUnregistered_with]
        exact hs.popNotice h.shaken (by rw [ht]) (by rw [ht]) (by rw [ht]) (by rw [ht, hnot])
          (.inr (onServiceUnregistered_down c _))
      · next hst => exact h.popNotice h.shaken rfl rfl rfl hnot (.inl hst)
  · exact h

/-! ### Calls of consumers -/

lemma Loyal.repopulate (h : Loyal c) (x : Exchange) : Loyal (c.repopulate x) := by
  have hm := (c.transport.fetchRegistry_moves x).tells h.shaken
  unfold AgentClient.repopulate
  split <;> rename_i hf <;> rw [hf] at hm
  · exact h.transport hm
  · exact (h.transport hm).reconcile _ _

lemma Loyal.onServiceRegistered (h : Loyal c) (x : Exchange) : Loyal (c.onServiceRegistered x) := by
  unfold AgentClient.onServiceRegistered
  split
  · exact h
  · have hup : Loyal { c with available := true } :=
      h.same (.refl h.shaken) rfl rfl (fun _ => rfl) le_rfl
    exact hup.repopulate x

lemma terminal_refused (kind : Kind) (error : SeamError) :
    Terminal (AgentOperation.failEntry { kind := kind } error) :=
  have hb : Terminal { kind := kind } := ⟨rfl, nofun⟩
  AgentOperation.terminal_step hb (.failEntry error)

lemma Loyal.startOperation (h : Loyal c) {card : Nat} {refusal : Option SeamError}
    (hs : refusal = none → c.available = true ∧ ∀ work ∈ c.todo, work.Harmless (some card))
    (kind : OperationKind) (credentials : Bool) (x : Exchange) :
    Loyal (c.startOperation card kind credentials refusal x) := by
  unfold AgentClient.startOperation
  split
  · split
    · exact h.mint (.refl h.shaken) (terminal_refused _ _) (absurd rfl) nofun (absurd rfl)
    · obtain ⟨hup, hh⟩ := hs rfl
      split
      · refine h.mint (aside_tells h.shaken
          (a := .startOperation credentials kind (c.lastAddress + 1) x) rfl) ?_ (fun _ => ?_)
          (fun n hn => ⟨hn, hup⟩) fun _ o ho => ?_
        · exact (Minting.parts (.started kind none none)).keeps Terminal.part
            (Minting.terminal_blank _)
        · refine Direct.armForPhase ?_ _
          exact ⟨rfl, rfl⟩
        · exact ClientOperation.spared_of_harmless fun work hw => ho ▸ hh work hw
      · rename_i heq
        refine h.mint ?_ (terminal_refused _ _) (absurd rfl) nofun (absurd rfl)
        rw [startOperation_error heq kind 0]
        exact aside_tells h.shaken rfl
  · exact h

lemma Loyal.certificateDer (h : Loyal c) (sent : Bool) : Loyal (c.certificateDer sent) := by
  unfold AgentClient.certificateDer
  split
  · rename_i hup
    refine h.mint (aside_tells h.shaken (a := .requestCertificateDer (c.lastAddress + 1) sent) rfl)
      ?_ (fun _ => ?_) (fun n hn => ⟨?_, hup⟩) fun _ o ho => ?_
    · exact (Minting.parts (.certificateDer (c.transport.nextDerToken + 1))).keeps Terminal.part
        (Minting.terminal_blank _)
    · refine Direct.armForPhase ?_ _
      exact ⟨rfl, rfl⟩
    · split at hn
      · exact hn
      · exact nomatch hn
    · refine ClientOperation.spared_of_harmless fun work _ => ?_
      rw [ho]
      cases work with
      | terminate | reconcile => trivial
      | deleteCard => exact nofun
      | clearRegistry => rfl
  · exact h.mint (.refl h.shaken) (terminal_refused _ _) (absurd rfl) nofun (absurd rfl)

lemma Loyal.dismiss (h : Loyal c) (operation : Nat) : Loyal (c.dismiss operation) := by
  have hm := h.updateOperation operation (f := fun o => { o with dismissed := true })
    (fun o => ⟨rfl, rfl, rfl, fun hw => ⟨hw.alive, hw.started, hw.unfinished⟩,
      (fun _ _ _ hd => nomatch hd), id, id⟩) fun _ => rfl
  refine hm.destroyOperations fun o' ho' hp n hw => ?_
  obtain ⟨o, ho, rfl⟩ := mem_map.mp ho'
  split
  · rfl
  · rename_i hat
    rw [if_neg hat] at hp hw
    exact absurd (Bool.and_eq_true_iff.mpr ⟨hw.alive, hp⟩) hat

/-! ### Steps -/

/-- a connection is made when no notice waits, and an operation is started while the agent is taken
for available, on a card that no work under way destroys -/
def Heeding (c : AgentClient) : ClientAction → Prop
  | .ensureAgent dial _ _ =>
    c.available = false → c.transport.socket = none → dial.connects = true →
      c.transport.notices = []
  | .refreshDiscovery dial _ _ =>
    c.transport.socket = none → dial.connects = true → c.transport.notices = []
  | .startOperation card _ _ none _ =>
    c.available = true ∧ ∀ work ∈ c.todo, work.Harmless (some card)
  | _ => True

instance : ∀ (c : AgentClient) (a : ClientAction), Decidable (c.Heeding a)
  | c, .ensureAgent dial _ _ =>
    inferInstanceAs (Decidable (c.available = false → c.transport.socket = none →
      dial.connects = true → c.transport.notices = []))
  | c, .refreshDiscovery dial _ _ =>
    inferInstanceAs (Decidable (c.transport.socket = none → dial.connects = true →
      c.transport.notices = []))
  | c, .startOperation card _ _ none _ =>
    inferInstanceAs (Decidable (c.available = true ∧ ∀ work ∈ c.todo, work.Harmless (some card)))
  | _, .startOperation _ _ _ (some _) _ | _, .call _ | _, .configSnapshot _ | _, .certificateDer _
  | _, .cancel _ _ | _, .setStallBudget _ _ | _, .dismiss _ | _, .work | _, .readable _ | _, .drain
  | _, .dispatch _ | _, .runQueued | _, .derTimeout _ | _, .stallTimeout _ _
  | _, .deliverQueued _ => .isTrue trivial

lemma Loyal.step (h : Loyal c) {a : ClientAction} (ha : c.Heeding a) : Loyal (c.step qt a) := by
  cases a with
  | ensureAgent dial probe x =>
    show Loyal (c.ensureAgent dial probe x)
    unfold AgentClient.ensureAgent
    split
    · exact h
    · rename_i hd
      split <;> rename_i hp
      · exact (h.probe (ha (Bool.eq_false_of_not_eq_true hd)) hp).onServiceRegistered x
      · exact h.probe (ha (Bool.eq_false_of_not_eq_true hd)) hp
  | refreshDiscovery dial probe x =>
    show Loyal (c.refreshDiscovery dial probe x)
    unfold AgentClient.refreshDiscovery
    split <;> rename_i hp
    · split
      · exact (h.probe ha hp).repopulate x
      · exact (h.probe ha hp).onServiceRegistered x
    · exact (h.probe ha hp).onServiceUnregistered nofun
  | startOperation card kind credentials refusal x =>
    refine h.startOperation (fun hn => ?_) kind credentials x
    subst hn
    exact ha
  | certificateDer sent => exact h.certificateDer sent
  | cancel operation sent => exact h.beside (cancel_beside c operation sent)
  | setStallBudget operation | deliverQueued operation =>
    exact h.beside (beside_operation c operation rfl)
  | dismiss operation => exact h.dismiss operation
  | work => exact h.work
  | dispatch x => exact h.dispatch x
  | stallTimeout operation sent => exact h.beside (giveUpStalled_beside c operation sent)
  | call x | configSnapshot x => exact h.beside (deliver_beside qt c x rfl)
  | readable | drain | runQueued | derTimeout => exact h.beside (deliver_beside qt c {} rfl)

lemma loyal_init : Loyal {} :=
  ⟨absurd rfl, fun hn => absurd (hn.resolve_left (Option.some_ne_none _).symm) not_mem_nil,
    forall_mem_nil _, fun hw => absurd hw not_mem_nil⟩

structure LossLaws (c : AgentClient) : Prop where
  once : ∀ o ∈ c.operations, o.operation.emitted ≤ 1
  /-- once nothing waits, an operation of a connection that is gone has finished, unless its
  consumer has deleted it -/
  finished : c.transport.deferred = [] → c.todo = [] →
    ∀ o ∈ c.operations, ∀ n ∈ o.conn, c.transport.socket ≠ some n →
    o.dismissed = false → o.operation.emitted = 1
  /-- the loss of a connection finishes no operation of a newer one -/
  own : ∀ o ∈ c.operations, ∀ n ∈ o.finishedBy, ∀ m ∈ o.conn, m ≤ n

lemma Loyal.laws (h : Loyal c) : LossLaws c := by
  refine ⟨fun o ho => ?_, fun hd hi o ho n hn hg hdi => ?_, fun o ho => (h.kept o ho).blamed⟩
  · have hon := (h.kept o ho).terminal.once
    have hb := Bool.toNat_le o.operation.finishedEmitted
    omega
  · have hc : o.conn ≠ none := fun hno => nomatch hno.symm.trans hn
    have hf : o.operation.finishedEmitted = true := by
      by_contra hu
      by_cases ha : o.alive = true
      · rcases (h.kept o ho).attended ⟨ha, hn,
          Bool.eq_false_of_not_eq_true hu⟩ with ⟨-, hop | ⟨x, hx, -⟩⟩ | ⟨sweep, hs⟩
        · exact hg hop
        · unfold notices at hx
          rw [hd] at hx
          exact absurd hx not_mem_nil
        · exact absurd (hi ▸ hs) not_mem_nil
      · exact hu ((h.kept o ho).buried hc (Bool.eq_false_of_not_eq_true ha) hdi)
    have hon := (h.kept o ho).terminal.once
    rw [((h.kept o ho).direct hc).unqueued, hf] at hon
    exact hon

end AgentClient

open AgentClient

/-- In every run in which connections are made when no notice waits and operations are started on
cards that stay, an operation finishes once at most, it has finished once its connection is gone and
nothing waits, and never by the loss of an older connection. -/
theorem loss_finishes_operations (qt : QVariants) {actions : List ClientAction}
    (hheeding : Along (step qt) Heeding {} actions) : LossLaws (run (step qt) {} actions) := by
  have hl : Loyal (run (step qt) {} actions) :=
    run_invariant_along (fun _ _ ha h => h.step ha) loyal_init hheeding
  exact hl.laws

def plainVariants : QVariants where
  toString v := v.asText.getD []
  toBool v := v.asBool.getD false
  toUInt v := (v.asUInt.getD 0).toUInt32

def connectToCard (requestId : UInt64) : ClientAction :=
  .refreshDiscovery { hello := oneFrame (.reply ⟨requestId, .known (.helloAck [] [])⟩) } {}
    (oneFrame (.reply ⟨requestId + 1, .known
      (.state [] [⟨Bytes.lit "c1", Bytes.lit "r1", 1, ⟨0⟩, none, none⟩])⟩))

/-- an operation on the card waits for a person, and the connection ends while another call waits -/
def lostAtPrompt : List ClientAction :=
  [connectToCard 1, .work, .startOperation 1 .identity false none
      (oneFrame (.reply ⟨3, .known (.opStarted 7)⟩)),
    .readable ⟨[.event (.known (.opProgress 7 .awaitingConsent))], .ok⟩, .dispatch {}, .dispatch {},
    .call { polls := [.ready ⟨[], .peerClosed⟩] }]

theorem loss_finishes_operations_prompt :
    Along (step plainVariants) Heeding {}
      (lostAtPrompt ++ [.drain, .dispatch {}, .work, .work, .dispatch {}, connectToCard 5]) ∧
      LossLaws (run (step plainVariants) {}
        (lostAtPrompt ++ [.drain, .dispatch {}, .work, .work, .dispatch {}, connectToCard 5])) :=
  ⟨by decide +kernel, loss_finishes_operations plainVariants (by decide +kernel)⟩

/-- the client connects again before the notice is dispatched, and the operation on the first
connection is left without an end -/
theorem loss_unannounced :
    ¬ LossLaws (run (step plainVariants) {}
      (lostAtPrompt ++ [connectToCard 5, .work, .drain, .dispatch {}, .dispatch {}])) := by
  intro h
  obtain ⟨o, ho, hc, hd, hs⟩ : ∃ o ∈ (run (step plainVariants) {} (lostAtPrompt ++
      [connectToCard 5, .work, .drain, .dispatch {}, .dispatch {}])).operations,
      o.conn = some 1 ∧ o.dismissed = false ∧ o.operation.emitted = 0 := by
    decide +kernel
  have hf := h.finished rfl rfl o ho 1 hc (by decide +kernel) hd
  omega

end LibreAgent.Client
