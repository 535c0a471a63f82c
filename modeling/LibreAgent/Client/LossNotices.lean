import LibreAgent.Client.ClientSteps
import LibreAgent.Client.TerminalProtocol

/-!
# Loss notices

When a connection ends the transport puts a notice on the queue, and announces the loss when it gets
to it, unless another connection has been made since.

* `SocketTransport.notices` : the notices that wait, each with its connection and the generation;
* `Tells` : what moves of the transport do to them, `aside_tells` : what calls beside the queue do;
* `Direct` : an operation that reports its end at once.
-/

namespace LibreAgent.Client

open Relation
open Wire (DecodedEvent DecodedReply)

/-! ## Notices -/

def DeferredItem.notice? : DeferredItem → Option (Nat × Nat)
  | .connectionLost conn generation _ _ => some (conn, generation)
  | .event _ _ | .reply _ => none

namespace SocketTransport
variable {s s' s₁ : SocketTransport} {n : Nat}

section
variable (s)

def notices : List (Nat × Nat) :=
  s.deferred.filterMap (·.notice?)

/-- the connection, or one whose loss is not announced yet -/
def Recent (n : Nat) : Prop :=
  s.socket = some n ∨ n ∈ s.notices.map (·.1)

/-- an operation of the connection need not be finished yet -/
def Holds (n : Nat) : Prop :=
  s.socket = some n ∨ ∃ x ∈ s.notices, x.2 = s.generation

def Shaken : Prop :=
  s.socket ≠ none → s.established = true

end

/-- the connection is kept, or it is lost and a notice says so -/
structure Tells (s s' : SocketTransport) : Prop where
  shaken : Shaken s'
  generation : s'.generation = s.generation
  sockets : s'.sockets = s.sockets
  fate : (s'.socket = s.socket ∧ s'.notices = s.notices) ∨
    ∃ conn, s.socket = some conn ∧ s'.socket = none ∧ s'.notices = s.notices ++
      [(conn, s.generation)]

lemma tells_of (hs : Shaken s) (hso : s'.socket = s.socket) (he : s'.established = s.established)
    (hg : s'.generation = s.generation) (hsoc : s'.sockets = s.sockets)
    (hn : s'.notices = s.notices) : Tells s s' := by
  refine ⟨?_, hg, hsoc, .inl ⟨hso, hn⟩⟩
  unfold Shaken
  rw [hso, he]
  exact hs

lemma Tells.refl (h : Shaken s) : Tells s s := tells_of h rfl rfl rfl rfl rfl

lemma Tells.trans (h : Tells s s₁) (h' : Tells s₁ s') : Tells s s' := by
  refine ⟨h'.shaken, h'.generation.trans h.generation, h'.sockets.trans h.sockets, ?_⟩
  rcases h.fate with ⟨hs, hn⟩ | ⟨conn, ho, hc, hn⟩
  · rcases h'.fate with ⟨hs', hn'⟩ | ⟨conn, ho, hc, hn'⟩
    · exact .inl ⟨hs'.trans hs, hn'.trans hn⟩
    · refine .inr ⟨conn, hs ▸ ho, hc, ?_⟩
      rw [hn', hn, h.generation]
  · rcases h'.fate with ⟨hs', hn'⟩ | ⟨conn', ho', -, -⟩
    · exact .inr ⟨conn, ho, hs'.trans hc, hn'.trans hn⟩
    · exact nomatch hc.symm.trans ho'

lemma Tells.recent (h : Tells s s') (hn : s'.Recent n) : s.Recent n := by
  unfold Recent at hn
  rcases h.fate with ⟨hs, hs'⟩ | ⟨conn, ho, hc, hs'⟩
  · rw [hs, hs'] at hn
    exact hn
  · rw [hc, hs', List.map_append, List.mem_append] at hn
    rcases hn with hn | hn | hn
    · cases hn
    · exact .inr hn
    · exact .inl (ho.trans (congrArg some (List.mem_singleton.mp hn).symm))

lemma Tells.holds (h : Tells s s') (hn : s.Holds n) : s'.Holds n := by
  unfold Holds
  rw [h.generation]
  rcases h.fate with ⟨hs, hs'⟩ | ⟨conn, -, -, hs'⟩
  · rw [hs, hs']
    exact hn
  · rw [hs']
    exact .inr ⟨_, List.mem_append_right _ List.mem_cons_self, rfl⟩

lemma notices_defer (s : SocketTransport) (item : DeferredItem) :
    (s.defer item).notices = s.notices ++ item.notice?.toList := by
  show (s.deferred ++ [item]).filterMap _ = _
  rw [List.filterMap_append]
  cases item <;> rfl

lemma Books.tells (h : Books s s') (hs : Shaken s) : Tells s s' := by
  refine tells_of hs h.socket h.established h.generation h.sockets ?_
  unfold notices
  rw [h.deferred]

lemma Move.tells (h : Move s s') (hsh : Shaken s) : Tells s s' := by
  cases h with
  | request | schedule | drain | config | awake => exact tells_of hsh rfl rfl rfl rfl rfl
  | receive | reply =>
    exact tells_of hsh rfl rfl rfl rfl ((notices_defer _ _).trans (List.append_nil _))
  | drop =>
    rcases s.dropConnection_cases with ⟨-, hs⟩ | ⟨conn, ho, ⟨hf, -⟩ | ⟨-, hs⟩⟩
    · rw [hs]
      exact .refl hsh
    · exact nomatch hf.symm.trans (hsh (by rw [ho]; nofun))
    · rw [hs]
      exact ⟨absurd rfl, rfl, rfl, .inr ⟨conn, ho, rfl, notices_defer _ _⟩⟩

lemma Moves.tells (h : Moves s s') (hs : Shaken s) : Tells s s' := by
  induction h with
  | refl => exact .refl hs
  | tail _ hm ih => exact ih.trans (hm.tells ih.shaken)

lemma Move.recent (h : Move s s') (hn : s'.Recent n) : s.Recent n := by
  cases h with
  | request | schedule | drain | config | awake => exact hn
  | receive | reply =>
    refine hn.imp_right fun hm => ?_
    exact (congrArg (n ∈ List.map Prod.fst ·) ((notices_defer _ _).trans (List.append_nil _))).mp hm
  | drop =>
    rcases s.dropConnection_cases with ⟨-, hs⟩ | ⟨conn, ho, ⟨-, hs⟩ | ⟨-, hs⟩⟩ <;> rw [hs] at hn
    · exact hn
    · exact .inr (hn.resolve_left (Option.some_ne_none _).symm)
    · have hm := hn.resolve_left (Option.some_ne_none _).symm
      rw [notices_defer, List.map_append, List.mem_append] at hm
      exact hm.symm.imp_left fun hm => ho.trans (congrArg some (List.mem_singleton.mp hm).symm)

lemma Moves.recent (h : Moves s s') : s'.Recent n → s.Recent n :=
  h.keeps (P := fun t => t.Recent n → s.Recent n) (fun hm hr hn => hr (hm.recent hn)) id

lemma Aloof.tells (h : Aloof s s') (hs : Shaken s) : Tells s s' :=
  tells_of hs h.socket h.established h.generation h.sockets
    (congrArg (List.filterMap DeferredItem.notice?) h.deferred)

lemma aside_tells (hs : Shaken s) {a : TransportAction} (ha : a.aside = true) :
    Tells s (s.step a).1 :=
  aside_keeps (fun hm h => h.trans (hm.tells h.shaken)) (fun hal h => h.trans (hal.tells h.shaken))
    (.refl hs) ha

end SocketTransport

open SocketTransport

/-! ## Signals that are not queued -/

namespace AgentOperation
variable {op op' : AgentOperation}

structure Direct (op : AgentOperation) : Prop where
  made : op.inCtorRecovery = false
  unqueued : op.queued = 0

lemma Direct.armForPhase (h : Direct op) (phase : Wire.OperationPhase) :
    Direct (op.armForPhase phase) := by
  unfold AgentOperation.armForPhase
  split <;> exact ⟨h.made, h.unqueued⟩

lemma Direct.part {own ctor : Prop} (hn : ¬ ctor) (hp : Part own ctor op op') (h : Direct op) :
    Direct op' := by
  cases hp with
  | held phase =>
    refine Direct.armForPhase ?_ phase
    exact ⟨h.made, h.unqueued⟩
  | budget | stop | dropFetch | fetched => exact ⟨h.made, h.unqueued⟩
  | result payload => cases payload <;> exact ⟨h.made, h.unqueued⟩
  | window hc => exact absurd hc hn
  | emit v =>
    unfold emitFinishedOnce
    split
    · exact h
    · rw [if_neg (Bool.eq_false_iff.mp h.made)]
      exact ⟨h.made, h.unqueued⟩
  | deliver hq => exact absurd h.unqueued hq

lemma Direct.step (h : Direct op) {call : OperationCall} (hc : call.isFailEntry = false) :
    Direct (op.step call) :=
  (step_parts op call).keeps (Direct.part (Bool.eq_false_iff.mp hc)) h

lemma finished_step (h : op.finishedEmitted = true) (call : OperationCall) :
    (op.step call).finishedEmitted = true :=
  ((step_parts op call).keeps Closed.part ⟨h, rfl⟩).1

lemma terminal_step (h : Terminal op) (call : OperationCall) : Terminal (op.step call) :=
  (step_parts op call).keeps Terminal.part h

end AgentOperation

end LibreAgent.Client
