import LibreAgent.Operations.OperationBase
import LibreAgent.Operations.PromptSerializer

/-!
# The way to a dialog

To prompt, the worker of an operation sets the phase to `AwaitingConsent`, takes the slot of its
card, mints an identifier, lists it as live, and has the prompter raise the dialog.  The identifier
is listed until the dialog is answered.  Who cancels an operation that it has seen in
`AwaitingConsent` has the prompter dismiss the dialogs listed for the card.

* `PromptStage` : where the worker is on this way;
* `Prompts` : the operation with the gate, at which the other operations prompt and wait too;
* `Prompts.step` : one step of one thread.

The identifiers of one run of the agent differ in their number alone.  The worker of the operation
is the thread `none` of the gate, and its token is the token `none`.  An operation that prompts has
a callback for the prompter.
-/

set_option linter.unusedSectionVars false

namespace LibreAgent.Operations

/-! ## Live prompts -/

abbrev LivePrompts (Key : Type*) := AList fun _ : Nat => Key

namespace LivePrompts
variable {Key : Type*} [DecidableEq Key]

def registerLivePrompt (live : LivePrompts Key) (key : Key) (id : Nat) : LivePrompts Key :=
  live.insert id key

def forgetLivePrompt (live : LivePrompts Key) (id : Nat) : LivePrompts Key :=
  live.erase id

def liveIdsFor (live : LivePrompts Key) (key : Key) : List Nat :=
  (live.entries.filter fun entry => entry.2 = key).map (·.1)

end LivePrompts

/-! ## Calls of `requestCancel` -/

inductive CancelMove (Tid : Type*) where
  | begins (who : Caller Tid)
  | ends (who : Caller Tid) (previous : UInt32)

namespace Operation
variable {Tid : Type*}

def cancelMove (s : Operation Tid) : BaseAction Tid → Option (CancelMove Tid)
  | .requestCancel t | .finishCardRemoved t =>
    match s.others t with
    | .idle => some (.begins (.other t))
    | _ => none
  | .timer n =>
    match s.timers n with
    | .latching => some (.begins (.timer n))
    | .cancelling (.dismiss previous) => some (.ends (.timer n) previous)
    | _ => none
  | .other t =>
    match s.others t with
    | .cancelling (.dismiss previous) _ => some (.ends (.other t) previous)
    | _ => none
  | _ => none

end Operation

/-! ## State -/

inductive PromptStage where
  | away
  -- in `setPhase`
  | setting
  -- in `acquire`, or with the slot in hand
  | asking
  | stamped (id : Nat)
  | registered (id : Nat)
  | raised (id : Nat)
  | answered (id : Nat)
  | leaving
  deriving DecidableEq

inductive DialogEvent (Tid : Type*) where
  | called (who : Caller Tid)
  | returned (who : Caller Tid)
  | registered (id : Nat)
  | raised (id : Nat)
  | answered (id : Nat)
  /-- the prompter is told to dismiss the dialog -/
  | sent (id : Nat)
  deriving DecidableEq

structure Prompts (Tid Peer Key Token : Type*) where
  op : Operation Tid := {}
  slots : Prompting (Option Peer) Key (Option Token) := {}
  stage : PromptStage := .away
  minted : Nat := 0
  live : LivePrompts Key := ∅
  /-- the calls of `requestCancel` under way -/
  calling : List (Caller Tid) := []
  log : List (DialogEvent Tid) := []

inductive PromptAction (Tid Peer Key Token : Type*) where
  | base (a : BaseAction Tid)
  | ask
  /-- `wanted`: what `stillWanted` says, if it is asked -/
  | prompt (wanted : Bool)
  | answer
  -- the other operations
  | peer (a : SlotAction Peer Key Token)
  | peerRegisters (key : Key)
  | peerForgets (id : Nat)
  -- the condition variable, for the worker of the operation
  | wake
  | callback

def SlotAction.ofPeer {Peer Key Token : Type*} :
    SlotAction Peer Key Token → SlotAction (Option Peer) Key (Option Token)
  | .acquire t key token => .acquire (some t) key (some token)
  | .check t => .check (some t)
  | .wake t => .wake (some t)
  | .release t => .release (some t)
  | .cancel token => .cancel (some token)
  | .callback t => .callback (some t)

def PromptStage.current : PromptStage → Option Nat
  | .registered id | .raised id | .answered id => some id
  | _ => none

namespace Prompts
variable {Tid Peer Key Token : Type*} [DecidableEq Tid] [DecidableEq Peer] [DecidableEq Key]
  [DecidableEq Token]

variable (s : Prompts Tid Peer Key Token)

def say (events : List (DialogEvent Tid)) : Prompts Tid Peer Key Token :=
  { s with log := events ++ s.log }

def dismissed (key : Key) (previous : UInt32) : List Nat :=
  if previous = OperationPhase.awaitingConsent.number then s.live.liveIdsFor key else []

/-- what happens to the calls of `requestCancel` in a step of the operation -/
def callEvents (key : Key) (s : Prompts Tid Peer Key Token) : Option (CancelMove Tid) →
    List (DialogEvent Tid)
  | none => []
  | some (.begins who) => [.called who]
  | some (.ends who previous) => .returned who :: (s.dismissed key previous).map .sent

def callsAfter : Option (CancelMove Tid) → List (Caller Tid)
  | none => s.calling
  | some (.begins who) => who :: s.calling
  | some (.ends who _) => s.calling.filter (· ≠ who)

def base (setup : Setup) (key : Key) (s : Prompts Tid Peer Key Token) (a : BaseAction Tid) :
    Prompts Tid Peer Key Token :=
  { s with
    op := s.op.step setup a
    slots := if (s.op.step setup a).token = s.op.token then s.slots else s.slots.cancel none
    calling := s.callsAfter (s.op.cancelMove a) }.say (s.callEvents key (s.op.cancelMove a))

def prompt (key : Key) (wanted : Bool) (s : Prompts Tid Peer Key Token) : PromptStage →
    Prompts Tid Peer Key Token
  | .away | .raised _ => s
  | .setting =>
    match s.op.worker with
    | .working => { s with slots := s.slots.step (.acquire none key none), stage := .asking }
    | _ => s
  | .asking =>
    match s.slots.threads none with
    -- cancelled in the queue
    | .idle => { s with stage := .away }
    | .queued _ _ _ _ => { s with slots := s.slots.step (.check none) }
    | .holding _ =>
      if wanted then { s with stage := .stamped s.minted, minted := s.minted + 1 }
        else { s with stage := .leaving }
  | .stamped id =>
    { s with live := s.live.registerLivePrompt key id, stage := .registered id }.say
      [.registered id]
  | .registered id => { s with stage := .raised id }.say [.raised id]
  | .answered id => { s with live := s.live.forgetLivePrompt id, stage := .leaving }
  | .leaving => { s with slots := s.slots.step (.release none), stage := .away }

def answer : PromptStage → Prompts Tid Peer Key Token
  | .raised id => { s with stage := .answered id }.say [.answered id]
  | _ => s

def isCall : BaseAction Tid → Bool
  | .call _ => true
  | _ => false

def step (setup : Setup) (key : Key) (s : Prompts Tid Peer Key Token) :
    PromptAction Tid Peer Key Token → Prompts Tid Peer Key Token
  -- the worker makes no other call while it prompts
  | .base a => if isCall a = true ∧ s.stage ≠ .away then s else s.base setup key a
  | .ask =>
    if s.stage = .away then
      match s.op.worker with
      | .working =>
        { s with op := s.op.step setup (.call (.setPhase OperationPhase.awaitingConsent.number)),
                 stage := .setting }
      | _ => s
    else s
  | .prompt wanted => s.prompt key wanted s.stage
  | .answer => s.answer s.stage
  | .peer a => { s with slots := s.slots.step a.ofPeer }
  | .peerRegisters k =>
    { s with live := s.live.registerLivePrompt k s.minted, minted := s.minted + 1 }
  -- an identifier is forgotten by who has registered it
  | .peerForgets id =>
    if s.stage.current = some id then s else { s with live := s.live.forgetLivePrompt id }
  | .wake => { s with slots := s.slots.step (.wake none) }
  | .callback => { s with slots := s.slots.step (.callback none) }

end Prompts

end LibreAgent.Operations
