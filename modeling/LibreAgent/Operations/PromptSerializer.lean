import Mathlib.Data.List.AList
import LibreAgent.Lib.Runs

/-!
# The gate in front of the prompter

At most one prompt for a card is on the screen.  Who wants to prompt draws a ticket, stands in the
queue of the card, and waits until it is at the head of the queue and the slot of the card is free,
or until its token is cancelled.

* `PromptSerializer` : the gates, one for each card somebody prompts for or waits for;
* `PromptPc` : where a thread is in `serialize`; who waits on the condition variable is not awake;
* `Prompting.step` : one step of one thread; every section under the mutex is a step.

A wait may end without a cause (`wake`).  The token of a waiter is read twice in one section; the
second reading decides, so the model reads it once.  Tickets do not run out.
-/

set_option linter.unusedSectionVars false

namespace LibreAgent.Operations

/-! ## Gates -/

structure Gate where
  waiters : List Nat := []
  held : Bool := false
  deriving DecidableEq

structure PromptSerializer (Key : Type*) where
  /-- 64 bits in the source, taken not to wrap -/
  nextTicket : Nat := 0
  gates : AList fun _ : Key => Gate := ∅

namespace PromptSerializer
variable {Key : Type*} [DecidableEq Key]
variable (s : PromptSerializer Key)

def gateAt (key : Key) : Gate :=
  (s.gates.lookup key).getD {}

def atHead (key : Key) (ticket : Nat) : Bool :=
  match s.gates.lookup key with
  | some gate => gate.waiters.head? == some ticket
  | none => false

def slotFree (key : Key) : Bool :=
  match s.gates.lookup key with
  | some gate => !gate.held
  | none => true

/-- `m_gates[key].waiters.push_back(m_nextTicket++)` -/
def enqueue (key : Key) : PromptSerializer Key :=
  let gate := s.gateAt key
  { nextTicket := s.nextTicket + 1
    gates := s.gates.insert key { gate with waiters := gate.waiters ++ [s.nextTicket] } }

def withdraw (key : Key) (ticket : Nat) : PromptSerializer Key :=
  match s.gates.lookup key with
  | none => s
  | some gate =>
    if (gate.waiters.erase ticket).isEmpty ∧
      gate.held = false then { s with gates := s.gates.erase key }
    else { s with gates := s.gates.insert key { gate with waiters := gate.waiters.erase ticket } }

def take (key : Key) : PromptSerializer Key :=
  let mine := s.gateAt key
  { s with gates := s.gates.insert key { waiters := mine.waiters.tail, held := true } }

def release (key : Key) : PromptSerializer Key :=
  match s.gates.lookup key with
  | none => s
  | some gate =>
    if gate.waiters.isEmpty then { s with gates := s.gates.erase key }
    else { s with gates := s.gates.insert key { gate with held := false } }

def hasPendingPrompt : Bool :=
  s.gates.entries.any fun entry => entry.2.held || !entry.2.waiters.isEmpty

end PromptSerializer

/-! ## Threads -/

inductive PromptPc (Key Token : Type*) where
  | idle
  | queued (key : Key) (ticket : Nat) (token : Token) (awake : Bool)
  | holding (key : Key)
  deriving DecidableEq

inductive SlotEvent (Key Token : Type*) where
  | cancelled (token : Token)
  | entered (key : Key) (ticket : Nat) (token : Token)
  | withdrawn (key : Key) (ticket : Nat) (token : Token)
  | granted (key : Key) (ticket : Nat) (token : Token)
  | released (key : Key)
  deriving DecidableEq

structure Prompting (Tid Key Token : Type*) where
  serializer : PromptSerializer Key := {}
  cancelled : Token → Bool := fun _ => false
  threads : Tid → PromptPc Key Token := fun _ => .idle
  log : List (SlotEvent Key Token) := []

inductive SlotAction (Tid Key Token : Type*) where
  | acquire (t : Tid) (key : Key) (token : Token)
  /-- the predicate of the wait, and what follows if it holds -/
  | check (t : Tid)
  | wake (t : Tid)
  | release (t : Tid)
  | cancel (token : Token)
  /-- what a waiter has registered with its token, once the token is cancelled -/
  | callback (t : Tid)

def PromptPc.notified {Key Token : Type*} : PromptPc Key Token → PromptPc Key Token
  | .queued key ticket token _ => .queued key ticket token true
  | pc => pc

namespace Prompting
variable {Tid Key Token : Type*} [DecidableEq Tid] [DecidableEq Key] [DecidableEq Token]
variable (s : Prompting Tid Key Token)

def setThread (t : Tid) (pc : PromptPc Key Token) : Prompting Tid Key Token :=
  { s with threads := Function.update s.threads t pc }

@[simp] lemma setThread_self (t : Tid) (pc : PromptPc Key Token) :
    (s.setThread t pc).threads t = pc :=
  Function.update_self ..

lemma setThread_of_ne {t u : Tid} (h : u ≠ t) (pc : PromptPc Key Token) :
    (s.setThread t pc).threads u = s.threads u :=
  Function.update_of_ne h ..

/-- `m_cv.notify_all()` -/
def notifyAll : Prompting Tid Key Token :=
  { s with threads := fun t => (s.threads t).notified }

def say (e : SlotEvent Key Token) : Prompting Tid Key Token :=
  { s with log := e :: s.log }

def enter (t : Tid) (key : Key) (token : Token) : Prompting Tid Key Token :=
  let ticket := s.serializer.nextTicket
  ({ s with serializer := s.serializer.enqueue key }.setThread t
      (.queued key ticket token true)).say
    (.entered key ticket token)

def withdraw (t : Tid) (key : Key) (ticket : Nat) (token : Token) : Prompting Tid Key Token :=
  (({ s with serializer := s.serializer.withdraw key ticket }.setThread t .idle).say
    (.withdrawn key ticket token)).notifyAll

def take (t : Tid) (key : Key) (ticket : Nat) (token : Token) : Prompting Tid Key Token :=
  ({ s with serializer := s.serializer.take key }.setThread t (.holding key)).say
    (.granted key ticket token)

def check (t : Tid) (key : Key) (ticket : Nat) (token : Token) : Prompting Tid Key Token :=
  if s.cancelled token then s.withdraw t key ticket token
  else if s.serializer.slotFree key ∧ s.serializer.atHead key ticket then s.take t key ticket token
  else s.setThread t (.queued key ticket token false)

def release (t : Tid) (key : Key) : Prompting Tid Key Token :=
  (({ s with serializer := s.serializer.release key }.setThread t .idle).say
      (.released key)).notifyAll

section Access
variable (s : Prompting Tid Key Token) {t u : Tid} {key : Key} {ticket : Nat} {token : Token}

@[simp] lemma enter_self : (s.enter t key token).threads t = .queued key s.serializer.nextTicket
    token true :=
  setThread_self _ t (.queued key s.serializer.nextTicket token true)

lemma enter_of_ne (h : u ≠ t) : (s.enter t key token).threads u = s.threads u :=
  setThread_of_ne _ h (.queued key s.serializer.nextTicket token true)

@[simp] lemma withdraw_self : (s.withdraw t key ticket token).threads t = .idle :=
  congrArg PromptPc.notified (setThread_self s t .idle)

lemma withdraw_of_ne (h : u ≠ t) : (s.withdraw t key ticket token).threads u =
    (s.threads u).notified :=
  congrArg PromptPc.notified (setThread_of_ne s h .idle)

@[simp] lemma take_self : (s.take t key ticket token).threads t = .holding key :=
  setThread_self _ t (.holding key)

lemma take_of_ne (h : u ≠ t) : (s.take t key ticket token).threads u = s.threads u :=
  setThread_of_ne _ h (.holding key)

@[simp] lemma release_self : (s.release t key).threads t = .idle :=
  congrArg PromptPc.notified (setThread_self s t .idle)

lemma release_of_ne (h : u ≠ t) : (s.release t key).threads u = (s.threads u).notified :=
  congrArg PromptPc.notified (setThread_of_ne s h .idle)

end Access

def cancel (token : Token) : Prompting Tid Key Token :=
  { s with cancelled := Function.update s.cancelled token true }.say (.cancelled token)

def step : SlotAction Tid Key Token → Prompting Tid Key Token
  -- the predicate is looked at before the mutex is given up
  | .acquire t key token =>
    match s.threads t with
    | .idle => (s.enter t key token).check t key s.serializer.nextTicket token
    | _ => s
  | .check t =>
    match s.threads t with
    | .queued key ticket token true => s.check t key ticket token
    | _ => s
  | .wake t => s.setThread t (s.threads t).notified
  | .release t =>
    match s.threads t with
    | .holding key => s.release t key
    | _ => s
  | .cancel token => s.cancel token
  | .callback t =>
    match s.threads t with
    | .queued _ _ token _ => if s.cancelled token then s.notifyAll else s
    | _ => s

end Prompting

end LibreAgent.Operations
