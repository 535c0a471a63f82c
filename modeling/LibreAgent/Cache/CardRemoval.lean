import LibreAgent.Cache.ReadFlows
import LibreAgent.Lib.Runs

/-!
# Operations on a card and its removal

* `Agent`, `Agent.step` : the caches, the operations in flight, each a program with the key of its
  card, and for each card how far `invalidateCardRemovalCaches` has got; operations and removals of
  all cards interleave call by call;
* `card_removal_clears` : so it is if no operation stores into a cache that its card has been
  removed from already.

An operation that is past its last look at its token stores what it has read, whatever has happened
to the card (`card_removal_fails`).
-/

namespace LibreAgent.Cache

open Runs

/-! ## The agent -/

inductive Removal where
  | seated
  | under (stage : RemovalStage)
  | completed
  deriving DecidableEq

structure Running (Key : Type) where
  cardKey : Key
  program : Flow Unit

structure Agent (Tid Key : Type) where
  caches : CardCaches Key := {}
  ops : AList fun _ : Tid => Running Key := ∅
  removals : Key → Removal := fun _ => .seated

inductive AgentAction (Tid Key : Type) where
  | start (t : Tid) (cardKey : Key) (program : Flow Unit)
  /-- the next call of an operation: what the world answers, and what the clocks show -/
  | go (t : Tid) (answers : (c : FlowCall) → c.Ans) (now touched : Int)
  | remove (cardKey : Key)

namespace Agent

variable {Tid Key : Type} [DecidableEq Tid] [DecidableEq Key] (s : Agent Tid Key)

def setOp (t : Tid) (cardKey : Key) (program : Flow Unit) : Agent Tid Key :=
  { s with ops := s.ops.insert t ⟨cardKey, program⟩ }

def go (t : Tid) (cardKey : Key) (answers : (c : FlowCall) → c.Ans) (now touched : Int) :
    Flow Unit → Agent Tid Key
  | .done _ => { s with ops := s.ops.erase t }
  | .ask (.cache c) goOn =>
    let (caches, answer) := s.caches.answer cardKey now touched c
    { s with caches }.setOp t cardKey (goOn answer)
  | .ask c goOn => s.setOp t cardKey (goOn (answers c))

def remove (cardKey : Key) : Agent Tid Key :=
  match s.removals cardKey with
  | .seated => { s with removals := Function.update s.removals cardKey (.under .credentials) }
  | .under stage =>
    { s with
      caches := s.caches.invalidateAt cardKey stage
      removals := Function.update s.removals cardKey (stage.next.elim .completed .under) }
  | .completed => s

def step : AgentAction Tid Key → Agent Tid Key
  | .start t cardKey program => if (s.ops.lookup t).isSome then s else s.setOp t cardKey program
  | .go t answers now touched =>
    match s.ops.lookup t with
    | some op => s.go t op.cardKey answers now touched op.program
    | none => s
  | .remove cardKey => s.remove cardKey

end Agent

section Results
variable {Tid Key : Type} [DecidableEq Tid] [DecidableEq Key] {s : Agent Tid Key}

def Cleared (s : Agent Tid Key) : Prop :=
  ∀ key, s.removals key = .completed → (∀ op ∈ s.ops.entries, op.2.cardKey ≠ key) →
    s.caches.at key = (none, none, none)

/-! ## Stores -/

def CacheCall.storesIn : CacheCall → Option RemovalStage
  | putCan _ | putMrz _ | markCredentialWrong | noteLastPromptYieldedNothing true | noteRefusal _ =>
    some .credentials
  | put _ | putCertificates _ => some .reads
  | putSnapshot _ => some .snapshots
  | _ => none

def CardCaches.Lacks (caches : CardCaches Key) (key : Key) : RemovalStage → Prop
  | .credentials => (caches.at key).1 = none
  | .reads => (caches.at key).2.1 = none
  | .snapshots => (caches.at key).2.2 = none

variable {caches : CardCaches Key} {key cardKey : Key} {stage : RemovalStage}

lemma CardCaches.at_eq_none (h : ∀ stage, caches.Lacks key stage) :
    caches.at key = (none, none, none) :=
  Prod.ext (h .credentials) (Prod.ext (h .reads) (h .snapshots))

lemma CardCaches.Lacks.of_at_eq {caches' : CardCaches Key} (h : caches.Lacks key stage)
    (hat : caches'.at key = caches.at key) : caches'.Lacks key stage := by
  cases stage <;> simpa only [CardCaches.Lacks, hat] using h

lemma CardReadCache.lookup_getHalf_of_none {α : Type*} {reads : CardReadCache Key}
    (h : reads.entries.lookup key = none) (now touched : Int) (half : CardReadEntry → Option α) :
    (reads.getHalf key now touched half).1.entries.lookup key = none := by
  simp [getHalf, liveEntry, h]

lemma CredentialSnapshotCache.lookup_get_of_none {snapshots : CredentialSnapshotCache Key}
    (h : snapshots.entries.lookup key = none) (now touched : Int) :
    (snapshots.get key now touched).1.entries.lookup key = none := by
  simp [get, liveEntry, h]

lemma CardCaches.Lacks.answer (h : caches.Lacks key stage) {c : CacheCall}
    (hc : c.storesIn ≠ some stage) (now touched : Int) :
    (caches.answer key now touched c).1.Lacks key stage := by
  cases stage with
  | credentials =>
    cases c with
    | putCan | putMrz | markCredentialWrong | noteRefusal => exact absurd rfl hc
    | noteLastPromptYieldedNothing yieldedNothing =>
      cases yieldedNothing with
      | true => exact absurd rfl hc
      | false =>
        have hl : caches.credentials.lookup key = none := h
        show (caches.credentials.noteLastPromptYieldedNothing key false).lookup key = none
        simp [CredentialCache.noteLastPromptYieldedNothing, hl]
    | invalidateCredentials => exact AList.lookup_erase _ _
    | _ => exact h
  | reads =>
    cases c with
    | put | putCertificates => exact absurd rfl hc
    | get | getCertificates => exact CardReadCache.lookup_getHalf_of_none h now touched _
    | invalidateReads => exact AList.lookup_erase _ _
    | _ => exact h
  | snapshots =>
    cases c with
    | putSnapshot => exact absurd rfl hc
    | getSnapshot => exact CredentialSnapshotCache.lookup_get_of_none h now touched
    | invalidateSnapshot => exact AList.lookup_erase _ _
    | _ => exact h

/-! ## The removal -/

def Removal.passed : Removal → RemovalStage → Bool
  | .seated, _ => false
  | .under .credentials, _ => false
  | .under .reads, stage => stage = .credentials
  | .under .snapshots, stage => stage = .credentials ∨ stage = .reads
  | .completed, _ => true

lemma CardCaches.lacks_invalidateAt (caches : CardCaches Key) (key : Key) (stage : RemovalStage) :
    (caches.invalidateAt key stage).Lacks key stage := by
  cases stage <;> exact AList.lookup_erase _ _

lemma CardCaches.Lacks.invalidateAt (h : caches.Lacks key stage) (stage' : RemovalStage) :
    (caches.invalidateAt key stage').Lacks key stage := by
  cases stage' with
  | credentials | reads | snapshots =>
    cases stage with
    | credentials | reads | snapshots => first | exact h | exact AList.lookup_erase _ _

lemma RemovalStage.passed_next {stage' : RemovalStage}
    (h : Removal.passed (stage.next.elim .completed .under) stage' = true) :
    stage' = stage ∨ Removal.passed (.under stage) stage' = true := by
  cases stage with
  | credentials | reads | snapshots =>
    cases stage' with
    | credentials | reads | snapshots => revert h; decide

/-! ## Whole runs -/

def Scrubbed (s : Agent Tid Key) : Prop :=
  ∀ key stage, (s.removals key).passed stage = true → s.caches.Lacks key stage

def Agent.pendingStore (s : Agent Tid Key) (t : Tid) : Option (Key × RemovalStage) :=
  match s.ops.lookup t with
  | some ⟨cardKey, .ask (.cache c) _⟩ => c.storesIn.map (cardKey, ·)
  | _ => none

/-- nothing is stored for a card in a cache that its removal has already cleared -/
def InTime (s : Agent Tid Key) : AgentAction Tid Key → Prop
  | .go t _ _ _ => ∀ store ∈ s.pendingStore t, (s.removals store.1).passed store.2 = false
  | _ => True

instance (s : Agent Tid Key) : ∀ a, Decidable (InTime s a)
  | .go t _ _ _ =>
    inferInstanceAs (Decidable (∀ store ∈ s.pendingStore t, (s.removals store.1).passed store.2 =
      false))
  | .start _ _ _ | .remove _ => .isTrue trivial

lemma Scrubbed.setOp (h : Scrubbed s) (t : Tid) (cardKey : Key) (program : Flow Unit) :
    Scrubbed (s.setOp t cardKey program) :=
  h

lemma Scrubbed.go (h : Scrubbed s) {t : Tid} {program : Flow Unit}
    (hop : s.ops.lookup t = some ⟨cardKey, program⟩) {answers : (c : FlowCall) → c.Ans}
    {now touched : Int} (ht : InTime s (.go t answers now touched)) :
    Scrubbed (s.go t cardKey answers now touched program) := by
  cases program with
  | done => exact h
  | ask c goOn =>
    cases c with
    | cache c =>
      intro key stage hp
      have hl : s.caches.Lacks key stage := h key stage hp
      by_cases hk : key = cardKey
      · subst hk
        refine hl.answer (fun hs => ?_) now touched
        -- the store would be one into a cache that the removal is past
        have hst : s.pendingStore t = some (key, stage) := by
          simp [Agent.pendingStore, hop, hs]
        have hn : (s.removals key).passed stage = false := ht (key, stage) hst
        exact Bool.noConfusion (hn.symm.trans hp)
      · exact hl.of_at_eq (CardCaches.answer_of_ne _ hk c)
    | _ => exact h

omit [DecidableEq Tid] in
lemma Scrubbed.goes (h : Scrubbed s) {removal : Removal}
    (ho : ∀ key, key ≠ cardKey → caches.at key = s.caches.at key)
    (hs : ∀ stage, removal.passed stage = true → caches.Lacks cardKey stage) :
    Scrubbed { s with caches, removals := Function.update s.removals cardKey removal } := by
  intro key stage hp
  have hp : (Function.update s.removals cardKey removal key).passed stage = true := hp
  by_cases hk : key = cardKey
  · subst hk
    rw [Function.update_self] at hp
    exact hs stage hp
  · rw [Function.update_of_ne hk] at hp
    exact (h key stage hp).of_at_eq (ho key hk)

omit [DecidableEq Tid] in
lemma Scrubbed.remove (h : Scrubbed s) (cardKey : Key) : Scrubbed (s.remove cardKey) := by
  unfold Agent.remove
  split
  · exact h.goes (fun _ _ => rfl) fun _ hp => Bool.noConfusion hp
  · next stage' hr =>
    refine h.goes (fun key hk => CardCaches.invalidateAt_of_ne _ hk stage') fun stage hp => ?_
    rcases RemovalStage.passed_next hp with rfl | hb
    · exact CardCaches.lacks_invalidateAt _ _ _
    · exact (h cardKey stage (hr ▸ hb)).invalidateAt stage'
  · exact h

lemma Scrubbed.step (s : Agent Tid Key) (a : AgentAction Tid Key) (ht : InTime s a)
    (h : Scrubbed s) :
    Scrubbed (s.step a) := by
  cases a with
  | start t cardKey program =>
    simp only [Agent.step]
    split
    · exact h
    · exact h.setOp t cardKey program
  | go t answers now touched =>
    simp only [Agent.step]
    split
    · next op hop => exact h.go hop ht
    · exact h
  | remove cardKey => exact h.remove cardKey

/-- In every run, of any operations on any cards, in which no operation stores into a cache that its
card has already been removed from, no cache holds an entry for a card that is gone and has no
operation left. -/
theorem card_removal_clears (caches : CardCaches Key) (actions : List (AgentAction Tid Key))
    (h : Along Agent.step InTime { caches } actions) :
    Cleared (run Agent.step { caches } actions) := by
  have hs : Scrubbed (run Agent.step { caches } actions) :=
    run_invariant_along Scrubbed.step (fun _ _ hp => Bool.noConfusion hp) h
  intro key ho _
  exact CardCaches.at_eq_none fun stage => hs key stage (ho ▸ rfl)

end Results

/-! ## Runs -/

/-- the world lets an operation succeed; the middleware asks as in `reqs` -/
def obliging (reqs : List AuthRequirement) : (c : FlowCall) → c.Ans
  | .cache c => (({} : CardCaches Unit).answer () 0 0 c).2
  | .isCancelled | .shutdownRequested => false
  | .emitResult _ | .acquireSlot | .depositMrz _ => true
  | .prompt _ _ => { status := .ok, secret := some [49, 50, 51, 52, 53, 54] }
  | .acquire => .ok []
  | .beginRead => reqs
  | .read => { status := .ok, snapshot := some { groups := [{}] } }
  | .list => {}
  | .setPhase _ | .finish _ | .onCardType _ | .releaseSlot | .clearCachedPaceCredentials
  | .provided _ => ()

def removedAfter (calls : Nat) (program : Flow Unit) (reqs : List AuthRequirement) (more : Nat) :
    List (AgentAction Unit Unit) :=
  .start () () program :: List.replicate calls (.go () (obliging reqs) 0 0) ++ List.replicate 4
    (.remove ()) ++
    List.replicate more (.go () (obliging reqs) 0 0)

/-- an identity read that has stored its result when the card goes, and has still to deliver it -/
theorem card_removal_clears_stored :
    Cleared (run Agent.step {} (removedAfter 15 (ReadIdentityOperation.doWork true {}) [] 3)) :=
  card_removal_clears {} _ (by decide +kernel)

/-- An identity read that has looked at its token for the last time stores the data of the card that
is gone.  A list of credentials whose prompt is answered after the removal leaves the CAN, and then
the list. -/
theorem card_removal_fails : ¬ Cleared (run Agent.step {}
      (removedAfter 14 (ReadIdentityOperation.doWork true {}) [] 4)) ∧
    ¬ Cleared (run Agent.step {}
      (removedAfter 14 (ListCredentialsOperation.doWork true {})
        [{ paceKind := some .can }] 14)) := by
  constructor
  all_goals
    intro h
    have hat := h () (by decide +kernel) (by decide +kernel)
    revert hat
    decide +kernel

end LibreAgent.Cache
