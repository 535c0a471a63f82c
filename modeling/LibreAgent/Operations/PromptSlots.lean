import LibreAgent.Lib.TicketQueue
import LibreAgent.Operations.PromptSerializer

/-!
# The slots of the prompter

* `PromptSerializer.Puts` : what each call does to the gates;
* `Slots` : the queues hold the tickets of those who wait, and a slot is held by one thread;
* `Served` : tickets are served in their order;
* `slot_discipline` : the three together, in every run.
-/

set_option linter.unusedSectionVars false

namespace LibreAgent.Operations

open Runs TicketQueue List Function AList

/-! ## The gates after each call -/

namespace PromptSerializer
variable {Key : Type*} [DecidableEq Key] {s : PromptSerializer Key}

def Kept (s : PromptSerializer Key) : Prop :=
  ∀ key, s.gates.lookup key ≠ some {}

variable {gate : Gate}

lemma gateAt_of_lookup {key : Key} (h : s.gates.lookup key = some gate) : s.gateAt key = gate := by
  unfold gateAt
  rw [h]
  rfl

section
variable (s)

lemma slotFree_eq (key : Key) :
    s.slotFree key = !(s.gateAt key).held := by
  unfold slotFree gateAt
  cases s.gates.lookup key <;> rfl

lemma atHead_eq (key : Key) (ticket : Nat) :
    s.atHead key ticket = ((s.gateAt key).waiters.head? == some ticket) := by
  unfold atHead gateAt
  cases s.gates.lookup key <;> rfl

lemma turn_iff (key : Key) (ticket : Nat) :
    (s.slotFree key = true ∧ s.atHead key ticket = true) ↔
      ((s.gateAt key).held = false ∧ (s.gateAt key).waiters.head? = some ticket) := by
  rw [slotFree_eq, atHead_eq, Bool.not_eq_true', beq_iff_eq]

end

/-- the gate of a card is changed; a gate that nobody uses is not kept -/
inductive Puts (s : PromptSerializer Key) (key : Key) (gate : Gate) : PromptSerializer Key → Prop
  | inserted (next : Nat) (hused : gate ≠ {}) : Puts s key gate ⟨next, s.gates.insert key gate⟩
  | erased (next : Nat) (hunused : gate = {}) : Puts s key gate ⟨next, s.gates.erase key⟩
  | same (hgate : s.gateAt key = gate) : Puts s key gate s

variable {s' : PromptSerializer Key} {key : Key}

lemma gateAt_of_none (h : s.gates.lookup key = none) : s.gateAt key = {} := by
  unfold gateAt
  rw [h]
  rfl

lemma Puts.gateAt (h : Puts s key gate s') : s'.gateAt = update s.gateAt key gate := by
  cases h with
  | same hg => rw [← hg, update_eq_self]
  | inserted next | erased next hu =>
    funext k
    unfold PromptSerializer.gateAt
    rcases eq_or_ne k key with rfl | hne
    · simp [*]
    · simp [hne]

lemma Puts.kept (h : Puts s key gate s') (hs : s.Kept) : s'.Kept := by
  cases h with
  | same => exact hs
  | inserted next hu =>
    intro k
    rcases eq_or_ne k key with rfl | hne
    · rw [lookup_insert]
      exact fun heq => hu (Option.some.inj heq)
    · rw [lookup_insert_ne hne]
      exact hs k
  | erased =>
    intro k
    rcases eq_or_ne k key with rfl | hne
    · rw [lookup_erase]
      nofun
    · rw [lookup_erase_ne hne]
      exact hs k

section
variable (s)

lemma enqueue_puts (key : Key) :
    Puts s key ⟨(s.gateAt key).waiters ++ [s.nextTicket], (s.gateAt key).held⟩ (s.enqueue key) :=
  .inserted _ fun heq => append_ne_nil_of_right_ne_nil _ (cons_ne_nil _ _)
    (congrArg Gate.waiters heq)

lemma take_puts (key : Key) : Puts s key ⟨(s.gateAt key).waiters.tail, true⟩ (s.take key) :=
  .inserted _ fun heq => Bool.noConfusion (congrArg Gate.held heq)

lemma withdraw_puts (key : Key) (ticket : Nat) :
    Puts s key ⟨(s.gateAt key).waiters.erase ticket, (s.gateAt key).held⟩
      (s.withdraw key ticket) := by
  unfold withdraw
  split
  · next hn => exact .same (by rw [gateAt_of_none hn]; rfl)
  · rename_i gate hg
    rw [gateAt_of_lookup hg]
    split
    · next hi => exact .erased _ (by rw [List.isEmpty_iff.mp hi.1, hi.2])
    · next hb =>
      exact .inserted _ fun heq => hb ⟨List.isEmpty_iff.mpr (congrArg Gate.waiters heq),
        congrArg Gate.held heq⟩

lemma release_puts (key : Key) : Puts s key ⟨(s.gateAt key).waiters, false⟩ (s.release key) := by
  unfold release
  split
  · next hn => exact .same (by rw [gateAt_of_none hn])
  · rename_i gate hg
    rw [gateAt_of_lookup hg]
    split
    · next he => exact .erased _ (by rw [List.isEmpty_iff.mp he])
    · next hb => exact .inserted _ fun heq => hb (List.isEmpty_iff.mpr (congrArg Gate.waiters heq))

lemma withdraw_nextTicket (key : Key) (ticket : Nat) :
    (s.withdraw key ticket).nextTicket = s.nextTicket := by
  unfold withdraw
  split
  · rfl
  · split <;> rfl

lemma release_nextTicket (key : Key) : (s.release key).nextTicket = s.nextTicket := by
  unfold release
  split
  · rfl
  · split <;> rfl

end

lemma Kept.mem_iff (h : s.Kept) (key : Key) :
    key ∈ s.gates ↔ (s.gateAt key).held = true ∨ (s.gateAt key).waiters ≠ [] := by
  rw [← lookup_isSome]
  cases hg : s.gates.lookup key with
  | none =>
    rw [gateAt_of_none hg]
    simp
  | some gate =>
    rw [gateAt_of_lookup hg]
    refine iff_of_true rfl ?_
    by_contra hn
    rw [not_or, not_not, Bool.not_eq_true] at hn
    refine h key (hg.trans ?_)
    obtain ⟨waiters, held⟩ := gate
    obtain ⟨rfl, rfl⟩ : held = false ∧ waiters = [] := hn
    rfl

lemma Kept.hasPendingPrompt_iff (h : s.Kept) :
    s.hasPendingPrompt = true ↔ ∃ key, key ∈ s.gates := by
  unfold hasPendingPrompt
  rw [any_eq_true]
  constructor
  · rintro ⟨⟨key, gate⟩, hin, -⟩
    exact ⟨key, mem_keys.mp (mem_keys_of_mem hin)⟩
  · rintro ⟨key, hin⟩
    obtain ⟨gate, hg⟩ := Option.isSome_iff_exists.mp (lookup_isSome.mpr hin)
    refine ⟨⟨key, gate⟩, mem_lookup_iff.mp hg, ?_⟩
    rw [Bool.or_eq_true, Bool.not_eq_true', ← Bool.not_eq_true, List.isEmpty_iff]
    have hu := (h.mem_iff key).mp hin
    rwa [gateAt_of_lookup hg] at hu

end PromptSerializer

/-! ## Threads -/

section Threads
variable {Tid Key Token : Type*} [DecidableEq Tid] [DecidableEq Key] [DecidableEq Token]

def PromptPc.seat (key : Key) : PromptPc Key Token → Option Nat
  | .queued k ticket _ _ => if k = key then some ticket else none
  | _ => none

def PromptPc.At (key : Key) : PromptPc Key Token → Prop
  | .idle => True
  | .queued k _ _ _ | .holding k => k = key

def PromptPc.isParked : PromptPc Key Token → Bool
  | .queued _ _ _ awake => !awake
  | _ => false

namespace PromptPc
variable {pc : PromptPc Key Token} {key k : Key} {ticket : Nat} {token : Token} {awake : Bool}

@[simp] lemma seat_queued : (queued key ticket token awake).seat key = some ticket := if_pos rfl

lemma seat_eq_some : pc.seat key = some ticket ↔
    ∃ token awake, pc = .queued key ticket token awake := by
  constructor
  · intro hs
    cases pc with
    | idle | holding => cases hs
    | queued k i token awake =>
      simp only [seat] at hs
      split at hs
      · rename_i heq
        cases hs
        exact ⟨token, awake, by rw [heq]⟩
      · cases hs
  · rintro ⟨token, awake, rfl⟩
    exact seat_queued

lemma notified_seat (pc : PromptPc Key Token) (key : Key) : pc.notified.seat key = pc.seat key := by
  cases pc <;> rfl

lemma notified_eq_holding : pc.notified = .holding key ↔ pc = .holding key := by
  cases pc <;> simp [notified]

lemma notified_isParked (pc : PromptPc Key Token) : pc.notified.isParked = false := by
  cases pc <;> rfl

lemma At.seat (h : pc.At key) (hne : k ≠ key) : pc.seat k = none := by
  cases pc with
  | idle | holding => rfl
  | queued k' i token awake => exact if_neg fun heq => hne (heq.symm.trans h)

lemma At.holding (h : pc.At key) (hpc : pc = .holding k) : k = key := by
  subst hpc
  exact h

end PromptPc

namespace Prompting

def seats (s : Prompting Tid Key Token) (key : Key) (t : Tid) : Option Nat :=
  (s.threads t).seat key

variable (s : Prompting Tid Key Token)

lemma setThread_same {t : Tid} {pc : PromptPc Key Token} (h : s.threads t = pc) :
    s.setThread t pc = s := by
  subst h
  unfold setThread
  rw [update_eq_self]

lemma setThread_seats (t : Tid) (pc : PromptPc Key Token) (key : Key) :
    (s.setThread t pc).seats key = update (s.seats key) t (pc.seat key) := by
  funext u
  unfold seats
  rcases eq_or_ne u t with rfl | hne
  · rw [setThread_self, update_self]
  · rw [setThread_of_ne s hne, update_of_ne hne]

lemma notifyAll_seats (key : Key) : s.notifyAll.seats key = s.seats key :=
  funext fun t => (s.threads t).notified_seat key

end Prompting

/-! ## Who waits and who prompts -/

structure Slots (s : Prompting Tid Key Token) : Prop where
  kept : s.serializer.Kept
  lined : ∀ key, Lined (s.serializer.gateAt key).waiters s.serializer.nextTicket (s.seats key)
  held : ∀ key, (s.serializer.gateAt key).held = true ↔ ∃ t, s.threads t = .holding key
  single : ∀ {key t t'}, s.threads t = .holding key → s.threads t' = .holding key → t = t'

lemma slots_start : Slots ({} : Prompting Tid Key Token) := by
  refine ⟨nofun, fun key => lined_nil 0, fun key => ?_, nofun⟩
  exact iff_of_false Bool.false_ne_true nofun

namespace Slots
variable {s : Prompting Tid Key Token} {t : Tid} {key : Key} {ticket : Nat} {token : Token}
  {awake : Bool}

lemma notifyAll (h : Slots s) : Slots s.notifyAll := by
  refine ⟨h.kept, fun key => ?_, fun key => ?_, fun {key t t'} ht ht' => ?_⟩
  · rw [s.notifyAll_seats]
    exact h.lined key
  · refine (h.held key).trans (exists_congr fun t => ?_)
    exact PromptPc.notified_eq_holding.symm
  · exact h.single (PromptPc.notified_eq_holding.mp ht) (PromptPc.notified_eq_holding.mp ht')

lemma say (h : Slots s) (e : SlotEvent Key Token) : Slots (s.say e) := { h with }

lemma move (h : Slots s) {serializer : PromptSerializer Key} {gate : Gate}
    (t : Tid) (key : Key) (pc : PromptPc Key Token) (hat : (s.threads t).At key) (hpc : pc.At key)
    (hp : s.serializer.Puts key gate serializer)
    (hn : s.serializer.nextTicket ≤ serializer.nextTicket)
    (hl : Lined gate.waiters serializer.nextTicket (update (s.seats key) t (pc.seat key)))
    (hh : gate.held = true ↔ ∃ u, (s.setThread t pc).threads u = .holding key)
    (hs : ∀ {u}, pc = .holding key → s.threads u = .holding key → u = t) :
    Slots ({ s with serializer := serializer }.setThread t pc) := by
  have ho : ∀ {u k}, k ≠ key → ((s.setThread t pc).threads u = .holding k ↔
      s.threads u = .holding k) := by
    intro u k hne
    rcases eq_or_ne u t with rfl | hut
    · rw [s.setThread_self]
      exact iff_of_false (fun heq => hne (hpc.holding heq)) fun heq => hne (hat.holding heq)
    · rw [s.setThread_of_ne hut]
  refine ⟨hp.kept h.kept, fun k => ?_, fun k => ?_, ?_⟩
  · show Lined (serializer.gateAt k).waiters serializer.nextTicket ((s.setThread t pc).seats k)
    rw [hp.gateAt, s.setThread_seats]
    rcases eq_or_ne k key with rfl | hne
    · rw [update_self]
      exact hl
    · have hse : s.seats k t = none := hat.seat hne
      rw [update_of_ne hne, hpc.seat hne, ← hse, update_eq_self]
      exact (h.lined k).later hn
  · show (serializer.gateAt k).held = true ↔ ∃ u, (s.setThread t pc).threads u = .holding k
    rw [hp.gateAt]
    rcases eq_or_ne k key with rfl | hne
    · rw [update_self]
      exact hh
    · rw [update_of_ne hne, h.held k]
      exact exists_congr fun u => (ho hne).symm
  · intro k u u' hu hu'
    rcases eq_or_ne u t with hut | hut <;> rcases eq_or_ne u' t with hut' | hut'
    · rw [hut, hut']
    · rw [hut, Prompting.setThread_self] at hu
      rw [Prompting.setThread_of_ne _ hut'] at hu'
      obtain rfl := hpc.holding hu
      rw [hut, hs hu hu']
    · rw [hut', Prompting.setThread_self] at hu'
      rw [Prompting.setThread_of_ne _ hut] at hu
      obtain rfl := hpc.holding hu'
      rw [hut', hs hu' hu]
    · rw [Prompting.setThread_of_ne _ hut] at hu
      rw [Prompting.setThread_of_ne _ hut'] at hu'
      exact h.single hu hu'

lemma held_setThread (h : Slots s) {pc : PromptPc Key Token} (ht : s.threads t ≠ .holding key)
    (hpc : pc ≠ .holding key) :
    (s.serializer.gateAt key).held = true ↔ ∃ u, (s.setThread t pc).threads u = .holding key := by
  rw [h.held key]
  refine exists_congr fun u => ?_
  rcases eq_or_ne u t with rfl | hne
  · rw [s.setThread_self]
    exact iff_of_false ht hpc
  · rw [s.setThread_of_ne hne]

lemma enter (h : Slots s) (ht : s.threads t = .idle) (key : Key) (token : Token) :
    Slots (s.enter t key token) := by
  have hs : s.seats key t = none := by unfold Prompting.seats; rw [ht]; rfl
  refine say (h.move t key (.queued key s.serializer.nextTicket token true) ?_ rfl
    (s.serializer.enqueue_puts key) (Nat.le_succ _) ?_ ?_ nofun) _
  · rw [ht]
    trivial
  · rw [PromptPc.seat_queued]
    exact (h.lined key).enter hs
  · exact h.held_setThread (by rw [ht]; nofun) nofun

lemma seat_of_queued (ht : s.threads t = .queued key ticket token awake) :
    s.seats key t = some ticket := by
  unfold Prompting.seats
  rw [ht, PromptPc.seat_queued]

lemma withdraw (h : Slots s) (ht : s.threads t = .queued key ticket token awake) :
    Slots (s.withdraw t key ticket token) := by
  refine notifyAll (say (h.move t key .idle ?_ trivial
    (s.serializer.withdraw_puts key ticket) ?_ ?_ ?_ nofun) _)
  · rw [ht]
    rfl
  · rw [PromptSerializer.withdraw_nextTicket]
  · rw [PromptSerializer.withdraw_nextTicket]
    exact (h.lined key).leave (seat_of_queued ht)
  · exact h.held_setThread (by rw [ht]; nofun) nofun

lemma take (h : Slots s) (ht : s.threads t = .queued key ticket token awake)
    (hf : (s.serializer.gateAt key).held = false)
    (hh : (s.serializer.gateAt key).waiters.head? = some ticket) :
    Slots (s.take t key ticket token) := by
  have hn : ∀ u, s.threads u ≠ .holding key := by
    intro u hu
    rw [(h.held key).mpr ⟨u, hu⟩] at hf
    cases hf
  have hl : (s.serializer.gateAt key).waiters.tail =
    (s.serializer.gateAt key).waiters.erase ticket := by
    obtain ⟨rest, hr⟩ := List.head?_eq_some_iff.mp hh
    rw [hr, erase_cons_head, tail_cons]
  refine say (h.move t key (.holding key) ?_ rfl (s.serializer.take_puts key)
      (Nat.le_refl _) ?_ ?_ ?_) _
  · rw [ht]
    rfl
  · show Lined (s.serializer.gateAt key).waiters.tail _ _
    rw [hl]
    exact (h.lined key).leave (seat_of_queued ht)
  · exact iff_of_true rfl ⟨t, s.setThread_self t _⟩
  · exact fun _ hu => absurd hu (hn _)

lemma setAwake (h : Slots s) (ht : s.threads t = .queued key ticket token awake) (awake' : Bool) :
    Slots (s.setThread t (.queued key ticket token awake')) := by
  refine h.move t key (.queued key ticket token awake') ?_ rfl (.same rfl)
    (Nat.le_refl _) ?_ ?_ nofun
  · rw [ht]
    rfl
  · rw [PromptPc.seat_queued, ← seat_of_queued ht, update_eq_self]
    exact h.lined key
  · exact h.held_setThread (by rw [ht]; nofun) nofun

lemma release (h : Slots s) (ht : s.threads t = .holding key) : Slots (s.release t key) := by
  have hs : s.seats key t = none := by unfold Prompting.seats; rw [ht]; rfl
  refine notifyAll (say (h.move t key .idle ?_ trivial
    (s.serializer.release_puts key) ?_ ?_ ?_ nofun) _)
  · rw [ht]
    rfl
  · rw [PromptSerializer.release_nextTicket]
  · rw [PromptSerializer.release_nextTicket]
    show Lined _ _ (update (s.seats key) t none)
    rw [← hs, update_eq_self]
    exact h.lined key
  · refine iff_of_false Bool.false_ne_true ?_
    rintro ⟨u, hu⟩
    rcases eq_or_ne u t with rfl | hne
    · rw [s.setThread_self] at hu
      cases hu
    · rw [s.setThread_of_ne hne] at hu
      exact hne (h.single hu ht)

end Slots

/-! ## Who sleeps -/

def Ready (s : Prompting Tid Key Token) : Prop :=
  ∀ t key ticket token, s.threads t = .queued key ticket token false →
    (s.serializer.gateAt key).waiters.head? = some ticket → (s.serializer.gateAt key).held = true

namespace Ready
variable {s : Prompting Tid Key Token} {t : Tid} {key : Key} {ticket : Nat} {token : Token}
  {awake : Bool}

lemma enter (h : Ready s) (hs : Slots s) (t : Tid) (key : Key) (token : Token) :
    Ready (s.enter t key token) := by
  intro u k i token' hu hh
  have hut : u ≠ t := by
    rintro rfl
    rw [s.enter_self] at hu
    cases hu
  rw [s.enter_of_ne hut] at hu
  rw [show (s.enter t key token).serializer.gateAt =
      _ from (s.serializer.enqueue_puts key).gateAt] at hh ⊢
  rcases eq_or_ne k key with rfl | hne
  · rw [update_self] at hh ⊢
    -- somebody is in the queue already, so the head is the old one
    have hin : i ∈ (s.serializer.gateAt k).waiters := (hs.lined k).queued (Slots.seat_of_queued hu)
    rw [List.head?_append_of_ne_nil _ (ne_nil_of_mem hin)] at hh
    exact h u k i token' hu hh
  · rw [update_of_ne hne] at hh ⊢
    exact h u k i token' hu hh

lemma notifyAll (s : Prompting Tid Key Token) : Ready s.notifyAll := by
  intro u k i token' hu
  have hp := (s.threads u).notified_isParked
  rw [show (s.threads u).notified = .queued k i token' false from hu] at hp
  cases hp

lemma take (h : Ready s) (t : Tid) (key : Key) (ticket : Nat) (token : Token) :
    Ready (s.take t key ticket token) := by
  intro u k i token' hu hh
  rw [show (s.take t key ticket token).serializer.gateAt =
      _ from (s.serializer.take_puts key).gateAt] at hh ⊢
  rcases eq_or_ne k key with rfl | hne
  · rw [update_self]
  · rw [update_of_ne hne] at hh ⊢
    have hut : u ≠ t := by
      rintro rfl
      rw [s.take_self] at hu
      cases hu
    rw [s.take_of_ne hut] at hu
    exact h u k i token' hu hh

lemma setAwake (h : Ready s) (t : Tid) (key : Key) (ticket : Nat) (token : Token)
    (ha : awake = true ∨ ((s.serializer.gateAt key).waiters.head? = some ticket →
      (s.serializer.gateAt key).held = true)) :
        Ready (s.setThread t (.queued key ticket token awake)) := by
  intro u k i token' hu hh
  rcases eq_or_ne u t with rfl | hut
  · rw [s.setThread_self] at hu
    cases hu
    rcases ha with ha | hhe
    · cases ha
    · exact hhe hh
  · rw [s.setThread_of_ne hut] at hu
    exact h u k i token' hu hh

end Ready

/-! ## Who has been served -/

/-- who waits with an earlier ticket has got the slot or was cancelled, and who was cancelled does
not get it -/
def Orderly (past : List (SlotEvent Key Token)) : SlotEvent Key Token → Prop
  | .granted key ticket token =>
    .cancelled token ∉ past ∧
    (∀ earlier token', .entered key earlier token' ∈ past → earlier < ticket →
      .granted key earlier token' ∈ past ∨ .withdrawn key earlier token' ∈ past) ∧
    ∀ earlier token', .granted key earlier token' ∈ past → earlier < ticket
  | .withdrawn _ _ token => .cancelled token ∈ past
  | _ => True

def Prompting.Waits (s : Prompting Tid Key Token) (key : Key) (ticket : Nat)
    (token : Token) : Prop :=
  ∃ t awake, s.threads t = .queued key ticket token awake

structure Served (s : Prompting Tid Key Token) : Prop where
  flags : ∀ token, s.cancelled token = true ↔ .cancelled token ∈ s.log
  settled : ∀ {key ticket token}, .entered key ticket token ∈ s.log →
    s.Waits key ticket token ∨ .granted key ticket token ∈ s.log ∨
      .withdrawn key ticket token ∈ s.log
  passed : ∀ {key ticket token}, .granted key ticket token ∈ s.log →
    ticket < s.serializer.nextTicket ∧ ∀ later ∈ (s.serializer.gateAt key).waiters, ticket < later
  log : Throughout Orderly s.log

lemma served_start : Served ({} : Prompting Tid Key Token) :=
  ⟨fun _ => iff_of_false Bool.false_ne_true not_mem_nil, fun h => absurd h not_mem_nil,
    fun h => absurd h not_mem_nil, trivial⟩

namespace Served
variable {s : Prompting Tid Key Token} {t : Tid} {key : Key} {ticket : Nat} {token : Token}
  {awake : Bool}

lemma notifyAll (h : Served s) : Served s.notifyAll := by
  refine ⟨h.flags, fun hin => (h.settled hin).imp_left ?_, h.passed, h.log⟩
  rintro ⟨t, awake, ht⟩
  refine ⟨t, true, ?_⟩
  show (s.threads t).notified = _
  rw [ht]
  rfl

variable {s' : Prompting Tid Key Token} {i : Nat}

lemma move (h : Served s) {e : SlotEvent Key Token} {gate : Gate}
    (hlo : s'.log = e :: s.log) (hc : s'.cancelled = s.cancelled)
    (he : ∀ token, e ≠ .cancelled token)
    (hn : s.serializer.nextTicket ≤ s'.serializer.nextTicket)
    (hg : s'.serializer.gateAt = update s.serializer.gateAt key gate)
    (hw : ∀ i ∈ gate.waiters, i ∈ (s.serializer.gateAt key).waiters ∨ i = s.serializer.nextTicket)
    (hs : ∀ k i token, s.Waits k i token ∨ e = .entered k i token →
      s'.Waits k i token ∨ e = .granted k i token ∨ e = .withdrawn k i token)
        (hp : ∀ k i token, e = .granted k i token →
      i < s'.serializer.nextTicket ∧ ∀ later ∈ (s'.serializer.gateAt k).waiters, i < later)
    (ho : Orderly s.log e) : Served s' := by
  refine ⟨fun token => ?_, fun {k i token} hin => ?_, fun {k i token} hin => ?_, ?_⟩
  · rw [hlo, hc, mem_cons]
    exact (h.flags token).trans (or_iff_right fun heq => he token heq.symm).symm
  · rw [hlo] at hin ⊢
    have hk : s.Waits k i token ∨ e = .entered k i token →
        s'.Waits k i token ∨ .granted k i token ∈ e :: s.log ∨
          .withdrawn k i token ∈ e :: s.log := by
      intro hwa
      refine (hs k i token hwa).imp_right (Or.imp ?_ ?_) <;> exact fun heq => heq ▸ mem_cons_self
    rcases mem_cons.mp hin with heq | hin
    · exact hk (.inr heq.symm)
    · rcases h.settled hin with hwa | hd
      · exact hk (.inl hwa)
      · exact .inr (hd.imp (mem_cons_of_mem _) (mem_cons_of_mem _))
  · rw [hlo] at hin
    rcases mem_cons.mp hin with heq | hin
    · exact hp k i token heq.symm
    · obtain ⟨hlt, hl⟩ := h.passed hin
      refine ⟨Nat.lt_of_lt_of_le hlt hn, ?_⟩
      rw [hg]
      rcases eq_or_ne k key with rfl | hne
      · rw [update_self]
        intro j hj
        rcases hw j hj with hold | heq
        · exact hl j hold
        · rw [heq]
          exact hlt
      · rw [update_of_ne hne]
        exact hl
  · rw [hlo]
    exact ⟨ho, h.log⟩

lemma waits_or (ht : s.threads t = .queued key ticket token awake)
    (ho : ∀ u, u ≠ t → s'.threads u = s.threads u) {k : Key} {token' : Token}
    (h : s.Waits k i token') : s'.Waits k i token' ∨ (k = key ∧ i = ticket ∧ token' = token) := by
  obtain ⟨u, awake', hu⟩ := h
  rcases eq_or_ne u t with rfl | hut
  · rw [ht] at hu
    cases hu
    exact .inr ⟨rfl, rfl, rfl⟩
  · exact .inl ⟨u, awake', (ho u hut).trans hu⟩

lemma waits_of_ne (ht : ∀ k i token awake, s.threads t ≠ .queued k i token awake)
    (ho : ∀ u, u ≠ t → s'.threads u = s.threads u) {k : Key} {token : Token}
    (h : s.Waits k i token) :
    s'.Waits k i token := by
  obtain ⟨u, awake, hu⟩ := h
  have hut : u ≠ t := by
    rintro rfl
    exact ht _ _ _ _ hu
  exact ⟨u, awake, (ho u hut).trans hu⟩

section
variable (h : Served s)
include h

lemma enter (ht : s.threads t = .idle) (key : Key) (token : Token) :
    Served (s.enter t key token) := by
  refine h.move rfl rfl nofun (Nat.le_succ _) (s.serializer.enqueue_puts key).gateAt (fun i hi =>
      ?_) ?_ nofun trivial
  · rcases mem_append.mp hi with hi | hi
    · exact .inl hi
    · exact .inr (mem_singleton.mp hi)
  · rintro k i token' (hw | heq)
    · exact .inl (waits_of_ne (by rw [ht]; nofun)
        (fun u hut => Prompting.setThread_of_ne _ hut _) hw)
    · cases heq
      exact .inl ⟨t, true, Prompting.setThread_self ..⟩

lemma withdraw (ht : s.threads t = .queued key ticket token awake)
    (hto : s.cancelled token = true) : Served (s.withdraw t key ticket token) := by
  refine notifyAll (h.move rfl rfl nofun ?_ (s.serializer.withdraw_puts key ticket).gateAt
    (fun i hi => .inl (mem_of_mem_erase hi)) ?_ nofun ((h.flags token).mp hto))
  · exact Nat.le_of_eq (s.serializer.withdraw_nextTicket key ticket).symm
  · rintro k i token' (hw | heq)
    · rcases waits_or ht (fun u hut => Prompting.setThread_of_ne _ hut _)
        hw with hw | ⟨rfl, rfl, rfl⟩
      · exact .inl hw
      · exact .inr (.inr rfl)
    · cases heq

lemma take (hs : Slots s) (ht : s.threads t = .queued key ticket token awake)
    (hto : s.cancelled token = false) (hh : (s.serializer.gateAt key).waiters.head? = some ticket) :
    Served (s.take t key ticket token) := by
  obtain ⟨rest, hr⟩ := List.head?_eq_some_iff.mp hh
  have hl := hs.lined key
  rw [hr] at hl
  refine h.move rfl rfl nofun (Nat.le_refl _) (s.serializer.take_puts key).gateAt
    (fun i hi => .inl (mem_of_mem_tail hi)) ?_ ?_ ⟨?_, ?_, ?_⟩
  · rintro k i token' (hw | heq)
    · rcases waits_or ht (fun u hut => Prompting.setThread_of_ne _ hut _)
        hw with hw | ⟨rfl, rfl, rfl⟩
      · exact .inl hw
      · exact .inr (.inl rfl)
    · cases heq
  · intro k i token' heq
    cases heq
    refine ⟨hl.fresh ticket mem_cons_self, ?_⟩
    rw [show (s.take t key ticket token).serializer.gateAt =
      _ from (s.serializer.take_puts key).gateAt, update_self, hr]
    exact fun later hla => rel_of_pairwise_cons hl.sorted hla
  · rw [← h.flags token, hto]
    exact Bool.false_ne_true
  -- an earlier ticket is no longer in the queue
  · intro earlier token' hin hlt
    refine (h.settled hin).resolve_left ?_
    rintro ⟨u, awake', hu⟩
    have hq : earlier ∈ ticket :: rest := hl.queued (Slots.seat_of_queued hu)
    exact absurd (hl.head_le hq) (Nat.not_le_of_lt hlt)
  · intro earlier token' hin
    refine (h.passed hin).2 ticket ?_
    rw [hr]
    exact mem_cons_self

lemma setAwake (ht : s.threads t = .queued key ticket token awake) (awake' : Bool) :
    Served (s.setThread t (.queued key ticket token awake')) := by
  refine ⟨h.flags, fun hin => (h.settled hin).imp_left fun hw => ?_, h.passed, h.log⟩
  rcases waits_or ht (fun u hut => s.setThread_of_ne hut _) hw with hw | ⟨rfl, rfl, rfl⟩
  · exact hw
  · exact ⟨t, awake', s.setThread_self t _⟩

lemma release (ht : s.threads t = .holding key) : Served (s.release t key) := by
  refine notifyAll (h.move rfl rfl nofun ?_ (s.serializer.release_puts key).gateAt (fun i hi =>
      .inl hi) ?_ nofun trivial)
  · exact Nat.le_of_eq (s.serializer.release_nextTicket key).symm
  · rintro k i token (hw | heq)
    · exact .inl (waits_of_ne (by rw [ht]; nofun)
        (fun u hut => Prompting.setThread_of_ne _ hut _) hw)
    · cases heq

lemma cancel (token : Token) : Served (s.cancel token) := by
  refine ⟨fun token' => ?_, fun {k i token'} hin => ?_, fun {k i token'} hin => ?_, trivial, h.log⟩
  · show update s.cancelled token true token' = true ↔ _
    rw [show (s.cancel token).log = _ :: s.log from rfl, mem_cons]
    rcases eq_or_ne token' token with rfl | hne
    · rw [update_self]
      exact iff_of_true rfl (.inl rfl)
    · rw [update_of_ne hne]
      exact (h.flags token').trans (or_iff_right fun heq => hne (SlotEvent.cancelled.inj heq)).symm
  · exact (h.settled ((mem_cons.mp hin).resolve_left nofun)).imp_right
      (Or.imp (mem_cons_of_mem _) (mem_cons_of_mem _))
  · exact h.passed ((mem_cons.mp hin).resolve_left nofun)

end

end Served

/-! ## Runs -/

structure Disciplined (s : Prompting Tid Key Token) : Prop where
  slots : Slots s
  ready : Ready s
  served : Served s

lemma disciplined_start : Disciplined ({} : Prompting Tid Key Token) :=
  ⟨slots_start, nofun, served_start⟩

namespace Disciplined
variable {s : Prompting Tid Key Token} {t : Tid} {key : Key} {ticket : Nat} {token : Token}
  {awake : Bool}

lemma notifyAll (h : Disciplined s) : Disciplined s.notifyAll :=
  ⟨h.slots.notifyAll, Ready.notifyAll s, h.served.notifyAll⟩

lemma check (h : Disciplined s) (ht : s.threads t = .queued key ticket token awake) :
    Disciplined (s.check t key ticket token) := by
  unfold Prompting.check
  split
  · next hto => exact ⟨h.slots.withdraw ht, Ready.notifyAll _, h.served.withdraw ht hto⟩
  · rename_i hto
    rw [Bool.not_eq_true] at hto
    split
    · rename_i htu
      rw [PromptSerializer.turn_iff] at htu
      exact ⟨h.slots.take ht htu.1 htu.2, h.ready.take t key ticket token,
        h.served.take h.slots ht hto htu.2⟩
    · rename_i htu
      refine ⟨h.slots.setAwake ht false, h.ready.setAwake t key ticket token (.inr fun hh => ?_),
        h.served.setAwake ht false⟩
      rw [PromptSerializer.turn_iff, not_and', Bool.not_eq_false] at htu
      exact htu hh

lemma step (h : Disciplined s) (a : SlotAction Tid Key Token) : Disciplined (s.step a) := by
  cases a with
  | acquire t key token =>
    simp only [Prompting.step]
    split
    · rename_i ht
      have he : Disciplined (s.enter t key token) :=
        ⟨h.slots.enter ht key token, h.ready.enter h.slots t key token, h.served.enter ht key token⟩
      exact he.check s.enter_self
    · exact h
  | check t =>
    simp only [Prompting.step]
    split
    · next ht => exact h.check ht
    · exact h
  | wake t =>
    simp only [Prompting.step]
    cases ht : s.threads t with
    | idle | holding key =>
      have hs := s.setThread_same ht
      exact hs.symm ▸ h
    | queued key ticket token awake =>
      exact ⟨h.slots.setAwake ht true, h.ready.setAwake t key ticket token (.inl rfl),
        h.served.setAwake ht true⟩
  | release t =>
    simp only [Prompting.step]
    split
    · next ht => exact ⟨h.slots.release ht, Ready.notifyAll _, h.served.release ht⟩
    · exact h
  | cancel token =>
    exact ⟨⟨h.slots.kept, h.slots.lined, h.slots.held, h.slots.single⟩, h.ready,
      h.served.cancel token⟩
  | callback t =>
    simp only [Prompting.step]
    split
    · split
      · exact h.notifyAll
      · exact h
    · exact h

end Disciplined

lemma Prompting.log_suffix (s : Prompting Tid Key Token) (a : SlotAction Tid Key Token) :
    s.log <:+ (s.step a).log := by
  have hc : ∀ (s : Prompting Tid Key Token) t key ticket token, s.log <:+
    (s.check t key ticket token).log := by
    intro s t key ticket token
    unfold check
    split
    · exact suffix_cons _ _
    · split
      · exact suffix_cons _ _
      · exact suffix_refl _
  cases a with
  | acquire t key token =>
    simp only [step]
    split
    · exact (suffix_cons _ _).trans (hc (s.enter t key token) t key _ token)
    · exact suffix_refl _
  | check t =>
    simp only [step]
    split
    · exact hc s t _ _ _
    · exact suffix_refl _
  | wake t => exact suffix_refl _
  | release t =>
    simp only [step]
    split
    · exact suffix_cons _ _
    · exact suffix_refl _
  | cancel token => exact suffix_cons _ _
  | callback t =>
    simp only [step]
    split
    · split <;> exact suffix_refl _
    · exact suffix_refl _

structure SlotDiscipline (s : Prompting Tid Key Token) : Prop where
  exclusive : ∀ {key t t'}, s.threads t = .holding key → s.threads t' = .holding key → t = t'
  ordered : Throughout Orderly s.log
  barred : ∀ {t key ticket token awake}, s.threads t = .queued key ticket token awake →
    s.cancelled token = true →
    ∀ actions, .granted key ticket token ∉ (run Prompting.step s actions).log
  /-- who has left is not in the queue, at its head or elsewhere -/
  present : ∀ {key gate ticket}, s.serializer.gates.lookup key = some gate → ticket ∈ gate.waiters →
    ∃ t token awake, s.threads t = .queued key ticket token awake
  /-- the first waiter does not sleep while the slot is free, and it gets the slot unless it is
  cancelled -/
  enabled : ∀ {key gate ticket rest}, s.serializer.gates.lookup key = some gate →
    gate.held = false →
    gate.waiters = ticket :: rest → ∃ t token, s.threads t = .queued key ticket token true ∧
      (s.cancelled token = false → (s.step (.check t)).threads t = .holding key)
  busy : ∀ {key gate}, s.serializer.gates.lookup key = some gate → gate.held = true ∨
    gate.waiters ≠ []
  gated : ∀ key, key ∈ s.serializer.gates ↔
    (∃ t, s.threads t = .holding key) ∨ ∃ t ticket token awake, s.threads t =
      .queued key ticket token awake
  pending : s.serializer.hasPendingPrompt = true ↔ ∃ key, key ∈ s.serializer.gates

section Discipline
variable {s : Prompting Tid Key Token}

variable {key : Key} {ticket : Nat}

lemma Disciplined.waiter (h : Disciplined s) (hin : ticket ∈ (s.serializer.gateAt key).waiters) :
    ∃ t token awake, s.threads t = .queued key ticket token awake := by
  obtain ⟨t, ht⟩ := (h.slots.lined key).seated ticket hin
  exact ⟨t, PromptPc.seat_eq_some.mp ht⟩

lemma Disciplined.barred (h : Disciplined s) {t : Tid} {token : Token} {awake : Bool}
    (ht : s.threads t = .queued key ticket token awake) (hto : s.cancelled token = true)
    (actions : List (SlotAction Tid Key Token)) :
    .granted key ticket token ∉ (run Prompting.step s actions).log := by
  have hl : Disciplined (run Prompting.step s actions) :=
    run_invariant (fun _ a hs => hs.step a) h actions
  have hg : ∀ (s' : Prompting Tid Key Token) a, s.log <:+ s'.log → s.log <:+ (s'.step a).log :=
    fun s' a hs' => hs'.trans (s'.log_suffix a)
  obtain ⟨new, hn⟩ := run_invariant hg (suffix_refl _) actions
  have hth := hl.served.log
  rw [← hn] at hth ⊢
  intro hin
  rcases mem_append.mp hin with hin | hin
  · obtain ⟨newer, older, rfl⟩ := append_of_mem hin
    rw [append_assoc, cons_append] at hth
    exact hth.at.1 (mem_append_right _ ((h.served.flags token).mp hto))
  · have hq : ticket ∈ (s.serializer.gateAt key).waiters :=
      (h.slots.lined key).queued (Slots.seat_of_queued ht)
    exact absurd ((h.served.passed hin).2 ticket hq) (Nat.lt_irrefl _)

lemma Disciplined.enabled (h : Disciplined s) (hf : (s.serializer.gateAt key).held = false)
    (hh : (s.serializer.gateAt key).waiters.head? = some ticket) :
    ∃ t token, s.threads t = .queued key ticket token true ∧
      (s.cancelled token = false → (s.step (.check t)).threads t = .holding key) := by
  obtain ⟨t, token, awake, ht⟩ := h.waiter (mem_of_head? hh)
  have ha : awake = true := by
    cases awake with
    | true => rfl
    | false => exact absurd ((h.ready t key ticket token ht hh).symm.trans hf) Bool.noConfusion
  subst ha
  refine ⟨t, token, ht, fun hto => ?_⟩
  have htu := (s.serializer.turn_iff key ticket).mpr ⟨hf, hh⟩
  simp only [Prompting.step, ht]
  unfold Prompting.check
  rw [if_neg (by rw [hto]; exact Bool.false_ne_true), if_pos htu]
  exact s.take_self

lemma Disciplined.gated (h : Disciplined s) (key : Key) : key ∈ s.serializer.gates ↔
    (∃ t, s.threads t = .holding key) ∨ ∃ t ticket token awake, s.threads t =
      .queued key ticket token awake := by
  rw [h.slots.kept.mem_iff, h.slots.held]
  refine or_congr_right ⟨fun hw => ?_, ?_⟩
  · obtain ⟨ticket, hin⟩ := exists_mem_of_ne_nil _ hw
    obtain ⟨t, token, awake, ht⟩ := h.waiter hin
    exact ⟨t, ticket, token, awake, ht⟩
  · rintro ⟨t, ticket, token, awake, ht⟩
    exact ne_nil_of_mem ((h.slots.lined key).queued (Slots.seat_of_queued ht))

end Discipline

/-- for any threads and any cards, whatever they do and whichever tokens are cancelled -/
theorem slot_discipline (actions : List (SlotAction Tid Key Token)) :
    SlotDiscipline (run Prompting.step {} actions) := by
  have h : Disciplined (run Prompting.step ({} : Prompting Tid Key Token) actions) :=
    run_invariant (fun s a hs => hs.step a) disciplined_start actions
  refine ⟨h.slots.single, h.served.log, h.barred, fun {key gate ticket} hg hin => ?_,
    fun {key gate ticket rest} hg hf hw => ?_, fun {key gate} hg => ?_, h.gated,
    h.slots.kept.hasPendingPrompt_iff⟩
  · rw [← PromptSerializer.gateAt_of_lookup hg] at hin
    exact h.waiter hin
  · rw [← PromptSerializer.gateAt_of_lookup hg] at hf hw
    exact h.enabled hf (by rw [hw, List.head?_cons])
  · have hin := (h.slots.kept.mem_iff key).mp (lookup_isSome.mp (Option.isSome_of_eq_some hg))
    rwa [PromptSerializer.gateAt_of_lookup hg] at hin

end Threads

end LibreAgent.Operations
