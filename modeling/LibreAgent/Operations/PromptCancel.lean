import LibreAgent.Operations.CancelCalls
import LibreAgent.Operations.PromptSlots

/-!
# No dialog without its operation

* `AtGate`, `Calls`, `Faced`, `Dialogs` : the invariants;
* `no_orphan_dialog` : if `requestCancel` keeps apart from the slot, the registration and the end of
  a dialog, who cancels the operation before its dialog is answered has the dialog dismissed.
-/

set_option linter.unusedSectionVars false

namespace LibreAgent.Operations

open Runs List OperationPhase

variable {Tid : Type*} [DecidableEq Tid]

/-! ## The worker at the gate -/

def PromptPc.isHolding {Key Token : Type*} : PromptPc Key Token → Bool
  | .holding _ => true
  | _ => false

section Gate
variable {Peer Key Token : Type*} [DecidableEq Peer] [DecidableEq Key] [DecidableEq Token]

namespace Prompting
variable (s : Prompting (Option Peer) Key (Option Token))

def Roused (s s' : Prompting (Option Peer) Key (Option Token)) : Prop :=
  (s'.threads none = s.threads none ∨ s'.threads none = (s.threads none).notified) ∧
    s'.cancelled none = s.cancelled none

lemma roused_check (t : Peer) (key : Key) (ticket : Nat) (token : Option Token) :
    Roused s (s.check (some t) key ticket token) := by
  have hne : (none : Option Peer) ≠ some t := nofun
  unfold check
  split
  · exact ⟨.inr (s.withdraw_of_ne hne), rfl⟩
  · split
    · exact ⟨.inl (s.take_of_ne hne), rfl⟩
    · exact ⟨.inl (s.setThread_of_ne hne _), rfl⟩

lemma roused_peer (a : SlotAction Peer Key Token) : Roused s (s.step a.ofPeer) := by
  have hs : Roused s s := ⟨.inl rfl, rfl⟩
  have hne (t : Peer) : none ≠ some t := (Option.some_ne_none t).symm
  cases a with
  | acquire t key token =>
    simp only [SlotAction.ofPeer, step]
    split
    · obtain ⟨ht, hc⟩ :=
        roused_check (s.enter (some t) key (some token)) t key s.serializer.nextTicket (some token)
      rw [s.enter_of_ne (hne t)] at ht
      exact ⟨ht, hc⟩
    · exact hs
  | check t =>
    simp only [SlotAction.ofPeer, step]
    split
    · exact s.roused_check t _ _ _
    · exact hs
  | wake t => exact ⟨.inl (setThread_of_ne _ (hne t) _), rfl⟩
  | release t =>
    simp only [SlotAction.ofPeer, step]
    split
    · exact ⟨.inr (s.release_of_ne (hne t)), rfl⟩
    · exact hs
  | cancel token =>
    exact ⟨.inl rfl, Function.update_of_ne (Option.some_ne_none token).symm true s.cancelled⟩
  | callback t =>
    simp only [SlotAction.ofPeer, step]
    split
    · split
      · exact ⟨.inr rfl, rfl⟩
      · exact hs
    · exact hs

lemma roused_wake : Roused s (s.step (.wake none)) := ⟨.inr (setThread_self ..), rfl⟩

lemma roused_callback : Roused s (s.step (.callback none)) := by
  simp only [step]
  split
  · split
    · exact ⟨.inr rfl, rfl⟩
    · exact ⟨.inl rfl, rfl⟩
  · exact ⟨.inl rfl, rfl⟩

/-- the worker has looked at the slot: it has left the queue, or is in it, or has got the slot -/
def Looked (key : Key) (s s' : Prompting (Option Peer) Key (Option Token)) : Prop :=
  s'.cancelled none = s.cancelled none ∧
    (s'.threads none = .idle ∨ (∃ ticket awake, s'.threads none = .queued key ticket none awake) ∨
      s'.threads none = .holding key ∧ s.cancelled none = false ∧ s.serializer.slotFree key = true)

lemma looked_check (key : Key) (ticket : Nat) : Looked key s (s.check none key ticket none) := by
  unfold check
  split
  · exact ⟨rfl, .inl s.withdraw_self⟩
  · rename_i ht
    split
    · next htu => exact ⟨rfl, .inr (.inr ⟨s.take_self, (Bool.not_eq_true _).mp ht, htu.1⟩)⟩
    · exact ⟨rfl, .inr (.inl ⟨ticket, false, s.setThread_self ..⟩)⟩

lemma looked_acquire (key : Key) (hi : s.threads none = .idle) :
    Looked key s (s.step (.acquire none key none)) := by
  have hf : (s.enter none key none).serializer.slotFree key = s.serializer.slotFree key := by
    rw [PromptSerializer.slotFree_eq, PromptSerializer.slotFree_eq]
    show (!((s.serializer.enqueue key).gateAt key).held) = _
    rw [(s.serializer.enqueue_puts key).gateAt, Function.update_self]
  simp only [step, hi]
  obtain ⟨hc, ho⟩ := (s.enter none key none).looked_check key s.serializer.nextTicket
  rw [hf] at ho
  exact ⟨hc, ho⟩

lemma looked_again {key : Key} {ticket : Nat} {awake : Bool}
    (hpc : s.threads none = .queued key ticket none awake) :
    Looked key s (s.step (.check none)) := by
  simp only [step, hpc]
  cases awake with
  | true => exact s.looked_check key ticket
  | false => exact ⟨rfl, .inr (.inl ⟨ticket, false, hpc⟩)⟩

lemma release_idle {key : Key} (hpc : s.threads none = .holding key) :
    (s.step (.release none)).threads none = .idle ∧ (s.step (.release none)).cancelled none =
      s.cancelled none := by
  simp only [step, hpc]
  exact ⟨s.release_self, rfl⟩

end Prompting

/-! ## Where the worker and the callers are -/

def Prompts.granted (s : Prompts Tid Peer Key Token) : Bool :=
  match s.stage with
  | .asking => (s.slots.threads none).isHolding
  | .stamped _ => true
  | _ => false

def PromptStage.Fits : PromptStage → PromptPc Key (Option Token) → Prop
  | .away, pc | .setting, pc => pc = .idle
  | .asking, _ => True
  | _, pc => pc.isHolding = true

structure AtGate (key : Key) (s : Prompts Tid Peer Key Token) : Prop where
  token : s.slots.cancelled none = s.op.token
  mine : ∀ {k ticket token awake}, s.slots.threads none = .queued k ticket token awake →
    k = key ∧ token = none
  fits : s.stage.Fits (s.slots.threads none)

structure Calls (s : Prompts Tid Peer Key Token) : Prop where
  calling : ∀ {who stage}, s.op.cancelStage who = some stage → who ∈ s.calling
  called : ∀ {who}, who ∈ s.calling → .called who ∈ s.log
  ended : ∀ {who}, .called who ∈ s.log → s.calling ≠ [] ∨ ∃ other, .returned other ∈ s.log
  returned : ∀ {who}, .returned who ∈ s.log → s.op.token = true ∧ .called who ∈ s.log
  tripped : ∀ {who p}, s.op.cancelStage who = some (.dismiss p) → s.op.token = true
  finisher : ∀ {who}, s.op.isFinisher who = true → ∃ other, .returned other ∈ s.log

def PromptStage.isGated : PromptStage → Bool
  | .away | .setting => false
  | _ => true

lemma PromptStage.ne_away {stage : PromptStage} (h : stage.isGated = true) : stage ≠ .away := by
  rintro rfl
  cases h

structure Faced (s : Prompts Tid Peer Key Token) : Prop where
  path : s.stage ≠ .away → s.op.worker.isConsent = true
  working : s.stage.isGated = true → s.op.worker.isWorking = true
  facing : s.stage ≠ .away → Facing s.op ∨ ∃ who, .returned who ∈ s.log

def Told (id : Nat) (past : List (DialogEvent Tid)) : Prop :=
  Then (.registered id) (.sent id) past

def After (id : Nat) (past : List (DialogEvent Tid)) : DialogEvent Tid → Prop
  | .called _ => .answered id ∈ past
  | _ => True

def PromptStage.number : PromptStage → Option Nat
  | .stamped id => some id
  | stage => stage.current

structure Dialogs (key : Key) (s : Prompts Tid Peer Key Token) : Prop where
  early : s.granted = true → ∀ who, .called who ∉ s.log
  numbered : ∀ {id}, s.stage.number = some id → id < s.minted
  listed : ∀ {id}, s.stage.current = some id → s.live.lookup id = some key ∧ .registered id ∈ s.log
  seen : ∀ {id who stage p}, s.stage.current = some id → s.op.cancelStage who = some stage →
    stage.previous = some p →
    p = awaitingConsent.number ∨ Told id s.log
  told : ∀ {id who}, s.stage.current = some id → .returned who ∈ s.log → Told id s.log
  past : ∀ {id}, .registered id ∈ s.log →
    s.stage.current = some id ∨ Told id s.log ∨ (.answered id ∈ s.log ∧ Throughout (After id) s.log)
  answered : ∀ {id}, s.stage = .answered id → .answered id ∈ s.log
  raised : ∀ {id}, .raised id ∈ s.log → .registered id ∈ s.log

/-! ## Runs in which cancelling keeps apart -/

def Operation.beginsCancel (s : Operation Tid) (a : BaseAction Tid) : Bool :=
  match s.cancelMove a with
  | some (.begins _) => true
  | _ => false

/-- while a call of `requestCancel` is under way the worker neither registers its dialog nor takes
it off the list, and looks at a free slot only if the token is tripped -/
def Unhurried (key : Key) (s : Prompts Tid Peer Key Token) : PromptStage → Prop
  | .setting | .asking =>
    s.calling = [] ∨ s.op.token = true ∨ s.slots.serializer.slotFree key = false
  | .stamped _ | .answered _ => s.calling = []
  | _ => True

instance (key : Key) (s : Prompts Tid Peer Key Token) : ∀ stage, Decidable (Unhurried key s stage)
  | .setting | .asking => inferInstanceAs (Decidable (_ = _ ∨ _ = _ ∨ _ = _))
  | .stamped _ | .answered _ => inferInstanceAs (Decidable (_ = _))
  | .away | .registered _ | .raised _ | .leaving => .isTrue trivial

/-- no `requestCancel` begins between the grant of the slot and the registration of the dialog, and
the worker is `Unhurried` -/
def Undisturbed (key : Key) (s : Prompts Tid Peer Key Token) :
    PromptAction Tid Peer Key Token → Prop
  | .base a => s.op.beginsCancel a = true → s.granted = false
  | .prompt _ => Unhurried key s s.stage
  | _ => True

instance (key : Key) (s : Prompts Tid Peer Key Token) : ∀ a, Decidable (Undisturbed key s a)
  | .base a => inferInstanceAs (Decidable (s.op.beginsCancel a = true → s.granted = false))
  | .prompt _ => inferInstanceAs (Decidable (Unhurried key s s.stage))
  | .ask | .answer | .peer _ | .peerRegisters _ | .peerForgets _ | .wake | .callback =>
    .isTrue trivial

/-! ## Steps -/

section Steps
variable {setup : Setup} {key : Key} {s : Prompts Tid Peer Key Token}

lemma PromptPc.notified_isHolding (pc : PromptPc Key (Option Token)) :
    pc.notified.isHolding = pc.isHolding := by
  cases pc <;> rfl

variable {stage : PromptStage} {slots : Prompting (Option Peer) Key (Option Token)}
  {s' : Prompts Tid Peer Key Token} {move : Option (CancelMove Tid)} {id : Nat}
    {log : List (DialogEvent Tid)}

lemma PromptStage.Fits.notified {pc : PromptPc Key (Option Token)} (h : stage.Fits pc) :
    stage.Fits pc.notified := by
  cases stage with
  | away | setting =>
    obtain rfl : pc = .idle := h
    rfl
  | asking => trivial
  | stamped id | registered id | raised id | answered id | leaving =>
    exact pc.notified_isHolding.trans h

lemma AtGate.roused (h : AtGate key s) (hr : Prompting.Roused s.slots slots) :
    AtGate key { s with slots := slots } := by
  obtain ⟨ht, hc⟩ := hr
  refine ⟨hc.trans h.token, fun {k i token awake} hpc => ?_, ?_⟩
  · rcases ht with heq | heq
    · exact h.mine (heq.symm.trans hpc)
    · cases hold : s.slots.threads none with
      | idle | holding k' =>
        rw [hold] at heq
        exact absurd (heq.symm.trans hpc) nofun
      | queued k' i' token' awake' =>
        obtain ⟨hk, hto⟩ := h.mine hold
        rw [hold] at heq
        cases heq.symm.trans hpc
        exact ⟨hk, hto⟩
  · show s.stage.Fits (slots.threads none)
    rcases ht with heq | heq
    · rw [heq]
      exact h.fits
    · rw [heq]
      exact h.fits.notified

lemma AtGate.base (h : AtGate key s) (a : BaseAction Tid) : AtGate key (s.base setup key a) := by
  have ht := (s.op.cancel_step setup a).token
  have hs : (s.base setup key a).slots.threads = s.slots.threads := by
    unfold Prompts.base Prompts.say
    dsimp only
    split <;> rfl
  refine ⟨?_, fun hpc => h.mine (hs ▸ hpc), ?_⟩
  · show (if (s.op.step setup a).token = s.op.token then s.slots else s.slots.cancel none).cancelled
      none
      = (s.op.step setup a).token
    split
    · rename_i heq
      rw [heq]
      exact h.token
    · rename_i hne
      have hn : (s.op.step setup a).token = true := by
        cases hold : s.op.token with
        | true => exact ht hold
        | false => exact (Bool.not_eq_false _).mp (hold ▸ hne)
      rw [hn]
      exact Function.update_self none true s.slots.cancelled
  · show s.stage.Fits _
    rw [hs]
    exact h.fits

lemma AtGate.looked (h : AtGate key s) (hl : Prompting.Looked key s.slots slots) :
    AtGate key { s with slots := slots, stage := .asking } := by
  obtain ⟨hc, ho⟩ := hl
  refine ⟨hc.trans h.token, fun {k i token awake} hpc => ?_, trivial⟩
  rcases ho with heq | ⟨ticket, awake', heq⟩ | ⟨heq, -⟩
  · exact absurd (heq.symm.trans hpc) nofun
  · cases heq.symm.trans hpc
    exact ⟨rfl, rfl⟩
  · exact absurd (heq.symm.trans hpc) nofun

/-- the worker gets the slot only if nobody has cancelled the operation, or is about to -/
lemma granted_looked (hg : AtGate key s) (hc : Calls s)
    (hco : s.calling = [] ∨ s.op.token = true ∨ s.slots.serializer.slotFree key = false)
    (hl : Prompting.Looked key s.slots slots)
    (hgr : (slots.threads none).isHolding = true) (who : Caller Tid) : .called who ∉ s.log := by
  obtain ⟨-, heq | ⟨ticket, awake, heq⟩ | ⟨-, hca, hf⟩⟩ := hl
  · rw [heq] at hgr
    cases hgr
  · rw [heq] at hgr
    cases hgr
  · rw [hg.token] at hca
    intro hcal
    rcases hc.ended hcal with hcall | ⟨other, hr⟩
    · rcases hco with hn | ht | hb
      · exact hcall hn
      · exact Bool.false_ne_true (hca.symm.trans ht)
      · exact Bool.false_ne_true (hb.symm.trans hf)
    · exact Bool.false_ne_true (hca.symm.trans (hc.returned hr).1)

/-! ### The calls -/

def DialogEvent.isCall : DialogEvent Tid → Bool
  | .called _ | .returned _ => true
  | _ => false

lemma Calls.goes (h : Calls s) (hop : s'.op = s.op) (hc : s'.calling = s.calling)
    {new : List (DialogEvent Tid)} (hl : s'.log = new ++ s.log) (hn : ∀ e ∈ new, e.isCall = false) :
    Calls s' := by
  have hold : ∀ {e : DialogEvent Tid}, e.isCall = true → e ∈ s'.log → e ∈ s.log := by
    intro e hca hin
    rw [hl] at hin
    rcases mem_append.mp hin with hin | hin
    · exact absurd ((hn e hin).symm.trans hca) Bool.false_ne_true
    · exact hin
  have hk : ∀ {e : DialogEvent Tid}, e ∈ s.log → e ∈ s'.log := by
    rw [hl]
    exact mem_append_right _
  refine ⟨fun hst => ?_, fun hin => ?_, fun hin => ?_, fun hin => ?_, fun hst => ?_, fun hf => ?_⟩
  · rw [hc]
    exact h.calling (hop ▸ hst)
  · exact hk (h.called (hc ▸ hin))
  · rw [hc]
    exact (h.ended (hold rfl hin)).imp_right (Exists.imp fun _ => hk)
  · obtain ⟨ht, hcal⟩ := h.returned (hold rfl hin)
    exact ⟨hop ▸ ht, hk hcal⟩
  · rw [hop] at hst ⊢
    exact h.tripped hst
  · exact (h.finisher (hop ▸ hf)).imp fun _ => hk

lemma mem_callsAfter {who : Caller Tid} (h : who ∈ s.callsAfter move) : who ∈ s.calling ∨
    move = some (.begins who) := by
  cases move with
  | none => exact .inl h
  | some move =>
    cases move with
    | begins w => exact (mem_cons.mp h).symm.imp_right fun heq => by rw [heq]
    | ends w p => exact .inl (mem_of_mem_filter h)

lemma mem_callEvents {e : DialogEvent Tid} (h : e ∈ s.callEvents key move) :
    (∃ who, e = .called who ∧ move = some (.begins who)) ∨
      (∃ who p, e = .returned who ∧ move = some (.ends who p)) ∨
      ∃ id, e = .sent id := by
  cases move with
  | none => cases h
  | some move =>
    cases move with
    | begins w => exact .inl ⟨w, mem_singleton.mp h, rfl⟩
    | ends w p =>
      rcases mem_cons.mp h with rfl | hs
      · exact .inr (.inl ⟨w, p, rfl, rfl⟩)
      · obtain ⟨id, -, rfl⟩ := mem_map.mp hs
        exact .inr (.inr ⟨id, rfl⟩)

lemma Calls.base (h : Calls s) (a : BaseAction Tid) : Calls (s.base setup key a) := by
  have hs := s.op.cancel_step setup a
  have hold : ∀ {e : DialogEvent Tid}, e ∈ s.log → e ∈ s.callEvents key (s.op.cancelMove a) ++
    s.log := mem_append_right _
  refine ⟨fun {who stage} hin => ?_, fun {who} hin => ?_, fun {who} hin => ?_, fun {who} hin => ?_,
    fun {who p} hin => ?_, fun {who} hf => ?_⟩
  · show who ∈ s.callsAfter (s.op.cancelMove a)
    rcases hs.under hin with ⟨earlier, he⟩ | hb
    · cases hm : s.op.cancelMove a with
      | none => exact h.calling he
      | some move =>
        cases move with
        | begins w => exact mem_cons_of_mem _ (h.calling he)
        | ends w p =>
          -- who has returned is not in a call
          refine mem_filter.mpr ⟨h.calling he, decide_eq_true ?_⟩
          rintro rfl
          exact absurd ((hs.ends hm).2.symm.trans hin) nofun
    · rw [hb]
      exact mem_cons_self
  · show .called who ∈ s.callEvents key (s.op.cancelMove a) ++ s.log
    rcases mem_callsAfter hin with hin | hb
    · exact hold (h.called hin)
    · rw [hb]
      exact mem_cons_self
  · show s.callsAfter (s.op.cancelMove a) ≠ [] ∨ ∃ other, .returned other ∈ s.callEvents key
      (s.op.cancelMove a) ++ s.log
    cases hm : s.op.cancelMove a with
    | none =>
      change .called who ∈ s.callEvents key (s.op.cancelMove a) ++ s.log at hin
      rw [hm] at hin
      exact h.ended hin
    | some move =>
      cases move with
      | begins w => exact .inl (cons_ne_nil _ _)
      | ends w p => exact .inr ⟨w, mem_cons_self⟩
  · show (s.op.step setup a).token = true ∧
      .called who ∈ s.callEvents key (s.op.cancelMove a) ++ s.log
    rcases mem_append.mp hin with hn | hin
    · obtain ⟨w, heq, -⟩ | ⟨w, p, heq, hm⟩ | ⟨id, heq⟩ := mem_callEvents hn
      · cases heq
      · cases heq
        have hst := (hs.ends hm).1
        exact ⟨hs.token (h.tripped hst), hold (h.called (h.calling hst))⟩
      · cases heq
    · obtain ⟨ht, hc⟩ := h.returned hin
      exact ⟨hs.token ht, hold hc⟩
  · exact (hs.tripped hin).elim id fun hd => hs.token (h.tripped hd)
  · rcases hs.finisher hf with hfi | ⟨p, hen⟩
    · obtain ⟨other, hr⟩ := h.finisher hfi
      exact ⟨other, hold hr⟩
    · refine ⟨who, ?_⟩
      show .returned who ∈ s.callEvents key (s.op.cancelMove a) ++ s.log
      rw [hen]
      exact mem_cons_self

/-! ### The phase -/

lemma Faced.base (h : Faced s) (hca : Calls s) {a : BaseAction Tid}
    (ha : ¬ (Prompts.isCall a = true ∧ s.stage ≠ .away)) : Faced (s.base setup key a) := by
  have hco : s.stage ≠ .away → Consents s.op (s.op.step setup a) ∨
      (∃ who, s.op.isFinisher who = true) ∧ (s.op.step setup a).worker = s.op.worker := by
    intro hs
    refine Consents.step (h.path hs) a ?_
    rw [not_and_not_right] at ha
    exact (Bool.not_eq_true _).mp fun hcal => hs (ha hcal)
  refine ⟨fun hs => ?_, fun hg => ?_, fun hs => ?_⟩
  · rcases hco hs with hc | ⟨-, hw⟩
    · exact hc.path
    · show (s.op.step setup a).worker.isConsent = true
      rw [hw]
      exact h.path hs
  · rcases hco (PromptStage.ne_away hg) with hc | ⟨-, hw⟩
    · exact hc.working (h.working hg)
    · show (s.op.step setup a).worker.isWorking = true
      rw [hw]
      exact h.working hg
  · have hold : (∃ who, .returned who ∈ s.log) → ∃ who, .returned who ∈ (s.base setup key a).log :=
      Exists.imp fun _ => mem_append_right _
    rcases hco hs with hc | ⟨⟨who, hf⟩, -⟩
    · exact (h.facing hs).imp hc.facing hold
    · exact .inr (hold (hca.finisher hf))

lemma Faced.goes (h : Faced s) (hs : s.stage ≠ .away) (hw : s.op.worker.isWorking = true)
    (hop : s'.op = s.op) (hl : s.log <:+ s'.log) : Faced s' := by
  refine ⟨fun _ => ?_, fun _ => ?_, fun _ => ?_⟩
  · rw [hop]
    exact h.path hs
  · rw [hop]
    exact hw
  · rw [hop]
    exact (h.facing hs).imp_right (Exists.imp fun _ hin => hl.subset hin)

/-! ### The dialogs -/

lemma mem_liveIdsFor {live : LivePrompts Key} (h : live.lookup id = some key) :
    id ∈ live.liveIdsFor key := by
  have he := AList.mem_lookup_iff.mp h
  exact mem_map.mpr ⟨⟨id, key⟩, mem_filter.mpr ⟨he, decide_eq_true rfl⟩, rfl⟩

lemma throughout_after (h : Throughout (After id) log) (ha : .answered id ∈ log)
    (new : List (DialogEvent Tid)) : Throughout (After id) (new ++ log) := by
  induction new with
  | nil => exact h
  | cons e new ih =>
    refine ⟨?_, ih⟩
    cases e with
    | called who => exact mem_append_right _ ha
    | returned | registered | raised | answered | sent => trivial

lemma throughout_after_of_none (h : ∀ who, .called who ∉ log) : Throughout (After id) log := by
  induction log with
  | nil => trivial
  | cons e log ih =>
    refine ⟨?_, ih fun who hin => h who (mem_cons_of_mem _ hin)⟩
    cases e with
    | called who => exact absurd mem_cons_self (h who)
    | returned | registered | raised | answered | sent => trivial

lemma PromptStage.number_of_current (h : stage.current = some id) : stage.number = some id := by
  cases stage <;> first | exact h | cases h

lemma Prompts.granted_of_current (h : s.stage.current = some id) : s.granted = false := by
  unfold granted
  cases hs : s.stage <;> rw [hs] at h <;> first | rfl | cases h

namespace Dialogs

variable {id : Nat} {s' : Prompts Tid Peer Key Token}

section
variable (h : Dialogs key s)
include h

lemma past_append (new : List (DialogEvent Tid))
    (hin : .registered id ∈ s.log) :
    s.stage.current = some id ∨ Told id (new ++ s.log) ∨
      (.answered id ∈ new ++ s.log ∧ Throughout (After id) (new ++ s.log)) := by
  refine (h.past hin).imp_right (Or.imp (fun ht => ht.append new) ?_)
  rintro ⟨ha, haf⟩
  exact ⟨mem_append_right _ ha, throughout_after haf ha new⟩

lemma without (hs : s.stage.current = none) (hs' : s'.stage.current = none)
    (hl : s'.log = s.log) (hgr : s'.granted = true → ∀ who, .called who ∉ s.log)
    (hn : ∀ {id}, s'.stage.number = some id → id < s'.minted) : Dialogs key s' := by
  have hno : ∀ {id}, s'.stage.current ≠ some id := by
    intro id heq
    cases hs'.symm.trans heq
  refine ⟨fun hg => ?_, hn, fun hc => absurd hc hno, fun hc => absurd hc hno, fun hc =>
      absurd hc hno,
    fun {id} hin => ?_, fun {id} heq => ?_, fun hin => ?_⟩
  · rw [hl]
    exact hgr hg
  · rw [hl] at hin ⊢
    refine (h.past hin).elim (fun hc => ?_) .inr
    cases hs.symm.trans hc
  · rw [heq] at hs'
    cases hs'
  · rw [hl] at hin ⊢
    exact h.raised hin

lemma base (hf : Faced s) {a : BaseAction Tid}
    (hco : s.op.beginsCancel a = true → s.granted = false) : Dialogs key (s.base setup key a) := by
  have hs := s.op.cancel_step setup a
  have hgr : (s.base setup key a).granted = s.granted := by
    unfold Prompts.granted Prompts.base Prompts.say
    dsimp only
    split
    · split <;> rfl
    · rfl
    · rfl
  have hcu :
      ∀ {id}, s.stage.current = some id → s.stage ≠ .away ∧ s.op.worker.isWorking = true := by
    intro id hc
    have hg : s.stage.isGated = true := by
      cases hst : s.stage <;> rw [hst] at hc <;> first | rfl | cases hc
    exact ⟨PromptStage.ne_away hg, hf.working hg⟩
  -- who has seen the phase of a dialog has seen `AwaitingConsent`, unless it is the end already
  have hph : ∀ {id}, s.stage.current = some id → s.op.phase = awaitingConsent.number ∨
    Told id s.log := by
    intro id hc
    obtain ⟨hst, hw⟩ := hcu hc
    rcases hf.facing hst with (he | hph) | ⟨who, hr⟩
    · exact absurd ((RunPc.isExchanging_of_isWorking hw).symm.trans he) Bool.false_ne_true
    · exact .inl hph
    · exact .inr (h.told hc hr)
  refine ⟨fun hg who hin => ?_, h.numbered, fun {id} hc => ?_, fun {id who stage p} hc hst hp => ?_,
    fun {id who} hc hin => ?_, fun {id} hin => ?_, fun heq => mem_append_right _ (h.answered heq),
      fun {id} hin => ?_⟩
  · rw [hgr] at hg
    rcases mem_append.mp hin with hn | hin
    · obtain ⟨w, heq, hm⟩ | ⟨w, p, heq, -⟩ | ⟨id, heq⟩ := mem_callEvents hn
      · refine Bool.false_ne_true ((hco ?_).symm.trans hg)
        unfold Operation.beginsCancel
        rw [hm]
      · cases heq
      · cases heq
    · exact h.early hg who hin
  · obtain ⟨hl, hin⟩ := h.listed hc
    exact ⟨hl, mem_append_right _ hin⟩
  · rcases hs.seen hst hp with rfl | ⟨earlier, hea, hp'⟩
    · exact (hph hc).imp_right fun ht => ht.append _
    · exact (h.seen hc hea hp').imp_right fun ht => ht.append _
  · rcases mem_append.mp hin with hn | hin
    · obtain ⟨w, heq, -⟩ | ⟨w, p, -, hm⟩ | ⟨i, heq⟩ := mem_callEvents hn
      · cases heq
      · rcases h.seen hc (hs.ends hm).1 rfl with rfl | hto
        · obtain ⟨hl, hre⟩ := h.listed hc
          show Told id (s.callEvents key (s.op.cancelMove a) ++ s.log)
          refine then_of_mem hre ?_
          rw [hm]
          refine mem_cons_of_mem _ (mem_map.mpr ⟨id, ?_, rfl⟩)
          unfold Prompts.dismissed
          rw [if_pos rfl]
          exact mem_liveIdsFor hl
        · exact hto.append _
      · cases heq
    · exact (h.told hc hin).append _
  · refine h.past_append _ ((mem_append.mp hin).resolve_left fun hn => ?_)
    obtain ⟨w, heq, -⟩ | ⟨w, p, heq, -⟩ | ⟨i, heq⟩ := mem_callEvents hn <;> cases heq
  · refine mem_append_right _ (h.raised ((mem_append.mp hin).resolve_left fun hn => ?_))
    obtain ⟨w, heq, -⟩ | ⟨w, p, heq, -⟩ | ⟨i, heq⟩ := mem_callEvents hn <;> cases heq

lemma goes (hs : s.stage.current = some id) (hs' : s'.stage.current = some id)
    (hop : s'.op = s.op) (hl : s'.live = s.live) (hm : s'.minted = s.minted) {e : DialogEvent Tid}
    (hlog : s'.log = e :: s.log) (he : e.isCall = false ∧ ∀ i, e ≠ .registered i)
    (hr : ∀ i, e = .raised i → .registered i ∈ s.log)
    (ha : ∀ i, s'.stage = .answered i → e = .answered i) : Dialogs key s' := by
  have hid : ∀ {i}, s'.stage.current = some i → s.stage.current = some i := by
    intro i hc
    rw [hs, ← hs', hc]
  have hold : ∀ {e' : DialogEvent Tid}, e' ∈ e :: s.log → e' ≠ e → e' ∈ s.log :=
    fun hin hne => (mem_cons.mp hin).resolve_left hne
  have hre : ∀ {who}, .returned who ≠ e := by
    rintro who rfl
    exact Bool.false_ne_true he.1.symm
  have hap : ∀ {i}, Told i s.log → Told i (e :: s.log) := fun ht => ht.append [e]
  refine ⟨fun hg => ?_, fun {i} hn => ?_, fun {i} hc => ?_, fun {i who stage p} hc hst hp => ?_,
      fun {i who} hc hin => ?_,
    fun {i} hin => ?_, fun {i} heq => ?_, fun {i} hin => ?_⟩
  · exact absurd ((Prompts.granted_of_current hs').symm.trans hg) Bool.false_ne_true
  · cases (PromptStage.number_of_current hs').symm.trans hn
    rw [hm]
    exact h.numbered (PromptStage.number_of_current hs)
  · obtain ⟨hlo, hin⟩ := h.listed (hid hc)
    rw [hl, hlog]
    exact ⟨hlo, mem_cons_of_mem _ hin⟩
  · rw [hop] at hst
    rw [hlog]
    exact (h.seen (hid hc) hst hp).imp_right hap
  · rw [hlog] at hin ⊢
    exact hap (h.told (hid hc) (hold hin hre))
  · rw [hlog] at hin ⊢
    rcases h.past_append [e] (hold hin (he.2 i).symm) with hc | hpa
    · rw [hs', ← hs]
      exact .inl hc
    · exact .inr hpa
  · rw [hlog, ha i heq]
    exact mem_cons_self
  · rw [hlog] at hin ⊢
    refine mem_cons_of_mem _ ?_
    rcases mem_cons.mp hin with heq | hin
    · exact hr i heq.symm
    · exact h.raised hin

lemma registers (hca : Calls s) (hs : s.stage = .stamped id)
    (hcal : s.calling = []) :
    Dialogs key ({ s with live := s.live.registerLivePrompt key id, stage := .registered id }.say
      [.registered id]) := by
  have he : ∀ who, .called who ∉ s.log := h.early (by unfold Prompts.granted; rw [hs])
  refine ⟨nofun, fun {i} hn => ?_, fun {i} hc => ?_, fun {i who stage p} hc hst hp => ?_,
      fun {i who} hc hin => ?_,
    fun {i} hin => ?_, nofun, fun {i} hin => ?_⟩
  · cases hn
    exact h.numbered (by rw [hs]; rfl)
  · cases hc
    exact ⟨AList.lookup_insert _, mem_cons_self⟩
  · have hin := hca.calling hst
    rw [hcal] at hin
    cases hin
  · have hin := (mem_cons.mp hin).resolve_left nofun
    exact absurd (hca.returned hin).2 (he who)
  · rcases mem_cons.mp hin with heq | hin
    · cases heq
      exact .inl rfl
    · rcases h.past_append [.registered id] hin with hc | hpa
      · rw [hs] at hc
        cases hc
      · exact .inr hpa
  · exact mem_cons_of_mem _ (h.raised ((mem_cons.mp hin).resolve_left nofun))

lemma forgets (hca : Calls s) (hs : s.stage = .answered id)
    (hcal : s.calling = []) :
    Dialogs key { s with live := s.live.forgetLivePrompt id, stage := .leaving } := by
  have hcu : s.stage.current = some id := by rw [hs]; rfl
  refine ⟨nofun, nofun, nofun, nofun, nofun, fun {i} hin => ?_, nofun, h.raised⟩
  rcases h.past hin with hc | hp
  · cases hcu.symm.trans hc
    refine .inr ?_
    by_cases hcall : ∃ who, .called who ∈ s.log
    · obtain ⟨who, hcall⟩ := hcall
      rcases hca.ended hcall with hne | ⟨other, hr⟩
      · exact absurd hcal hne
      · exact .inl (h.told hcu hr)
    · exact .inr ⟨h.answered hs, throughout_after_of_none fun who hin => hcall ⟨who, hin⟩⟩
  · exact .inr hp

end

end Dialogs

end Steps

/-! ## Runs -/

structure Attended (key : Key) (s : Prompts Tid Peer Key Token) : Prop where
  gate : AtGate key s
  calls : Calls s
  faced : Faced s
  dialogs : Dialogs key s

section Runs
variable {setup : Setup} {key : Key} {s : Prompts Tid Peer Key Token}

lemma attended_start : Attended key ({} : Prompts Tid Peer Key Token) := by
  refine ⟨⟨rfl, nofun, rfl⟩, ⟨?_, nofun, nofun, nofun, ?_, ?_⟩, ⟨nofun, nofun, nofun⟩,
    ⟨nofun, nofun, nofun, nofun, nofun, nofun, nofun, nofun⟩⟩
  all_goals
    intro who
    cases who <;> nofun

section
variable (h : Attended key s)
include h

lemma Attended.roused {slots : Prompting (Option Peer) Key (Option Token)}
    (hr : Prompting.Roused s.slots slots) : Attended key { s with slots := slots } := by
  refine ⟨h.gate.roused hr, h.calls.goes rfl rfl rfl (forall_mem_nil _),
    ⟨h.faced.path, h.faced.working, h.faced.facing⟩,
      ⟨fun hg => h.dialogs.early ?_, h.dialogs.numbered, h.dialogs.listed,
    h.dialogs.seen, h.dialogs.told, h.dialogs.past, h.dialogs.answered, h.dialogs.raised⟩⟩
  have hh : (slots.threads none).isHolding = (s.slots.threads none).isHolding := by
    rcases hr.1 with heq | heq
    · rw [heq]
    · rw [heq, PromptPc.notified_isHolding]
  unfold Prompts.granted at hg ⊢
  rwa [hh] at hg

lemma Attended.ask (hs : s.stage = .away) (hw : s.op.worker = .working) :
    Attended key
      { s with op := s.op.step setup (.call (.setPhase awaitingConsent.number)),
               stage := .setting } := by
  have hop : s.op.step setup (.call (.setPhase awaitingConsent.number))
      = { s.op with worker := .exchanging awaitingConsent.number } := by
    simp [Operation.step, hw, Operation.startCall, WorkCall.start]
  rw [hop]
  have hfi := h.gate.fits
  rw [hs] at hfi
  have hc : (RunPc.exchanging awaitingConsent.number).isConsent = true := rfl
  refine ⟨⟨h.gate.token, h.gate.mine, hfi⟩,
      ⟨?_, h.calls.called, h.calls.ended, h.calls.returned, ?_, ?_⟩,
    ⟨fun _ => hc, fun hg => absurd hg Bool.false_ne_true, fun _ => .inl (.inl rfl)⟩, ?_⟩
  · intro who stage hst
    have hst : s.op.cancelStage who = some stage := by cases who <;> exact hst
    exact h.calls.calling hst
  · intro who p hst
    have hst : s.op.cancelStage who = some (.dismiss p) := by cases who <;> exact hst
    exact h.calls.tripped hst
  · intro who hf
    have hf : s.op.isFinisher who = true := by cases who <;> exact hf
    exact h.calls.finisher hf
  · refine h.dialogs.without (by rw [hs]; rfl) rfl rfl
      (fun hg => absurd hg Bool.false_ne_true) fun hn => ?_
    exact absurd hn.symm (Option.some_ne_none _)

lemma Attended.live {live : LivePrompts Key} {minted : Nat} (hm : s.minted ≤ minted)
    (hl : ∀ {id}, s.stage.current = some id → live.lookup id = s.live.lookup id) :
    Attended key { s with live := live, minted := minted } := by
  refine ⟨⟨h.gate.token, h.gate.mine, h.gate.fits⟩, h.calls.goes rfl rfl rfl (forall_mem_nil _),
    ⟨h.faced.path, h.faced.working, h.faced.facing⟩,
      ⟨h.dialogs.early, fun hn => Nat.lt_of_lt_of_le (h.dialogs.numbered hn) hm, fun {id} hc => ?_,
      h.dialogs.seen, h.dialogs.told,
    h.dialogs.past, h.dialogs.answered, h.dialogs.raised⟩⟩
  obtain ⟨hlo, hin⟩ := h.dialogs.listed hc
  exact ⟨(hl hc).trans hlo, hin⟩

/-- a step of the worker at its prompt -/
lemma Attended.goes (hs : s.stage ≠ .away) (hw : s.op.worker.isWorking = true)
    {t : Prompts Tid Peer Key Token} (hop : t.op = s.op) (hc : t.calling = s.calling)
    (new : List (DialogEvent Tid)) (hl : t.log = new ++ s.log) (hn : ∀ e ∈ new, e.isCall = false)
    (hg : AtGate key t) (hd : Dialogs key t) : Attended key t := by
  refine ⟨hg, h.calls.goes hop hc hl hn, h.faced.goes hs hw hop ?_, hd⟩
  rw [hl]
  exact suffix_append _ _

lemma Attended.prompt (wanted : Bool) (hco : Unhurried key s s.stage) :
    Attended key (s.prompt key wanted s.stage) := by
  have hf := h.gate.fits
  have hd := h.dialogs
  have hgo {t} (hg : s.stage.isGated = true) :=
    h.goes (t := t) (PromptStage.ne_away hg) (h.faced.working hg)
  cases hs : s.stage with
  | away | raised id => exact h
  | setting =>
    rw [hs] at hf hco
    simp only [Prompts.prompt]
    split
    · rename_i hw
      have hl := s.slots.looked_acquire key hf
      refine h.goes (by rw [hs]; nofun) (by rw [hw]; rfl) rfl rfl [] rfl (forall_mem_nil _)
        (h.gate.looked hl) ?_
      exact hd.without (by rw [hs]; rfl) rfl rfl (granted_looked h.gate h.calls hco hl) nofun
    · exact h
  | asking =>
    rw [hs] at hco hgo
    simp only [Prompts.prompt]
    split
    · next hi =>
      exact hgo rfl rfl rfl [] rfl (forall_mem_nil _) ⟨h.gate.token, h.gate.mine, hi⟩
        (hd.without (by rw [hs]; rfl) rfl rfl nofun nofun)
    · rename_i hpc
      obtain ⟨rfl, rfl⟩ := h.gate.mine hpc
      have hl := s.slots.looked_again hpc
      have hg := h.gate.looked hl
      have hdi : Dialogs _ { s with slots := s.slots.step (.check none), stage := .asking } :=
        hd.without (by rw [hs]; rfl) rfl rfl (granted_looked h.gate h.calls hco hl) nofun
      rw [← hs] at hg hdi
      exact hgo rfl rfl rfl [] rfl (forall_mem_nil _) hg hdi
    · rename_i hpc
      have hh : (s.slots.threads none).isHolding = true := by rw [hpc]; rfl
      have hgr : s.granted = true := by
        unfold Prompts.granted
        rwa [hs]
      split
      · refine hgo rfl rfl rfl [] rfl (forall_mem_nil _) ⟨h.gate.token, h.gate.mine, hh⟩ ?_
        refine hd.without (by rw [hs]; rfl) rfl rfl (fun _ => hd.early hgr) fun hn => ?_
        cases hn
        exact Nat.lt_succ_self _
      · exact hgo rfl rfl rfl [] rfl (forall_mem_nil _) ⟨h.gate.token, h.gate.mine, hh⟩
          (hd.without (by rw [hs]; rfl) rfl rfl nofun nofun)
  | stamped id =>
    rw [hs] at hf hco hgo
    exact hgo rfl rfl rfl [_] rfl (forall_mem_singleton.mpr rfl) ⟨h.gate.token, h.gate.mine, hf⟩
      (hd.registers h.calls hs hco)
  | registered id =>
    have hcu : s.stage.current = some id := by rw [hs]; rfl
    rw [hs] at hf hgo
    refine hgo rfl rfl rfl [_] rfl (forall_mem_singleton.mpr rfl) ⟨h.gate.token, h.gate.mine, hf⟩ ?_
    refine hd.goes hcu rfl rfl rfl rfl rfl ⟨rfl, nofun⟩ (fun i heq => ?_) nofun
    cases heq
    exact (hd.listed hcu).2
  | answered id =>
    rw [hs] at hf hco hgo
    exact hgo rfl rfl rfl [] rfl (forall_mem_nil _) ⟨h.gate.token, h.gate.mine, hf⟩
      (hd.forgets h.calls hs hco)
  | leaving =>
    rw [hs] at hf hgo
    cases hpc : s.slots.threads none with
    | idle | queued k i token awake =>
      rw [hpc] at hf
      cases hf
    | holding k =>
      obtain ⟨hi, hc⟩ := s.slots.release_idle hpc
      refine hgo rfl rfl rfl [] rfl (forall_mem_nil _)
        ⟨hc.trans h.gate.token, fun heq => absurd (hi.symm.trans heq) nofun, hi⟩ ?_
      exact hd.without (by rw [hs]; rfl) rfl rfl nofun nofun

lemma Attended.answer : Attended key (s.answer s.stage) := by
  cases hs : s.stage with
  | raised id =>
    have hg : s.stage.isGated = true := by rw [hs]; rfl
    have hf := h.gate.fits
    rw [hs] at hf
    refine h.goes (PromptStage.ne_away hg) (h.faced.working hg) rfl rfl [_] rfl
      (forall_mem_singleton.mpr rfl)
      ⟨h.gate.token, h.gate.mine, hf⟩ ?_
    refine h.dialogs.goes (by rw [hs]; rfl) rfl rfl rfl rfl rfl ⟨rfl, nofun⟩ nofun fun i heq => ?_
    cases heq
    rfl
  | _ => exact h

lemma Attended.step (a : PromptAction Tid Peer Key Token)
    (hco : Undisturbed key s a) : Attended key (s.step setup key a) := by
  cases a with
  | base a =>
    simp only [Prompts.step]
    split
    · exact h
    · next ha =>
        exact ⟨h.gate.base a, h.calls.base a, h.faced.base h.calls ha, h.dialogs.base h.faced hco⟩
  | ask =>
    simp only [Prompts.step]
    split
    · rename_i hs
      split
      · next hw => exact h.ask hs hw
      · exact h
    · exact h
  | prompt wanted => exact h.prompt wanted hco
  | answer => exact h.answer
  | peer a => exact h.roused (s.slots.roused_peer a)
  | peerRegisters k =>
    refine h.live (Nat.le_succ _) fun {id} hc => AList.lookup_insert_ne ?_
    exact Nat.ne_of_lt (h.dialogs.numbered (PromptStage.number_of_current hc))
  | peerForgets id =>
    simp only [Prompts.step]
    split
    · exact h
    · rename_i hne
      refine h.live (Nat.le_refl _) fun {i} hc => AList.lookup_erase_ne ?_
      rintro rfl
      exact hne hc
  | wake => exact h.roused s.slots.roused_wake
  | callback => exact h.roused s.slots.roused_callback

end

end Runs

/-- a call of `requestCancel` made before the dialog is answered has returned, and the dialog has
been raised: then the prompter has been told to dismiss it -/
def Attentive (log : List (DialogEvent Tid)) : Prop :=
  ∀ newer older who id, log = newer ++ .called who :: older → .answered id ∉ older →
    .returned who ∈ newer →
    .raised id ∈ log → Told id log

/-- for any other operations at the gate, and any threads that cancel the operation or drain it -/
theorem no_orphan_dialog (setup : Setup) (key : Key)
    (actions : List (PromptAction Tid Peer Key Token))
    (h : Along (Prompts.step setup key) (Undisturbed key) {} actions) :
    Attentive (run (Prompts.step setup key) {} actions).log := by
  have hi : Attended key (run (Prompts.step setup key) ({} : Prompts Tid Peer Key Token) actions) :=
    run_invariant_along (fun s a hc hs => hs.step a hc) attended_start h
  intro newer older who id hl ha hr hra
  have hin : .returned who ∈ (run (Prompts.step setup key) ({} : Prompts Tid Peer Key Token)
      actions).log := by
    rw [hl]
    exact mem_append_left _ hr
  rcases hi.dialogs.past (hi.dialogs.raised hra) with hcu | ht | ⟨-, haf⟩
  · exact hi.dialogs.told hcu hin
  · exact ht
  · rw [hl] at haf
    exact absurd haf.at ha

section Examples

def takesSlot : List (PromptAction (Fin 1) (Fin 1) Unit (Fin 1)) :=
  .ask :: List.replicate 3 (.base .work) ++ [.prompt true]

def raises : List (PromptAction (Fin 1) (Fin 1) Unit (Fin 1)) :=
  List.replicate 3 (.prompt true)

def dismissedRun : List (PromptAction (Fin 1) (Fin 1) Unit (Fin 1)) :=
  .base .work :: takesSlot ++ raises ++ .base (.requestCancel 0) :: List.replicate 4
    (.base (.other 0)) ++
    .answer :: List.replicate 2 (.prompt true)

theorem no_orphan_dialog_dismissed : Along (Prompts.step {} ()) (Undisturbed ()) {} dismissedRun ∧
    (run (Prompts.step {} ()) {} dismissedRun).log =
      [.answered 0, .returned (.other 0), .sent 0, .called (.other 0), .raised 0, .registered 0] ∧
    Attentive (run (Prompts.step {} ()) {} dismissedRun).log :=
  ⟨by decide +kernel, by decide +kernel, no_orphan_dialog {} () dismissedRun (by decide +kernel)⟩

/-- the phase is looked at before it is `AwaitingConsent`, and the token tripped after the slot is
taken -/
def earlyRun : List (PromptAction (Fin 1) (Fin 1) Unit (Fin 1)) :=
  .base .work :: .base (.requestCancel 0) :: .base (.other 0) :: takesSlot ++ raises ++
    List.replicate 3 (.base (.other 0))

def betweenRun : List (PromptAction (Fin 1) (Fin 1) Unit (Fin 1)) :=
  .base .work :: takesSlot ++ .base (.requestCancel 0) :: List.replicate 4
    (.base (.other 0)) ++ raises

theorem no_orphan_dialog_fails :
    ¬ Attentive (run (Prompts.step {} ()) {} earlyRun).log ∧
      ¬ Attentive (run (Prompts.step {} ()) {} betweenRun).log := by
  have he : (run (Prompts.step {} ()) {} earlyRun).log =
      [.returned (.other 0), .raised 0, .registered 0, .called (.other 0)] := by decide +kernel
  have hb : (run (Prompts.step {} ()) {} betweenRun).log =
      [.raised 0, .registered 0, .returned (.other 0), .called (.other 0)] := by decide +kernel
  constructor
  · intro h
    rw [he] at h
    exact absurd (h [.returned (.other 0), .raised 0, .registered 0] [] (.other 0) 0 rfl (by decide)
      (by decide) (by decide))
      (by unfold Told; decide)
  · intro h
    rw [hb] at h
    exact absurd (h [.raised 0, .registered 0, .returned (.other 0)] [] (.other 0) 0 rfl (by decide)
      (by decide) (by decide))
      (by unfold Told; decide)

end Examples

end Gate

end LibreAgent.Operations
