import LibreAgent.Lib.Runs
import LibreAgent.Pkcs11Agent.Calls

/-!
# Refreshing the model

A refresh takes a ticket, fetches a snapshot with the lock released, and publishes it if its ticket
is above that of the last one published.  The fetches of several threads overlap and end in any
order.

* `Refreshing` : the module, with the snapshots that it has published and their tickets;
* `refresh_never_goes_back` : their tickets rise, and a refresh that returns leaves a model at least
  as recent as its own request, if the library is not loaded anew meanwhile (`NoReload`).

The counters outlive the library: `base` is the last ticket that was published before the last
`C_Initialize`.  A refresh with an earlier ticket then succeeds over the empty model of the new
library (`refresh_goes_back`).
-/

set_option linter.unusedSectionVars false

namespace LibreAgent.Pkcs11Agent

open Runs

section
variable {Tid : Type*} [DecidableEq Tid] {s : Module Tid} {a : ModuleAction Tid} {t : Tid}

def Module.newest (s : Module Tid) : ModuleAction Tid → Option (Nat × AgentSnapshot)
  | .proceed t _ =>
    match s.lib, s.threads t with
    | some _, .closing (.publish ticket snapshot _ :: _) _ =>
      if ticket > s.snapshotPublished then some (ticket, snapshot) else none
    | _, _ => none
  | _ => none

structure Refreshing (Tid : Type*) where
  process : Module Tid := {}
  /-- the last one first -/
  published : List (Nat × AgentSnapshot) := []
  base : Nat := 0

def Refreshing.step (w : Refreshing Tid) (a : ModuleAction Tid) : Refreshing Tid :=
  { process := w.process.step a
    published := (w.process.newest a).toList ++ w.published
    base := if w.process.lib.isNone ∧ (w.process.step a).lib.isSome then w.process.snapshotPublished
      else w.base }

/-! ## What a step does -/

lemma SessionState.SmallStep.model_eq {state state' : SessionState} (h : state.SmallStep state') :
    state'.model = state.model := by
  cases h with
  | same | session | opened | destroyed | destroyedOf => rfl
  | closed h =>
    unfold SessionState.closeSession
    split
    · rfl
    · simp only
      split
      · rfl
      · exact (SessionState.endLogin_loginsOnly _ _).model
  | closedAll slot | loggedOut slot => exact (state.endLogin_loginsOnly slot).model
  | checked slot now =>
    unfold SessionState.markLoginChecked
    split <;> rfl

lemma SessionState.model_setModel (state : SessionState) (model : ObjectModel) :
    (state.setModel model).model = model :=
  ((state.setSlots model).endLogins_loginsOnly _).model

namespace Module

lemma perform_counters (now : Int) {x : Section} {rest : List Section} {answer : Answer}
    (hpc : s.threads t = .closing (x :: rest) answer) : (s.perform t now x).1.snapshotsStarted =
    s.snapshotsStarted ∧
      (s.perform t now x).1.snapshotPublished =
        (s.newest (.proceed t now)).elim s.snapshotPublished (·.1) := by
  simp only [newest, hpc]
  cases x with
  | release | clearSign | clearDecrypt | dropLogin => cases s.lib <;> exact ⟨rfl, rfl⟩
  | publish => grind [perform, publish, setState]
  | recordLogin => grind [perform, recordLogin, setState]
  | recordActive => grind [perform, recordActive, setState]
  | keepKey => grind [perform, keepKey, setState]

/-- a ticket is one more than the last, and the published one is that of the snapshot -/
lemma counters_step (s : Module Tid) (a : ModuleAction Tid) :
    s.snapshotsStarted ≤ (s.step a).snapshotsStarted ∧
    (s.step a).snapshotPublished = (s.newest a).elim s.snapshotPublished (·.1) := by
  cases a with
  | call t c now =>
    cases hpc : s.threads t <;> simp only [step, hpc] <;> try exact ⟨Nat.le_refl _, rfl⟩
    cases hl : s.lib with
    | none => cases c <;> simp only [call, hl] <;> exact ⟨Nat.le_refl _, rfl⟩
    | some state =>
      cases c with
      | blocking c =>
        cases hc : state.check c <;> simp only [call, hl, hc] <;> exact ⟨Nat.le_refl _, rfl⟩
      | query q =>
        cases q <;> simp only [call, hl] <;>
          grind [beginQuery, refresh, guard, ret, setThread, newest]
      | _ =>
        simp only [call, hl]; grind [finalize, beginSessionInfo, guard, ret, setThread,
          setState, newest]
  | reply t r =>
    cases hpc : s.threads t with
    | calling c =>
      cases hr : c.conclude r <;> simp only [step, hpc, hr] <;> exact ⟨Nat.le_refl _, rfl⟩
    | _ => simp only [step, hpc]; exact ⟨Nat.le_refl _, rfl⟩
  | proceed t now =>
    cases hpc : s.threads t with
    | closing todo answer =>
      cases todo with
      | nil => simp [step, hpc, proceed, ret, setThread, newest]
      | cons x rest =>
        simp only [step, hpc, proceed, setThread]
        exact (perform_counters now hpc).imp_left ge_of_eq
    | _ => simp only [step, hpc]; grind [proceed, finalize, ret, setThread, newest]
  | giveUp t => cases hpc : s.threads t <;> simp only [step, hpc] <;> exact ⟨Nat.le_refl _, rfl⟩

lemma apply_model {x : Section} (hx : x.isPublish = false) (published : Nat) (now : Int)
    (state : SessionState) : (x.apply published now state).model = state.model := by
  have hm := x.makes published now state
  generalize x.apply published now state = state' at hm ⊢
  cases hm with
  | small hs => exact hs.model_eq
  | model => cases hx
  | login | key => rfl

lemma newest_eq_some {p : Nat × AgentSnapshot} (h : s.newest a = some p) :
    ∃ t now q rest answer, a = .proceed t now ∧
      s.threads t = .closing (.publish p.1 p.2 q :: rest) answer ∧
      p.1 > s.snapshotPublished := by
  cases a with
  | proceed t now => grind [newest]
  | _ => cases h

/-- the model is the published snapshot, or stays -/
lemma step_model {state state' : SessionState} (hli : s.lib = some state)
    (hli' : (s.step a).lib = some state') :
    state'.model = (s.newest a).elim state.model fun p => .build p.2 := by
  cases hp : s.newest a with
  | some p =>
    obtain ⟨t, now, q, rest, answer, rfl, hpc, hl⟩ := newest_eq_some hp
    have hpe : (s.step (.proceed t now)).lib = (s.perform t now (.publish p.1 p.2 q)).1.lib := by
      simp [step, hpc, proceed, setThread]
    rw [hpe, (s.perform_parts t now _).1, hli] at hli'
    cases hli'
    simp only [Section.apply, if_pos hl]
    exact (SessionState.query_small _ q).model_eq.trans (state.model_setModel _)
  | none =>
    rcases s.step_cases a with hv | ⟨t, hm⟩
    · rw [hv, hli] at hli'
      cases hli'
      rfl
    have hmo := hm.move
    rw [hli'] at hmo
    generalize (s.step a).guards = guards, (s.step a).threads t = pc at hmo
    generalize hli'' : some state' = lib' at hmo
    cases hmo with
    | returns | drains | looks | answered | loads | refreshes => grind
    | unloads => cases hli''
    | within _ _ hs =>
      cases hli.symm.trans hs
      cases hli''
      exact (state.within_small _).model_eq
    | inquires _ _ hs =>
      cases hli.symm.trans hs
      cases hli''
      exact (SessionState.SmallStep.checked _ _).model_eq
    | asks _ _ hs =>
      cases hli.symm.trans hs
      cases hli''
      refine SessionState.SmallStep.model_eq (state.updateSession_small _ ?_)
      exact fun _ => rfl
    | @performs now x rest answer ha hpc =>
      rw [hli] at hli''
      cases hli''
      cases x with
      | publish ticket snapshot q =>
        have he : ¬ ticket > s.snapshotPublished := by grind [newest]
        simp only [Section.apply, if_neg he]
        exact (state.query_small q).model_eq
      | _ => exact apply_model rfl _ _ _

end Module

/-! ## The invariant -/

structure Refreshed (w : Refreshing Tid) : Prop where
  rising : (w.published.map (·.1)).Pairwise (· > ·)
  last : w.process.snapshotPublished = w.published.head?.elim 0 (·.1)
  model : ∀ state, w.process.lib = some state → w.base < w.process.snapshotPublished →
    some state.model = w.published.head?.map fun p => .build p.2

lemma Refreshed.step {w : Refreshing Tid} (h : Refreshed w) (a : ModuleAction Tid) :
    Refreshed (w.step a) := by
  have hc := (w.process.counters_step a).2
  have hb : (w.step a).base = if w.process.lib.isNone ∧ (w.process.step a).lib.isSome then
      w.process.snapshotPublished else w.base := rfl
  cases hp : w.process.newest a with
  | none =>
    have hs : (w.step a).published = w.published := by simp [Refreshing.step, hp]
    have hc : (w.step a).process.snapshotPublished = w.process.snapshotPublished := by
      rw [hp] at hc
      exact hc
    refine ⟨hs ▸ h.rising, hc.trans (hs ▸ h.last), fun state' hli' hl => ?_⟩
    rw [hc] at hl
    cases hli : w.process.lib with
    | none =>
      -- the library is new, and nothing has been published since
      have hn : (w.process.step a).lib = some state' := hli'
      simp [hb, hli, hn] at hl
    | some state =>
      have hm : state'.model = state.model := by simpa [hp] using Module.step_model hli hli'
      rw [hb, if_neg (by simp [hli])] at hl
      rw [hs, hm]
      exact h.model state hli hl
  | some p =>
    obtain ⟨t, now, q, rest, answer, rfl, hpc, hl⟩ := Module.newest_eq_some hp
    have hs : (w.step (.proceed t now)).published = p :: w.published := by
      simp [Refreshing.step, hp]
    have hc : (w.step (.proceed t now)).process.snapshotPublished = p.1 := by
      rw [hp] at hc
      exact hc
    refine ⟨?_, by rw [hc, hs]; rfl, fun state' hli' _ => ?_⟩
    · rw [hs]
      refine List.pairwise_cons.mpr ⟨fun ticket ht => ?_, h.rising⟩
      refine Nat.lt_of_le_of_lt ?_ hl
      have hr := h.rising
      rw [h.last]
      cases hpu : w.published with
      | nil => simp [hpu] at ht
      | cons newest older =>
        rw [hpu] at ht hr
        rcases List.mem_cons.mp ht with rfl | hold
        · exact Nat.le_refl _
        · exact Nat.le_of_lt ((List.pairwise_cons.mp hr).1 ticket hold)
    · cases hli : w.process.lib with
      | none => simp [Module.newest, hli] at hp
      | some state =>
        rw [hs, Module.step_model hli hli', hp]
        rfl

/-! ## Refreshes under way -/

def Pc.isRefreshing : Pc → Bool
  | .calling (.snapshot _ _) => true
  | .closing todo _ => todo.any Section.isPublish
  | _ => false

/-- the library is not loaded while a refresh has still to take the lock again; its guard has gone
by then, for `C_Finalize` waits for it -/
def NoReload (w : Refreshing Tid) (a : ModuleAction Tid) : Prop :=
  w.process.lib.isNone = true → (w.process.step a).lib.isSome = true →
    ∀ t, (w.process.threads t).isRefreshing = false

instance [Fintype Tid] (w : Refreshing Tid) (a : ModuleAction Tid) : Decidable (NoReload w a) :=
  inferInstanceAs (Decidable (_ → _ → ∀ _, _ = _))

def Pc.Holds (ticket : Nat) : Pc → Prop
  | .calling c => ∃ q, c = .snapshot ticket q
  | .closing todo _ => ∃ snapshot q, .publish ticket snapshot q ∈ todo
  | .idle | .draining => False

lemma Pc.Holds.isRefreshing {pc : Pc} {ticket : Nat} (h : pc.Holds ticket) :
    pc.isRefreshing = true := by
  cases pc with
  | calling c =>
    obtain ⟨q, rfl⟩ := h
    rfl
  | closing todo answer =>
    obtain ⟨snapshot, q, hm⟩ := h
    exact List.any_eq_true.mpr ⟨_, hm, rfl⟩
  | idle | draining => exact h.elim

namespace Module

lemma holds_of_publish {ticket : Nat} {snapshot : AgentSnapshot} {q : SlotQuery}
    {rest : List Section}
    {answer : Answer} (hpc : s.threads t = .closing (.publish ticket snapshot q :: rest) answer) :
    (s.threads t).Holds ticket :=
  hpc ▸ ⟨snapshot, q, List.mem_cons_self⟩

lemma started_of_refreshes {state : SessionState} {k : Nat} {q : SlotQuery} (ha : a.isCallOf t)
    (hidle : s.threads t = .idle) (hlib : s.lib = some state)
    (hpc : (s.step a).threads t = .calling (.snapshot k q)) : (s.step a).snapshotsStarted = k := by
  obtain ⟨c, now, rfl⟩ := ha
  have hne {s' : Module Tid} {pc : Pc} (hpc : (s'.setThread t pc).threads t =
      .calling (.snapshot k q)) :
      pc = .calling (.snapshot k q) := (s'.setThread_self t pc).symm.trans hpc
  simp only [step, hidle, call, hlib] at hpc ⊢
  cases c with
  | cInitialize | within => cases hne hpc
  | cFinalize =>
    simp only [finalize] at hpc
    split at hpc <;> cases hne hpc
  | getSessionInfo =>
    simp only [beginSessionInfo] at hpc
    split at hpc
    · cases hne hpc
    · split at hpc
      · split at hpc <;> cases hne hpc
      · cases hne hpc
  | query q' =>
    have hr {q' : SlotQuery} (hpc : (s.refresh t q').threads t = .calling (.snapshot k q)) :
        (s.refresh t q').snapshotsStarted = k := by
      cases hne hpc
      rfl
    simp only [beginQuery] at hpc ⊢
    split at hpc
    · split at hpc
      · cases hne hpc
      · next hf =>
        rw [if_neg hf]
        exact hr hpc
    · exact hr hpc
  | blocking c =>
    simp only [start] at hpc
    split at hpc
    · cases hne hpc
    · next hc =>
      cases hne hpc
      cases (SessionState.asks_of_check hc).2

/-- a ticket that a thread has after a step is its own, or has just been handed out -/
lemma holds_step {ticket : Nat} (h : ((s.step a).threads t).Holds ticket) :
    (s.threads t).Holds ticket ∨
    s.lib.isSome = true ∧ ticket = s.snapshotsStarted + 1 ∧
      (s.step a).snapshotsStarted = ticket := by
  rcases s.step_cases a with hv | ⟨t', hm⟩
  · exact .inl (hv ▸ h)
  by_cases ht : t = t'
  · subst ht
    have hmo := hm.move
    generalize hpc : (s.step a).threads t = pc at hmo h
    generalize (s.step a).lib = lib, (s.step a).guards = guards at hmo
    cases hmo with
    | returns | loads | unloads | drains | within => exact h.elim
    | looks =>
      obtain ⟨snapshot, q, hin⟩ := h
      cases List.mem_singleton.mp hin
    | refreshes ha hidle hlib q =>
      obtain ⟨q', he⟩ := h
      cases he
      exact .inr ⟨hlib ▸ rfl, rfl, started_of_refreshes ha hidle hlib hpc⟩
    | inquires =>
      obtain ⟨q, he⟩ := h
      cases he
    | asks _ _ _ hc =>
      obtain ⟨q, rfl⟩ := h
      cases (SessionState.asks_of_check hc).2
    | answered hc hr =>
      obtain ⟨snapshot, q, hin⟩ := h
      rw [hc]
      exact .inl ⟨q, (concludes_conclude hr).closes.own _ hin⟩
    | performs _ hc =>
      obtain ⟨snapshot, q, hin⟩ := h
      rw [hc]
      exact .inl ⟨snapshot, q, List.mem_cons_of_mem _ hin⟩
  · exact .inl (hm.others t ht ▸ h)

end Module

/-- the tickets that threads have are of this library -/
structure Ticketed (w : Refreshing Tid) : Prop where
  base : w.base ≤ w.process.snapshotPublished
  published : w.process.snapshotPublished ≤ w.process.snapshotsStarted
  own : ∀ {t ticket}, (w.process.threads t).Holds ticket → w.base < ticket ∧
    ticket ≤ w.process.snapshotsStarted

lemma Ticketed.step {w : Refreshing Tid} (h : Ticketed w) (hn : NoReload w a) :
    Ticketed (w.step a) := by
  obtain ⟨hst, hpu⟩ := w.process.counters_step a
  have hst : w.process.snapshotsStarted ≤ (w.step a).process.snapshotsStarted := hst
  have hpu : w.process.snapshotPublished ≤ (w.step a).process.snapshotPublished ∧
      (w.step a).process.snapshotPublished ≤ (w.step a).process.snapshotsStarted := by
    show _ ≤ (w.process.step a).snapshotPublished ∧ (w.process.step a).snapshotPublished ≤ _
    rw [hpu]
    cases hp : w.process.newest a with
    | none => exact ⟨Nat.le_refl _, h.published.trans hst⟩
    | some p =>
      obtain ⟨t, now, q, rest, answer, -, hpc, hl⟩ := Module.newest_eq_some hp
      exact ⟨Nat.le_of_lt hl, (h.own (Module.holds_of_publish hpc)).2.trans hst⟩
  by_cases hr : w.process.lib.isNone ∧ (w.process.step a).lib.isSome
  · -- a new library, and nobody has a ticket
    have hb : (w.step a).base = w.process.snapshotPublished := if_pos hr
    refine ⟨hb ▸ hpu.1, hpu.2, fun hh => ?_⟩
    rcases Module.holds_step hh with ho | ⟨hl, -⟩
    · exact absurd ho.isRefreshing (by rw [hn hr.1 hr.2]; decide)
    · exact absurd hl (by simp [Option.isNone_iff_eq_none.mp hr.1])
  · have hb : (w.step a).base = w.base := if_neg hr
    refine ⟨hb ▸ h.base.trans hpu.1, hpu.2, fun hh => ?_⟩
    rw [hb]
    rcases Module.holds_step hh with ho | ⟨-, rfl, he⟩
    · exact (h.own ho).imp_right (·.trans hst)
    · exact ⟨Nat.lt_succ_of_le (h.base.trans h.published), ge_of_eq he⟩

def Refreshing.Returns (w : Refreshing Tid) (t : Tid) (ticket : Nat) : Prop :=
  (∃ snapshot q rest answer, w.process.threads t =
      .closing (.publish ticket snapshot q :: rest) answer) ∧
    w.process.lib.isSome = true

/-- Whatever the threads call and however long their snapshots take: a ticket is above all that were
handed out before, and the snapshots that are published have rising tickets.  If the library is not
loaded anew while a refresh has still to take the lock again, a refresh that returns leaves a model
whose snapshot has its own ticket or a later one. -/
theorem refresh_never_goes_back (actions : List (ModuleAction Tid)) :
    let w := run Refreshing.step ({} : Refreshing Tid) actions
    (∀ a, w.process.snapshotsStarted ≤ (w.step a).process.snapshotsStarted) ∧
      (∀ t q, (w.process.refresh t q).threads t =
        .calling (.snapshot (w.process.snapshotsStarted + 1) q)) ∧
      (w.published.map (·.1)).Pairwise (· > ·) ∧
      (Along Refreshing.step NoReload {} actions → ∀ t ticket now, w.Returns t ticket →
        ∃ p ∈ (w.step (.proceed t now)).published.head?, ticket ≤ p.1 ∧
          ((w.step (.proceed t now)).process.lib.map (·.model)) = some (.build p.2)) := by
  have hs : Refreshed ({} : Refreshing Tid) := ⟨.nil, rfl, nofun⟩
  have h : Refreshed (run Refreshing.step {} actions) :=
    run_invariant (fun _ a hw => hw.step a) hs actions
  refine ⟨fun a => (Module.counters_step _ a).1, fun t q => Module.setThread_self _ t _, h.rising,
    fun hn t ticket now hr => ?_⟩
  have ht : Ticketed (run Refreshing.step {} actions) :=
    run_invariant_along (fun _ _ hc hw => hw.step hc) ⟨Nat.le_refl _, Nat.le_refl _, False.elim⟩ hn
  generalize run Refreshing.step {} actions = w at h hr ht
  obtain ⟨⟨snapshot, q, rest, answer, hpc⟩, hl⟩ := hr
  have hb := (ht.own (Module.holds_of_publish hpc)).1
  obtain ⟨state, hli⟩ := Option.isSome_iff_exists.mp hl
  have hli' : (w.step (.proceed t now)).process.lib =
      some ((Section.publish ticket snapshot q).apply w.process.snapshotPublished now state) := by
    show (w.process.proceed t now (w.process.threads t)).lib = _
    rw [hpc]
    exact (w.process.perform_parts t now _).1.trans (congrArg (Option.map _) hli)
  have hc : ticket ≤ (w.step (.proceed t now)).process.snapshotPublished := by
    have hp := (w.process.counters_step (.proceed t now)).2
    grind [Refreshing.step, Module.newest]
  have hsa : (w.step (.proceed t now)).base = w.base := by simp [Refreshing.step, hli]
  have hst := h.step (.proceed t now)
  have hm := hst.model _ hli' (hsa ▸ Nat.lt_of_lt_of_le hb hc)
  rw [hst.last] at hc
  cases hh : (w.step (.proceed t now)).published.head? with
  | none => simp [hh] at hm
  | some p =>
    rw [hh] at hm hc
    refine ⟨p, rfl, hc, ?_⟩
    rw [hli']
    exact hm

end

attribute [local instance] Runs.neZero_two

def overtaken : List (ModuleAction (Fin 2)) :=
  [.call 0 .cInitialize 0, .call 0 (.query .getSlotList) 0, .call 1 (.query .getSlotList) 0,
      .reply 1 (.snapshot {}),
   .proceed 1 0, .proceed 1 0, .reply 0 (.snapshot { readers := [{ readerPath := [1] }] }),
     .proceed 0 0]

theorem refresh_never_goes_back_overtaken :
    ∃ p ∈ ((run Refreshing.step {} overtaken).step (.proceed 0 0)).published.head?, 1 ≤ p.1 ∧
      ((run Refreshing.step {} overtaken).step (.proceed 0 0)).process.lib.map (·.model) =
        some (.build p.2) :=
  (refresh_never_goes_back overtaken).2.2.2 (by decide +kernel) 0 1 0 ⟨⟨_, _, _, _, rfl⟩, rfl⟩

/-- the library goes and comes again between the release of the guard and the lock -/
def reloaded : List (ModuleAction (Fin 2)) :=
  [.call 0 .cInitialize 0, .call 0 (.query .getSlotList) 0, .call 1 (.query .getSlotList) 0,
   .reply 1 (.snapshot { readers := [{ readerPath := [1] }] }), .proceed 1 0, .proceed 1 0,
   .proceed 1 0,
   .reply 0 (.snapshot {}), .proceed 0 0, .call 1 .cFinalize 0, .call 1 .cInitialize 0]

/-- The second refresh has published a reader.  The first one succeeds after it and leaves no slots.
-/
theorem refresh_goes_back :
    let w := run Refreshing.step {} reloaded
    w.Returns 0 1 ∧ w.published.head?.map (fun p => (p.1, (ObjectModel.build p.2).slots.length)) =
      some (2, 1) ∧
      (w.step (.proceed 0 0)).process.lib.map (·.model.slots) = some [] ∧
      ((w.step (.proceed 0 0)).step (.proceed 0 0)).process.returned 0 = some ⟨.ok, .nothing⟩ :=
  ⟨⟨⟨_, _, _, _, rfl⟩, rfl⟩, rfl, rfl, rfl⟩

end LibreAgent.Pkcs11Agent
