import LibreAgent.Lib.Runs
import LibreAgent.Pkcs11Agent.Calls

/-!
# A login belongs to the token that is shown

* `login_belongs_to_token` : in every run in which a login is requested only for a token with a
  serial, and no model is published that takes the token out of its slot while a login for it is in
  flight.

`C_Login` looks at the slot before it asks the agent and not after: the mark of a login that was
requested for one card can be set on the next (`login_marks_next_token`).
-/

namespace LibreAgent.Pkcs11Agent

open Runs List Option

/-! ## The state -/

namespace SessionState

variable {s s' : SessionState} {h slot id : Nat} {shown : Slot}

/-- the slot shows the token that it showed when a login was requested -/
structure Shows (s : SessionState) (id : Nat) (shown : Slot) : Prop where
  reader : s.readerToSlot.lookup shown.readerPath = some id
  present : shown.tokenPresent = true
  serial : shown.tokenSerial ≠ []
  now : ∃ now, s.slotById id = some now ∧ now.tokenPresent = true ∧ now.tokenSerial =
    shown.tokenSerial

/-- the state is right for a login in flight: its session, if still open, is one of the slot -/
structure Pending (s : SessionState) (h slot : Nat) (shown : Slot) : Prop where
  below : h < s.nextSession
  session : ∀ {session}, s.session h = some session → session.slot = slot
  shows : s.Shows slot shown

lemma Shows.of_sameSlots (hs : s.Shows id shown) (h : SameSlots s s') : s'.Shows id shown := by
  refine ⟨h.readerToSlot ▸ hs.reader, hs.present, hs.serial, ?_⟩
  rw [h.slotById]
  exact hs.now

lemma LoginsOnly.pending (ho : LoginsOnly s s') (hp : s.Pending h slot shown) :
    s'.Pending h slot shown := by
  refine ⟨ho.nextSession ▸ hp.below, fun hs => ?_, hp.shows.of_sameSlots ho.sameSlots⟩
  rw [ho.session_eq] at hs
  exact hp.session hs

lemma Quiet.pending (hq : Quiet s s') (hp : s.Pending h slot shown) : s'.Pending h slot shown := by
  refine ⟨Nat.lt_of_lt_of_le hp.below hq.nextSession, fun hs => ?_, hp.shows.of_sameSlots hq.slots⟩
  rcases hq.sessions hs with ⟨session, hold, hsl⟩ | ⟨hle, -⟩
  · exact hsl.symm.trans (hp.session hold)
  · exact absurd hp.below (Nat.not_lt.mpr hle)

/-! ### A new model -/

def showsToken (model : ObjectModel) (shown : Slot) : Bool :=
  (slotOf model.slots shown.readerPath).any fun now => now.tokenPresent && now.tokenSerial =
    shown.tokenSerial

variable {model : ObjectModel}

lemma Shows.setModel (hs : s.Sound) (hsh : s.Shows id shown)
    (hn : ∃ now, (s.setSlots model).slotById id = some now ∧ now.tokenPresent = true ∧
      now.tokenSerial = shown.tokenSerial) : (s.setModel model).Shows id shown := by
  have hse : (s.setSlots model).Shows id shown :=
    ⟨(assigned_setSlots hs.kept model).2 hsh.reader, hsh.present, hsh.serial, hn⟩
  exact hse.of_sameSlots (setModel_loginsOnly s model).sameSlots

lemma Pending.setModel (hs : s.Sound) (hp : s.Pending h slot shown)
    (hm : showsToken model shown = true) : (s.setModel model).Pending h slot shown := by
  have ho := setModel_loginsOnly s model
  have hr := (assigned_setSlots hs.kept model).2 hp.shows.reader
  refine ⟨?_, fun hse => ?_, hp.shows.setModel hs ?_⟩
  · rw [ho.nextSession]
    exact hp.below
  · rw [ho.session_eq] at hse
    exact hp.session hse
  · obtain ⟨now, hn, ht⟩ := (any_eq_true _ _).mp hm
    rw [slotById_setSlots hs.kept hr]
    exact ⟨now, hn, by simpa using ht⟩

/-- a login that survives the new model is one of a slot that shows its token as before -/
lemma Shows.survives (hs : s.Sound) (hsh : s.Shows id shown)
    (hin : (s.setModel model).isLoggedIn id = true) : (s.setModel model).Shows id shown := by
  obtain ⟨now, hno, hp, hse⟩ := hsh.now
  have hk := (isLoggedIn_setModel hin).2 hno
  have hsho : now.shownSerial = shown.tokenSerial := by rw [Slot.shownSerial, if_pos hp, hse]
  rw [hsho, keepsToken, Bool.and_eq_true] at hk
  obtain ⟨next, hn, ht⟩ := (any_eq_true _ _).mp hk.2
  exact hsh.setModel hs ⟨next, hn, by simpa using ht⟩

end SessionState

/-! ## The process -/

section Process
variable {Tid : Type*} [DecidableEq Tid] {s : Module Tid} {t : Tid}

/-- whenever a slot is marked as logged in, it shows the token that it showed when the login was
requested -/
def LoginOwned (s : Module Tid) : Prop :=
  ∀ state id, s.lib = some state → state.isLoggedIn id = true →
    ∃ shown now, s.marks id = some shown ∧ state.slotById id = some now ∧ shown.readerPath =
      now.readerPath ∧
      shown.tokenPresent = true ∧ shown.tokenSerial ≠ [] ∧ now.tokenPresent = true ∧
        now.tokenSerial = shown.tokenSerial

omit [DecidableEq Tid] in
lemma LoginOwned.tokenSerial_eq (h : LoginOwned s) (id : Nat)
    (hin : s.lib.any (·.isLoggedIn id) = true) :
    (s.lib.bind (·.slotById id)).map (·.tokenSerial) = (s.marks id).map (·.tokenSerial) := by
  obtain ⟨state, hl, hin⟩ := (any_eq_true _ _).mp hin
  obtain ⟨shown, now, hm, hn, -, -, -, -, hs⟩ := h state id hl hin
  rw [hl, hm, bind_some, hn, map_some, map_some, hs]

def Section.login? : Section → Option (Nat × Nat × Slot)
  | .recordLogin h _ slot shown => some (h, slot, shown)
  | _ => none

def Pc.login? : Pc → Option (Nat × Nat × Slot)
  | .calling (.login h slot shown) => some (h, slot, shown)
  | .closing (todo :: _) _ => todo.login?
  | _ => none

def Pc.LoginFirst : Pc → Prop
  | .closing todo _ => ∀ x ∈ todo.tail, x.login? = none
  | _ => True

structure Owned (s : Module Tid) : Prop where
  /-- the library is not unloaded under a call -/
  alive : s.guards ≠ [] → s.lib.isSome = true
  counted : ∀ {t login}, (s.threads t).login? = some login → t ∈ s.guards
  first : ∀ t, (s.threads t).LoginFirst
  sound : ∀ {state}, s.lib = some state → state.Sound
  pending : ∀ {t h slot shown}, (s.threads t).login? = some (h, slot, shown) →
    ∀ {state}, s.lib = some state → state.Pending h slot shown
  marked : ∀ {state id}, s.lib = some state → state.isLoggedIn id = true →
    ∃ shown, s.marks id = some shown ∧ state.Shows id shown

omit [DecidableEq Tid] in
lemma owned_init : Owned ({} : Module Tid) :=
  ⟨absurd rfl, nofun, fun _ => trivial, nofun, nofun, nofun⟩

omit [DecidableEq Tid] in
lemma Owned.loginOwned (h : Owned s) : LoginOwned s := by
  intro state id hl hin
  obtain ⟨shown, hm, hs⟩ := h.marked hl hin
  obtain ⟨now, hn, hp, hse⟩ := hs.now
  have hk := (h.sound hl).kept
  exact ⟨shown, now, hm, hn, hk.ids.inj hs.reader (hk.slots hn), hs.present, hs.serial, hp, hse⟩

/-! ### What changes -/

variable {pc : Pc} {state state' : SessionState} {c : Calling} {handle : Nat}
  {answer : Answer} {now : Int}
  {todo : List Section} {clear : Section} {r : AgentReply}

section
variable (h : Owned s)
include h

/-- a thread goes on; a login that it then has in flight is counted, and its token is shown -/
lemma Owned.goes (hf : pc.LoginFirst)
    (hl : ∀ {handle slot shown}, pc.login? = some (handle, slot, shown) →
      t ∈ s.guards ∧ ∀ {state}, s.lib = some state → state.Pending handle slot shown) :
        Owned (s.setThread t pc) := by
  refine ⟨h.alive, fun {t' login} ht' => ?_, fun t' => ?_, h.sound, fun {t' _ _ _} ht' =>
      ?_, h.marked⟩
  · by_cases htt : t' = t
    · subst htt
      rw [Module.setThread_self] at ht'
      exact (hl ht').1
    · rw [Module.setThread_of_ne _ htt] at ht'
      exact h.counted ht'
  · by_cases htt : t' = t
    · subst htt
      rw [Module.setThread_self]
      exact hf
    · rw [Module.setThread_of_ne _ htt]
      exact h.first t'
  · by_cases htt : t' = t
    · subst htt
      rw [Module.setThread_self] at ht'
      exact (hl ht').2
    · rw [Module.setThread_of_ne _ htt] at ht'
      exact h.pending ht'

lemma Owned.setThread (hl : pc.login? = none) (hf : pc.LoginFirst) : Owned (s.setThread t pc) := by
  refine h.goes hf fun hs => ?_
  rw [hl] at hs
  cases hs

lemma Owned.ret (answer : Answer) : Owned (s.ret t answer) :=
  let hi : Owned (s.setThread t .idle) := h.setThread rfl trivial
  { hi with }

omit [DecidableEq Tid] in
lemma Owned.moves (hl : s.lib = some state) (hs : state'.Sound)
    (hp : ∀ {t h slot shown}, (s.threads t).login? = some (h, slot, shown) →
      state.Pending h slot shown →
      state'.Pending h slot shown) (hm : ∀ {id}, state'.isLoggedIn id = true →
      state.isLoggedIn id = true ∧ ∀ {shown}, state.Shows id shown → state'.Shows id shown) :
    Owned (s.setState state') := by
  refine ⟨fun _ => rfl, h.counted, h.first, ?_, ?_, ?_⟩
  · rintro _ ⟨⟩
    exact hs
  · rintro t' _ _ _ ht' _ ⟨⟩
    exact hp ht' (h.pending ht' hl)
  · rintro _ id ⟨⟩ hin
    obtain ⟨hold, hsh⟩ := hm hin
    obtain ⟨shown, hma, hsho⟩ := h.marked hl hold
    exact ⟨shown, hma, hsh hsho⟩

omit [DecidableEq Tid] in
lemma Owned.quiet (hl : s.lib = some state) (hq : state.Quiet state') : Owned (s.setState state') :=
  h.moves hl (hq.sound (h.sound hl)) (fun _ => hq.pending) fun hin =>
    ⟨hq.logins hin, fun hs => hs.of_sameSlots hq.slots⟩

omit [DecidableEq Tid] in
lemma Owned.onState {change : SessionState → SessionState}
    (hq : ∀ state : SessionState, state.Quiet (change state)) : Owned (s.onState change) := by
  cases hl : s.lib with
  | none =>
    have heq : s.onState change = s := by
      cases s
      cases hl
      rfl
    rw [heq]
    exact h
  | some state =>
    have heq : s.onState change = s.setState (change state) := by
      simp [Module.onState, Module.setState, hl, map_some]
    rw [heq]
    exact h.quiet hl (hq state)

omit [DecidableEq Tid] in
lemma Owned.count (hl : s.lib.isSome = true) (t : Tid) : Owned { s with guards := t :: s.guards } :=
  ⟨fun _ => hl, fun ht => mem_cons_of_mem _ (h.counted ht), h.first, h.sound, h.pending, h.marked⟩

lemma Owned.guard (hli : s.lib.isSome = true)
    (hl : ∀ {handle slot shown}, (Pc.calling c).login? = some (handle, slot, shown) →
      ∀ {state}, s.lib = some state → state.Pending handle slot shown) : Owned (s.guard t c) :=
  (h.count hli t).goes trivial fun hs => ⟨mem_cons_self, hl hs⟩

omit [DecidableEq Tid] in
lemma Owned.unload (hg : s.guards = []) : Owned { s with lib := none } :=
  ⟨absurd hg, h.counted, h.first, nofun, nofun, nofun⟩

omit [DecidableEq Tid] in
lemma Owned.load (hl : s.lib = none) : Owned { s with lib := some {} } := by
  have hg : s.guards = [] := by
    by_contra hne
    have ha := h.alive hne
    rw [hl] at ha
    cases ha
  refine ⟨fun _ => rfl, h.counted, h.first, ?_, fun ht => ?_, ?_⟩
  · rintro _ ⟨⟩
    exact SessionState.sound_init
  · have hm := h.counted ht
    rw [hg] at hm
    cases hm
  · rintro _ id ⟨⟩ hin
    cases hin

/-! ### The sections -/

lemma Owned.finalize : Owned (s.finalize t) := by
  unfold Module.finalize
  split
  · next hg => exact (h.unload hg).ret _
  · exact h.setThread rfl trivial

lemma Owned.refresh (hl : s.lib.isSome = true) (q : SlotQuery) : Owned (s.refresh t q) :=
  let hs : Owned { s with snapshotsStarted := s.snapshotsStarted + 1 } :=
    { h with }
  hs.guard hl nofun

lemma Owned.beginQuery (hl : s.lib.isSome = true) (q : SlotQuery) : Owned (s.beginQuery t q) := by
  unfold Module.beginQuery
  split
  · split
    · exact h.ret _
    · exact h.refresh hl _
  · exact h.refresh hl _

lemma Owned.beginSessionInfo (hl : s.lib = some state) (handle : Nat)
    (now : Int) : Owned (s.beginSessionInfo t state handle now) := by
  unfold Module.beginSessionInfo
  split
  · exact h.ret _
  · split
    · split
      · exact (h.quiet hl ((SessionState.SmallStep.checked _ _).quiet)).guard rfl nofun
      · exact h.setThread rfl nofun
    · exact h.setThread rfl nofun

end

lemma login_of_check {c : BlockingCall} {calling : Calling} (hc : state.check c = .ok calling)
    {slot : Nat} {shown : Slot} (hl : (Pc.calling calling).login? = some (handle, slot, shown)) :
    ∃ userType session, c = .login handle userType ∧ state.session handle = some session ∧
      session.slot = slot ∧
      state.slotById slot = some shown ∧ shown.tokenPresent = true := by
  cases c with
  | login h userType =>
    obtain ⟨session, shown', hs, -, hsl, hp, rfl⟩ := SessionState.checkLogin_eq_ok hc
    cases hl
    exact ⟨userType, session, rfl, hs, rfl, hsl, hp⟩
  | sign | signFinal =>
    obtain ⟨session, -, -, -, rfl⟩ := SessionState.checkSign_eq_ok hc
    cases hl
  | decrypt | decryptFinal =>
    obtain ⟨session, -, -, -, rfl⟩ := SessionState.checkDecrypt_eq_ok hc
    cases hl
  | deriveKey h args =>
    obtain ⟨session, shown, job, -, -, -, -, -, -, rfl⟩ := SessionState.checkDerive_eq_ok hc
    cases hl

/-! ### The condition -/

def Module.slotOfSession (s : Module Tid) (h : Nat) : Option Slot :=
  s.lib.bind fun state => (state.session h).bind fun session => state.slotById session.slot

def Module.publishes (s : Module Tid) (t : Tid) : Option ObjectModel :=
  match s.threads t with
  | .closing (.publish ticket snapshot _ :: _) _ =>
    if ticket > s.snapshotPublished then some (.build snapshot) else none
  | _ => none

/-- a login is requested for a token that has a serial, and no model is published that takes the
token of a login in flight out of its slot -/
def Steady (s : Module Tid) : ModuleAction Tid → Prop
  | .call _ (.blocking (.login h _)) _ => ∀ slot ∈ s.slotOfSession h, slot.tokenSerial ≠ []
  | .proceed t _ => ∀ model ∈ s.publishes t, ∀ t' ∈ s.guards, ∀ login ∈ (s.threads t').login?,
      SessionState.showsToken model login.2.2 = true
  | _ => True

instance (s : Module Tid) : ∀ a, Decidable (Steady s a)
  | .call _ (.blocking (.login h _)) _ =>
    inferInstanceAs (Decidable (∀ slot ∈ s.slotOfSession h, slot.tokenSerial ≠ []))
  | .proceed t _ =>
    inferInstanceAs (Decidable (∀ model ∈ s.publishes t, ∀ t' ∈ s.guards,
      ∀ login ∈ (s.threads t').login?, SessionState.showsToken model login.2.2 = true))
  | .call _ .cInitialize _ | .call _ .cFinalize _ | .call _ (.query _) _
  | .call _ (.getSessionInfo _) _ | .call _ (.within _) _ | .call _ (.blocking (.sign ..)) _
  | .call _ (.blocking (.signFinal ..)) _ | .call _ (.blocking (.decrypt ..)) _
  | .call _ (.blocking (.decryptFinal ..)) _
  | .call _ (.blocking (.deriveKey ..)) _ | .reply _ _ | .giveUp _ => .isTrue trivial

/-! ### The sections after a call -/

omit [DecidableEq Tid] in
lemma Owned.publish (h : Owned s) {ticket : Nat} {snapshot : AgentSnapshot} (q : SlotQuery)
    (hs : ticket > s.snapshotPublished → ∀ {t h slot shown}, (s.threads t).login? =
      some (h, slot, shown) →
      SessionState.showsToken (.build snapshot) shown = true) :
        Owned (s.publish ticket snapshot q).1 := by
  unfold Module.publish
  split
  · exact h
  · next state hl =>
    split
    · next hti =>
      have hso := h.sound hl
      have hm : Owned (s.setState (state.setModel (.build snapshot))) :=
        h.moves hl (hso.setModel _) (fun ht hp => hp.setModel hso (hs hti ht)) fun hin =>
          ⟨(SessionState.isLoggedIn_setModel hin).1, fun hsh => hsh.survives hso hin⟩
      have hq := hm.quiet rfl (SessionState.query_small _ q).quiet
      exact { hq with }
    · exact h.quiet hl (SessionState.query_small state q).quiet

omit [DecidableEq Tid] in
/-- the session of the login is still one of its slot, and the slot still shows the token -/
lemma Owned.recordLogin (h : Owned s) {slot : Nat} {shown : Slot}
    (ht : (s.threads t).login? = some (handle, slot, shown)) (status : Status) (now : Int) :
    Owned (s.recordLogin handle status shown now) := by
  unfold Module.recordLogin
  split
  · exact h
  · next state hl =>
    split
    · exact h
    · split
      · exact h
      · next session hs =>
        have hp := h.pending ht hl
        obtain rfl := hp.session hs
        have ho := SessionState.setLoggedIn_loginsOnly state session.slot now
        refine ⟨fun _ => rfl, h.counted, h.first, ?_, ?_, ?_⟩
        · rintro _ ⟨⟩
          exact ho.sound (h.sound hl)
        · rintro t' _ _ _ ht' _ ⟨⟩
          exact ho.pending (h.pending ht' hl)
        · rintro _ id ⟨⟩ hin
          by_cases hid : id = session.slot
          · subst hid
            exact ⟨shown, Function.update_self .., hp.shows.of_sameSlots ho.sameSlots⟩
          · obtain ⟨earlier, hm, hsh⟩ :=
              h.marked hl ((SessionState.isLoggedIn_setLoggedIn hin).resolve_left hid)
            exact ⟨earlier, (Function.update_of_ne hid ..).trans hm, hsh.of_sameSlots ho.sameSlots⟩

omit [DecidableEq Tid] in
lemma Owned.recordActive (h : Owned s) (handle slot generation : Nat) (active : Option Bool) :
    Owned (s.recordActive handle slot generation active).1 := by
  have hq (state : SessionState) :
      state.Quiet (Module.endIfLapsed state slot generation active) := by
    unfold Module.endIfLapsed
    split
    · exact SessionState.endLogin_quiet state slot
    · exact .refl state
  unfold Module.recordActive
  split
  · exact h
  · next state hl => exact h.quiet hl (hq state)

lemma dropLogin_quiet (h : Nat) (state : SessionState) :
    state.Quiet (Module.dropLogin h state) := by
  unfold Module.dropLogin
  split
  · exact .refl state
  · exact SessionState.endLogin_quiet state _

omit [DecidableEq Tid] in
lemma Owned.keepKey (h : Owned s) (handle : Nat) (job : DeriveJob) (value : Bytes) :
    Owned (s.keepKey handle job value).1 := by
  unfold Module.keepKey
  split
  · exact h
  · next state hl =>
    split
    · exact h
    · split
      · exact h
      · split
        · exact h
        · exact h.quiet hl (SessionState.quiet_of_derived state _ _)

lemma Owned.uncount (h : Owned s) (ht : (s.threads t).login? = none) :
    Owned { s with guards := s.guards.erase t } := by
  refine ⟨fun hne => h.alive fun hn => ?_, fun {t' login} ht' => ?_, h.first, h.sound,
      h.pending, h.marked⟩
  · rw [hn] at hne
    exact hne rfl
  · have hne : t' ≠ t := by
      rintro rfl
      rw [ht] at ht'
      cases ht'
    exact (mem_erase_of_ne hne).mpr (h.counted ht')

lemma Owned.release (h : Owned s) (ht : (s.threads t).login? = none) (handle : Option Nat) :
    Owned (s.release t handle) := by
  refine (h.onState fun state => ?_).uncount ht
  cases handle with
  | none => exact .refl state
  | some handle => exact SessionState.updateSession_quiet state handle fun _ => rfl

lemma Owned.perform (h : Owned s) {todo : Section} {rest : List Section}
    (ht : s.threads t = .closing (todo :: rest) answer) (hs : Steady s (.proceed t now)) :
    Owned (s.perform t now todo).1 := by
  have hl : (s.threads t).login? = todo.login? := by
    rw [ht]
    rfl
  cases todo with
  | release handle => exact h.release hl handle
  | publish ticket snapshot q =>
    refine h.publish q fun hti {t' _ _ _} ht' => ?_
    refine hs (.build snapshot) ?_ t' (h.counted ht') _ ht'
    simp [Module.publishes, ht, if_pos hti, mem_def]
  | recordLogin handle status slot shown => exact h.recordLogin hl status now
  | recordActive handle slot generation active => exact h.recordActive handle slot generation active
  | clearSign handle | clearDecrypt handle =>
    exact h.onState fun state => SessionState.updateSession_quiet state handle fun _ => rfl
  | dropLogin handle => exact h.onState (dropLogin_quiet handle)
  | keepKey handle job value => exact h.keepKey handle job value

lemma login_of_closing (hn : ∀ x ∈ todo, x.login? = none) :
    (Pc.closing todo answer).login? = none ∧ (Pc.closing todo answer).LoginFirst := by
  refine ⟨?_, fun x hx => hn x (mem_of_mem_tail hx)⟩
  cases todo with
  | nil => rfl
  | cons x rest => exact hn x mem_cons_self

/-! ### What is left to do after an answer -/

/-- the login that is to be recorded after an answer is the one that was asked for -/
lemma login_of_conclude (hr : c.conclude r = some (todo, answer)) :
    (∀ login, (Pc.closing todo answer).login? = some login → (Pc.calling c).login? = some login) ∧
      (Pc.closing todo answer).LoginFirst := by
  have hle {x : Section} (hx : x ∈ todo) {login : Nat × Nat × Slot} (hl : x.login? = some login) :
      (Pc.calling c).login? = some login := by
    have ho := (concludes_conclude hr).closes.own x hx
    cases x with
    | recordLogin h status slot shown =>
      cases (ho : c = .login h slot shown)
      exact hl
    | _ => cases hl
  refine ⟨fun login hl => ?_, fun x hx => Option.eq_none_iff_forall_ne_some.mpr fun login hl => ?_⟩
  · cases todo with
    | nil => cases hl
    | cons x rest => exact hle mem_cons_self hl
  · -- only the end of a login records one, and it does so first
    have hc := hle (mem_of_mem_tail hx) hl
    cases c with
    | login h slot shown =>
      cases r with
      | status status =>
        cases hr
        rw [(mem_singleton.mp hx : x = _)] at hl
        cases hl
      | threw =>
        cases hr
        cases hx
      | _ => cases hr
    | _ => cases hc

/-! ### The steps -/

lemma Owned.start (h : Owned s) (hli : s.lib = some state) {c : BlockingCall}
    (hs : Steady s (.call t (.blocking c) now)) :
    Owned (s.start t state c.session (state.check c)) := by
  cases hc : state.check c with
  | error rv => exact h.ret _
  | ok calling =>
    have hq : state.Quiet (state.updateSession c.session fun session =>
      { session with rpcInFlight := true }) :=
      SessionState.updateSession_quiet _ _ fun _ => rfl
    refine (h.quiet hli hq).guard rfl fun {handle slot shown} hl => ?_
    rintro _ ⟨⟩
    obtain ⟨userType, session, rfl, hse, rfl, hsh, hp⟩ := login_of_check hc hl
    have hser : shown.tokenSerial ≠ [] := by
      refine hs shown ?_
      simp [Module.slotOfSession, hli, bind_some, hse, hsh, mem_def]
    have hso := h.sound hli
    refine hq.pending ⟨hso.below hse, fun hse' => ?_, hso.kept.slots hsh, hp, hser, shown,
      hsh, hp, rfl⟩
    rw [some.inj (hse'.symm.trans hse)]

lemma Owned.call (h : Owned s) {c : CCall} (hs : Steady s (.call t c now)) :
    Owned (s.call t now c) := by
  unfold Module.call
  split
  · next hl => exact (h.load hl).ret _
  · exact h.ret _
  · exact h.ret _
  · exact h.finalize
  · next hl => exact h.beginQuery (isSome_of_eq_some hl) _
  · next hl => exact h.beginSessionInfo hl _ _
  · next hl => exact (h.quiet hl ((SessionState.within_small _ _).quiet)).ret _
  · next hl => exact h.start hl hs

lemma Owned.reply (h : Owned s) (ht : s.threads t = .calling c)
    (hr : c.conclude r = some (todo, answer)) : Owned (s.setThread t (.closing todo answer)) := by
  obtain ⟨hl, hf⟩ := login_of_conclude hr
  refine h.goes hf fun hs => ?_
  have hs := hl _ hs
  rw [← ht] at hs
  exact ⟨h.counted hs, h.pending hs⟩

lemma Owned.proceed (h : Owned s) (hs : Steady s (.proceed t now)) :
    Owned (s.proceed t now (s.threads t)) := by
  cases ht : s.threads t with
  | idle | calling => exact h
  | draining => exact h.finalize
  | closing todo answer =>
    cases todo with
    | nil => exact h.ret answer
    | cons todo rest =>
      have hf := h.first t
      rw [ht] at hf
      obtain ⟨hl, hr⟩ := login_of_closing hf
      exact (h.perform ht hs).setThread hl hr

lemma Owned.step (h : Owned s) {a : ModuleAction Tid} (hs : Steady s a) : Owned (s.step a) := by
  cases a with
  | call t c now =>
    simp only [Module.step]
    split
    · exact h.call hs
    · exact h
  | reply t r =>
    simp only [Module.step]
    split
    · next c ht =>
      cases hr : c.conclude r with
      | none => exact h
      | some closing => exact h.reply ht hr
    · exact h
  | proceed t now => exact h.proceed hs
  | giveUp t =>
    simp only [Module.step]
    split
    · exact h.ret _
    · exact h

/-- Whatever the threads call, however their sections follow each other and whatever the agent
answers: a slot that is marked as logged in shows the token, with its serial, for which the login
was requested, if no login is requested for a token without a serial and no token is taken out of
its slot while a login for it is in flight. -/
theorem login_belongs_to_token (actions : List (ModuleAction Tid))
    (h : Along Module.step Steady {} actions) : LoginOwned (run Module.step {} actions) := by
  have ho : Owned (run Module.step {} actions) :=
    run_invariant_along (fun _ _ hst hs => hs.step hst) owned_init h
  exact ho.loginOwned

end Process

/-! ## Runs -/

def oneCard (serial : Bytes) : AgentSnapshot :=
  ⟨[{ readerPath := [114], hasCard := true, tokenSerial := serial
      certs := [{ signingCapable := true, canSign := true, keyType := .rsa, keyBits := 2048 }] }]⟩

attribute [local instance] Runs.neZero_two

/-- a thread opens a session on the card and asks for a login; before the user has entered the PIN,
another thread lists the slots, and finds the card in `next` -/
def loginAround (next : AgentSnapshot) : List (ModuleAction (Fin 2)) :=
  [.call 0 .cInitialize 0,
   .call 0 (.query (.openSession 0 kSerialSession)) 0, .reply 0 (.snapshot (oneCard [49])),
   .proceed 0 0, .proceed 0 0, .proceed 0 0,
   .call 0 (.blocking (.login 1 .user)) 0,
   .call 1 (.query .getSlotList) 0, .reply 1 (.snapshot next), .proceed 1 0, .proceed 1 0,
   .reply 0 (.status .ok), .proceed 0 0]

/-- the same card -/
theorem login_belongs_to_token_same : (run Module.step {} (loginAround (oneCard [49]))).lib.any
    (·.isLoggedIn 0) = true ∧
      LoginOwned (run Module.step {} (loginAround (oneCard [49]))) :=
  ⟨by decide +kernel, login_belongs_to_token _ (by decide +kernel)⟩

/-- Another card: the slot is marked as logged in although no login has been made for the card that
it shows. -/
theorem login_marks_next_token :
    ¬ LoginOwned (run Module.step {} (loginAround (oneCard [50]))) := by
  intro h
  have hs := h.tokenSerial_eq 0 (by decide +kernel)
  revert hs
  decide +kernel

end LibreAgent.Pkcs11Agent
