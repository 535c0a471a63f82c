import LibreAgent.Pkcs11Agent.LapsedLease

/-!
# The cursor of an operation

A session has a cursor for signing and one for decrypting.  A call takes the cursor with it and
clears it when its answer ends the operation.

* `CursorStep` : a cursor is cleared only by the call that has taken it, whose answer then ends the
  operation; bytes that are accepted are appended, and a final call asks with all of them;
* `cursor_owned` : both hold if no `C_SignUpdate` comes while a signature is in flight on its
  session (`UpdatesApart`).

`C_DecryptUpdate` looks whether a call is in flight, `C_SignUpdate` does not: its bytes go with the
cursor that the signature clears (`signUpdate_lost`).
-/

set_option linter.unusedSectionVars false

namespace LibreAgent.Pkcs11Agent

open Runs SessionState AList Pkcs11Agent.Module Option List Function Traced

/-! ## The two kinds -/

inductive OpKind where
  | sign
  | decrypt
  deriving DecidableEq

namespace OpKind

def Cursor : OpKind → Type
  | sign => SignCursor
  | decrypt => DecryptCursor

def none : (k : OpKind) → k.Cursor
  | sign => ({} : SignCursor)
  | decrypt => ({} : DecryptCursor)

def active : (k : OpKind) → k.Cursor → Bool
  | sign, cursor => SignCursor.active cursor
  | decrypt, cursor => DecryptCursor.active cursor

def gathered : (k : OpKind) → k.Cursor → Bytes
  | sign, cursor => SignCursor.accumulated cursor
  | decrypt, cursor => DecryptCursor.accumulated cursor

def gather : (k : OpKind) → k.Cursor → Bytes → k.Cursor
  | sign, (cursor : SignCursor), part => { cursor with accumulated := cursor.accumulated ++ part }
  | decrypt, (cursor : DecryptCursor), part =>
    { cursor with accumulated := cursor.accumulated ++ part }

def clear : OpKind → Nat → Section
  | sign, h => .clearSign h
  | decrypt, h => .clearDecrypt h

def init (state : SessionState) (session : Session) : (k : OpKind) → CkMechanism → UInt64 →
    Except CkRv k.Cursor
  | sign, mechanism, key => state.signInit session mechanism key
  | decrypt, mechanism, key => state.decryptInit session mechanism key

def update : OpKind → Nat → Bytes → LocalCall
  | sign, h, part => .signUpdate h part
  | decrypt, h, part => .decryptUpdate h part

def final : OpKind → Nat → Option Nat → BlockingCall
  | sign, h, buffer => .signFinal h buffer
  | decrypt, h, buffer => .decryptFinal h buffer

variable (k : OpKind) (cursor : k.Cursor) (part : Bytes)

lemma gathered_none : k.gathered k.none = [] := by
  cases k <;> rfl

lemma gathered_gather : k.gathered (k.gather cursor part) = k.gathered cursor ++ part := by
  cases k <;> rfl

lemma active_gather : k.active (k.gather cursor part) = k.active cursor := by
  cases k <;> rfl

lemma isClear_clear (h : Nat) : (k.clear h).isClear = true := by
  cases k <;> rfl

end OpKind

def Session.cursor (session : Session) : (k : OpKind) → k.Cursor
  | .sign => session.sign
  | .decrypt => session.decrypt

def Session.setCursor (session : Session) : (k : OpKind) → k.Cursor → Session
  | .sign, cursor => { session with sign := cursor }
  | .decrypt, cursor => { session with decrypt := cursor }

def Calling.job : (k : OpKind) → Calling → Option (Nat × k.Cursor × Bytes)
  | .sign, .sign h job => some (h, job.cursor, job.data)
  | .decrypt, .decrypt h job => some (h, job.cursor, job.ciphertext)
  | _, _ => none

namespace Session

variable {session : Session} {k k' : OpKind} {cursor : k.Cursor}

lemma cursor_setCursor_self (session : Session) (k : OpKind) (cursor : k.Cursor) :
    (session.setCursor k cursor).cursor k = cursor := by
  cases k <;> rfl

lemma cursor_setCursor_of_ne (session : Session) (hne : k' ≠ k) (cursor : k.Cursor) :
    (session.setCursor k cursor).cursor k' = session.cursor k' := by
  cases k with
  | sign | decrypt =>
    cases k' with
    | sign | decrypt => first | rfl | exact absurd rfl hne

lemma rpcInFlight_setCursor (session : Session) (k : OpKind) (cursor : k.Cursor) :
    (session.setCursor k cursor).rpcInFlight = session.rpcInFlight := by
  cases k <;> rfl

lemma cursor_mark (session : Session) (k : OpKind) (b : Bool) :
    { session with rpcInFlight := b }.cursor k = session.cursor k := by
  cases k <;> rfl

end Session

variable {c : Calling} {data : Bytes} {mechanism : CkMechanism} {key : UInt64}

variable {k : OpKind}

lemma Calling.session?_of_job {h : Nat} {cursor : k.Cursor}
    (hj : c.job k = some (h, cursor, data)) : c.session? = some h := by
  cases k with
  | sign | decrypt =>
    cases c with
    | sign | decrypt =>
      first
      | cases hj
        rfl
      | cases hj
    | snapshot | login | loginActive | derive => cases hj

lemma SessionState.Asks.cursor {made : SessionState} (ha : made.Asks c) {h : Nat}
    {cursor : k.Cursor} (hj : c.job k = some (h, cursor, data)) :
    ∃ session, made.session h = some session ∧ session.cursor k = cursor ∧
      k.active cursor = true := by
  cases k with
  | sign =>
    cases c with
    | sign h' job =>
      cases hj
      obtain ⟨session, ho, -, hc, hac⟩ := ha
      exact ⟨session, ho, hc, hac⟩
    | snapshot | login | loginActive | decrypt | derive => cases hj
  | decrypt =>
    cases c with
    | decrypt h' job =>
      cases hj
      obtain ⟨session, ho, -, hc, hac⟩ := ha
      exact ⟨session, ho, hc, hac⟩
    | snapshot | login | loginActive | sign | derive => cases hj

/-- a cursor is cleared by a call of its kind, with an answer that ends the operation -/
lemma Section.Of.job {h : Nat} {answer : Answer} (hof : (k.clear h).Of c answer) :
    answer.ends = true ∧ ∃ cursor data, c.job k = some (h, cursor, data) := by
  cases k with
  | sign | decrypt =>
    obtain ⟨⟨job, rfl⟩, he⟩ := hof
    exact ⟨he, _, _, rfl⟩

lemma init_eq_ok {state : SessionState} {session : Session} {cursor : k.Cursor}
    (hc : k.init state session mechanism key = .ok cursor) :
    k.active (session.cursor k) = false ∧ k.gathered cursor = [] := by
  cases k with
  | sign | decrypt =>
    simp only [OpKind.init, signInit, decryptInit] at hc
    obtain ⟨hi, hc⟩ := of_refusal hc
    refine ⟨Bool.eq_false_iff.mpr hi, ?_⟩
    split at hc
    · cases hc
    · obtain ⟨-, hc⟩ := of_refusal hc
      split at hc
      · cases hc
      · iterate 3 obtain ⟨-, hc⟩ := of_refusal hc
        cases hc
        rfl

/-! ## What a step does to a session -/

section
variable {Tid : Type*} [DecidableEq Tid]

/-- what a step makes of the cursor of one kind -/
inductive Fares (s : Module Tid) (a : ModuleAction Tid) (t : Tid) (h : Nat) (session : Session)
    (k : OpKind) : k.Cursor → Prop
  | stays : Fares s a t h session k (session.cursor k)
  | clears {now : Int} {rest : List Section} {answer : Answer} (ha : a = .proceed t now)
      (hpc : s.threads t = .closing (k.clear h :: rest) answer) : Fares s a t h session k k.none
  | inits {cursor : k.Cursor} (hinactive : k.active (session.cursor k) = false)
      (hempty : k.gathered cursor = []) : Fares s a t h session k cursor
  | updates {part : Bytes} {now : Int} (ha : a = .call t (.within (k.update h part)) now)
      (hactive : k.active (session.cursor k) = true)
        (hfree : k = .decrypt → session.rpcInFlight = false) :
      Fares s a t h session k (k.gather (session.cursor k) part)

inductive Touches (s : Module Tid) (a : ModuleAction Tid) (t : Tid) (h : Nat) (session : Session) :
    Session → Prop
  | same : Touches s a t h session session
  | marks : Touches s a t h session { session with rpcInFlight := true }
  | releases {now : Int} {rest : List Section} {answer : Answer} (ha : a = .proceed t now)
      (hpc : s.threads t = .closing (.release (some h) :: rest) answer) :
      Touches s a t h session { session with rpcInFlight := false }
  | sets (k : OpKind) {cursor : k.Cursor} (hfares : Fares s a t h session k cursor) :
      Touches s a t h session (session.setCursor k cursor)

lemma Touches.fares {s : Module Tid} {a : ModuleAction Tid} {t : Tid} {h : Nat}
    {session session' : Session} (ht : Touches s a t h session session') (k : OpKind) :
    Fares s a t h session k (session'.cursor k) := by
  cases ht with
  | same => exact .stays
  | marks | releases =>
    rw [Session.cursor_mark]
    exact .stays
  | sets k' hf =>
    by_cases hk : k = k'
    · subst hk
      rw [Session.cursor_setCursor_self]
      exact hf
    · rw [Session.cursor_setCursor_of_ne _ hk]
      exact .stays

def ModuleAction.Closes (a : ModuleAction Tid) (h : Nat) (session : Session) : Prop :=
  (∃ t now, a = .call t (.within (.closeSession h)) now) ∨
    ∃ t now, a = .call t (.within (.closeAllSessions session.slot)) now

inductive Changed (s : Module Tid) (a : ModuleAction Tid) (t : Tid) (next h : Nat) :
    Option Session → Option Session → Prop
  | touched {session session' : Session} (htouches : Touches s a t h session session') :
      Changed s a t next h (some session) (some session')
  | closed {session : Session} (hcloses : a.Closes h session) :
      Changed s a t next h (some session) none
  | opened {slot : Nat} {flags : UInt64} (hnew : next ≤ h) :
      Changed s a t next h none (some { slot, flags })
  | absent : Changed s a t next h none none

section Sessions
variable {s : Module Tid} {a : ModuleAction Tid} {t : Tid} {next h : Nat}
  {state state' : SessionState}

lemma changed_of_eq (heq : state'.session h = state.session h) :
    Changed s a t next h (state.session h) (state'.session h) := by
  rw [heq]
  cases state.session h with
  | none => exact .absent
  | some session => exact .touched .same

lemma changed_of_sessions (heq : state'.sessions = state.sessions) :
    Changed s a t next h (state.session h) (state'.session h) := by
  refine changed_of_eq ?_
  unfold session
  rw [heq]

variable {handle : Nat} {now : Int}

lemma changed_setSession {session session' : Session} (ho : state.session handle = some session)
    (ht : Touches s a t handle session session') :
    Changed s a t next h (state.session h) ((state.setSession handle session').session h) := by
  by_cases hh : h = handle
  · rw [hh, ho]
    have hs : (state.setSession handle session').session handle = some session' := lookup_insert _
    rw [hs]
    exact .touched ht
  · exact changed_of_eq (lookup_insert_ne hh)

lemma changed_updateSession {change : Session → Session}
    (ht : ∀ session, Touches s a t handle session (change session)) :
    Changed s a t next h (state.session h) ((state.updateSession handle change).session h) := by
  unfold updateSession
  cases ho : state.session handle with
  | none => exact changed_of_eq rfl
  | some session => exact changed_setSession ho (ht session)

lemma changed_changeSession {α : Type} {check : Session → Except CkRv α}
    {change : α → Session → Session}
    (ht : ∀ session value, check session = .ok value →
      Touches s a t handle session (change value session)) :
    Changed s a t next h (state.session h)
      ((state.changeSession handle check change).1.session h) := by
  unfold changeSession
  cases ho : state.session handle with
  | none => exact changed_of_eq rfl
  | some session =>
    simp only
    cases hc : check session with
    | error rv => exact changed_of_eq rfl
    | ok value => exact changed_setSession ho (ht session value hc)

lemma session_closeSession (state : SessionState) (handle h : Nat) :
    (state.closeSession handle).session h = if h = handle then none else state.session h := by
  have he {erased : SessionState} (hs : erased.sessions = state.sessions.erase handle) :
      erased.session h = if h = handle then none else state.session h := by
    unfold session
    rw [hs]
    split
    · next hh => rw [hh, lookup_erase]
    · next hh => exact lookup_erase_ne hh
  unfold closeSession
  cases ho : state.session handle with
  | none =>
    show state.session h = _
    split
    · next hh => rw [hh, ho]
    · rfl
  | some session =>
    simp only
    split
    · exact he rfl
    · exact he (endLogin_loginsOnly _ _).sessions

lemma changed_closeSession (ha : a = .call t (.within (.closeSession handle)) now) :
    Changed s a t next h (state.session h) ((state.closeSession handle).session h) := by
  rw [session_closeSession]
  split
  · next hh =>
    cases state.session h with
    | none => exact .absent
    | some session => exact .closed (.inl ⟨t, now, hh ▸ ha⟩)
  · exact changed_of_eq rfl

lemma changed_closeAllSessions {slot : Nat}
    (ha : a = .call t (.within (.closeAllSessions slot)) now) :
    Changed s a t next h (state.session h) ((state.closeAllSessions slot).session h) := by
  have hm (session : Session) : (state.closeAllSessions slot).session h = some session ↔
      state.session h = some session ∧ session.slot ≠ slot := by
    have hs := (state.endLogin_loginsOnly slot).session_eq h
    rw [← hs]
    exact (mem_lookup_eraseIf (m := (state.endLogin slot).sessions)).trans
      (and_congr_right fun _ => decide_eq_false_iff_not)
  cases ho : state.session h with
  | none =>
    cases ho' : (state.closeAllSessions slot).session h with
    | none => exact .absent
    | some session' => exact absurd (ho.symm.trans ((hm session').mp ho').1) (by simp)
  | some session =>
    by_cases hsl : session.slot = slot
    · cases ho' : (state.closeAllSessions slot).session h with
      | none => exact .closed (.inr ⟨t, now, hsl ▸ ha⟩)
      | some session' =>
        obtain ⟨ho'', hsl'⟩ := (hm session').mp ho'
        rw [ho] at ho''
        cases ho''
        exact absurd hsl hsl'
    · rw [(hm session).mpr ⟨ho, hsl⟩]
      exact .touched .same

lemma changed_within {c : LocalCall} (ha : a = .call t (.within c) now) :
    Changed s a t next h (state.session h) ((state.within c).1.session h) := by
  cases c with
  | closeSession handle =>
    simp only [within]
    split
    · exact changed_of_eq rfl
    · exact changed_closeSession ha
  | closeAllSessions slot => exact changed_closeAllSessions ha
  | logout handle =>
    simp only [within]
    split
    · exact changed_of_eq rfl
    · exact changed_of_sessions (state.endLogin_loginsOnly _).sessions
  | destroyObject handle object =>
    simp only [within, destroyObject]
    split
    · exact changed_of_eq rfl
    · split <;> split <;> exact changed_of_eq rfl
  | signInit handle mechanism key =>
    refine changed_changeSession fun session cursor hc => ?_
    obtain ⟨hi, he⟩ := init_eq_ok (k := .sign) hc
    exact .sets .sign (.inits hi he)
  | decryptInit handle mechanism key =>
    refine changed_changeSession fun session cursor hc => ?_
    obtain ⟨hi, he⟩ := init_eq_ok (k := .decrypt) hc
    exact .sets .decrypt (.inits hi he)
  | signUpdate handle part =>
    refine changed_changeSession fun session cursor hc => ?_
    obtain ⟨hac, hc⟩ := of_refusal hc
    cases hc
    exact .sets .sign (.updates ha (not_not.mp hac) (by simp))
  | decryptUpdate handle part =>
    refine changed_changeSession fun session cursor hc => ?_
    obtain ⟨hac, hc⟩ := of_refusal hc
    obtain ⟨hf, hc⟩ := of_refusal hc
    cases hc
    exact .sets .decrypt (.updates ha (not_not.mp hac) fun _ => Bool.eq_false_iff.mpr hf)

lemma changed_query (hs : state.Sound) (q : SlotQuery) :
    Changed s a t state.nextSession h (state.session h) ((state.query q).1.session h) := by
  cases q with
  | getSlotList | getSlotInfo | getMechanismList => exact changed_of_eq rfl
  | getTokenInfo | getMechanismInfo =>
    simp only [query]
    split <;> exact changed_of_eq rfl
  | openSession slot flags =>
    simp only [query]
    split
    · exact changed_of_eq rfl
    · split
      · exact changed_of_eq rfl
      · by_cases hh : h = state.nextSession
        · have hne : (state.openSession slot flags).1.session h = some { slot, flags } := by
            rw [hh]
            exact lookup_insert _
          have hn : state.session h = none := by
            cases ho : state.session h with
            | none => rfl
            | some session => exact absurd (hs.below ho) (hh ▸ Nat.lt_irrefl _)
          rw [hne, hn]
          exact .opened (Nat.le_of_eq hh.symm)
        · exact changed_of_eq (lookup_insert_ne hh)

lemma changed_apply (hs : state.Sound) {x : Section} {rest : List Section} {answer : Answer}
    (ha : a = .proceed t now) (hpc : s.threads t = .closing (x :: rest) answer) (published : Nat) :
    Changed s a t state.nextSession h (state.session h)
      ((x.apply published now state).session h) := by
  cases x with
  | release handle =>
    cases handle with
    | none => exact changed_of_eq rfl
    | some handle => exact changed_updateSession fun session => .releases ha hpc
  | publish ticket snapshot q =>
    simp only [Section.apply]
    split
    · have ho := setModel_loginsOnly state (.build snapshot)
      have hq := changed_query (s := s) (a := a) (t := t) (h := h) (hs.setModel (.build snapshot)) q
      rw [ho.nextSession, ho.session_eq] at hq
      exact hq
    · exact changed_query hs q
  | recordLogin handle status slot shown =>
    simp only [Section.apply]
    split
    · exact changed_of_eq rfl
    · split
      · exact changed_of_eq rfl
      · exact changed_of_sessions (state.setLoggedIn_loginsOnly _ now).sessions
  | recordActive handle slot generation active =>
    simp only [Section.apply, endIfLapsed]
    split
    · exact changed_of_sessions (state.endLogin_loginsOnly _).sessions
    · exact changed_of_eq rfl
  | clearSign handle => exact changed_updateSession fun session => .sets .sign (.clears ha hpc)
  | clearDecrypt handle =>
    exact changed_updateSession fun session => .sets .decrypt (.clears ha hpc)
  | dropLogin handle =>
    simp only [Section.apply, dropLogin]
    split
    · exact changed_of_eq rfl
    · exact changed_of_sessions (state.endLogin_loginsOnly _).sessions
  | keepKey handle job value =>
    simp only [Section.apply]
    split
    · exact changed_of_eq rfl
    · split
      · exact changed_of_eq rfl
      · split <;> exact changed_of_eq rfl

lemma Module.Move.changed {lib : Option SessionState} {guards : List Tid} {pc : Pc}
    (hm : s.Move t a lib guards pc)
    (hs : state.Sound) (hst : s.lib = some state) (hst' : lib = some state') (h : Nat) :
    Changed s a t state.nextSession h (state.session h) (state'.session h) := by
  have hsa (hl : s.lib = some state') : Changed s a t state.nextSession h (state.session h)
    (state'.session h) := by
    rw [hst] at hl
    cases hl
    exact changed_of_eq rfl
  cases hm with
  | returns | drains | looks | answered => exact hsa hst'
  | loads _ hn =>
    rw [hst] at hn
    cases hn
  | unloads => cases hst'
  | within ha _ hl =>
    rw [hst] at hl
    cases hl
    cases hst'
    exact changed_within ha
  | refreshes _ _ hl => exact hsa (hl.trans hst')
  | inquires _ _ hl handle slot now =>
    rw [hst] at hl
    cases hl
    cases hst'
    refine changed_of_sessions ?_
    unfold markLoginChecked
    split <;> rfl
  | asks _ _ hl =>
    rw [hst] at hl
    cases hl
    cases hst'
    exact changed_updateSession fun session => .marks
  | performs ha hpc =>
    rw [hst] at hst'
    cases hst'
    exact changed_apply hs ha hpc _

end Sessions

/-! ## The laws -/

variable {w : Traced Tid} {a : ModuleAction Tid} {t : Tid}

def Pc.holds : Pc → Bool
  | .calling _ => true
  | .closing (x :: _) _ => x.isClear
  | _ => false

def Section.answers : Section → Bool
  | .publish _ _ _ | .recordActive _ _ _ _ | .keepKey _ _ _ => true
  | _ => false

structure CursorLaws (w : Traced Tid) : Prop where
  /-- while a call is in flight, its session has the cursor that the call has taken -/
  held : ∀ {t c made k h cursor data state session}, (w.process.threads t).holds = true →
    w.asked t = some (c, made) →
    c.job k = some (h, cursor, data) → w.process.lib = some state → state.session h = some session →
    session.cursor k = cursor
  /-- without an operation, nothing is gathered -/
  idle : ∀ {state h session} {k : OpKind}, w.process.lib = some state →
    state.session h = some session →
    k.active (session.cursor k) = false → k.gathered (session.cursor k) = []

lemma CursorLaws.gathered_eq (h : CursorLaws w) (t : Tid) (k : OpKind) (handle : Nat)
    (hh : (w.process.threads t).holds = true)
    (hj : ((w.asked t).bind fun call => (call.1.job k).map (·.1)) = some handle)
    (ho : (w.process.lib.bind (·.session handle)).isSome = true) :
    ((w.asked t).bind fun call => (call.1.job k).map fun job => k.gathered job.2.1) =
      (w.process.lib.bind (·.session handle)).map fun session => k.gathered (session.cursor k) := by
  obtain ⟨session, ho⟩ := isSome_iff_exists.mp ho
  obtain ⟨state, hs, ho⟩ := bind_eq_some_iff.mp ho
  obtain ⟨⟨c, made⟩, ha, hj⟩ := bind_eq_some_iff.mp hj
  obtain ⟨⟨handle', cursor, data⟩, ht, hha⟩ := map_eq_some_iff.mp hj
  obtain rfl : handle' = handle := hha
  rw [ha, hs, bind_some, bind_some, ht, ho, map_some, map_some, h.held hh ha ht hs ho]

/-- what takes the bytes of a session away: the end of the operation, of the session or of the
library -/
inductive Discards (w : Traced Tid) (k : OpKind) (h : Nat) (a : ModuleAction Tid) : Prop
  | ends {t : Tid} {now : Int} {rest : List Section} {answer : Answer} (ha : a = .proceed t now)
      (hpc : w.process.threads t = .closing (k.clear h :: rest) answer) : Discards w k h a
  | closes {session : Session} (hcloses : a.Closes h session) : Discards w k h a
  | finalizes (hlib : (w.step a).process.lib = none) : Discards w k h a

structure CursorStep (w : Traced Tid) (a : ModuleAction Tid) : Prop where
  /-- a call clears the cursor that it was made with, and reports the end of the operation -/
  ends : ∀ {t now h rest answer} {k : OpKind}, a = .proceed t now →
    w.process.threads t = .closing (k.clear h :: rest) answer →
    answer.ends = true ∧ (∀ x ∈ rest, x.answers = false) ∧
      ∃ c made cursor data, w.asked t = some (c, made) ∧ c.job k = some (h, cursor, data) ∧
        (made.session h).map (·.cursor k) = some cursor ∧
        ∀ {state session}, w.process.lib = some state → state.session h = some session →
          session.cursor k = cursor
  /-- bytes that are accepted are appended -/
  accepts : ∀ {t now h part state answer} {k : OpKind}, a = .call t (.within (k.update h part))
    now → w.process.threads t = .idle →
    w.process.lib = some state → (w.step a).process.returned t = some answer → answer.rv = .ok →
    ∃ session, state.session h = some session ∧ (w.step a).process.lib =
      some (state.setSession h (session.setCursor k (k.gather (session.cursor k) part)))
  /-- a final call asks with all that is gathered -/
  requests : ∀ {t now h buffer state session c} {k : OpKind}, a =
    .call t (.blocking (k.final h buffer)) now →
    w.process.threads t = .idle → w.process.lib = some state → state.session h = some session →
    (w.step a).process.threads t = .calling c →
      c.job k = some (h, session.cursor k, k.gathered (session.cursor k))
  /-- the bytes stay in the cursor otherwise -/
  keeps : ∀ {h state session} {k : OpKind}, w.process.lib = some state →
    state.session h = some session → ¬ Discards w k h a →
    ∃ state' session', (w.step a).process.lib = some state' ∧ state'.session h = some session' ∧
      k.gathered (session.cursor k) <+: k.gathered (session'.cursor k)

/-- no `C_SignUpdate` comes while a signature is in flight on its session -/
def UpdatesApart (w : Traced Tid) : ModuleAction Tid → Prop
  | .call _ (.within (.signUpdate h _)) _ =>
    ∀ t ∈ w.process.guards, ∀ call ∈ w.asked t, (call.1.job .sign).map (·.1) ≠ some h
  | _ => True

instance (w : Traced Tid) : ∀ a, Decidable (UpdatesApart w a)
  | .call _ (.within (.signUpdate h _)) _ =>
    inferInstanceAs (Decidable (∀ t ∈ w.process.guards, ∀ call ∈ w.asked t,
      (call.1.job .sign).map (·.1) ≠ some h))
  | .call _ (.within (.closeSession _)) _ | .call _ (.within (.closeAllSessions _)) _
  | .call _ (.within (.logout _)) _ | .call _ (.within (.destroyObject _ _)) _
  | .call _ (.within (.signInit _ _ _)) _ | .call _ (.within (.decryptInit _ _ _)) _
  | .call _ (.within (.decryptUpdate _ _)) _ | .call _ .cInitialize _ | .call _ .cFinalize _
  | .call _ (.query _) _ | .call _ (.getSessionInfo _) _ | .call _ (.blocking _) _ | .reply _ _
  | .proceed _ _ | .giveUp _ => .isTrue trivial

/-! ## The invariant -/

structure InOrder (w : Traced Tid) : Prop where
  /-- one call at a time on a session, which is marked -/
  unique : ∀ {t t' c c' made made' h}, t ∈ w.process.guards → t' ∈ w.process.guards →
    w.asked t = some (c, made) →
    w.asked t' = some (c', made') → c.session? = some h → c'.session? = some h → t = t'
  marked : ∀ {t c made h state session}, t ∈ w.process.guards → w.asked t = some (c, made) →
    c.session? = some h →
    w.process.lib = some state → state.session h = some session → session.rpcInFlight = true
  laws : CursorLaws w

lemma inOrder_start : InOrder ({} : Traced Tid) :=
  ⟨fun ht => absurd ht not_mem_nil, fun ht => absurd ht not_mem_nil, nofun, nofun⟩

variable {c : Calling} {made : SessionState} {rest : List Section} {answer : Answer}
  {session' : Session}
  {handle : Nat} {now : Int} {buffer : Option Nat}

lemma Tracks.mem_of_holds (h : Tracks w) (hh : (w.process.threads t).holds = true)
    (ha : w.asked t = some (c, made)) : t ∈ w.process.guards := by
  cases hpc : w.process.threads t with
  | idle | draining =>
    rw [hpc] at hh
    cases hh
  | calling c' =>
    have hp := h.placed t
    rw [hpc] at hp
    exact hp.1
  | closing todo answer =>
    rw [hpc] at hh
    cases todo with
    | nil => cases hh
    | cons x rest =>
      refine (h.call hpc ha).2.resolve_left fun hpu => ?_
      cases x with
      | publish => cases hh
      | _ => cases hpu

/-- a thread that holds a cursor after a step, and was counted before, has held it -/
lemma Tracks.held_before (h : Tracks w) (ht : t ∈ w.process.guards)
    (hask : w.asked t = some (c, made)) (hh : ((w.process.step a).threads t).holds = true) :
    (w.process.threads t).holds = true ∧
      ∀ {now x rest answer}, a = .proceed t now →
        w.process.threads t ≠ .closing (x :: rest) answer := by
  have hp := h.placed t
  have hn : w.process.threads t ≠ .idle := fun hi => by
    rw [hi] at hp
    exact hp ht
  have hr {x : Section} {rest : List Section} {answer answer' : Answer}
      (hpc : w.process.threads t = .closing (x :: rest) answer) :
        (Pc.closing rest answer').holds = false := by
    cases rest with
    | nil => rfl
    | cons y rest => exact (h.closes hpc hask).cleared y mem_cons_self
  have hpr {now x rest answer} (ha : a = .proceed t now) :
    w.process.threads t ≠ .closing (x :: rest) answer := by
    intro hpc
    subst ha
    have hth : (w.process.step (.proceed t now)).threads t =
      .closing rest ((w.process.perform t now x).2.getD answer) := by
      show (w.process.proceed t now (w.process.threads t)).threads t = _
      rw [hpc]
      exact setThread_self _ t _
    rw [hth, hr hpc] at hh
    cases hh
  refine ⟨?_, hpr⟩
  rcases w.process.step_cases a with hv | ⟨t', hm⟩
  · rwa [hv] at hh
  · by_cases htt : t = t'
    · subst htt
      have hmo := hm.move
      generalize (w.process.step a).guards = guards at hmo
      generalize (w.process.step a).lib = lib at hmo
      generalize (w.process.step a).threads t = pc at hmo hh
      cases hmo with
      | returns | loads | unloads | drains => cases hh
      | within _ hi | looks _ hi | refreshes _ hi | inquires _ hi | asks _ hi => exact absurd hi hn
      | answered hpc => rw [hpc]; rfl
      | performs ha hpc => exact absurd hpc (hpr ha)
    · rwa [hm.others t htt] at hh

lemma Tracks.changed (ht : Tracks w) {state state' : SessionState} (hs : w.process.lib = some state)
    (hs' : (w.step a).process.lib = some state') (h : Nat) :
    ∃ t, Changed w.process a t state.nextSession h (state.session h) (state'.session h) := by
  rcases w.process.step_cases a with hv | ⟨t, hm⟩
  · have hp : (w.step a).process = w.process := hv
    rw [hp, hs] at hs'
    cases hs'
    exact ⟨a.thread, changed_of_eq rfl⟩
  · exact ⟨t, hm.move.changed (ht.sound hs) hs hs' h⟩

lemma Tracks.owner (ht : Tracks w) {x : Section} {h : Nat}
    (hpc : w.process.threads t = .closing (x :: rest) answer)
    (hx : x = .release (some h) ∨ ∃ k : OpKind, x = k.clear h) :
    t ∈ w.process.guards ∧ ∃ c made, w.asked t = some (c, made) ∧ c.session? = some h := by
  cases ha : w.asked t with
  | none =>
    obtain ⟨handle, slot, rfl⟩ := ht.no_call hpc ha
    rcases hx with hx | ⟨k, hx⟩
    · cases hx
    · cases k with
      | sign | decrypt => cases hx
  | some call =>
    obtain ⟨c, made⟩ := call
    obtain ⟨hof, hc⟩ := ht.call hpc ha
    rcases hx with rfl | ⟨k, rfl⟩
    · exact ⟨hc.resolve_left Bool.false_ne_true, c, made, rfl, hof.symm⟩
    · obtain ⟨-, cursor, data, hj⟩ := hof.job
      refine ⟨hc.resolve_left ?_, c, made, rfl, Calling.session?_of_job hj⟩
      cases k <;> exact Bool.false_ne_true

variable {state : SessionState} {session : Session}

lemma marked_of_asks {h : Nat} (ho : state.session h = some session)
    (ho' : (state.updateSession h fun session => { session with rpcInFlight := true }).session h =
      some session') :
    session' = { session with rpcInFlight := true } := by
  have hs : (state.setSession h { session with rpcInFlight := true }).session h =
      some { session with rpcInFlight := true } := lookup_insert _
  simp only [updateSession, ho] at ho'
  exact (some.inj (hs.symm.trans ho')).symm

lemma InOrder.unique_step (h : InOrder w) (htr : Tracks w) {t t' : Tid} {c' : Calling}
    {made' : SessionState} (ht : t ∈ (w.step a).process.guards)
    (ht' : t' ∈ (w.step a).process.guards)
    (hask : (w.step a).asked t = some (c, made)) (hask' : (w.step a).asked t' = some (c', made'))
    (hs : c.session? = some handle) (hs' : c'.session? = some handle) : t = t' := by
  -- a call is made only on a session that is not marked
  have hn {t c made state} (hin : t ∈ w.process.guards) (hask : w.asked t = some (c, made))
      (hs : c.session? = some handle) {c' : Calling} (hst : w.process.lib = some state)
        (hasks : state.Asks c')
      (hs' : c'.session? = some handle) : False := by
    obtain ⟨session, ho, hf⟩ := hasks.session hs'
    have hm := h.marked hin hask hs hst ho
    exact absurd (hf.symm.trans hm) (by decide)
  rcases htr.counted_cases ht with ⟨hin, hsa⟩ | ⟨-, c₁, state₁, ha, hst, hj, hasks, -⟩
  · rw [hsa] at hask
    rcases htr.counted_cases ht' with ⟨hin', hsa'⟩ | ⟨-, c₂, state₂, -, hst, hj, hasks, -⟩
    · rw [hsa'] at hask'
      exact h.unique hin hin' hask hask' hs hs'
    · rw [hj] at hask'
      cases hask'
      exact (hn hin hask hs hst hasks hs').elim
  · rcases htr.counted_cases ht' with ⟨hin', hsa'⟩ | ⟨-, c₂, state₂, ha', -⟩
    · rw [hj] at hask
      cases hask
      rw [hsa'] at hask'
      exact (hn hin' hask' hs' hst hasks hs).elim
    · obtain ⟨call, now, rfl⟩ := ha
      obtain ⟨call', now', ha'⟩ := ha'
      cases ha'
      rfl

variable {state' : SessionState}

lemma InOrder.marked_step (h : InOrder w) (htr : Tracks w) (ht : t ∈ (w.step a).process.guards)
    (hask : (w.step a).asked t = some (c, made))
    (hs : c.session? = some handle) (hst' : (w.step a).process.lib = some state')
    (ho' : state'.session handle = some session') : session'.rpcInFlight = true := by
  rcases htr.counted_cases ht with ⟨hin, hsa⟩ | ⟨-, c₁, state₁, ha, hst, hj, hasks, hm⟩
  · rw [hsa] at hask
    obtain ⟨state, hst⟩ := isSome_iff_exists.mp (htr.alive (ne_nil_of_mem hin))
    obtain ⟨t₀, hc⟩ := htr.changed hst hst' handle
    rw [ho'] at hc
    generalize ho : state.session handle = before at hc
    cases hc with
    | opened hn => exact absurd (htr.session_lt hin hask hs hst) (Nat.not_lt.mpr hn)
    | touched hto =>
      have hma := h.marked hin hask hs hst ho
      cases hto with
      | same => exact hma
      | marks => rfl
      | @releases now rest answer ha hpc =>
        -- the mark goes with the call that it belongs to
        obtain ⟨hin₀, c₀, made₀, hask₀, hs₀⟩ := htr.owner hpc (.inl rfl)
        obtain rfl : t₀ = t := h.unique hin₀ hin hask₀ hask hs₀ hs
        subst ha
        have hg : (w.step (.proceed t₀ now)).process.guards = w.process.guards.erase t₀ := by
          show (w.process.proceed t₀ now (w.process.threads t₀)).guards = _
          rw [hpc]
          rfl
        rw [hg] at ht
        exact absurd ht (List.Nodup.not_mem_erase htr.nodup)
      | sets =>
        rw [Session.rpcInFlight_setCursor]
        exact hma
  · rw [hj] at hask
    cases hask
    obtain ⟨session, ho, -⟩ := hasks.session hs
    have hl : (w.step a).process.lib = _ := hm handle hs
    rw [hl] at hst'
    cases hst'
    rw [marked_of_asks ho ho']

variable {k : OpKind}

lemma InOrder.held_step (h : InOrder w) (ht : Tracks w) (hc : UpdatesApart w a)
    {cursor : k.Cursor} {data : Bytes}
    (hh : ((w.step a).process.threads t).holds = true) (hask : (w.step a).asked t = some (c, made))
    (hjo : c.job k = some (handle, cursor, data)) (hs' : (w.step a).process.lib = some state')
    (ho' : state'.session handle = some session') : session'.cursor k = cursor := by
  have hse := Calling.session?_of_job hjo
  rcases ht.counted_cases ((ht.step a).mem_of_holds hh hask) with
    ⟨hin, hsa⟩ | ⟨-, c₁, state₁, ha, hs, hj, hasks, hm⟩
  · rw [hsa] at hask
    obtain ⟨hh, hp⟩ := ht.held_before hin hask hh
    obtain ⟨state, hs⟩ := isSome_iff_exists.mp (ht.alive (ne_nil_of_mem hin))
    obtain ⟨t₀, hch⟩ := ht.changed hs hs' handle
    rw [ho'] at hch
    generalize ho : state.session handle = before at hch
    cases hch with
    | opened hn => exact absurd (ht.session_lt hin hask hse hs) (Nat.not_lt.mpr hn)
    | @touched session session' hto =>
      have hhe := h.laws.held hh hask hjo hs ho
      have hf := hto.fares k
      generalize session'.cursor k = cursor' at hf ⊢
      cases hf with
      | stays => exact hhe
      | clears ha hpc =>
        obtain ⟨hin₀, c₀, made₀, hask₀, hse₀⟩ := ht.owner hpc (.inr ⟨k, rfl⟩)
        obtain rfl : t₀ = t := h.unique hin₀ hin hask₀ hask hse₀ hse
        exact absurd hpc (hp ha)
      | inits hi =>
        obtain ⟨-, -, -, hac⟩ := (ht.made hin hask).2.1.cursor hjo
        rw [hhe, hac] at hi
        cases hi
      | updates ha hac hf =>
        subst ha
        cases k with
        | sign =>
          refine absurd ?_ (hc t hin _ hask)
          rw [hjo]
          rfl
        | decrypt =>
          have hma := h.marked hin hask hse hs ho
          exact absurd ((hf rfl).symm.trans hma) (by decide)
  · rw [hj] at hask
    cases hask
    obtain ⟨session, ho, hcu, -⟩ := hasks.cursor hjo
    have hl : (w.step a).process.lib = _ := hm handle hse
    rw [hl] at hs'
    cases hs'
    rw [marked_of_asks ho ho', Session.cursor_mark]
    exact hcu

lemma InOrder.idle_step (h : InOrder w) (ht : Tracks w)
    (hs' : (w.step a).process.lib = some state') (ho' : state'.session handle = some session')
    (hi : k.active (session'.cursor k) = false) : k.gathered (session'.cursor k) = [] := by
  cases hs : w.process.lib with
  | none =>
    rcases w.process.step_cases a with hv | ⟨t, hm⟩
    · have hp : (w.step a).process = w.process := hv
      rw [hp, hs] at hs'
      cases hs'
    · rcases ht.state hm.move hs' with ⟨-, rfl⟩ | ⟨state, hso, -⟩
      · cases ho'
      · rw [hs] at hso
        cases hso
  | some state =>
    obtain ⟨t₀, hc⟩ := ht.changed hs hs' handle
    rw [ho'] at hc
    generalize ho : state.session handle = before at hc
    cases hc with
    | opened hn =>
      cases k with
      | sign | decrypt => rfl
    | @touched session session' hto =>
      have hid := h.laws.idle hs ho (k := k)
      have hf := hto.fares k
      generalize session'.cursor k = cursor' at hf hi ⊢
      cases hf with
      | stays => exact hid hi
      | clears => exact k.gathered_none
      | inits _ he => exact he
      | updates ha hac =>
        rw [k.active_gather, hac] at hi
        cases hi

lemma InOrder.step (h : InOrder w) (ht : Tracks w) (hc : UpdatesApart w a) :
    InOrder (w.step a) where
  unique := h.unique_step ht
  marked := h.marked_step ht
  laws := ⟨h.held_step ht hc, h.idle_step ht⟩

/-! ## The steps -/

lemma InOrder.ends (h : InOrder w) (ht : Tracks w)
    (hpc : w.process.threads t = .closing (k.clear handle :: rest) answer) :
    answer.ends = true ∧ (∀ x ∈ rest, x.answers = false) ∧
      ∃ c made cursor data, w.asked t = some (c, made) ∧ c.job k = some (handle, cursor, data) ∧
        (made.session handle).map (·.cursor k) = some cursor ∧
        ∀ {state session}, w.process.lib = some state → state.session handle = some session →
          session.cursor k = cursor := by
  obtain ⟨hin, c, made, ha, -⟩ := ht.owner hpc (.inr ⟨k, rfl⟩)
  obtain ⟨hof, -⟩ := ht.call hpc ha
  obtain ⟨he, cursor, data, hj⟩ := hof.job
  obtain ⟨-, hask, -⟩ := ht.made hin ha
  obtain ⟨session, ho, hc, -⟩ := hask.cursor hj
  have hh : (w.process.threads t).holds = true := by
    rw [hpc]
    exact k.isClear_clear handle
  refine ⟨he, fun x hx => ?_, c, made, cursor, data, ha, hj, ?_, fun hs ho => ?_⟩
  · -- only the guard and a lapsed login are left
    have hof := (ht.closes hpc ha).own x (mem_cons_of_mem _ hx)
    have hn : c.session? = some handle := Calling.session?_of_job hj
    cases x with
    | release | recordLogin | clearSign | clearDecrypt | dropLogin => rfl
    | publish =>
      have hof : c = _ := hof
      subst hof
      cases hn
    | recordActive =>
      obtain ⟨reader, rfl⟩ := hof
      cases hn
    | keepKey =>
      have hof : c = _ := hof
      subst hof
      cases k <;> cases hj
  · rw [ho, map_some, hc]
  · exact h.laws.held hh ha hj hs ho

lemma changeSession_eq_ok {α : Type} {h : Nat} {check : Session → Except CkRv α}
    {change : α → Session → Session} (hr : ∀ session, check session ≠ .error .ok)
    (hok : (state.changeSession h check change).2 = .ok) :
    ∃ session value, state.session h = some session ∧ check session = .ok value ∧
      (state.changeSession h check change).1 = state.setSession h (change value session) := by
  unfold changeSession at hok ⊢
  cases ho : state.session h with
  | none =>
    rw [ho] at hok
    cases hok
  | some session =>
    simp only [ho] at hok ⊢
    cases hc : check session with
    | error rv =>
      rw [hc] at hok
      have hok : rv = .ok := hok
      rw [hok] at hc
      exact absurd hc (hr session)
    | ok value => exact ⟨session, value, rfl, hc, rfl⟩

lemma within_update {h : Nat} {part : Bytes}
    (hok : (state.within (k.update h part)).2 = .ok) : ∃ session, state.session h = some session ∧
      (state.within (k.update h part)).1 = state.setSession h
        (session.setCursor k (k.gather (session.cursor k) part)) := by
  cases k with
  | sign =>
    have hr (session : Session) : signUpdate session part ≠ .error .ok := by
      unfold signUpdate
      split <;> nofun
    obtain ⟨session, cursor, ho, hc, hs⟩ := changeSession_eq_ok hr hok
    obtain ⟨-, hcu⟩ := of_refusal hc
    cases hcu
    exact ⟨session, ho, hs⟩
  | decrypt =>
    have hr (session : Session) : decryptUpdate session part ≠ .error .ok := by
      unfold decryptUpdate
      split
      · nofun
      · split <;> nofun
    obtain ⟨session, cursor, ho, hc, hs⟩ := changeSession_eq_ok hr hok
    obtain ⟨-, hc⟩ := of_refusal hc
    obtain ⟨-, hcu⟩ := of_refusal hc
    cases hcu
    exact ⟨session, ho, hs⟩

lemma accepts_update {part : Bytes}
    (hi : w.process.threads t = .idle) (hs : w.process.lib = some state)
    (hr : (w.step (.call t (.within (k.update handle part)) now)).process.returned t = some answer)
    (hok : answer.rv = .ok) : ∃ session, state.session handle = some session ∧
      (w.step (.call t (.within (k.update handle part)) now)).process.lib =
        some (state.setSession handle (session.setCursor k
          (k.gather (session.cursor k) part))) := by
  have hp : (w.step (.call t (.within (k.update handle part)) now)).process =
      (w.process.setState (state.within (k.update handle part)).1).ret t
        ⟨(state.within (k.update handle part)).2, .nothing⟩ := by
    show w.process.step (.call t (.within (k.update handle part)) now) = _
    simp [Module.step, hi, Module.call, hs]
  rw [hp] at hr ⊢
  have hr : Function.update w.process.returned t
    (some ⟨(state.within (k.update handle part)).2, .nothing⟩) t =
      some answer := hr
  rw [Function.update_self] at hr
  cases hr
  obtain ⟨session, ho, hw⟩ := within_update hok
  exact ⟨session, ho, congrArg some hw⟩

lemma check_final {h : Nat}
    (hc : state.check (k.final h buffer) = .ok c) (ho : state.session h = some session) :
    c.job k = some (h, session.cursor k, k.gathered (session.cursor k)) := by
  cases k with
  | sign =>
    obtain ⟨session', ho', -, -, rfl⟩ := checkSign_eq_ok hc
    rw [ho] at ho'
    cases ho'
    rfl
  | decrypt =>
    obtain ⟨session', ho', -, -, rfl⟩ := checkDecrypt_eq_ok hc
    rw [ho] at ho'
    cases ho'
    rfl

lemma requests_final (hi : w.process.threads t = .idle) (hs : w.process.lib = some state)
    (ho : state.session handle = some session)
    (hc : (w.step (.call t (.blocking (k.final handle buffer)) now)).process.threads t =
      .calling c) :
    c.job k = some (handle, session.cursor k, k.gathered (session.cursor k)) := by
  have hp : (w.step (.call t (.blocking (k.final handle buffer)) now)).process =
      w.process.start t state (k.final handle buffer).session
        (state.check (k.final handle buffer)) := by
    show w.process.step (.call t (.blocking (k.final handle buffer)) now) = _
    simp [Module.step, hi, Module.call, hs]
  rw [hp] at hc
  cases hch : state.check (k.final handle buffer) with
  | error rv =>
    rw [hch] at hc
    have hc : Function.update w.process.threads t .idle t = .calling c := hc
    rw [Function.update_self] at hc
    cases hc
  | ok c' =>
    rw [hch] at hc
    have hc : Function.update w.process.threads t (.calling c') t = .calling c := hc
    rw [Function.update_self] at hc
    cases hc
    exact check_final hch ho

lemma InOrder.keeps (h : InOrder w) (ht : Tracks w) (hs : w.process.lib = some state)
    (ho : state.session handle = some session) (hke : ¬ Discards w k handle a) :
    ∃ state' session', (w.step a).process.lib = some state' ∧ state'.session handle =
      some session' ∧
      k.gathered (session.cursor k) <+: k.gathered (session'.cursor k) := by
  cases hs' : (w.step a).process.lib with
  | none => exact absurd (.finalizes hs') hke
  | some state' =>
    obtain ⟨t₀, hc⟩ := ht.changed hs hs' handle
    rw [ho] at hc
    generalize ho' : state'.session handle = after at hc
    cases hc with
    | closed hcl => exact absurd (.closes hcl) hke
    | @touched session session' hto =>
      refine ⟨state', session', rfl, ho', ?_⟩
      have hf := hto.fares k
      generalize session'.cursor k = cursor' at hf ⊢
      cases hf with
      | stays => exact prefix_rfl
      | clears ha hpc => exact absurd (.ends ha hpc) hke
      | inits hi he =>
        rw [h.laws.idle hs ho hi]
        exact nil_prefix
      | updates =>
        rw [k.gathered_gather]
        exact prefix_append _ _

lemma InOrder.cursorStep (h : InOrder w) (ht : Tracks w) (a : ModuleAction Tid) :
    CursorStep w a where
  ends := fun _ hpc => h.ends ht hpc
  accepts := fun ha hi hs hr hok => by
    subst ha
    exact accepts_update hi hs hr hok
  requests := fun ha hi hs ho hc => by
    subst ha
    exact requests_final hi hs ho hc
  keeps := h.keeps ht

def Gathered (k : OpKind) (h : Nat) (bytes : Bytes) (w : Traced Tid) : Prop :=
  ∃ state session, w.process.lib = some state ∧ state.session h = some session ∧
    bytes <+: k.gathered (session.cursor k)

/-- Whatever the threads call and the agent answers, as long as no `C_SignUpdate` comes while a
signature is in flight on its session: the laws of the cursors hold at the end, those of a step hold
of whatever is done next, and the bytes that a session has gathered stay until the operation, the
session or the library ends. -/
theorem cursor_owned (actions : List (ModuleAction Tid))
    (h : Along Traced.step UpdatesApart {} actions) :
    let w := run Traced.step {} actions
    CursorLaws w ∧ (∀ a, CursorStep w a) ∧
      ∀ k handle bytes more, Along Traced.step UpdatesApart w more → Gathered k handle bytes w →
        Along Traced.step (fun w a => ¬ Discards w k handle a) w more →
          Gathered k handle bytes (run Traced.step w more) := by
  have hs (w : Traced Tid) (a : ModuleAction Tid) (hc : UpdatesApart w a)
    (hw : Tracks w ∧ InOrder w) :
      Tracks (w.step a) ∧ InOrder (w.step a) :=
    ⟨hw.1.step a, hw.2.step hw.1 hc⟩
  have hr : Tracks (run Traced.step {} actions) ∧ InOrder (run Traced.step {} actions) :=
    run_invariant_along hs ⟨tracks_start, inOrder_start⟩ h
  refine ⟨hr.2.laws, hr.2.cursorStep hr.1, fun k handle bytes more hm hg hk => ?_⟩
  have hke (w : Traced Tid) (a : ModuleAction Tid) (hc : UpdatesApart w a ∧ ¬ Discards w k handle a)
      (hw : (Tracks w ∧ InOrder w) ∧ Gathered k handle bytes w) :
      (Tracks (w.step a) ∧ InOrder (w.step a)) ∧ Gathered k handle bytes (w.step a) := by
    obtain ⟨⟨ht, ho⟩, state, session, hst, hop, hb⟩ := hw
    obtain ⟨state', session', hst', hop', hp⟩ := ho.keeps ht hst hop hc.2
    exact ⟨hs w a hc.1 ⟨ht, ho⟩, state', session', hst', hop', hb.trans hp⟩
  exact (run_invariant_along hke ⟨hr, hg⟩ (along_and.mpr ⟨hm, hk⟩)).2

end

/-! ## Runs -/

attribute [local instance] Runs.neZero_two

def signatureAsked : List (ModuleAction (Fin 2)) :=
  .call 0 .cInitialize 0 :: sessionOpened signingCard ++ loggedIn ++
  [.call 0 (.within (.signInit 1 .rsaPkcs (encodeHandle 0 2))) 0,
   .call 0 (.within (.signUpdate 1 [1])) 0,
   .call 0 (.blocking (.signFinal 1 (some 256))) 0]

theorem cursor_owned_signing : CursorLaws (run Traced.step {} signatureAsked) :=
  (cursor_owned _ (by decide +kernel)).1

/-- Another thread adds a byte while the signature is in flight: the byte is accepted into the
cursor that the signature will clear, and is not in its data. -/
theorem signUpdate_lost :
    ¬ CursorLaws (run step {} (signatureAsked ++ [.call 1 (.within (.signUpdate 1 [2])) 0])) := by
  intro h
  have hg := h.gathered_eq 0 .sign 1 (by decide +kernel) (by decide +kernel) (by decide +kernel)
  revert hg
  decide +kernel

end LibreAgent.Pkcs11Agent
