import LibreAgent.Lib.Runs

/-!
# The card session of a reader

The holder keeps one connection to the card in a reader: as the session that operations use, with
the plugins that serve the card, or parked as a power hold, with nothing in it.  The factory that
opens connections, the resolver that finds plugins, the plugins and the clock are answered by the
environment and may throw; between two calls the operations use the session that is held.

* `Holder` : the fields of the holder, and what the process keeps for its sessions;
* `acquire`, `preReadAuth`, `fullResolution`, `acquireHold`, `releaseHold`, `sweep`, `invalidate` :
  the calls;
* `Sound` : the invariant; `holder_sound` : it holds over every run;
* `HolderLaws`, `holder_laws` : what follows for any further call.
-/

namespace LibreAgent.Operations.CardSessionHolder

open List Option

def kIdleClose : Int := 45 * 1000000000

abbrev SessionId := Nat

/-- `None`, or one of the other methods -/
abbrev PreReadAuthMethod := Option Nat

variable {Plugin : Type}

structure Secrets (Plugin : Type) where
  /-- what plugins have deposited for a session -/
  credentials : List (Plugin × SessionId) := []
  /-- the sessions that cache a PACE secret -/
  pace : List SessionId := []
  /-- the sessions with a live secure channel -/
  channels : List SessionId := []

structure Holder (Plugin : Type) where
  session : Option SessionId := none
  /-- by priority; some may be null -/
  candidates : List (Option Plugin) := []
  preReadAuth : Option PreReadAuthMethod := none
  lastUsed : Int := 0
  hold : Option SessionId := none
  /-- how many sessions have been opened -/
  opened : Nat := 0
  secrets : Secrets Plugin := {}
  /-- the sessions on which candidates and memo were computed, for the specification -/
  candidatesOf : Option SessionId := none
  memoOf : Option SessionId := none

/-! ## The environment -/

/-- the kind of an `OpenError` -/
abbrev OpenError := Nat

inductive FactoryAnswer where
  | opens
  | fails (e : OpenError)
  | throws
  deriving DecidableEq

inductive ResolverAnswer (Plugin : Type) where
  | finds (candidates : List (Option Plugin))
  | throws

structure Answers (Plugin : Type) where
  factory : FactoryAnswer
  resolver : ResolverAnswer Plugin
  /-- none if the clock throws -/
  clock : Option Int

inductive Use (Plugin : Type) where
  | deposit (plugin : Plugin)
  | cachePace
  | openChannel
  | closeChannel

/-! ## The calls -/

inductive Acquired (Plugin : Type) where
  | card (session : SessionId) (candidates : List (Option Plugin))
  | refused (e : OpenError)
  | threw

def stamp (clock : Option Int) (s : SessionId) (h : Holder Plugin) :
    Acquired Plugin × Holder Plugin :=
  match clock with
  | none => (.threw, h)
  | some now => (.card s h.candidates, { h with lastUsed := now })

def commit (a : Answers Plugin) (s : SessionId) (h : Holder Plugin) :
    Acquired Plugin × Holder Plugin :=
  match a.resolver with
  | .throws => (.threw, h)
  | .finds candidates =>
    stamp a.clock s { h with session := some s, candidates := candidates, candidatesOf := some s }

def acquire (a : Answers Plugin) (h : Holder Plugin) : Acquired Plugin × Holder Plugin :=
  match h.session with
  | some s => stamp a.clock s h
  | none =>
    match h.hold with
    | some s => commit a s { h with hold := none }
    | none =>
      match a.factory with
      | .throws => (.threw, h)
      | .fails e => (.refused e, h)
      | .opens => commit a h.opened { h with opened := h.opened + 1 }

section Erasing
variable [DecidableEq Plugin]

def Secrets.clearCredentials (s : SessionId) (w : Secrets Plugin) (plugin : Option Plugin) :
    Secrets Plugin :=
  match plugin with
  | none => w
  | some p => { w with credentials := w.credentials.filter fun c => c ≠ (p, s) }

def Secrets.clearCachedPaceCredentials (s : SessionId) (w : Secrets Plugin) : Secrets Plugin :=
  { w with pace := w.pace.filter (· ≠ s) }

def Secrets.clearActiveChannel (s : SessionId) (w : Secrets Plugin) : Secrets Plugin :=
  { w with channels := w.channels.filter (· ≠ s) }

def eraseCredentials (h : Holder Plugin) : Holder Plugin :=
  { h with
    secrets := match h.session with
      | none => h.secrets
      | some s => h.candidates.foldl (Secrets.clearCredentials s) h.secrets
    candidates := []
    candidatesOf := none
    preReadAuth := none
    memoOf := none }

def invalidate (h : Holder Plugin) : Holder Plugin :=
  { eraseCredentials h with session := none, hold := none }

end Erasing

/-- the first candidate that needs something wins; none if a plugin throws -/
def strongest (ask : Plugin → Option PreReadAuthMethod) : List (Option Plugin) →
    Option PreReadAuthMethod
  | [] => some none
  | none :: candidates => strongest ask candidates
  | some p :: candidates =>
    match ask p with
    | none => none
    | some none => strongest ask candidates
    | some (some m) => some (some m)

def preReadAuth (a : Answers Plugin) (ask : Plugin → Option PreReadAuthMethod) (h : Holder Plugin) :
    PreReadAuthMethod × Holder Plugin :=
  match h.preReadAuth with
  | some m => (m, h)
  | none =>
    match acquire a h with
    | (.card s candidates, h) =>
      match strongest ask candidates with
      | none => (none, h)
      | some m => (m, { h with preReadAuth := some m, memoOf := some s })
    | (_, h) => (none, h)

/-- the union of what candidates declare; none if a plugin throws -/
def unionCapabilities (capabilities : Plugin → Option UInt32) : List (Option Plugin) → Option UInt32
  | [] => some 0
  | none :: candidates => unionCapabilities capabilities candidates
  | some p :: candidates => do
    let c ← capabilities p
    let rest ← unionCapabilities capabilities candidates
    return c ||| rest

structure CardResolution (Plugin : Type) where
  candidates : List (Option Plugin) := []
  capabilities : UInt32 := 0
  preReadAuth : PreReadAuthMethod := none

/-- the answers to the two acquires of a full resolution, and the plugins' -/
structure ResolutionAnswers (Plugin : Type) where
  first : Answers Plugin
  second : Answers Plugin
  ask : Plugin → Option PreReadAuthMethod
  capabilities : Plugin → Option UInt32

section Calls
variable [DecidableEq Plugin]

def fullResolution (a : ResolutionAnswers Plugin) (h : Holder Plugin) :
    Except (Option OpenError) (CardResolution Plugin) × Holder Plugin :=
  match acquire a.first h with
  | (.refused e, h) => (.error (some e), h)
  | (.threw, h) => (.error none, h)
  | (.card _ candidates, h) =>
    -- a card that no plugin serves is not held
    if candidates = [] then (.ok {}, invalidate h)
    else match unionCapabilities a.capabilities candidates with
      | none => (.error none, h)
      | some capabilities =>
        let (method, h) := preReadAuth a.second a.ask h
        (.ok ⟨candidates, capabilities, method⟩, h)

def acquireHold (factory : FactoryAnswer) (h : Holder Plugin) : Holder Plugin :=
  if h.hold.isSome || h.session.isSome then h
  else match factory with
    | .opens => { h with hold := some h.opened, opened := h.opened + 1 }
    | .fails _ => h
    | .throws => { h with hold := none }

def releaseHold (h : Holder Plugin) : Holder Plugin :=
  { h with hold := none }

def demote (s : SessionId) (h : Holder Plugin) : Holder Plugin :=
  if s ∈ h.secrets.channels then invalidate h
  else
    let h := eraseCredentials h
    { h with
      secrets := (h.secrets.clearCachedPaceCredentials s).clearActiveChannel s
      hold := some s
      session := none }

def sweep (holdWanted : Bool) (clock : Option Int) (factory : FactoryAnswer) (h : Holder Plugin) :
    Holder Plugin :=
  match clock with
  | none => h
  | some now =>
    match h.session with
    | some s =>
      if now - h.lastUsed < kIdleClose then h
      else if holdWanted then demote s h
      else invalidate h
    | none => if holdWanted then acquireHold factory h else h

def Secrets.use (s : SessionId) (w : Secrets Plugin) : Use Plugin → Secrets Plugin
  | .deposit p => { w with credentials := (p, s) :: w.credentials }
  | .cachePace => { w with pace := s :: w.pace }
  | .openChannel => { w with channels := s :: w.channels }
  | .closeChannel => w.clearActiveChannel s

def use (u : Use Plugin) (h : Holder Plugin) : Holder Plugin :=
  match h.session with
  | none => h
  | some s =>
    match u with
    | .deposit p => if some p ∈ h.candidates then { h with secrets := h.secrets.use s u } else h
    | _ => { h with secrets := h.secrets.use s u }

inductive Call (Plugin : Type) where
  | acquire (a : Answers Plugin)
  | preReadAuth (a : Answers Plugin) (ask : Plugin → Option PreReadAuthMethod)
  | fullResolution (a : ResolutionAnswers Plugin)
  | acquireHold (factory : FactoryAnswer)
  | releaseHold
  | sweep (holdWanted : Bool) (clock : Option Int) (factory : FactoryAnswer)
  | invalidate
  | use (u : Use Plugin)

def step (h : Holder Plugin) : Call Plugin → Holder Plugin
  | .acquire a => (acquire a h).2
  | .preReadAuth a ask => (preReadAuth a ask h).2
  | .fullResolution a => (fullResolution a h).2
  | .acquireHold factory => acquireHold factory h
  | .releaseHold => releaseHold h
  | .sweep holdWanted clock factory => sweep holdWanted clock factory h
  | .invalidate => invalidate h
  | .use u => use u h

end Calls

/-! ## The invariant -/

structure Bare (w : Secrets Plugin) (s : SessionId) : Prop where
  credentials : ∀ p, (p, s) ∉ w.credentials
  pace : s ∉ w.pace
  channels : s ∉ w.channels

structure Sound (h : Holder Plugin) : Prop where
  single : h.session = none ∨ h.hold = none
  parked : ∀ s, h.hold = some s → Bare h.secrets s
  /-- what is deposited for the session is its candidates' -/
  deposited : ∀ s p, h.session = some s → (p, s) ∈ h.secrets.credentials → some p ∈ h.candidates
  candidates : h.candidates ≠ [] → h.session.isSome = true ∧ h.candidatesOf = h.session
  memo : h.preReadAuth ≠ none → h.session.isSome = true ∧ h.memoOf = h.session
  /-- sessions to come are bare -/
  fresh : ∀ s, h.opened ≤ s → Bare h.secrets s
  held : ∀ s, h.session = some s ∨ h.hold = some s → s < h.opened

structure Fewer (w' w : Secrets Plugin) : Prop where
  credentials : ∀ c ∈ w'.credentials, c ∈ w.credentials
  pace : ∀ s ∈ w'.pace, s ∈ w.pace
  channels : ∀ s ∈ w'.channels, s ∈ w.channels

variable {w : Secrets Plugin} {s : SessionId} {a : Answers Plugin}

lemma Bare.fewer {w' : Secrets Plugin} (h : Bare w s) (hf : Fewer w' w) : Bare w' s where
  credentials p hp := h.credentials p (hf.credentials _ hp)
  pace hs := h.pace (hf.pace _ hs)
  channels hs := h.channels (hf.channels _ hs)

lemma bare_use {t : SessionId} (hb : Bare w t) (hne : t ≠ s) (u : Use Plugin) :
    Bare (w.use s u) t := by
  cases u with
  | deposit p =>
    exact { hb with
      credentials := fun q hq => (mem_cons.mp hq).elim (fun e => hne (Prod.mk.inj e).2)
        (hb.credentials q) }
  | cachePace => exact { hb with pace := fun ht => (mem_cons.mp ht).elim hne hb.pace }
  | openChannel => exact { hb with channels := fun ht => (mem_cons.mp ht).elim hne hb.channels }
  | closeChannel => exact { hb with channels := fun ht => hb.channels (mem_of_mem_filter ht) }

/-! ## Taking a session -/

variable {h : Holder Plugin}

lemma sound_stamp (hs : Sound h) (clock : Option Int) (s : SessionId) :
    Sound (stamp clock s h).2 := by
  cases clock with
  | none => exact hs
  | some now => exact { hs with }

lemma sound_commit (hs : Sound h) (hse : h.session = none) (hh : h.hold = none)
    (hb : Bare h.secrets s) (hlt : s < h.opened) (a : Answers Plugin) : Sound (commit a s h).2 := by
  rw [commit]
  split
  · exact hs
  · apply sound_stamp
    have hm : h.preReadAuth = none := by
      by_contra hne
      have hso := (hs.memo hne).1
      rw [hse] at hso
      cases hso
    exact { hs with
      single := Or.inr hh
      deposited := fun s' p hs' hp => absurd hp (some.inj hs' ▸ hb.credentials p)
      candidates := fun _ => ⟨rfl, rfl⟩
      memo := absurd hm
      held := fun s' hs' => hs'.elim (fun e => some.inj e ▸ hlt) (fun e => hs.held s' (Or.inr e)) }

lemma sound_releaseHold (hs : Sound h) : Sound (releaseHold h) :=
  { hs with
    single := Or.inr rfl
    parked := nofun
    held := fun s hs' => hs'.elim (fun e => hs.held s (Or.inl e)) nofun }

lemma sound_acquire (hs : Sound h) (a : Answers Plugin) : Sound (acquire a h).2 := by
  rw [acquire]
  split
  · exact sound_stamp hs _ _
  rename_i hse
  split
  · rename_i s hh
    exact sound_commit (sound_releaseHold hs) hse rfl (hs.parked s hh) (hs.held s (Or.inr hh)) a
  rename_i hh
  split
  · exact hs
  · exact hs
  · have ho : Sound { h with opened := h.opened + 1 } := { hs with
      fresh := fun s hle => hs.fresh s (Nat.le_of_succ_le hle)
      held := fun s hs' => Nat.lt_succ_of_lt (hs.held s hs') }
    exact sound_commit ho hse hh (hs.fresh _ (Nat.le_refl _)) (Nat.lt_succ_self _) a

lemma acquire_card {candidates : List (Option Plugin)}
    {h' : Holder Plugin} (hr : acquire a h = (.card s candidates, h')) :
    h'.session = some s ∧ h'.candidates = candidates := by
  have hs : ∀ {g : Holder Plugin} {t : SessionId}, g.session = some t →
      stamp a.clock t g = (.card s candidates, h') → h'.session = some s ∧
        h'.candidates = candidates := by
    intro g t hg hst
    cases hc : a.clock with
    | none =>
      rw [hc] at hst
      cases hst
    | some now =>
      rw [hc] at hst
      cases hst
      exact ⟨hg, rfl⟩
  have hcom : ∀ {g : Holder Plugin} {t : SessionId},
      commit a t g = (.card s candidates, h') → h'.session = some s ∧
        h'.candidates = candidates := by
    intro g t hco
    rw [commit] at hco
    split at hco
    · cases hco
    · exact hs rfl hco
  rw [acquire] at hr
  split at hr
  · exact hs ‹_› hr
  · split at hr
    · exact hcom hr
    · split at hr
      · cases hr
      · cases hr
      · exact hcom hr

lemma sound_preReadAuth (hs : Sound h) (a : Answers Plugin)
    (ask : Plugin → Option PreReadAuthMethod) : Sound (preReadAuth a ask h).2 := by
  rw [preReadAuth]
  split
  · exact hs
  have ha := sound_acquire hs a
  split
  · rename_i s candidates h' hr
    rw [hr] at ha
    have hse := (acquire_card hr).1
    split
    · exact ha
    · exact { ha with
        memo := fun _ => ⟨isSome_iff_exists.mpr ⟨s, hse⟩, hse.symm⟩ }
  · rename_i h' hr
    rw [hr] at ha
    exact ha

lemma sound_acquireHold (hs : Sound h) (factory : FactoryAnswer) :
    Sound (acquireHold factory h) := by
  unfold acquireHold
  split
  · exact hs
  rename_i hn
  rw [Bool.or_eq_true, not_or, not_isSome_iff_eq_none, not_isSome_iff_eq_none] at hn
  obtain ⟨hh, hse⟩ := hn
  split
  · exact { hs with
      single := Or.inl hse
      parked := fun _ e => some.inj e ▸ hs.fresh _ (Nat.le_refl _)
      fresh := fun s hle => hs.fresh s (Nat.le_of_succ_le hle)
      held := fun s hs' => hs'.elim (fun e => Nat.lt_succ_of_lt (hs.held s (Or.inl e)))
        (fun e => some.inj e ▸ Nat.lt_succ_self _) }
  · exact hs
  · exact sound_releaseHold hs

lemma sound_new : Sound ({} : Holder Plugin) where
  single := Or.inl rfl
  parked := nofun
  deposited := nofun
  candidates hne := absurd rfl hne
  memo hne := absurd rfl hne
  fresh _ _ := ⟨nofun, nofun, nofun⟩
  held _ hs := hs.elim nofun nofun

lemma sound_used (hs : Sound h) (hse : h.session = some s) {u : Use Plugin}
    (hc : ∀ p, u = .deposit p → some p ∈ h.candidates) :
    Sound { h with secrets := h.secrets.use s u } := by
  have hh : h.hold = none := hs.single.resolve_left fun e => nomatch hse.symm.trans e
  have hlt := hs.held s (Or.inl hse)
  exact { hs with
    parked := fun t e => nomatch hh.symm.trans e
    deposited := by
      intro t p ht hp
      cases u with
      | deposit q =>
        obtain e | hp := mem_cons.mp hp
        · exact (Prod.mk.inj e).1 ▸ hc q rfl
        · exact hs.deposited t p ht hp
      | cachePace | openChannel | closeChannel => exact hs.deposited t p ht hp
    fresh := fun t hle => bare_use (hs.fresh t hle) (Nat.ne_of_gt (Nat.lt_of_lt_of_le hlt hle)) u }

def Fails (a : Answers Plugin) (h : Holder Plugin) : Prop :=
  h.session = none ∧ (h.hold = none ∧ a.factory ≠ .opens ∨ a.resolver = .throws)

def Closed (h : Holder Plugin) : Prop :=
  h.session = none ∧ h.hold = none

lemma closed_acquire (hfa : Fails a h) :
    Closed (acquire a h).2 ∧ ∀ s candidates, (acquire a h).1 ≠ .card s candidates := by
  obtain ⟨hs, hfa⟩ := hfa
  have hc : ∀ {g : Holder Plugin} {t : SessionId}, a.resolver = .throws →
    commit a t g = (.threw, g) := by
    intro g t ht
    rw [commit, ht]
  simp only [acquire, hs]
  cases hh : h.hold with
  | some t =>
    have ht := hfa.resolve_left fun hf => nomatch hh.symm.trans hf.1
    simp only [hc ht]
    exact ⟨⟨rfl, rfl⟩, nofun⟩
  | none =>
    cases hfac : a.factory with
    | throws | fails => exact ⟨⟨hs, hh⟩, nofun⟩
    | opens =>
      have ht := hfa.resolve_left fun hf => hf.2 hfac
      simp only [hc ht]
      exact ⟨⟨rfl, rfl⟩, nofun⟩

lemma closed_preReadAuth (hs : Sound h) (hf : Fails a h)
    (ask : Plugin → Option PreReadAuthMethod) : Closed (preReadAuth a ask h).2 := by
  obtain ⟨hc, hn⟩ := closed_acquire hf
  unfold preReadAuth
  split
  · rename_i m hm
    have hso := (hs.memo (hm ▸ nofun)).1
    rw [hf.1] at hso
    cases hso
  · split
    · next hr => exact absurd (congrArg Prod.fst hr) (hn _ _)
    · next hr => exact (congrArg Prod.snd hr) ▸ hc

/-! ## Erasing -/

variable [DecidableEq Plugin]

lemma mem_clearCredentials (s : SessionId) (candidates : List (Option Plugin)) (w : Secrets Plugin)
    (c : Plugin × SessionId) : c ∈ (candidates.foldl (Secrets.clearCredentials s) w).credentials
      ↔ c ∈ w.credentials ∧ ¬ (c.2 = s ∧ some c.1 ∈ candidates) := by
  induction candidates generalizing w with
  | nil => simp
  | cons plugin candidates ih =>
    rw [foldl_cons, ih]
    cases plugin with
    | none => simp [Secrets.clearCredentials]
    | some p =>
      obtain ⟨q, t⟩ := c
      simp only [Secrets.clearCredentials, mem_filter, mem_cons, decide_eq_true_eq, ne_eq,
        Prod.mk.injEq, some.injEq]
      tauto

lemma clearCredentials_others (s : SessionId) (candidates : List (Option Plugin))
    (w : Secrets Plugin) :
    (candidates.foldl (Secrets.clearCredentials s) w).pace = w.pace ∧
      (candidates.foldl (Secrets.clearCredentials s) w).channels = w.channels := by
  induction candidates generalizing w with
  | nil => exact ⟨rfl, rfl⟩
  | cons plugin candidates ih =>
    rw [foldl_cons, (ih _).1, (ih _).2]
    cases plugin <;> exact ⟨rfl, rfl⟩

lemma fewer_eraseCredentials (h : Holder Plugin) :
    Fewer (eraseCredentials h).secrets h.secrets := by
  rw [eraseCredentials]
  cases h.session with
  | none => exact ⟨fun _ hc => hc, fun _ hs => hs, fun _ hs => hs⟩
  | some s =>
    obtain ⟨hp, hch⟩ := clearCredentials_others s h.candidates h.secrets
    refine ⟨fun c hc => ((mem_clearCredentials s _ _ c).mp hc).1, fun t ht => ?_, fun t ht => ?_⟩
    · exact hp ▸ ht
    · exact hch ▸ ht

section
variable (hs : Sound h)
include hs

lemma erased (hse : h.session = some s) (p : Plugin) :
    (p, s) ∉ (eraseCredentials h).secrets.credentials := by
  intro hp
  have hm : (p, s) ∈ (h.candidates.foldl (Secrets.clearCredentials s) h.secrets).credentials := by
    rw [eraseCredentials, hse] at hp
    exact hp
  obtain ⟨hb, hk⟩ := (mem_clearCredentials s _ _ _).mp hm
  exact hk ⟨rfl, hs.deposited s p hse hb⟩

lemma sound_invalidate : Sound (invalidate h) where
  single := Or.inl rfl
  parked := nofun
  deposited := nofun
  candidates hne := absurd rfl hne
  memo hne := absurd rfl hne
  fresh s hle := (hs.fresh s hle).fewer (fewer_eraseCredentials h)
  held _ hs' := hs'.elim nofun nofun

lemma sound_fullResolution (a : ResolutionAnswers Plugin) :
    Sound (fullResolution a h).2 := by
  have ha := sound_acquire hs a.first
  rw [fullResolution]
  split
  · rename_i hr
    rw [hr] at ha
    exact ha
  · rename_i hr
    rw [hr] at ha
    exact ha
  · rename_i hr
    rw [hr] at ha
    split
    · exact sound_invalidate ha
    · split
      · exact ha
      · exact sound_preReadAuth ha a.second a.ask

lemma sound_demote (hse : h.session = some s) : Sound (demote s h) := by
  rw [demote]
  split
  · exact sound_invalidate hs
  have he := fewer_eraseCredentials h
  have hf : Fewer (((eraseCredentials h).secrets.clearCachedPaceCredentials s).clearActiveChannel s)
    h.secrets := {
    credentials := he.credentials
    pace := fun t ht => he.pace t (mem_of_mem_filter ht)
    channels := fun t ht => he.channels t (mem_of_mem_filter ht) }
  have hb : Bare (((eraseCredentials h).secrets.clearCachedPaceCredentials s).clearActiveChannel s)
    s := {
    credentials := erased hs hse
    pace := fun hm => absurd rfl (of_decide_eq_true (mem_filter.mp hm).2)
    channels := fun hm => absurd rfl (of_decide_eq_true (mem_filter.mp hm).2) }
  exact {
    single := Or.inl rfl
    parked := fun t e => some.inj e ▸ hb
    deposited := nofun
    candidates := absurd rfl
    memo := absurd rfl
    fresh := fun t hle => (hs.fresh t hle).fewer hf
    held := fun t ht => ht.elim nofun fun e => some.inj e ▸ hs.held s (Or.inl hse) }

lemma sound_sweep (holdWanted : Bool) (clock : Option Int)
    (factory : FactoryAnswer) :
    Sound (sweep holdWanted clock factory h) := by
  unfold sweep
  split
  · exact hs
  split
  · rename_i hse
    split
    · exact hs
    split
    · exact sound_demote hs hse
    · exact sound_invalidate hs
  · split
    · exact sound_acquireHold hs factory
    · exact hs

lemma sound_use (u : Use Plugin) : Sound (use u h) := by
  unfold use
  split
  · exact hs
  rename_i s hse
  split
  · rename_i p
    split
    · next hm => exact sound_used hs hse fun q e => Use.deposit.inj e ▸ hm
    · exact hs
  · next hn => exact sound_used hs hse fun p e => absurd e (hn p)

/-! ## Every run -/

lemma sound_step (call : Call Plugin) : Sound (step h call) := by
  cases call with
  | acquire a => exact sound_acquire hs a
  | preReadAuth a ask => exact sound_preReadAuth hs a ask
  | fullResolution a => exact sound_fullResolution hs a
  | acquireHold factory => exact sound_acquireHold hs factory
  | releaseHold => exact sound_releaseHold hs
  | sweep holdWanted clock factory => exact sound_sweep hs holdWanted clock factory
  | invalidate => exact sound_invalidate hs
  | use u => exact sound_use hs u

end

lemma holder_sound (calls : List (Call Plugin)) : Sound (Runs.run step {} calls) := by
  have hst : ∀ (h : Holder Plugin) call, Sound h → Sound (step h call) :=
    fun _ call hs => sound_step hs call
  exact Runs.run_invariant hst sound_new calls

lemma closed_fullResolution {a : ResolutionAnswers Plugin} (hf : Fails a.first h) :
    Closed (fullResolution a h).2 := by
  obtain ⟨hc, hn⟩ := closed_acquire hf
  unfold fullResolution
  split
  · next hr => exact (congrArg Prod.snd hr) ▸ hc
  · next hr => exact (congrArg Prod.snd hr) ▸ hc
  · next hr => exact absurd (congrArg Prod.fst hr) (hn _ _)

/-- a sweep that finds a session idle lets it go, and what was deposited for it -/
lemma swept (hs : Sound h) (hse : h.session = some s) {now : Int}
    (hi : kIdleClose ≤ now - h.lastUsed) (holdWanted : Bool) (factory : FactoryAnswer) :
    (sweep holdWanted (some now) factory h).session = none ∧
      ∀ p, (p, s) ∉ (sweep holdWanted (some now) factory h).secrets.credentials := by
  have hsw : sweep holdWanted (some now) factory h = if holdWanted then demote s h
    else invalidate h := by
    simp [sweep, hse, if_neg (Int.not_lt.mpr hi)]
  rw [hsw]
  have hin : (invalidate h).session = none ∧ ∀ p, (p, s) ∉ (invalidate h).secrets.credentials :=
    ⟨rfl, erased hs hse⟩
  split
  · unfold demote
    split
    · exact hin
    · exact ⟨rfl, erased hs hse⟩
  · exact hin

structure HolderLaws (h : Holder Plugin) : Prop where
  /-- never both a session and a hold -/
  single : h.session = none ∨ h.hold = none
  /-- a parked hold carries no secret -/
  parked : ∀ s, h.hold = some s → Bare h.secrets s
  candidates : h.candidates ≠ [] → h.session.isSome = true ∧ h.candidatesOf = h.session
  memo : h.preReadAuth ≠ none → h.session.isSome = true ∧ h.memoOf = h.session
  /-- an acquire that fails, by itself or within another call, leaves no connection -/
  failed : ∀ a, Fails a h → Closed (step h (.acquire a)) ∧
    ∀ ask, Closed (step h (.preReadAuth a ask))
  unresolved : ∀ a : ResolutionAnswers Plugin, Fails a.first h → Closed (step h (.fullResolution a))
  /-- a session that has been idle is let go by every sweep that can read the clock -/
  idle : ∀ s now holdWanted factory, h.session = some s → kIdleClose ≤ now - h.lastUsed →
    (step h (.sweep holdWanted (some now) factory)).session = none ∧
      ∀ p, (p, s) ∉ (step h (.sweep holdWanted (some now) factory)).secrets.credentials

/-- whatever was called, and whatever the factory, the resolver, the plugins and the clock did -/
theorem holder_laws (calls : List (Call Plugin)) : HolderLaws (Runs.run step {} calls) := by
  have hs := holder_sound calls
  exact {
    single := hs.single
    parked := hs.parked
    candidates := hs.candidates
    memo := hs.memo
    failed := fun _ hf => ⟨(closed_acquire hf).1, closed_preReadAuth hs hf⟩
    unresolved := fun _ hf => closed_fullResolution hf
    idle := fun _ _ holdWanted factory hse hi => swept hs hse hi holdWanted factory }

end LibreAgent.Operations.CardSessionHolder
