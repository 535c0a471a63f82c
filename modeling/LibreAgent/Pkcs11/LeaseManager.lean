import Mathlib.Logic.Function.Basic
import Mathlib.Tactic.Linarith

/-!
# Login leases

A lease belongs to a caller and a card.  It ends by revocation, after an idle time, or at the end of
a lifetime that starts with its first grant.  Entries that have run out are dropped when they are
asked about, and not before.

* `LeaseManager` : the entries, with `grant`, `isActive`, `touch`, the PIN flag and the revocations;
* `LeaseCall`, `LeaseManager.perform` : the calls as data, so that histories of them can be
  compared;
* `perform_leases` : a call acts on each key by itself, and how.

Times and durations are in one unit, without bound.
-/

namespace LibreAgent.Pkcs11

/-- the caller and the card are opaque: they are only compared -/
structure LeaseKey (Caller Card : Type*) where
  caller : Caller
  card : Card
  deriving DecidableEq

structure LeaseConfig where
  idleTimeout : Int
  /-- no bound unless positive -/
  maxLifetime : Int

structure Entry where
  lastUse : Int
  /-- the time of the grant that made the entry -/
  origin : Int
  pinVerified : Bool := false

structure LeaseManager (Caller Card : Type*) where
  config : LeaseConfig
  leases : LeaseKey Caller Card → Option Entry

def isActiveLocked (config : LeaseConfig) (e : Entry) (now : Int) : Bool :=
  if now - e.lastUse ≥ config.idleTimeout then false
  else if config.maxLifetime > 0 ∧ now - e.origin ≥ config.maxLifetime then false
  else true

variable {Caller Card : Type*} [DecidableEq Caller] [DecidableEq Card]

namespace LeaseManager

def empty (config : LeaseConfig) : LeaseManager Caller Card :=
  ⟨config, fun _ => none⟩

variable (m : LeaseManager Caller Card)

def set (key : LeaseKey Caller Card) (e : Option Entry) : LeaseManager Caller Card :=
  { m with leases := Function.update m.leases key e }

def grant (key : LeaseKey Caller Card) (now : Int) : LeaseManager Caller Card :=
  match m.leases key with
  | none => m.set key (some { lastUse := now, origin := now })
  | some e => m.set key (some { e with lastUse := now, pinVerified := false })

def isActive (key : LeaseKey Caller Card) (now : Int) : Bool × LeaseManager Caller Card :=
  match m.leases key with
  | none => (false, m)
  | some e => if isActiveLocked m.config e now then (true, m) else (false, m.set key none)

def touch (key : LeaseKey Caller Card) (now : Int) : Bool × LeaseManager Caller Card :=
  match m.leases key with
  | none => (false, m)
  | some e =>
    if isActiveLocked m.config e now then (true, m.set key (some { e with lastUse := now }))
    else (false, m.set key none)

def isPinVerified (key : LeaseKey Caller Card) : Bool :=
  (m.leases key).any Entry.pinVerified

def setPinVerified (key : LeaseKey Caller Card) (verified : Bool) : LeaseManager Caller Card :=
  match m.leases key with
  | none => m
  | some e => m.set key (some { e with pinVerified := verified })

def markPinVerified (key : LeaseKey Caller Card) : LeaseManager Caller Card :=
  m.setPinVerified key true

def clearPinVerified (key : LeaseKey Caller Card) : LeaseManager Caller Card :=
  m.setPinVerified key false

def revokeAll (which : LeaseKey Caller Card → Bool) : LeaseManager Caller Card :=
  { m with leases := fun key => if which key then none else m.leases key }

def revoke (key : LeaseKey Caller Card) : LeaseManager Caller Card :=
  m.revokeAll fun k => k = key

def revokeCard (card : Card) : LeaseManager Caller Card :=
  m.revokeAll fun k => k.card = card

def revokeCaller (caller : Caller) : LeaseManager Caller Card :=
  m.revokeAll fun k => k.caller = caller

end LeaseManager

/-! ## Calls as data -/

inductive LeaseCall (Caller Card : Type*) where
  | grant (key : LeaseKey Caller Card) (now : Int)
  | isActive (key : LeaseKey Caller Card) (now : Int)
  | touch (key : LeaseKey Caller Card) (now : Int)
  | isPinVerified (key : LeaseKey Caller Card)
  | markPinVerified (key : LeaseKey Caller Card)
  | clearPinVerified (key : LeaseKey Caller Card)
  | revoke (key : LeaseKey Caller Card)
  | revokeCard (card : Card)
  | revokeCaller (caller : Caller)

namespace LeaseManager

/-- the answer, for a call that has one, and the manager afterwards -/
def perform (m : LeaseManager Caller Card) :
    LeaseCall Caller Card → Option Bool × LeaseManager Caller Card
  | .grant key now => (none, m.grant key now)
  | .isActive key now => (some (m.isActive key now).1, (m.isActive key now).2)
  | .touch key now => (some (m.touch key now).1, (m.touch key now).2)
  | .isPinVerified key => (some (m.isPinVerified key), m)
  | .markPinVerified key => (none, m.markPinVerified key)
  | .clearPinVerified key => (none, m.clearPinVerified key)
  | .revoke key => (none, m.revoke key)
  | .revokeCard card => (none, m.revokeCard card)
  | .revokeCaller caller => (none, m.revokeCaller caller)

def performAll (m : LeaseManager Caller Card) (calls : List (LeaseCall Caller Card)) :
    LeaseManager Caller Card :=
  calls.foldl (fun m call => (m.perform call).2) m

def answer (m : LeaseManager Caller Card) (history : List (LeaseCall Caller Card))
    (call : LeaseCall Caller Card) : Option Bool :=
  ((m.performAll history).perform call).1

end LeaseManager

/-! ## What a call does to one entry -/

def granted (now : Int) : Option Entry → Entry
  | none => { lastUse := now, origin := now }
  | some e => { e with lastUse := now, pinVerified := false }

def reaped (config : LeaseConfig) (now : Int) : Option Entry → Option Entry
  | none => none
  | some e => if isActiveLocked config e now then some e else none

variable {config : LeaseConfig} {e : Entry} {now : Int}

lemma reaped_live (h : isActiveLocked config e now = true) : reaped config now (some e) = some e :=
  if_pos h

lemma reaped_expired (h : isActiveLocked config e now = false) :
    reaped config now (some e) = none :=
  if_neg (Bool.eq_false_iff.mp h)

lemma reaped_eq_some {stored : Option Entry} (h : reaped config now stored = some e) :
    stored = some e ∧ isActiveLocked config e now = true := by
  cases stored with
  | none => cases h
  | some e' =>
    cases ha : isActiveLocked config e' now with
    | true =>
      rw [reaped_live ha] at h
      cases h
      exact ⟨rfl, ha⟩
    | false =>
      rw [reaped_expired ha] at h
      cases h

namespace LeaseCall

/-- what is stored for a key after the call, from what was stored for it before -/
def effect (config : LeaseConfig) (key : LeaseKey Caller Card) (stored : Option Entry) :
    LeaseCall Caller Card → Option Entry
  | grant k now => if key = k then some (granted now stored) else stored
  | isActive k now => if key = k then reaped config now stored else stored
  | touch k now =>
    if key = k then (reaped config now stored).map fun e => { e with lastUse := now } else stored
  | isPinVerified _ => stored
  | markPinVerified k =>
    if key = k then stored.map fun e => { e with pinVerified := true } else stored
  | clearPinVerified k =>
    if key = k then stored.map fun e => { e with pinVerified := false } else stored
  | revoke k => if key = k then none else stored
  | revokeCard card => if key.card = card then none else stored
  | revokeCaller caller => if key.caller = caller then none else stored

end LeaseCall

namespace LeaseManager

variable (m : LeaseManager Caller Card)

lemma set_leases (k key : LeaseKey Caller Card) (e : Option Entry) :
    (m.set k e).leases key = if key = k then e else m.leases key := by
  unfold set
  exact Function.update_apply m.leases k e key

attribute [local simp] set_leases touch isActive

lemma setPinVerified_leases (k key : LeaseKey Caller Card) (verified : Bool) :
    (m.setPinVerified k verified).leases key
      = if key = k then (m.leases key).map fun e => { e with pinVerified := verified }
        else m.leases key := by
  unfold setPinVerified
  split
  · rename_i h
    split
    · rename_i hk
      rw [hk, h]
      rfl
    · rfl
  · rename_i e h
    rw [set_leases]
    split
    · rename_i hk
      rw [hk, h]
      rfl
    · rfl

lemma grant_leases (k key : LeaseKey Caller Card) (now : Int) : (m.grant k now).leases key
      = if key = k then some (granted now (m.leases key)) else m.leases key := by
  have hs : m.grant k now = m.set k (some (granted now (m.leases k))) := by
    unfold grant
    cases m.leases k <;> rfl
  rw [hs, set_leases]
  split
  · next hk => rw [hk]
  · rfl

lemma isActive_leases (k key : LeaseKey Caller Card) (now : Int) :
    (m.isActive k now).2.leases key
      = if key = k then reaped m.config now (m.leases key) else m.leases key := by
  by_cases hk : key = k
  · subst hk
    rw [if_pos rfl]
    cases h : m.leases key with
    | none => simp [reaped, h]
    | some e => cases ha : isActiveLocked m.config e now <;> simp [reaped, h, ha]
  · rw [if_neg hk]
    cases h : m.leases k with
    | none => simp [h]
    | some e => cases ha : isActiveLocked m.config e now <;> simp [h, ha, hk]

lemma touch_leases (k key : LeaseKey Caller Card) (now : Int) :
    (m.touch k now).2.leases key
      = if key = k then (reaped m.config now (m.leases key)).map fun e => { e with lastUse := now }
        else m.leases key := by
  by_cases hk : key = k
  · subst hk
    rw [if_pos rfl]
    cases h : m.leases key with
    | none => simp [reaped, h]
    | some e => cases ha : isActiveLocked m.config e now <;> simp [reaped, h, ha]
  · rw [if_neg hk]
    cases h : m.leases k with
    | none => simp [h]
    | some e => cases ha : isActiveLocked m.config e now <;> simp [h, ha, hk]

lemma perform_leases (call : LeaseCall Caller Card) (key : LeaseKey Caller Card) :
    (m.perform call).2.leases key = call.effect m.config key (m.leases key) := by
  cases call with
  | grant k now => exact grant_leases m k key now
  | isActive k now => exact isActive_leases m k key now
  | touch k now => exact touch_leases m k key now
  | isPinVerified k => rfl
  | markPinVerified k => exact setPinVerified_leases m k key true
  | clearPinVerified k => exact setPinVerified_leases m k key false
  | revoke | revokeCard | revokeCaller =>
    simp [perform, revoke, revokeCard, revokeCaller, revokeAll, LeaseCall.effect]

lemma perform_config (call : LeaseCall Caller Card) : (m.perform call).2.config = m.config := by
  cases call with
  | grant | markPinVerified | clearPinVerified =>
    simp only [perform, grant, markPinVerified, clearPinVerified, setPinVerified]
    split <;> rfl
  | isActive | touch =>
    simp only [perform, isActive, touch]
    split
    · rfl
    · split <;> rfl
  | isPinVerified | revoke | revokeCard | revokeCaller => rfl

variable (key : LeaseKey Caller Card)

lemma isActive_eq (now : Int) :
    (m.isActive key now).1 = (reaped m.config now (m.leases key)).isSome := by
  cases h : m.leases key with
  | none => simp [reaped, h]
  | some e => cases ha : isActiveLocked m.config e now <;> simp [reaped, h, ha]

lemma touch_eq (now : Int) : (m.touch key now).1 = (m.isActive key now).1 := by
  cases h : m.leases key with
  | none => simp [h]
  | some e => cases ha : isActiveLocked m.config e now <;> simp [h, ha]

end LeaseManager

end LibreAgent.Pkcs11
