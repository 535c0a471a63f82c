import LibreAgent.Cache.Snapshots
import Mathlib.Data.List.AList

/-!
# The caches of what a card has given

Three maps, by card key, each behind its own lock: a method is one step.

* `CredentialCache` : the secrets that open a card, and what the last prompts for it have come to;
* `CardReadCache` : the identity data and the certificates;
* `CredentialSnapshotCache` : the list of the credentials;
* `CacheCall`, `CardCaches.answer` : the methods, as an operation on one card calls them;
* `RemovalStage`, `CardCaches.invalidateAt` : `invalidateCardRemovalCaches`, one lock after the
  other.

A method of the last two caches that looks for an entry reads the clock twice: `now` against the
idle window, `touched` for the new stamp.  The zeroing of what is dropped is left out.
-/

namespace LibreAgent.Cache

open AList

/-! ## `CredentialCache` -/

inductive RefusalKind where
  | timeout
  | cancelled
  deriving DecidableEq

structure CredentialEntry where
  can : Option Bytes := none
  mrz : Option Bytes := none
  lastPromptYieldedNothing : Bool := false
  /-- 64 bits in the source, taken not to wrap -/
  refusalGeneration : Nat := 0
  refusalKind : RefusalKind := .timeout
  deriving DecidableEq

abbrev CredentialCache (Key : Type*) := AList fun _ : Key => CredentialEntry

namespace CredentialCache

variable {Key : Type*} [DecidableEq Key] (s : CredentialCache Key) (cardKey : Key)

/-- `m_entries[cardKey]` : the entry, made if there is none -/
def entry : CredentialEntry :=
  (s.lookup cardKey).getD {}

def putCan (can : Bytes) : CredentialCache Key :=
  s.insert cardKey { s.entry cardKey with can := some can }

def putMrz (mrz : Bytes) : CredentialCache Key :=
  s.insert cardKey { s.entry cardKey with mrz := some mrz }

def getCan : Option Bytes :=
  (s.lookup cardKey).bind (·.can)

def getMrz : Option Bytes :=
  (s.lookup cardKey).bind (·.mrz)

def invalidate : CredentialCache Key :=
  s.erase cardKey

def markCredentialWrong : CredentialCache Key :=
  s.insert cardKey { s.entry cardKey with can := none, mrz := none }

def lastPromptYieldedNothingFor : Bool :=
  (s.entry cardKey).lastPromptYieldedNothing

def noteLastPromptYieldedNothing (yieldedNothing : Bool) : CredentialCache Key :=
  if yieldedNothing then s.insert cardKey { s.entry cardKey with lastPromptYieldedNothing := true }
  else match s.lookup cardKey with
    | some e => s.insert cardKey { e with lastPromptYieldedNothing := false }
    | none => s

def noteRefusal (kind : RefusalKind) : CredentialCache Key :=
  s.insert cardKey
    { s.entry cardKey with
      refusalGeneration := (s.entry cardKey).refusalGeneration + 1
      refusalKind := kind }

def refusalGenerationFor : Nat :=
  (s.entry cardKey).refusalGeneration

def lastRefusalKindFor : RefusalKind :=
  (s.entry cardKey).refusalKind

end CredentialCache

/-! ## `CardReadCache` -/

structure CardReadEntry where
  identity : Option CardReadSnapshot := none
  certs : Option (List CertSnapshot) := none
  touchedAt : Int := 0
  deriving DecidableEq

structure CardReadCache (Key : Type*) where
  /-- `kNoIdleExpiry` is `none` -/
  idleWindow : Option Int := none
  entries : AList fun _ : Key => CardReadEntry := ∅

namespace CardReadCache

variable {Key : Type*} [DecidableEq Key] (s : CardReadCache Key) (cardKey : Key) (now touched : Int)

def entry : CardReadEntry :=
  (s.entries.lookup cardKey).getD {}

def isExpired (e : CardReadEntry) : Bool :=
  match s.idleWindow with
  | none => false
  | some window => now - e.touchedAt > window

def set (e : CardReadEntry) : CardReadCache Key :=
  { s with entries := s.entries.insert cardKey e }

def invalidate : CardReadCache Key :=
  { s with entries := s.entries.erase cardKey }

def liveEntry : CardReadCache Key × Option CardReadEntry :=
  match s.entries.lookup cardKey with
  | none => (s, none)
  | some e => if s.isExpired now e then (s.invalidate cardKey, none) else (s, some e)

def put (snapshot : CardReadSnapshot) : CardReadCache Key :=
  s.set cardKey { s.entry cardKey with identity := some snapshot, touchedAt := touched }

def putCertificates (certs : List CertSnapshot) : CardReadCache Key :=
  s.set cardKey { s.entry cardKey with certs := some certs, touchedAt := touched }

def getHalf {α : Type*} (half : CardReadEntry → Option α) : CardReadCache Key × Option α :=
  match s.liveEntry cardKey now with
  | (s', none) => (s', none)
  | (s', some e) =>
    match half e with
    | none => (s', none)
    | some value => (s'.set cardKey { e with touchedAt := touched }, some value)

def get : CardReadCache Key × Option CardReadSnapshot :=
  s.getHalf cardKey now touched (·.identity)

def getCertificates : CardReadCache Key × Option (List CertSnapshot) :=
  s.getHalf cardKey now touched (·.certs)

end CardReadCache

/-! ## `CredentialSnapshotCache` -/

structure CredentialSnapshotEntry where
  snapshot : CredentialSnapshot := {}
  touchedAt : Int := 0
  deriving DecidableEq

structure CredentialSnapshotCache (Key : Type*) where
  /-- five minutes, in nanoseconds -/
  idleWindow : Int := 300000000000
  /-- 64 bits in the source, taken not to wrap -/
  nextVersion : Nat := 1
  entries : AList fun _ : Key => CredentialSnapshotEntry := ∅

namespace CredentialSnapshotCache

variable {Key : Type*} [DecidableEq Key] (s : CredentialSnapshotCache Key) (cardKey : Key)
  (now touched : Int)

def set (e : CredentialSnapshotEntry) : CredentialSnapshotCache Key :=
  { s with entries := s.entries.insert cardKey e }

def invalidate : CredentialSnapshotCache Key :=
  { s with entries := s.entries.erase cardKey }

def liveEntry : CredentialSnapshotCache Key × Option CredentialSnapshotEntry :=
  match s.entries.lookup cardKey with
  | none => (s, none)
  | some e => if now - e.touchedAt > s.idleWindow then (s.invalidate cardKey, none) else (s, some e)

def put (snapshot : CredentialSnapshot) : CredentialSnapshotCache Key × Nat :=
  ({ s with
      nextVersion := s.nextVersion + 1
      entries := s.entries.insert cardKey
        { snapshot := { snapshot with version := s.nextVersion }, touchedAt := touched } },
    s.nextVersion)

def get : CredentialSnapshotCache Key × Option CredentialSnapshot :=
  match s.liveEntry cardKey now with
  | (s', none) => (s', none)
  | (s', some e) => (s'.set cardKey { e with touchedAt := touched }, some e.snapshot)

end CredentialSnapshotCache

/-! ## The methods, as an operation calls them -/

inductive CacheCall where
  | putCan (can : Bytes)
  | putMrz (mrz : Bytes)
  | getCan
  | getMrz
  | invalidateCredentials
  | markCredentialWrong
  | lastPromptYieldedNothingFor
  | noteLastPromptYieldedNothing (yieldedNothing : Bool)
  | noteRefusal (kind : RefusalKind)
  | refusalGenerationFor
  | lastRefusalKindFor
  | put (snapshot : CardReadSnapshot)
  | get
  | putCertificates (certs : List CertSnapshot)
  | getCertificates
  | invalidateReads
  | putSnapshot (snapshot : CredentialSnapshot)
  | getSnapshot
  | invalidateSnapshot

@[reducible] def CacheCall.Ans : CacheCall → Type
  | getCan | getMrz => Option Bytes
  | lastPromptYieldedNothingFor => Bool
  | refusalGenerationFor => Nat
  | lastRefusalKindFor => RefusalKind
  | get => Option CardReadSnapshot
  | getCertificates => Option (List CertSnapshot)
  | putSnapshot _ => Nat
  | getSnapshot => Option CredentialSnapshot
  | putCan _ | putMrz _ | invalidateCredentials | markCredentialWrong
  | noteLastPromptYieldedNothing _ | noteRefusal _
  | put _ | putCertificates _ | invalidateReads | invalidateSnapshot => Unit

structure CardCaches (Key : Type*) where
  credentials : CredentialCache Key := ∅
  reads : CardReadCache Key := {}
  snapshots : CredentialSnapshotCache Key := {}

namespace CardCaches

variable {Key : Type*} [DecidableEq Key] (s : CardCaches Key) (cardKey : Key) (now touched : Int)

def answer : (c : CacheCall) → CardCaches Key × c.Ans
  | .putCan can => ({ s with credentials := s.credentials.putCan cardKey can }, ())
  | .putMrz mrz => ({ s with credentials := s.credentials.putMrz cardKey mrz }, ())
  | .getCan => (s, s.credentials.getCan cardKey)
  | .getMrz => (s, s.credentials.getMrz cardKey)
  | .invalidateCredentials => ({ s with credentials := s.credentials.invalidate cardKey }, ())
  | .markCredentialWrong =>
    ({ s with credentials := s.credentials.markCredentialWrong cardKey }, ())
  | .lastPromptYieldedNothingFor => (s, s.credentials.lastPromptYieldedNothingFor cardKey)
  | .noteLastPromptYieldedNothing yieldedNothing =>
    ({ s with credentials := s.credentials.noteLastPromptYieldedNothing cardKey yieldedNothing },
      ())
  | .noteRefusal kind => ({ s with credentials := s.credentials.noteRefusal cardKey kind }, ())
  | .refusalGenerationFor => (s, s.credentials.refusalGenerationFor cardKey)
  | .lastRefusalKindFor => (s, s.credentials.lastRefusalKindFor cardKey)
  | .put snapshot => ({ s with reads := s.reads.put cardKey touched snapshot }, ())
  | .get =>
    let (reads, found) := s.reads.get cardKey now touched
    ({ s with reads }, found)
  | .putCertificates certs =>
    ({ s with reads := s.reads.putCertificates cardKey touched certs }, ())
  | .getCertificates =>
    let (reads, found) := s.reads.getCertificates cardKey now touched
    ({ s with reads }, found)
  | .invalidateReads => ({ s with reads := s.reads.invalidate cardKey }, ())
  | .putSnapshot snapshot =>
    let (snapshots, version) := s.snapshots.put cardKey touched snapshot
    ({ s with snapshots }, version)
  | .getSnapshot =>
    let (snapshots, found) := s.snapshots.get cardKey now touched
    ({ s with snapshots }, found)
  | .invalidateSnapshot => ({ s with snapshots := s.snapshots.invalidate cardKey }, ())

end CardCaches

/-! ## The removal of a card -/

/-- which cache `invalidateCardRemovalCaches` turns to next -/
inductive RemovalStage where
  | credentials
  | reads
  | snapshots
  deriving DecidableEq

def RemovalStage.next : RemovalStage → Option RemovalStage
  | .credentials => some .reads
  | .reads => some .snapshots
  | .snapshots => none

def CardCaches.invalidateAt {Key : Type*} [DecidableEq Key] (s : CardCaches Key) (cardPath : Key) :
    RemovalStage → CardCaches Key
  | .credentials => { s with credentials := s.credentials.invalidate cardPath }
  | .reads => { s with reads := s.reads.invalidate cardPath }
  | .snapshots => { s with snapshots := s.snapshots.invalidate cardPath }

/-! ## What a method leaves alone

The entries of another card. -/

section Frames
variable {Key : Type*} [DecidableEq Key] {cardKey other : Key} {now touched : Int}

def CardCaches.at (s : CardCaches Key) (key : Key) :
    Option CredentialEntry × Option CardReadEntry × Option CredentialSnapshotEntry :=
  (s.credentials.lookup key, s.reads.entries.lookup key, s.snapshots.entries.lookup key)

lemma CredentialCache.noteLastPromptYieldedNothing_of_ne (s : CredentialCache Key)
    (h : other ≠ cardKey) (yieldedNothing : Bool) :
    (s.noteLastPromptYieldedNothing cardKey yieldedNothing).lookup other = s.lookup other := by
  unfold noteLastPromptYieldedNothing
  split
  · exact lookup_insert_ne h
  · split
    · exact lookup_insert_ne h
    · rfl

lemma CardReadCache.liveEntry_of_ne (s : CardReadCache Key) (h : other ≠ cardKey) :
    (s.liveEntry cardKey now).1.entries.lookup other = s.entries.lookup other := by
  unfold liveEntry
  split
  · rfl
  · split
    · exact lookup_erase_ne h
    · rfl

lemma CardReadCache.getHalf_of_ne {α : Type*} (s : CardReadCache Key) (h : other ≠ cardKey)
    (half : CardReadEntry → Option α) :
    (s.getHalf cardKey now touched half).1.entries.lookup other = s.entries.lookup other := by
  have hl : (s.liveEntry cardKey now).1.entries.lookup other = s.entries.lookup other :=
    s.liveEntry_of_ne h
  unfold getHalf
  split
  · next s' heq => rwa [heq] at hl
  · next s' e heq =>
    rw [heq] at hl
    split
    · exact hl
    · exact (lookup_insert_ne h).trans hl

lemma CredentialSnapshotCache.get_of_ne (s : CredentialSnapshotCache Key) (h : other ≠ cardKey) :
    (s.get cardKey now touched).1.entries.lookup other = s.entries.lookup other := by
  have hl : (s.liveEntry cardKey now).1.entries.lookup other = s.entries.lookup other := by
    unfold liveEntry
    split
    · rfl
    · split
      · exact lookup_erase_ne h
      · rfl
  unfold get
  split
  · next s' heq => rwa [heq] at hl
  · next s' e heq =>
    rw [heq] at hl
    exact (lookup_insert_ne h).trans hl

lemma CardCaches.answer_of_ne (s : CardCaches Key) (h : other ≠ cardKey) (c : CacheCall) :
    (s.answer cardKey now touched c).1.at other = s.at other := by
  cases c with
  | getCan | getMrz | lastPromptYieldedNothingFor | refusalGenerationFor | lastRefusalKindFor => rfl
  | putCan | putMrz | markCredentialWrong | noteRefusal =>
    exact Prod.ext (lookup_insert_ne h) rfl
  | invalidateCredentials => exact Prod.ext (lookup_erase_ne h) rfl
  | noteLastPromptYieldedNothing yieldedNothing =>
    exact Prod.ext (s.credentials.noteLastPromptYieldedNothing_of_ne h yieldedNothing) rfl
  | put | putCertificates => exact Prod.ext rfl (Prod.ext (lookup_insert_ne h) rfl)
  | get | getCertificates => exact Prod.ext rfl (Prod.ext (s.reads.getHalf_of_ne h _) rfl)
  | invalidateReads => exact Prod.ext rfl (Prod.ext (lookup_erase_ne h) rfl)
  | putSnapshot => exact Prod.ext rfl (Prod.ext rfl (lookup_insert_ne h))
  | getSnapshot => exact Prod.ext rfl (Prod.ext rfl (s.snapshots.get_of_ne h))
  | invalidateSnapshot => exact Prod.ext rfl (Prod.ext rfl (lookup_erase_ne h))

lemma CardCaches.invalidateAt_of_ne (s : CardCaches Key) (h : other ≠ cardKey)
    (stage : RemovalStage) : (s.invalidateAt cardKey stage).at other = s.at other := by
  cases stage with
  | credentials => exact Prod.ext (lookup_erase_ne h) rfl
  | reads => exact Prod.ext rfl (Prod.ext (lookup_erase_ne h) rfl)
  | snapshots => exact Prod.ext rfl (Prod.ext rfl (lookup_erase_ne h))

end Frames

end LibreAgent.Cache
