import LibreAgent.Lib.Text
import Mathlib.Data.List.Sort

/-!
# The cached country-signing anchors

What the agent remembers between imports of master lists, and the directory it keeps it in.

* `AnchorState` : the trust state, with one record for each accepted publisher;
* `stateText`, `readState` : the state file, written and read.
-/

namespace LibreAgent.Trust

open Bytes Text List

/-! ## The trust state -/

def kSignerFingerprintSize : Nat := 32

abbrev SignerFingerprint := { b : Bytes // b.length = kSignerFingerprintSize }

inductive ImportRefusal where
  | notAMasterList
  | empty
  | malformed
  | badSignature
  | signerChanged
  | replayed
  | cacheNotWritable
  deriving DecidableEq

structure AcceptedSigner where
  fingerprint : SignerFingerprint
  identityEstablished : Bool
  signedAt : Option Int64
  deriving DecidableEq

structure RefusedList where
  reason : ImportRefusal
  signer : Option SignerFingerprint
  deriving DecidableEq

structure AnchorState where
  present : Bool := false
  signers : List AcceptedSigner := []
  anchorCount : UInt32 := 0
  issuerCount : UInt32 := 0
  listsOffered : UInt32 := 0
  refusedLists : List RefusedList := []
  acceptedAt : Int64 := 0
  deriving DecidableEq

def recordIn (signers : List AcceptedSigner) (fingerprint : SignerFingerprint) :
    Option AcceptedSigner :=
  signers.find? fun s => s.fingerprint = fingerprint

def AnchorState.recordFor (state : AnchorState) (fingerprint : SignerFingerprint) :
    Option AcceptedSigner :=
  recordIn state.signers fingerprint

/-! ## Values of the state file -/

def newline : UInt8 := 10

def comma : UInt8 := 44

def equals : UInt8 := 61

def toHex (fingerprint : SignerFingerprint) : Bytes :=
  Text.toHex fingerprint.val

def fingerprintFromHex (hex : Bytes) : Option SignerFingerprint :=
  (fromHex hex).bind fun b =>
    if h : b.length = kSignerFingerprintSize then some ⟨b, h⟩ else none

variable (value : Bytes)

def wholeInteger : Option Int64 :=
  (parseDecimalInt value).bind fun z =>
    if -2 ^ 63 ≤ z ∧ z < 2 ^ 63 then some (Int64.ofInt z) else none

/-- `strtoul`, cut to 32 bits -/
def strtoul : UInt32 :=
  if (leadingInt value).natAbs < 2 ^ 64 then UInt32.ofNat (leadingInt value % 2 ^ 32).toNat
  else UInt32.ofNat (2 ^ 64 - 1)

/-- `strtoll`, which stops at the ends of its range -/
def strtoll : Int64 :=
  Int64.ofInt (max (-2 ^ 63) (min (leadingInt value) (2 ^ 63 - 1)))

def kRefusalNames : List (ImportRefusal × Bytes) :=
  [(.notAMasterList, lit "notAMasterList"), (.empty, lit "empty"), (.malformed, lit "malformed"),
    (.badSignature, lit "badSignature"), (.signerChanged, lit "signerChanged"),
    (.replayed, lit "replayed"), (.cacheNotWritable, lit "cacheNotWritable")]

def refusalName (reason : ImportRefusal) : Bytes :=
  match kRefusalNames.find? fun e => e.1 = reason with
  | some e => e.2
  | none => lit "notAMasterList"

def refusalFromName (name : Bytes) : Option ImportRefusal :=
  (kRefusalNames.find? fun e => e.2 = name).map Prod.fst

def commaFields : List Bytes :=
  pieces comma value

/-! ## The state file -/

inductive StateKey where
  | publisher
  | refused
  | signer
  | signerPinned
  | anchors
  | issuers
  | offered
  | acceptedAt
  | signedAt
  deriving DecidableEq

namespace StateKey

def all : List StateKey :=
  [publisher, refused, signer, signerPinned, anchors, issuers, offered, acceptedAt, signedAt]

def name : StateKey → Bytes
  | publisher => lit "publisher"
  | refused => lit "refused"
  | signer => lit "signer"
  | signerPinned => lit "signerPinned"
  | anchors => lit "anchors"
  | issuers => lit "issuers"
  | offered => lit "offered"
  | acceptedAt => lit "acceptedAt"
  | signedAt => lit "signedAt"

def ofName (s : Bytes) : Option StateKey :=
  all.find? fun k => k.name = s

end StateKey

def publisherValue (signer : AcceptedSigner) : Bytes :=
  toHex signer.fingerprint ++ (if signer.identityEstablished then lit ",1" else lit ",0")
    ++ match signer.signedAt with
      | some t => comma :: decimalInt t.toInt
      | none => []

def refusedValue (refused : RefusedList) : Bytes :=
  refusalName refused.reason ++ match refused.signer with
    | some fingerprint => comma :: toHex fingerprint
    | none => lit ",-"

def countEntries (state : AnchorState) : List (StateKey × Bytes) :=
  [(.anchors, decimal state.anchorCount.toNat), (.issuers, decimal state.issuerCount.toNat),
    (.offered, decimal state.listsOffered.toNat), (.acceptedAt, decimalInt state.acceptedAt.toInt)]

def stateEntries (state : AnchorState) : List (StateKey × Bytes) :=
  countEntries state
  ++ state.signers.map (fun s => (.publisher, publisherValue s))
  ++ state.refusedLists.map (fun r => (.refused, refusedValue r))

def stateLine (p : StateKey × Bytes) : Bytes :=
  p.1.name ++ equals :: p.2

def stateText (state : AnchorState) : Bytes :=
  (stateEntries state).flatMap fun p => stateLine p ++ [newline]

def readEstablished (field : Bytes) : Option Bool :=
  if field = lit "1" then some true else if field = lit "0" then some false else none

def readPublisher : Option AcceptedSigner :=
  match commaFields value with
  | [hex, flag] => do
    let fingerprint ← fingerprintFromHex hex
    let identityEstablished ← readEstablished flag
    return ⟨fingerprint, identityEstablished, none⟩
  | [hex, flag, date] => do
    let fingerprint ← fingerprintFromHex hex
    let identityEstablished ← readEstablished flag
    let signedAt ← wholeInteger date
    return ⟨fingerprint, identityEstablished, some signedAt⟩
  | _ => none

def readRefused : Option RefusedList :=
  match commaFields value with
  | [name] => do
    let reason ← refusalFromName name
    return ⟨reason, none⟩
  | [name, hex] => do
    let reason ← refusalFromName name
    if hex = lit "-" then return ⟨reason, none⟩
    let signer ← fingerprintFromHex hex
    return ⟨reason, some signer⟩
  | _ => none

/-- the locals of the reading loop: the fields of the single-signer spelling are kept apart -/
structure Reading where
  out : AnchorState := {}
  unreadable : Bool := false
  legacySigner : Option SignerFingerprint := none
  legacyPinned : Bool := false
  legacySignedAt : Option Int64 := none
  legacySignedAtSeen : Bool := false

def takeEntry (r : Reading) (p : StateKey × Bytes) : Reading :=
  match p with
  | (.publisher, value) =>
    match readPublisher value with
    | some signer => { r with out := { r.out with signers := r.out.signers ++ [signer] } }
    | none => { r with unreadable := true }
  | (.refused, value) =>
    match readRefused value with
    | some refused =>
      { r with out := { r.out with refusedLists := r.out.refusedLists ++ [refused] } }
    | none => { r with unreadable := true }
  | (.signer, value) =>
    { r with
      legacySigner := fingerprintFromHex value
      unreadable := r.unreadable || (fingerprintFromHex value).isNone }
  | (.signerPinned, value) => { r with legacyPinned := value = lit "1" }
  | (.anchors, value) => { r with out := { r.out with anchorCount := strtoul value } }
  | (.issuers, value) => { r with out := { r.out with issuerCount := strtoul value } }
  | (.offered, value) => { r with out := { r.out with listsOffered := strtoul value } }
  | (.acceptedAt, value) => { r with out := { r.out with acceptedAt := strtoll value } }
  | (.signedAt, value) =>
    { r with
      legacySignedAt := wholeInteger value
      legacySignedAtSeen := true
      unreadable := r.unreadable || (wholeInteger value).isNone }

def withLegacy (r : Reading) : AnchorState :=
  match r.out.signers, r.legacySigner with
  | [], some fingerprint =>
    { r.out with
      signers := [⟨fingerprint, r.legacyPinned,
        if r.legacySignedAtSeen then r.legacySignedAt else none⟩]
      listsOffered := 1 }
  | _, _ => r.out

def finishReading (r : Reading) : AnchorState :=
  let out := withLegacy r
  if out.signers = [] ∨ r.unreadable then {}
  else if out.listsOffered.toNat < out.signers.length + out.refusedLists.length then {}
  else { out with present := true }

def readLine (line : Bytes) : Option (StateKey × Bytes) :=
  (cutAt equals line).bind fun p => (StateKey.ofName p.1).map fun k => (k, p.2)

def readState (text : Bytes) : AnchorState :=
  finishReading (((getlines newline text).filterMap readLine).foldl takeEntry {})

/-! ## The directory -/

def kAnchorSuffix : Bytes := lit ".cer"

/-- `%06zu` and the suffix -/
def anchorName (i : Nat) : Bytes :=
  List.replicate (6 - (decimal i).length) 48 ++ decimal i ++ kAnchorSuffix

/-- what the cache directory holds: the anchor files by name, and the state file if there is one -/
structure AnchorCache where
  anchorFiles : List (Bytes × Bytes)
  stateFile : Option Bytes

def AnchorCache.empty : AnchorCache := ⟨[], none⟩

def AnchorCache.state (cache : AnchorCache) : AnchorState :=
  match cache.stateFile with
  | none => {}
  | some text => readState text

def AnchorCache.anchors (cache : AnchorCache) : List Bytes :=
  (cache.anchorFiles.insertionSort fun a b => ¬ lexLess b.1 a.1).map Prod.snd

/-- where `replace` gives up -/
inductive Fault where
  /-- before the live directory is touched -/
  | staging
  /-- while it is removed, some of its files being left -/
  | removing (left : Bytes → Bool)
  /-- before the staged directory takes its place -/
  | installing
  /-- the state file does not open -/
  | opening
  /-- some of its bytes are not written -/
  | writing (written : Nat)

def AnchorCache.replace (cache : AnchorCache) (fault : Option Fault) (anchors : List Bytes)
    (state : AnchorState) : Bool × AnchorCache :=
  let files := anchors.mapIdx fun i a => (anchorName i, a)
  match fault with
  | none => (true, ⟨files, some (stateText state)⟩)
  | some .staging => (false, cache)
  | some (.removing left) =>
    (false, { cache with anchorFiles := cache.anchorFiles.filter fun f => left f.1 })
  | some .installing => (false, { cache with anchorFiles := [] })
  | some .opening => (false, { cache with anchorFiles := files })
  | some (.writing written) => (false, ⟨files, some ((stateText state).take written)⟩)

/-! ## The state file is read as it was written -/

variable (fingerprint : SignerFingerprint)

lemma fingerprintFromHex_toHex : fingerprintFromHex (toHex fingerprint) = some fingerprint := by
  rw [fingerprintFromHex, toHex, fromHex_toHex, Option.bind_some, dif_pos fingerprint.property]

lemma wholeInteger_decimalInt (t : Int64) : wholeInteger (decimalInt t.toInt) = some t := by
  have h1 : -2 ^ 63 ≤ t.toInt := t.le_toInt
  have h2 : t.toInt < 2 ^ 63 := t.toInt_lt
  rw [wholeInteger, parseDecimalInt_decimalInt, Option.bind_some, if_pos ⟨h1, h2⟩,
      Int64.ofInt_toInt]

lemma strtoll_decimalInt (t : Int64) : strtoll (decimalInt t.toInt) = t := by
  have h1 : -2 ^ 63 ≤ t.toInt := t.le_toInt
  have h2 : t.toInt < 2 ^ 63 := t.toInt_lt
  rw [strtoll, leadingInt_decimalInt, min_eq_left (by omega), max_eq_right h1, Int64.ofInt_toInt]

lemma strtoul_decimal (n : UInt32) : strtoul (decimal n.toNat) = n := by
  have hn : n.toNat < 2 ^ 32 := n.toNat_lt
  have hl : leadingInt (decimal n.toNat) = n.toNat := leadingInt_decimalInt n.toNat
  rw [strtoul, hl, if_pos (by omega)]
  have hm : ((n.toNat : Int) % 2 ^ 32).toNat = n.toNat := by omega
  rw [hm, UInt32.ofNat_toNat]

lemma refusalFromName_refusalName (reason : ImportRefusal) : refusalFromName (refusalName reason) =
    some reason := by
  cases reason <;> decide

def Plain (v : Bytes) : Prop :=
  newline ∉ v ∧ comma ∉ v

lemma plain_decimal (n : Nat) : Plain (decimal n) :=
  ⟨fun h => absurd (isDigit_of_mem_decimal h) (by decide),
    fun h => absurd (isDigit_of_mem_decimal h) (by decide)⟩

lemma plain_decimalInt (z : Int) : Plain (decimalInt z) := by
  obtain ⟨hn, hc⟩ := plain_decimal z.natAbs
  rw [decimalInt]
  split
  · refine ⟨fun h => ?_, fun h => ?_⟩
    · rcases mem_cons.mp h with h | h
      · exact absurd h (by decide)
      · exact hn h
    · rcases mem_cons.mp h with h | h
      · exact absurd h (by decide)
      · exact hc h
  · exact ⟨hn, hc⟩

lemma plain_toHex : Plain (toHex fingerprint) := by
  refine ⟨fun h => ?_, fun h => ?_⟩
  · obtain ⟨n, hn⟩ := hexValue_of_mem_toHex h
    exact absurd hn (by simp [hexValue, newline])
  · obtain ⟨n, hn⟩ := hexValue_of_mem_toHex h
    exact absurd hn (by simp [hexValue, comma])

lemma plain_refusalName (reason : ImportRefusal) : Plain (refusalName reason) := by
  cases reason <;> exact ⟨by decide, by decide⟩

lemma toHex_ne_dash : toHex fingerprint ≠ lit "-" := by
  intro h
  have hl := congrArg List.length h
  rw [toHex, length_toHex, fingerprint.property] at hl
  exact absurd hl (by decide)

lemma readPublisher_publisherValue (signer : AcceptedSigner) :
    readPublisher (publisherValue signer) = some signer := by
  obtain ⟨fingerprint, established, signedAt⟩ := signer
  have hh := (plain_toHex fingerprint).2
  have hf : ∀ b : Bool, readEstablished (if b then lit "1" else lit "0") = some b := by decide
  have hp : comma ∉ (if established then lit "1" else lit "0") := by cases established <;> decide
  have hs : (if established then lit ",1" else lit ",0") = comma ::
    (if established then lit "1" else lit "0") := by
    cases established <;> rfl
  cases signedAt with
  | none =>
    have hfi : commaFields (publisherValue ⟨fingerprint, established, none⟩)
        = [toHex fingerprint, if established then lit "1" else lit "0"] := by
      rw [commaFields, publisherValue, hs, append_nil, pieces_append_delim hh, pieces_of_not_mem hp]
    rw [readPublisher, hfi]
    simp [fingerprintFromHex_toHex, hf]
  | some t =>
    have hfi : commaFields (publisherValue ⟨fingerprint, established, some t⟩)
        = [toHex fingerprint, if established then lit "1" else lit "0", decimalInt t.toInt] := by
      rw [commaFields, publisherValue, hs, append_assoc, cons_append, pieces_append_delim hh,
        pieces_append_delim hp,
        pieces_of_not_mem (plain_decimalInt t.toInt).2]
    rw [readPublisher, hfi]
    simp [fingerprintFromHex_toHex, hf, wholeInteger_decimalInt]

variable (refused : RefusedList)

lemma readRefused_refusedValue : readRefused (refusedValue refused) = some refused := by
  obtain ⟨reason, signer⟩ := refused
  have hn := (plain_refusalName reason).2
  cases signer with
  | none =>
    have hf : commaFields (refusedValue ⟨reason, none⟩) = [refusalName reason, lit "-"] := by
      rw [commaFields, refusedValue]
      exact pieces_append_delim hn (lit "-")
    rw [readRefused, hf]
    simp [refusalFromName_refusalName]
  | some fingerprint =>
    have hf : commaFields (refusedValue ⟨reason, some fingerprint⟩) =
      [refusalName reason, toHex fingerprint] := by
      rw [commaFields, refusedValue]
      show pieces comma (refusalName reason ++ comma :: toHex fingerprint) = _
      rw [pieces_append_delim hn, pieces_of_not_mem (plain_toHex fingerprint).2]
    rw [readRefused, hf]
    simp [refusalFromName_refusalName, fingerprintFromHex_toHex, toHex_ne_dash]

/-! ### Lines -/

lemma readLine_stateLine (p : StateKey × Bytes) : readLine (stateLine p) = some p := by
  obtain ⟨k, v⟩ := p
  have hk : equals ∉ k.name := by cases k <;> decide
  have hn : StateKey.ofName k.name = some k := by
    cases k <;> simp [StateKey.ofName, StateKey.all, StateKey.name]
  rw [readLine, stateLine, cutAt_append hk, Option.bind_some, hn, Option.map_some]

lemma newline_not_mem_publisherValue (signer : AcceptedSigner) :
    newline ∉ publisherValue signer := by
  have hh := (plain_toHex signer.fingerprint).1
  rw [publisherValue, mem_append, mem_append]
  rintro ((h | h) | h)
  · exact hh h
  · revert h
    cases signer.identityEstablished <;> decide
  · cases ht : signer.signedAt with
    | none =>
      rw [ht] at h
      cases h
    | some t =>
      rw [ht] at h
      rcases mem_cons.mp h with h | h
      · exact absurd h (by decide)
      · exact (plain_decimalInt t.toInt).1 h

lemma newline_not_mem_refusedValue : newline ∉ refusedValue refused := by
  rw [refusedValue, mem_append]
  rintro (h | h)
  · exact (plain_refusalName refused.reason).1 h
  · cases hs : refused.signer with
    | none =>
      rw [hs] at h
      exact absurd h (by decide)
    | some fingerprint =>
      rw [hs] at h
      rcases mem_cons.mp h with h | h
      · exact absurd h (by decide)
      · exact (plain_toHex fingerprint).1 h

variable {state : AnchorState}

lemma newline_not_mem_stateLine {p : StateKey × Bytes} (h : p ∈ stateEntries state) :
    newline ∉ stateLine p := by
  have hv : newline ∉ p.2 := by
    rw [stateEntries, mem_append, mem_append, mem_map, mem_map] at h
    rcases h with (h | ⟨s, -, rfl⟩) | ⟨r, -, rfl⟩
    · simp only [countEntries, mem_cons, not_mem_nil, or_false] at h
      rcases h with rfl | rfl | rfl | rfl
      iterate 3 exact (plain_decimal _).1
      · exact (plain_decimalInt _).1
    · exact newline_not_mem_publisherValue s
    · exact newline_not_mem_refusedValue r
  have hk : newline ∉ p.1.name := by cases p.1 <;> decide
  rw [stateLine, mem_append, mem_cons]
  rintro (h | h | h)
  · exact hk h
  · exact absurd h (by decide)
  · exact hv h

lemma entries_stateText (state : AnchorState) :
    (getlines newline (stateText state)).filterMap readLine = stateEntries state := by
  rw [stateText, getlines_flatMap fun p hp => newline_not_mem_stateLine hp, List.filterMap_map]
  have hr : (readLine ∘ stateLine) = some := funext readLine_stateLine
  rw [hr, List.filterMap_some]

/-! ### The reading loop -/

lemma foldl_takeEntry_publishers (signers : List AcceptedSigner) (r : Reading) :
    (signers.map fun s => (StateKey.publisher, publisherValue s)).foldl takeEntry r
      = { r with out := { r.out with signers := r.out.signers ++ signers } } := by
  induction signers generalizing r with
  | nil => rw [append_nil]; rfl
  | cons s signers ih =>
    have hs : takeEntry r (.publisher, publisherValue s)
        = { r with out := { r.out with signers := r.out.signers ++ [s] } } := by
      rw [takeEntry, readPublisher_publisherValue]
    rw [map_cons, foldl_cons, hs, ih, append_assoc, singleton_append]

lemma foldl_takeEntry_refused (refused : List RefusedList) (r : Reading) :
    (refused.map fun l => (StateKey.refused, refusedValue l)).foldl takeEntry r
      = { r with out := { r.out with refusedLists := r.out.refusedLists ++ refused } } := by
  induction refused generalizing r with
  | nil => rw [append_nil]; rfl
  | cons l refused ih =>
    have hs : takeEntry r (.refused, refusedValue l)
        = { r with out := { r.out with refusedLists := r.out.refusedLists ++ [l] } } := by
      rw [takeEntry, readRefused_refusedValue]
    rw [map_cons, foldl_cons, hs, ih, append_assoc, singleton_append]

lemma foldl_takeEntry_stateEntries (state : AnchorState) :
    (stateEntries state).foldl takeEntry {} = { out := { state with present := false } } := by
  rw [stateEntries, foldl_append, foldl_append, foldl_takeEntry_publishers, foldl_takeEntry_refused]
  simp [countEntries, takeEntry, strtoul_decimal, strtoll_decimalInt]

/-- a state with a publisher comes back, if the count beside its records can carry them -/
lemma readState_stateText (hp : state.present = true) (hsi : state.signers ≠ []) :
    readState (stateText state)
      = if state.listsOffered.toNat < state.signers.length + state.refusedLists.length then {}
        else state := by
  rw [readState, entries_stateText, foldl_takeEntry_stateEntries, finishReading]
  have hl : withLegacy { out := { state with present := false } } =
    { state with present := false } := by
    cases hs : state.signers with
    | nil => exact absurd hs hsi
    | cons s signers => rfl
  rw [hl]
  simp only [hsi, Bool.false_eq_true, or_self, if_false]
  split
  · rfl
  · rw [← hp]

end LibreAgent.Trust
