import LibreAgent.Lib.Text

/-!
# The agent's configuration

The values, the file they are kept in and the calls that change them.  The file is line-oriented,
`key = value`; a list key has a line for each entry.

* `ConfigStore`, `Key` : the value set and its keys;
* `setTsaUrls` … `setDefaultLocation` : the mutations.

File operations that fail are left out: a file reads as it was written.
-/

namespace LibreAgent.Config

open Bytes Text

/-! ## Values -/

structure TslSource where
  url : Bytes
  isLotl : Bool
  eager : Bool
  deriving DecidableEq

structure CscaAnchorState where
  anchors : UInt32
  issuers : UInt32
  replayRefusalActive : Bool
  signer : Bytes
  signerPinned : Bool
  acceptedAt : Option Int64
  signedAt : Option Int64
  deriving DecidableEq

structure ConfigStore where
  cacheRoot : Bytes
  defaultLevel : Bytes
  tsaUrls : List Bytes
  lastTsaUrl : Bytes
  tslSources : List TslSource
  tslCacheDir : Bytes
  cscaCacheDir : Bytes
  cscaAnchorState : Option CscaAnchorState
  defaultReason : Bytes
  defaultLocation : Bytes
  pkcs11IdleTimeoutSecs : UInt32
  pkcs11MaxLifetimeSecs : UInt32

inductive Key where
  | defaultLevel
  | tsaUrls
  | lastTsaUrl
  | tslSources
  | tslCacheDir
  | cscaCacheDir
  | cscaAnchorState
  | defaultReason
  | defaultLocation
  | pkcs11IdleTimeoutSecs
  | pkcs11MaxLifetimeSecs
  deriving DecidableEq

namespace Key

/-- the order of `keys()` -/
def all : List Key :=
  [defaultLevel, tsaUrls, lastTsaUrl, tslSources, tslCacheDir, cscaCacheDir, cscaAnchorState,
    defaultReason, defaultLocation, pkcs11IdleTimeoutSecs, pkcs11MaxLifetimeSecs]

def name : Key → Bytes
  | defaultLevel => lit "DefaultLevel"
  | tsaUrls => lit "TsaUrls"
  | lastTsaUrl => lit "LastTsaUrl"
  | tslSources => lit "TslSources"
  | tslCacheDir => lit "TslCacheDir"
  | cscaCacheDir => lit "CscaCacheDir"
  | cscaAnchorState => lit "CscaAnchorState"
  | defaultReason => lit "DefaultReason"
  | defaultLocation => lit "DefaultLocation"
  | pkcs11IdleTimeoutSecs => lit "Pkcs11IdleTimeoutSecs"
  | pkcs11MaxLifetimeSecs => lit "Pkcs11MaxLifetimeSecs"

def fileName : Key → Bytes
  | tsaUrls => lit "TsaUrl"
  | tslSources => lit "TslSource"
  | k => k.name

def ofFileName (s : Bytes) : Option Key :=
  all.find? fun k => k.fileName = s

end Key

def kPkcs11IdleDefault : UInt32 := 600

def kPkcs11MaxLifetimeDefault : UInt32 := 28800

def kLevelDefault : Bytes := lit "b-b"

def kSignLevels : List Bytes :=
  [lit "b-b", lit "b-t", lit "b-lt", lit "b-lta"]

def isKnownLevel (level : Bytes) : Bool :=
  kSignLevels.contains level

def kTslSubdir : Bytes := lit "tsl"

def kCscaSubdir : Bytes := lit "csca"

/-- `path / name` -/
def joinPath (root sub : Bytes) : Bytes :=
  match root.getLast? with
  | none => sub
  | some c => if c = 47 then root ++ sub else root ++ 47 :: sub

def seededTsaUrls : List Bytes :=
  [lit "https://timestamp.sectigo.com", lit "https://timestamp.digicert.com",
      lit "https://ts.ssl.com"]

/-- no seeded source is fetched at startup -/
def seededTslSources : List TslSource :=
  [⟨lit "https://www.mit.gov.rs/TrustedList/TSL-RS.xml", false, false⟩,
    ⟨lit "https://ec.europa.eu/tools/lotl/eu-lotl.xml", true, false⟩]

/-! ## Text -/

def isSpace (c : UInt8) : Bool :=
  c == 32 || c == 9 || c == 13 || c == 10

def trim (s : Bytes) : Bytes :=
  Text.trim isSpace s

def newline : UInt8 := 10

def bar : UInt8 := 124

def equals : UInt8 := 61

def parseU32 (s : Bytes) : Option UInt32 :=
  (parseDecimal s).bind fun n => if n < 2 ^ 32 then some (UInt32.ofNat n) else none

def parseI64 (s : Bytes) : Option Int64 :=
  (parseDecimalInt s).bind fun z =>
    if -2 ^ 63 ≤ z ∧ z < 2 ^ 63 then some (Int64.ofInt z) else none

def isHttpUrl (url : Bytes) (allowPlainHttp : Bool) : Bool :=
  let authority : Option Bytes :=
    if (lit "http://").isPrefixOf url then
      if allowPlainHttp then some (url.drop (lit "http://").length) else none
    else if (lit "https://").isPrefixOf url then some (url.drop (lit "https://").length)
    else none
  match authority with
  | some (c :: _) => c != 47
  | _ => false

/-! ## The anchor report as one value -/

inductive AnchorField where
  | anchors
  | issuers
  | replayRefusalActive
  | signer
  | signerPinned
  | acceptedAt
  | signedAt
  deriving DecidableEq

namespace AnchorField

def all : List AnchorField :=
  [anchors, issuers, replayRefusalActive, signer, signerPinned, acceptedAt, signedAt]

def name : AnchorField → Bytes
  | anchors => lit "anchors"
  | issuers => lit "issuers"
  | replayRefusalActive => lit "replayRefusalActive"
  | signer => lit "signer"
  | signerPinned => lit "signerPinned"
  | acceptedAt => lit "acceptedAt"
  | signedAt => lit "signedAt"

def ofName (s : Bytes) : Option AnchorField :=
  all.find? fun f => f.name = s

end AnchorField

def boolText (b : Bool) : Bytes :=
  if b then lit "true" else lit "false"

def anchorFields (state : CscaAnchorState) : List (AnchorField × Bytes) :=
  [(.anchors, decimal state.anchors.toNat), (.issuers, decimal state.issuers.toNat),
    (.replayRefusalActive, boolText state.replayRefusalActive)]
  ++ (if state.signer = [] then [] else [(.signer, state.signer)])
  ++ [(.signerPinned, boolText state.signerPinned)]
  ++ (state.acceptedAt.map fun t => (AnchorField.acceptedAt, decimalInt t.toInt)).toList
  ++ (state.signedAt.map fun t => (AnchorField.signedAt, decimalInt t.toInt)).toList

def encodeCscaAnchorState (state : CscaAnchorState) : Bytes :=
  [bar].intercalate ((anchorFields state).map fun p => p.1.name ++ equals :: p.2)

def setAnchorField (state : CscaAnchorState) (raw : Bytes) : AnchorField → Option CscaAnchorState
  | .anchors => (parseU32 raw).map fun n => { state with anchors := n }
  | .issuers => (parseU32 raw).map fun n => { state with issuers := n }
  | .replayRefusalActive => some { state with replayRefusalActive := raw = lit "true" }
  | .signer => some { state with signer := raw }
  | .signerPinned => some { state with signerPinned := raw = lit "true" }
  | .acceptedAt => (parseI64 raw).map fun n => { state with acceptedAt := some n }
  | .signedAt => (parseI64 raw).map fun n => { state with signedAt := some n }

def parseAnchorField (field : Bytes) : Option (AnchorField × Bytes) :=
  (cutAt equals field).bind fun p =>
    (AnchorField.ofName (trim p.1)).map fun f => (f, trim p.2)

def takeAnchorField (acc : CscaAnchorState × Bool) (p : AnchorField × Bytes) :
    CscaAnchorState × Bool :=
  match setAnchorField acc.1 p.2 p.1 with
  | some state => (state, true)
  | none => acc

def parseCscaAnchorState (value : Bytes) : Option CscaAnchorState :=
  let out := ((getlines bar value).filterMap parseAnchorField).foldl takeAnchorField
    (⟨0, 0, false, [], false, none, none⟩, false)
  if out.2 then some out.1 else none

/-! ## The file -/

def encodeTslSource (s : TslSource) : Bytes :=
  s.url ++ (if s.isLotl then bar :: lit "lotl" else []) ++
    (if s.eager then bar :: lit "eager" else [])

def takeTslFlag (s : TslSource) (field : Bytes) : TslSource :=
  if field = lit "lotl" then { s with isLotl := true }
  else if field = lit "eager" then { s with eager := true }
  else s

/-- `url[|lotl][|eager]` -/
def parseTslSource (value : Bytes) : TslSource :=
  match getlines bar value with
  | [] => ⟨[], false, false⟩
  | url :: flags => flags.foldl takeTslFlag ⟨url, false, false⟩

def applyDefaults (cacheRoot : Bytes) : ConfigStore where
  cacheRoot := cacheRoot
  defaultLevel := kLevelDefault
  tsaUrls := []
  lastTsaUrl := []
  tslSources := []
  tslCacheDir := joinPath cacheRoot kTslSubdir
  cscaCacheDir := joinPath cacheRoot kCscaSubdir
  cscaAnchorState := none
  defaultReason := []
  defaultLocation := []
  pkcs11IdleTimeoutSecs := kPkcs11IdleDefault
  pkcs11MaxLifetimeSecs := kPkcs11MaxLifetimeDefault

def assign (st : ConfigStore) (p : Key × Bytes) : ConfigStore :=
  match p with
  | (.defaultLevel, value) => if isKnownLevel value then { st with defaultLevel := value } else st
  | (.tsaUrls, value) =>
    if isHttpUrl value false then { st with tsaUrls := st.tsaUrls ++ [value] } else st
  | (.lastTsaUrl, value) => { st with lastTsaUrl := value }
  | (.tslSources, value) =>
    if isHttpUrl (parseTslSource value).url false then
      { st with tslSources := st.tslSources ++ [parseTslSource value] }
    else st
  | (.tslCacheDir, value) => if value = [] then st else { st with tslCacheDir := value }
  | (.cscaCacheDir, value) => if value = [] then st else { st with cscaCacheDir := value }
  | (.cscaAnchorState, value) => { st with cscaAnchorState := parseCscaAnchorState value }
  | (.defaultReason, value) => { st with defaultReason := value }
  | (.defaultLocation, value) => { st with defaultLocation := value }
  | (.pkcs11IdleTimeoutSecs, value) =>
    match parseU32 value with
    | some n => { st with pkcs11IdleTimeoutSecs := n }
    | none => st
  | (.pkcs11MaxLifetimeSecs, value) =>
    match parseU32 value with
    | some n => { st with pkcs11MaxLifetimeSecs := n }
    | none => st

/-- a line that assigns: blank lines, comments, lines without `=` and unknown keys are skipped -/
def parseLine (line : Bytes) : Option (Key × Bytes) :=
  let trimmed := trim line
  if trimmed = [] ∨ trimmed.head? = some 35 then none
  else (cutAt equals trimmed).bind fun p =>
    (Key.ofFileName (trim p.1)).map fun k => (k, trim p.2)

def loadFromFile (st : ConfigStore) (text : Bytes) : ConfigStore :=
  ((getlines newline text).filterMap parseLine).foldl assign
    { st with tsaUrls := [], tslSources := [] }

def entryUnless {α : Type} [DecidableEq α] (k : Key) (render : α → Bytes) (value default : α) :
    List (Key × Bytes) :=
  if value = default then [] else [(k, render value)]

section Entries
variable (st : ConfigStore)

def cacheEntries : List (Key × Bytes) :=
  entryUnless .tslCacheDir id st.tslCacheDir (joinPath st.cacheRoot kTslSubdir)
  ++ entryUnless .cscaCacheDir id st.cscaCacheDir (joinPath st.cacheRoot kCscaSubdir)
  ++ (st.cscaAnchorState.map fun a => (Key.cscaAnchorState, encodeCscaAnchorState a)).toList

def frontEntries : List (Key × Bytes) :=
  entryUnless .defaultLevel id st.defaultLevel kLevelDefault
  ++ st.tsaUrls.map (fun u => (.tsaUrls, u))
  ++ entryUnless .lastTsaUrl id st.lastTsaUrl []
  ++ st.tslSources.map (fun s => (.tslSources, encodeTslSource s))
  ++ cacheEntries st

def textEntries : List (Key × Bytes) :=
  entryUnless .defaultReason id st.defaultReason [] ++
    entryUnless .defaultLocation id st.defaultLocation []

def leaseEntries : List (Key × Bytes) :=
  entryUnless .pkcs11IdleTimeoutSecs (fun n => decimal n.toNat) st.pkcs11IdleTimeoutSecs
    kPkcs11IdleDefault
  ++ entryUnless .pkcs11MaxLifetimeSecs (fun n => decimal n.toNat) st.pkcs11MaxLifetimeSecs
      kPkcs11MaxLifetimeDefault

/-- the entries that `persist` writes, in order -/
def fileEntries : List (Key × Bytes) :=
  frontEntries st ++ (textEntries st ++ leaseEntries st)

end Entries

def fileHeader : Bytes :=
  lit "# LibreSCRS agent signing configuration (auto-managed; Config1)"

def fileLine (p : Key × Bytes) : Bytes :=
  p.1.fileName ++ lit " = " ++ p.2

/-- the text that `persist` writes -/
def persist (st : ConfigStore) : Bytes :=
  fileHeader ++ newline :: (fileEntries st).flatMap fun p => fileLine p ++ [newline]

/-- the constructor over a file that may be missing, and the file afterwards -/
def ConfigStore.construct (file : Option Bytes) (cacheRoot : Bytes) : ConfigStore × Bytes :=
  match file with
  | some text => (loadFromFile (applyDefaults cacheRoot) text, text)
  | none =>
    -- a first start seeds the two lists, and writes them before it loads
    let st := { applyDefaults cacheRoot with
      tsaUrls := seededTsaUrls
      tslSources := seededTslSources }
    (loadFromFile st (persist st), persist st)

/-! ## Mutations

A mutation that succeeds is followed by `persist`. -/

structure SetResult where
  ok : Bool
  errorName : Bytes
  message : Bytes

def accepted : SetResult := ⟨true, [], []⟩

def kErrInvalidValue : Bytes := lit "org.librescrs.Agent.Error.InvalidConfigValue"

namespace ConfigStore

def setTsaUrls (st : ConfigStore) (urls : List Bytes) : SetResult × ConfigStore :=
  if urls.all fun u => isHttpUrl u false then (accepted, { st with tsaUrls := urls })
  else (⟨false, kErrInvalidValue, lit "TsaUrls entries must be https URLs"⟩, st)

def setTslSources (st : ConfigStore) (sources : List TslSource) : SetResult × ConfigStore :=
  if sources.all fun s => isHttpUrl s.url false then (accepted, { st with tslSources := sources })
  else (⟨false, kErrInvalidValue, lit "TslSources entries must be https URLs"⟩, st)

def setDefaultReason (st : ConfigStore) (reason : Bytes) : SetResult × ConfigStore :=
  (accepted, { st with defaultReason := reason })

def setDefaultLocation (st : ConfigStore) (location : Bytes) : SetResult × ConfigStore :=
  (accepted, { st with defaultLocation := location })

end ConfigStore

end LibreAgent.Config
