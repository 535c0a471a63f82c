import LibreAgent.Config.ConfigStore

/-!
# The configuration file, line by line

What a file that `persist` wrote assigns when it is read again.

* `assignments_persist` : each entry assigns its key, and every further line of a value that has
  newlines is read as a line of its own (`injected`);
* `levelOf` … `locationOf` : what an assignment does to each field, and `loadFromFile_assigned` :
  the fields after a load; the last assignment wins, the two lists collect;
* `Clean` : the values that a line can carry, `clean_of_assigned` : all a load ever assigns;
* `parseCscaAnchorState_encode` : the anchor report as a value;
* `tslSourceOf_encode` : a trusted-list source as a value.
-/

namespace LibreAgent.Config

open Bytes Text List Option ConfigStore

/-! ## Lines -/

lemma ofFileName_fileName (k : Key) : Key.ofFileName k.fileName = some k := by
  cases k <;> simp [Key.ofFileName, Key.all, Key.fileName, Key.name]

lemma newline_not_mem_fileName (k : Key) : newline ∉ k.fileName ++ lit " = " := by
  cases k <;> decide

lemma equals_not_mem_fileName (k : Key) : equals ∉ k.fileName ++ [32] := by
  cases k <;> decide

lemma fileName_cons (k : Key) : ∃ c t, k.fileName = c :: t ∧ ¬ isSpace c ∧ c ≠ 35 := by
  cases k <;> exact ⟨_, _, rfl, by decide, by decide⟩

lemma trim_fileName (k : Key) : trim (k.fileName ++ [32]) = k.fileName := by
  cases k <;> decide

lemma parseLine_fileLine (k : Key) (v : Bytes) : parseLine (k.fileName ++ lit " = " ++ v) =
    some (k, trim v) := by
  obtain ⟨c, t, hk, hc, hh⟩ := fileName_cons k
  have heq : ¬ isSpace equals := by decide
  have ht : trim (k.fileName ++ lit " = " ++ v) = (k.fileName ++ [32]) ++ equals ::
    (32 :: v).rdropWhile isSpace := by
    have hs : k.fileName ++ lit " = " ++ v = c :: ((t ++ [32]) ++ equals :: (32 :: v)) := by
      rw [hk]
      show c :: t ++ [32, equals, 32] ++ v = _
      simp
    rw [hs, trim, trim_cons_neg hc, rdropWhile_append_neg heq, hk]
    rfl
  have hne : ¬ (trim (k.fileName ++ lit " = " ++ v) = [] ∨
      (trim (k.fileName ++ lit " = " ++ v)).head? = some 35) := by
    rw [ht, hk]
    simp [hh]
  rw [parseLine]
  simp only [if_neg hne]
  rw [ht, cutAt_append (equals_not_mem_fileName k), bind_some, trim_fileName,
    ofFileName_fileName, map_some, trim, trim_rdropWhile, trim_cons_pos (by decide), trim]

def injected (v : Bytes) : List (Key × Bytes) :=
  (later newline v).filterMap parseLine

def entryAssigns (p : Key × Bytes) : List (Key × Bytes) :=
  (p.1, trim ((pieces newline p.2).headD [])) :: injected p.2

def assignments (text : Bytes) : List (Key × Bytes) :=
  (getlines newline text).filterMap parseLine

lemma assignments_entries (E : List (Key × Bytes)) :
    assignments (E.flatMap fun p => fileLine p ++ [newline]) = E.flatMap entryAssigns := by
  induction E with
  | nil => rfl
  | cons p E ih =>
    rw [assignments] at ih ⊢
    rw [List.flatMap_cons, append_assoc, singleton_append, getlines_append, fileLine,
      pieces_append (newline_not_mem_fileName p.1), List.filterMap_append, ih,
      List.filterMap_cons_some (parseLine_fileLine p.1 _), List.flatMap_cons]
    rfl

lemma assignments_persist (st : ConfigStore) : assignments (persist st) =
    (fileEntries st).flatMap entryAssigns := by
  have hh : pieces newline fileHeader = [fileHeader] := pieces_of_not_mem (by decide)
  have hs : parseLine fileHeader = none := by decide
  rw [← assignments_entries, assignments, persist, getlines_append, hh, singleton_append,
    List.filterMap_cons_none hs, assignments]

/-! ## Values that a line can carry -/

structure Clean (v : Bytes) : Prop where
  noNewline : newline ∉ v
  trimmed : trim v = v

variable {v value : Bytes} {p : Key × Bytes} {c : UInt8} {τ : Type} {k : Key} {a : CscaAnchorState}
  {s : TslSource}

lemma injected_of_not_mem (h : newline ∉ v) : injected v = [] := by
  rw [injected, later_of_not_mem h]
  rfl

lemma Clean.entryAssigns (h : Clean v) (k : Key) : entryAssigns (k, v) = [(k, v)] := by
  rw [Config.entryAssigns, injected_of_not_mem h.noNewline, pieces_of_not_mem h.noNewline,
    List.headD_cons, h.trimmed]

lemma entryAssigns_of_not_mem (h : newline ∉ p.2) : entryAssigns p = [(p.1, trim p.2)] := by
  rw [entryAssigns, injected_of_not_mem h, pieces_of_not_mem h, List.headD_cons]

lemma clean_trim (h : newline ∉ v) : Clean (trim v) :=
  ⟨fun hm => h (mem_of_mem_trim hm), trim_trim v⟩

lemma clean_of_assigned {text : Bytes} (h : p ∈ assignments text) : Clean p.2 := by
  obtain ⟨line, hl, hp⟩ := mem_filterMap.mp h
  have hnl := not_mem_getlines hl
  rw [parseLine] at hp
  split at hp
  · cases hp
  · rw [bind_eq_some_iff] at hp
    obtain ⟨⟨a, b⟩, hc, hk⟩ := hp
    rw [map_eq_some_iff] at hk
    obtain ⟨k, -, rfl⟩ := hk
    apply clean_trim
    intro hm
    have hme : newline ∈ trim line := by
      rw [eq_of_cutAt hc]
      exact mem_append_right _ (mem_cons_of_mem _ hm)
    exact hnl (mem_of_mem_trim hme)

lemma clean_nil : Clean [] := ⟨not_mem_nil, rfl⟩

lemma isSpace_of_isDigit (h : isDigit c = true) : ¬ isSpace c ∧ c ≠ newline := by
  rw [isDigit, Bool.and_eq_true, decide_eq_true_eq, decide_eq_true_eq] at h
  have h1 : 48 ≤ c.toNat := h.1
  have hne : ∀ d : UInt8, d.toNat < 48 → c ≠ d := by
    intro d hd e
    rw [e] at h1
    omega
  constructor
  · simp [isSpace, hne 32 (by decide), hne 9 (by decide), hne 13 (by decide), hne 10 (by decide)]
  · exact hne newline (by decide)

lemma clean_decimal (n : Nat) : Clean (decimal n) :=
  ⟨fun h => (isSpace_of_isDigit (isDigit_of_mem_decimal h)).2 rfl,
    trim_of_forall fun _ hc => (isSpace_of_isDigit (isDigit_of_mem_decimal hc)).1⟩

lemma clean_of_isKnownLevel (h : isKnownLevel v = true) : Clean v := by
  rw [isKnownLevel, contains_iff_mem] at h
  simp only [kSignLevels, mem_cons, not_mem_nil, or_false] at h
  rcases h with rfl | rfl | rfl | rfl <;> exact ⟨by decide, by decide⟩

/-! ## Fields after a load -/

/-- what an assignment says about a field that the key `k` sets to what `f` reads -/
def keyed {τ : Type} (k : Key) (f : Bytes → Option τ) (p : Key × Bytes) : Option τ :=
  if p.1 = k then f p.2 else none

lemma keyed_self (k : Key) (f : Bytes → Option τ) (v : Bytes) : keyed k f (k, v) = f v := if_pos rfl

lemma keyed_ne {f : Bytes → Option τ} (h : p.1 ≠ k) : keyed k f p = none := if_neg h

lemma of_keyed {f : Bytes → Option τ} {x : τ} (h : keyed k f p = some x) : f p.2 = some x := by
  rw [keyed] at h
  split at h
  · exact h
  · cases h

def levelOf : Key × Bytes → Option Bytes :=
  keyed .defaultLevel fun v => if isKnownLevel v then some v else none

def tsaUrlOf : Key × Bytes → Option Bytes :=
  keyed .tsaUrls fun v => if isHttpUrl v false then some v else none

def lastTsaUrlOf : Key × Bytes → Option Bytes :=
  keyed .lastTsaUrl some

def tslSourceOf : Key × Bytes → Option TslSource :=
  keyed .tslSources fun v =>
    if isHttpUrl (parseTslSource v).url false then some (parseTslSource v) else none

def nonEmpty (v : Bytes) : Option Bytes :=
  if v = [] then none else some v

def tslCacheDirOf : Key × Bytes → Option Bytes :=
  keyed .tslCacheDir nonEmpty

def cscaCacheDirOf : Key × Bytes → Option Bytes :=
  keyed .cscaCacheDir nonEmpty

def anchorStateOf : Key × Bytes → Option (Option CscaAnchorState) :=
  keyed .cscaAnchorState fun v => some (parseCscaAnchorState v)

def reasonOf : Key × Bytes → Option Bytes :=
  keyed .defaultReason some

def locationOf : Key × Bytes → Option Bytes :=
  keyed .defaultLocation some

def idleTimeoutOf : Key × Bytes → Option UInt32 :=
  keyed .pkcs11IdleTimeoutSecs parseU32

def maxLifetimeOf : Key × Bytes → Option UInt32 :=
  keyed .pkcs11MaxLifetimeSecs parseU32

/-- the fields of a store after some assignments: the last one of a key wins, the lists collect -/
structure AssignedBy (as : List (Key × Bytes)) (base st : ConfigStore) : Prop where
  cacheRoot : st.cacheRoot = base.cacheRoot
  level : st.defaultLevel = (as.filterMap levelOf).getLastD base.defaultLevel
  tsaUrls : st.tsaUrls = as.filterMap tsaUrlOf
  lastTsaUrl : st.lastTsaUrl = (as.filterMap lastTsaUrlOf).getLastD base.lastTsaUrl
  tslSources : st.tslSources = as.filterMap tslSourceOf
  tslCacheDir : st.tslCacheDir = (as.filterMap tslCacheDirOf).getLastD base.tslCacheDir
  cscaCacheDir : st.cscaCacheDir = (as.filterMap cscaCacheDirOf).getLastD base.cscaCacheDir
  anchorState : st.cscaAnchorState = (as.filterMap anchorStateOf).getLastD base.cscaAnchorState
  reason : st.defaultReason = (as.filterMap reasonOf).getLastD base.defaultReason
  location : st.defaultLocation = (as.filterMap locationOf).getLastD base.defaultLocation
  idleTimeout : st.pkcs11IdleTimeoutSecs
    = (as.filterMap idleTimeoutOf).getLastD base.pkcs11IdleTimeoutSecs
  maxLifetime : st.pkcs11MaxLifetimeSecs
    = (as.filterMap maxLifetimeOf).getLastD base.pkcs11MaxLifetimeSecs

structure AssignStep (p : Key × Bytes) (s t : ConfigStore) : Prop where
  cacheRoot : t.cacheRoot = s.cacheRoot
  level : t.defaultLevel = (levelOf p).getD s.defaultLevel
  tsaUrls : t.tsaUrls = s.tsaUrls ++ (tsaUrlOf p).toList
  lastTsaUrl : t.lastTsaUrl = (lastTsaUrlOf p).getD s.lastTsaUrl
  tslSources : t.tslSources = s.tslSources ++ (tslSourceOf p).toList
  tslCacheDir : t.tslCacheDir = (tslCacheDirOf p).getD s.tslCacheDir
  cscaCacheDir : t.cscaCacheDir = (cscaCacheDirOf p).getD s.cscaCacheDir
  anchorState : t.cscaAnchorState = (anchorStateOf p).getD s.cscaAnchorState
  reason : t.defaultReason = (reasonOf p).getD s.defaultReason
  location : t.defaultLocation = (locationOf p).getD s.defaultLocation
  idleTimeout : t.pkcs11IdleTimeoutSecs = (idleTimeoutOf p).getD s.pkcs11IdleTimeoutSecs
  maxLifetime : t.pkcs11MaxLifetimeSecs = (maxLifetimeOf p).getD s.pkcs11MaxLifetimeSecs

lemma assign_step (s : ConfigStore) (p : Key × Bytes) : AssignStep p s (assign s p) := by
  obtain ⟨k, v⟩ := p
  cases k <;> constructor <;>
    simp only [assign, levelOf, tsaUrlOf, lastTsaUrlOf, tslSourceOf, tslCacheDirOf, cscaCacheDirOf,
      anchorStateOf, reasonOf, locationOf, idleTimeoutOf, maxLifetimeOf, keyed, nonEmpty,
        reduceCtorEq,
      if_true, if_false] <;>
    (try split) <;> simp_all

lemma foldl_assign_cacheRoot (as : List (Key × Bytes)) (s : ConfigStore) :
    (as.foldl assign s).cacheRoot = s.cacheRoot := by
  induction as generalizing s with
  | nil => rfl
  | cons p as ih => rw [foldl_cons, ih, (assign_step s p).cacheRoot]

lemma loadFromFile_assigned (st : ConfigStore) (text : Bytes) :
    AssignedBy (assignments text) st (loadFromFile st text) where
  cacheRoot := foldl_assign_cacheRoot _ _
  level := foldl_last defaultLevel levelOf (fun s p => (assign_step s p).level) _ _
  tsaUrls := foldl_collect tsaUrls tsaUrlOf (fun s p => (assign_step s p).tsaUrls) _ _
  lastTsaUrl := foldl_last lastTsaUrl lastTsaUrlOf (fun s p => (assign_step s p).lastTsaUrl) _ _
  tslSources := foldl_collect tslSources tslSourceOf (fun s p => (assign_step s p).tslSources) _ _
  tslCacheDir := foldl_last tslCacheDir tslCacheDirOf (fun s p => (assign_step s p).tslCacheDir) _ _
  cscaCacheDir := foldl_last cscaCacheDir cscaCacheDirOf
    (fun s p => (assign_step s p).cscaCacheDir) _ _
  anchorState := foldl_last cscaAnchorState anchorStateOf
    (fun s p => (assign_step s p).anchorState) _ _
  reason := foldl_last defaultReason reasonOf (fun s p => (assign_step s p).reason) _ _
  location := foldl_last defaultLocation locationOf (fun s p => (assign_step s p).location) _ _
  idleTimeout := foldl_last pkcs11IdleTimeoutSecs idleTimeoutOf
    (fun s p => (assign_step s p).idleTimeout) _ _
  maxLifetime := foldl_last pkcs11MaxLifetimeSecs maxLifetimeOf
    (fun s p => (assign_step s p).maxLifetime) _ _

/-! ## Numbers -/

lemma parseU32_decimal (n : UInt32) : parseU32 (decimal n.toNat) = some n := by
  rw [parseU32, parseDecimal_decimal, bind_some, if_pos n.toNat_lt, UInt32.ofNat_toNat]

lemma parseI64_decimalInt (z : Int64) : parseI64 (decimalInt z.toInt) = some z := by
  have h1 : -2 ^ 63 ≤ z.toInt := z.le_toInt
  have h2 : z.toInt < 2 ^ 63 := z.toInt_lt
  rw [parseI64, parseDecimalInt_decimalInt, bind_some, if_pos ⟨h1, h2⟩, Int64.ofInt_toInt]

/-! ## The anchor report -/

lemma ofName_name (f : AnchorField) : AnchorField.ofName f.name = some f := by
  cases f <;> simp [AnchorField.ofName, AnchorField.all, AnchorField.name]

lemma anchorField_name (f : AnchorField) : equals ∉ f.name ∧ bar ∉ f.name ∧ newline ∉ f.name ∧
    trim f.name = f.name := by
  cases f <;> exact ⟨by decide, by decide, by decide, by decide⟩

lemma parseAnchorField_encode (f : AnchorField) (v : Bytes) :
    parseAnchorField (f.name ++ equals :: v) = some (f, trim v) := by
  obtain ⟨heq, -, -, ht⟩ := anchorField_name f
  rw [parseAnchorField, cutAt_append heq, bind_some, ht, ofName_name, map_some]

/-- a value of a subfield: no separator, no newline, no spaces around it -/
structure SubfieldOk (v : Bytes) : Prop where
  clean : Clean v
  noBar : bar ∉ v

lemma bar_ne_of_isDigit (h : isDigit c = true) : c ≠ bar := by
  rw [isDigit, Bool.and_eq_true, decide_eq_true_eq, decide_eq_true_eq] at h
  intro e
  rw [e] at h
  exact absurd h.2 (by decide)

lemma subfieldOk_decimal (n : Nat) : SubfieldOk (decimal n) :=
  ⟨clean_decimal n, fun h => bar_ne_of_isDigit (isDigit_of_mem_decimal h) rfl⟩

lemma subfieldOk_decimalInt (z : Int) : SubfieldOk (decimalInt z) := by
  rw [decimalInt]
  split
  · have hd := subfieldOk_decimal z.natAbs
    refine ⟨⟨?_, ?_⟩, ?_⟩
    · intro h
      rcases mem_cons.mp h with h | h
      · exact absurd h (by decide)
      · exact hd.clean.noNewline h
    · refine trim_of_forall fun c hc => ?_
      rcases mem_cons.mp hc with rfl | hc
      · decide
      · exact (isSpace_of_isDigit (isDigit_of_mem_decimal hc)).1
    · intro h
      rcases mem_cons.mp h with h | h
      · exact absurd h (by decide)
      · exact hd.noBar h
  · exact subfieldOk_decimal _

lemma subfieldOk_boolText (b : Bool) : SubfieldOk (boolText b) := by
  cases b <;> exact ⟨⟨by decide, by decide⟩, by decide⟩

lemma subfieldOk_anchorFields (h : SubfieldOk a.signer)
    {p : AnchorField × Bytes} (hp : p ∈ anchorFields a) : SubfieldOk p.2 := by
  simp only [anchorFields, mem_append, mem_cons, not_mem_nil, or_false, mem_toList,
      map_eq_some_iff] at hp
  rcases hp with (((((rfl | rfl | rfl) | hp) | rfl) | ⟨t, -, rfl⟩) | ⟨t, -, rfl⟩)
  · exact subfieldOk_decimal _
  · exact subfieldOk_decimal _
  · exact subfieldOk_boolText _
  · split at hp
    · cases hp
    · rw [mem_singleton.mp hp]
      exact h
  · exact subfieldOk_boolText _
  · exact subfieldOk_decimalInt _
  · exact subfieldOk_decimalInt _

lemma anchorFields_last (a : CscaAnchorState) : ∃ l f v, anchorFields a = l ++ [(f, v)] ∧
    ∀ c ∈ v, ¬ isSpace c := by
  have hint : ∀ z : Int, ∀ c ∈ decimalInt z, ¬ isSpace c := by
    intro z c hc
    rw [decimalInt] at hc
    split at hc
    · rcases mem_cons.mp hc with rfl | hc
      · decide
      · exact (isSpace_of_isDigit (isDigit_of_mem_decimal hc)).1
    · exact (isSpace_of_isDigit (isDigit_of_mem_decimal hc)).1
  obtain ⟨anchors, issuers, replay, signer, pinned, acceptedAt, signedAt⟩ := a
  cases signedAt with
  | some t => exact ⟨_, _, _, rfl, hint t.toInt⟩
  | none =>
    cases acceptedAt with
    | some t => exact ⟨_, _, _, append_nil _, hint t.toInt⟩
    | none =>
      refine ⟨_, _, _, (append_nil _).trans (append_nil _), ?_⟩
      show ∀ c ∈ boolText pinned, ¬ isSpace c
      cases pinned <;> decide +kernel

lemma clean_encodeCscaAnchorState (h : SubfieldOk a.signer) : Clean (encodeCscaAnchorState a) := by
  constructor
  · intro hm
    rcases mem_intercalate hm with hm | ⟨s, hs, hm⟩
    · exact absurd hm (by decide)
    · obtain ⟨p, hp, rfl⟩ := mem_map.mp hs
      rcases mem_append.mp hm with hm | hm
      · exact (anchorField_name p.1).2.2.1 hm
      · rcases mem_cons.mp hm with hm | hm
        · exact absurd hm (by decide)
        · exact (subfieldOk_anchorFields h hp).clean.noNewline hm
  · obtain ⟨l, f, v, hl, hv⟩ := anchorFields_last a
    obtain ⟨p, hp⟩ :=
      intercalate_concat bar (l.map fun p => p.1.name ++ equals :: p.2) (f.name ++ equals :: v)
    have he : encodeCscaAnchorState a = (p ++ f.name) ++ equals :: v := by
      rw [encodeCscaAnchorState, hl, map_append, map_cons, map_nil, hp, append_assoc]
    have hen : (encodeCscaAnchorState a).rdropWhile isSpace = encodeCscaAnchorState a := by
      have hvv : v.rdropWhile isSpace = v := by
        rw [List.rdropWhile_eq_self_iff]
        intro hne
        exact hv _ (List.getLast_mem hne)
      rw [he, rdropWhile_append_neg (by decide), hvv]
    have hst : (encodeCscaAnchorState a).dropWhile isSpace = encodeCscaAnchorState a := by
      have hc : ∃ t, encodeCscaAnchorState a = 97 :: t := ⟨_, rfl⟩
      obtain ⟨t, ht⟩ := hc
      rw [ht, List.dropWhile_cons_of_neg (by decide)]
    rw [trim, Text.trim, hst, hen]

lemma foldl_anchorFields (a : CscaAnchorState) :
    (anchorFields a).foldl takeAnchorField (⟨0, 0, false, [], false, none, none⟩, false)
      = (a, true) := by
  obtain ⟨anchors, issuers, replay, signer, pinned, acceptedAt, signedAt⟩ := a
  have ht : ∀ b, decide (boolText b = lit "true") = b := by
    intro b
    cases b <;> simp [boolText]
  rcases acceptedAt with - | t <;> rcases signedAt with - | u <;> by_cases hs : signer = [] <;>
    simp [anchorFields, takeAnchorField, setAnchorField, parseU32_decimal,
      parseI64_decimalInt, ht, hs]

lemma parseCscaAnchorState_encode (h : SubfieldOk a.signer) :
    parseCscaAnchorState (encodeCscaAnchorState a) = some a := by
  have hl : getlines bar (encodeCscaAnchorState a) = (anchorFields a).map fun p =>
    p.1.name ++ equals :: p.2 := by
    apply getlines_intercalate
    intro s hs
    obtain ⟨p, hp, rfl⟩ := mem_map.mp hs
    constructor
    · intro hm
      rcases mem_append.mp hm with hm | hm
      · exact (anchorField_name p.1).2.1 hm
      · rcases mem_cons.mp hm with hm | hm
        · exact absurd hm (by decide)
        · exact (subfieldOk_anchorFields h hp).noBar hm
    · exact append_ne_nil_of_right_ne_nil _ (cons_ne_nil _ _)
  have hpa :
      (getlines bar (encodeCscaAnchorState a)).filterMap parseAnchorField = anchorFields a := by
    rw [hl, List.filterMap_map]
    apply filterMap_of_forall
    intro p hp
    rw [Function.comp_apply, parseAnchorField_encode, (subfieldOk_anchorFields h hp).clean.trimmed]
  rw [parseCscaAnchorState, hpa, foldl_anchorFields]
  rfl

def signerOf : AnchorField × Bytes → Option Bytes
  | (.signer, raw) => some raw
  | _ => none

lemma takeAnchorField_signer (acc : CscaAnchorState × Bool) (p : AnchorField × Bytes) :
    (takeAnchorField acc p).1.signer = (signerOf p).getD acc.1.signer := by
  obtain ⟨f, raw⟩ := p
  cases f with
  | anchors | issuers => rw [takeAnchorField, setAnchorField]; cases parseU32 raw <;> rfl
  | acceptedAt | signedAt => rw [takeAnchorField, setAnchorField]; cases parseI64 raw <;> rfl
  | replayRefusalActive | signer | signerPinned => rfl

lemma subfieldOk_of_parseAnchorField {field : Bytes} (hv : newline ∉ value)
    (hf : field ∈ getlines bar value) {p : AnchorField × Bytes}
    (h : parseAnchorField field = some p) : SubfieldOk p.2 := by
  rw [parseAnchorField, bind_eq_some_iff] at h
  obtain ⟨⟨a, b⟩, hcu, hk⟩ := h
  rw [map_eq_some_iff] at hk
  obtain ⟨f, -, rfl⟩ := hk
  have hme : ∀ c ∈ b, c ∈ field := by
    intro c hc
    rw [eq_of_cutAt hcu]
    exact mem_append_right _ (mem_cons_of_mem _ hc)
  constructor
  · exact clean_trim fun hm => hv (mem_of_mem_getlines hf (hme _ hm))
  · exact fun hm => not_mem_getlines hf (hme _ (mem_of_mem_trim hm))

lemma subfieldOk_of_parse (hv : newline ∉ value) (h : parseCscaAnchorState value = some a) :
    SubfieldOk a.signer := by
  have hsi :=
    foldl_last (fun acc : CscaAnchorState × Bool => acc.1.signer) signerOf takeAnchorField_signer
    ((getlines bar value).filterMap parseAnchorField) (⟨0, 0, false, [], false, none, none⟩, false)
  rw [parseCscaAnchorState] at h
  split at h
  · cases h
    rw [hsi]
    rcases getLastD_mem (((getlines bar value).filterMap parseAnchorField).filterMap signerOf)
      [] with
      hn | hm
    · rw [hn]
      exact ⟨clean_nil, not_mem_nil⟩
    · obtain ⟨⟨f, raw⟩, hp, hs⟩ := mem_filterMap.mp hm
      obtain ⟨field, hf, hpa⟩ := mem_filterMap.mp hp
      have hok := subfieldOk_of_parseAnchorField hv hf hpa
      cases f <;> cases hs
      exact hok
  · cases h

/-! ## Trusted-list sources -/

namespace TslSource

/-- a source that `isHttpUrl` accepts and that is read as one line and one first field -/
structure Plain (s : TslSource) : Prop where
  noNewline : newline ∉ s.url
  noBar : bar ∉ s.url
  http : isHttpUrl s.url false = true

def flagged (s : TslSource) : Bool :=
  s.isLotl || s.eager

/-- a source that the file gives back -/
def Exact (s : TslSource) : Prop :=
  s.flagged = true ∨ trim s.url = s.url

/-- a source that the file loses: no flags, and nothing but spaces after the scheme -/
def Blank (s : TslSource) : Prop :=
  s.flagged = false ∧ isHttpUrl (trim s.url) false = false

instance (s : TslSource) : Decidable s.Blank :=
  inferInstanceAs (Decidable (_ ∧ _))

end TslSource

lemma url_of_isHttpUrl {url : Bytes} (h : isHttpUrl url false = true) :
    ∃ t, url = lit "https://" ++ t := by
  rw [isHttpUrl] at h
  by_cases h1 : (lit "http://").isPrefixOf url = true
  · rw [if_pos h1] at h
    cases h
  · by_cases h2 : (lit "https://").isPrefixOf url = true
    · obtain ⟨t, ht⟩ := List.isPrefixOf_iff_prefix.mp h2
      exact ⟨t, ht.symm⟩
    · rw [if_neg h1, if_neg h2] at h
      cases h

lemma parseTslSource_of_not_mem (h : bar ∉ v) : parseTslSource v = ⟨v, false, false⟩ := by
  cases v with
  | nil => rfl
  | cons c t => rw [parseTslSource, getlines_of_not_mem h (cons_ne_nil _ _)]; rfl

lemma parseTslSource_encode (h : bar ∉ s.url) (hf : s.flagged = true) :
    parseTslSource (encodeTslSource s) = s := by
  obtain ⟨url, isLotl, eager⟩ := s
  have hl : bar ∉ lit "lotl" := by decide
  have ho : ∀ flag, bar ∉ flag → flag ≠ [] → getlines bar (url ++ bar :: flag) = [url, flag] := by
    intro flag hfl hne
    rw [getlines_append, pieces_of_not_mem h, getlines_of_not_mem hfl hne]
    rfl
  cases isLotl with
  | false =>
    cases eager with
    | false => cases hf
    | true =>
      show parseTslSource (url ++ [] ++ bar :: lit "eager") = _
      rw [append_nil, parseTslSource, ho _ (by decide) (by decide)]
      simp [takeTslFlag]
  | true =>
    cases eager with
    | false =>
      show parseTslSource (url ++ bar :: lit "lotl" ++ []) = _
      rw [append_nil, parseTslSource, ho _ (by decide) (by decide)]
      simp [takeTslFlag]
    | true =>
      have hb : getlines bar (url ++ bar :: lit "lotl" ++ bar :: lit "eager") =
        [url, lit "lotl", lit "eager"] := by
        rw [append_assoc, cons_append, getlines_append, pieces_of_not_mem h, getlines_append,
          pieces_of_not_mem hl, getlines_of_not_mem (by decide) (by decide)]
        rfl
      show parseTslSource (url ++ bar :: lit "lotl" ++ bar :: lit "eager") = _
      rw [parseTslSource, hb]
      simp [takeTslFlag]

lemma trim_encodeTslSource (h : s.Plain) (hf : s.flagged = true) : trim (encodeTslSource s) =
    encodeTslSource s := by
  have hs : ∀ t, (s.url ++ t).dropWhile isSpace = s.url ++ t := by
    intro t
    obtain ⟨r, hr⟩ := url_of_isHttpUrl h.http
    rw [hr]
    rfl
  have hlo : (lit "lotl").rdropWhile isSpace = lit "lotl" := by decide
  have hea : (lit "eager").rdropWhile isSpace = lit "eager" := by decide
  rw [encodeTslSource, trim, Text.trim, append_assoc, hs]
  cases he : s.eager with
  | true =>
    rw [if_pos rfl, ← append_assoc, rdropWhile_append_neg (by decide), hea]
  | false =>
    cases hl : s.isLotl with
    | true =>
      rw [if_pos rfl, if_neg Bool.false_ne_true, append_nil, rdropWhile_append_neg (by decide), hlo]
    | false =>
      rw [TslSource.flagged, he, hl] at hf
      cases hf

/-- a source after it was written and read: as it was, without the spaces after an unflagged URL,
or lost -/
def TslSource.reread (s : TslSource) : Option TslSource :=
  if s.Blank then none
  else some (if s.flagged then s else ⟨trim s.url, false, false⟩)

lemma tslSourceOf_encode (h : s.Plain) : tslSourceOf (.tslSources, trim (encodeTslSource s)) =
    s.reread := by
  cases hf : s.flagged with
  | true =>
    have hbl : ¬ s.Blank := fun hb => by rw [hb.1] at hf; cases hf
    rw [tslSourceOf, keyed_self, trim_encodeTslSource h hf, parseTslSource_encode h.noBar hf,
      if_pos h.http, TslSource.reread, if_neg hbl, if_pos hf]
  | false =>
    have he : encodeTslSource s = s.url := by
      rw [TslSource.flagged, Bool.or_eq_false_iff] at hf
      rw [encodeTslSource, hf.1, hf.2, if_neg Bool.false_ne_true, if_neg Bool.false_ne_true,
        append_nil, append_nil]
    have hba : bar ∉ trim s.url := fun hm => h.noBar (mem_of_mem_trim hm)
    rw [tslSourceOf, keyed_self, he, parseTslSource_of_not_mem hba, TslSource.reread]
    cases ht : isHttpUrl (trim s.url) false with
    | true =>
      have hbl : ¬ s.Blank := fun hb => by rw [hb.2] at ht; cases ht
      rw [if_pos rfl, if_neg hbl, if_neg (by rw [hf]; exact Bool.false_ne_true)]
    | false =>
      have hbl : s.Blank := ⟨hf, ht⟩
      rw [if_neg Bool.false_ne_true, if_pos hbl]

namespace TslSource

lemma reread_isSome (s : TslSource) : s.reread.isSome = !decide s.Blank := by
  rw [reread]
  by_cases h : s.Blank
  · rw [if_pos h, decide_eq_true h]
    rfl
  · rw [if_neg h, decide_eq_false h]
    rfl

variable {s : TslSource}

lemma reread_eq_none : s.reread = none ↔ s.Blank := by
  rw [reread]
  split <;> simp [*]

lemma reread_eq_self (h : ¬ s.Blank) : s.reread = some s ↔ s.Exact := by
  obtain ⟨url, isLotl, eager⟩ := s
  rw [reread, if_neg h, some_inj, Exact]
  cases hf : flagged ⟨url, isLotl, eager⟩ with
  | true => simp
  | false =>
    obtain ⟨rfl, rfl⟩ := Bool.or_eq_false_iff.mp hf
    simp

lemma reread_reread {t : TslSource} (h : s.reread = some t) : t.reread = some t := by
  have hb : ¬ s.Blank := by
    intro hb
    rw [reread_eq_none.mpr hb] at h
    cases h
  rw [reread, if_neg hb, some_inj] at h
  cases hf : s.flagged with
  | true =>
    rw [if_pos hf] at h
    rw [← h]
    exact (reread_eq_self hb).mpr (Or.inl hf)
  | false =>
    rw [if_neg (by rw [hf]; exact Bool.false_ne_true)] at h
    have ht : trim (trim s.url) = trim s.url := trim_trim s.url
    have hb' : ¬ t.Blank := by
      intro hb'
      rw [← h] at hb'
      refine hb ⟨hf, ?_⟩
      rw [← ht]
      exact hb'.2
    refine (reread_eq_self hb').mpr (Or.inr ?_)
    rw [← h]
    exact ht

lemma plain_of_parse {value : Bytes} (hv : newline ∉ value)
    (h : isHttpUrl (parseTslSource value).url false = true) : (parseTslSource value).Plain := by
  have hu : ∀ flags : List Bytes, ∀ s : TslSource, (flags.foldl takeTslFlag s).url = s.url := by
    intro flags
    induction flags with
    | nil => exact fun s => rfl
    | cons f flags ih =>
      intro s
      rw [foldl_cons, ih, takeTslFlag]
      split
      · rfl
      · split <;> rfl
  have hn : newline ∉ (parseTslSource value).url ∧ bar ∉ (parseTslSource value).url := by
    rw [parseTslSource]
    cases hg : getlines bar value with
    | nil => exact ⟨not_mem_nil, not_mem_nil⟩
    | cons url flags =>
      rw [hu]
      exact ⟨fun hm => hv (mem_of_mem_getlines (hg ▸ mem_cons_self) hm),
        not_mem_getlines (hg ▸ mem_cons_self)⟩
  exact ⟨hn.1, hn.2, h⟩

end TslSource

end LibreAgent.Config
