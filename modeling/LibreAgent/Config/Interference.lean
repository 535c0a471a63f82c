import LibreAgent.Config.ConfigFile

/-!
# Free text and the other keys

`setDefaultReason` and `setDefaultLocation` take any text.  A text with newlines is written as it
is, so its further lines are lines of the file.

* `reopened_spec` : the fields of a store that is written and opened again, for any two texts;
* `setText_keeps_others` : the other keys are kept exactly when the further lines leave them alone;
* `trustLists_kept_iff` : the two lists are kept exactly when a line can carry their entries and no
  line that another value starts adds to them;
* `restarts_settle` : what was read from a file outlasts restarts.
-/

namespace LibreAgent.Config

open Bytes Text List

/-! ## The entries by key -/

lemma mem_of_entryUnless {α : Type} [DecidableEq α] {j : Key} {render : α → Bytes}
    {value default : α} {p : Key × Bytes} (h : p ∈ entryUnless j render value default) :
    value ≠ default ∧ p = (j, render value) := by
  rw [entryUnless] at h
  split at h
  · cases h
  · next hne => exact ⟨hne, mem_singleton.mp h⟩

section ByKey
variable {τ : Type} {k : Key} {f : Bytes → Option τ}

lemma filterMap_assigns {E : List (Key × Bytes)} (hE : ∀ p ∈ E, newline ∉ p.2) :
    (E.flatMap entryAssigns).filterMap (keyed k f)
      = (E.filter fun p => p.1 = k).filterMap fun p => f (trim p.2) := by
  induction E with
  | nil => rfl
  | cons p E ih =>
    rw [List.flatMap_cons, entryAssigns_of_not_mem (hE p mem_cons_self), List.filterMap_append,
      ih fun q hq => hE q (mem_cons_of_mem _ hq)]
    by_cases hk : p.1 = k
    · have hs : keyed k f (p.1, trim p.2) = f (trim p.2) := if_pos hk
      rw [filter_cons_of_pos (by simpa using hk), List.filterMap_cons, List.filterMap_cons,
        List.filterMap_nil, hs]
      cases f (trim p.2) <;> rfl
    · have hn : keyed k f (p.1, trim p.2) = none := keyed_ne hk
      rw [filter_cons_of_neg (by simpa using hk), List.filterMap_cons_none hn]
      rfl

/-- the lines that the values of some entries start -/
def startedLines (E : List (Key × Bytes)) : List (Key × Bytes) :=
  E.flatMap fun p => injected p.2

lemma filterMap_others {E : List (Key × Bytes)} (hE : ∀ p ∈ E, p.1 ≠ k) :
    (E.flatMap entryAssigns).filterMap (keyed k f) = (startedLines E).filterMap (keyed k f) := by
  induction E with
  | nil => rfl
  | cons p E ih =>
    have hn : keyed k f (p.1, trim ((pieces newline p.2).headD [])) = none :=
      keyed_ne (hE p mem_cons_self)
    rw [List.flatMap_cons, List.filterMap_append, ih fun q hq => hE q (mem_cons_of_mem _ hq),
      entryAssigns, List.filterMap_cons_none hn, startedLines, startedLines, List.flatMap_cons,
      List.filterMap_append]

lemma startedLines_append (E E' : List (Key × Bytes)) :
    startedLines (E ++ E') = startedLines E ++ startedLines E' := List.flatMap_append

lemma startedLines_of_not_mem {E : List (Key × Bytes)} (hE : ∀ p ∈ E, newline ∉ p.2) :
    startedLines E = [] :=
  List.flatMap_eq_nil_iff.mpr fun p hp => injected_of_not_mem (hE p hp)

lemma filterMap_text {v : Bytes} {j : Key} (hj : j ≠ k) :
    ((entryUnless j id v []).flatMap entryAssigns).filterMap (keyed k f)
      = (injected v).filterMap (keyed k f) := by
  rw [filterMap_others fun p hp => (mem_of_entryUnless hp).2 ▸ hj, entryUnless, startedLines]
  split
  · next h => rw [h]; rfl
  · rw [List.flatMap_cons, List.flatMap_nil, append_nil, id]

variable {α : Type}

@[simp] lemma filter_entryUnless [DecidableEq α] (j : Key) (render : α → Bytes)
    (value default : α) :
    (entryUnless j render value default).filter (fun p => p.1 = k)
      = if j = k then entryUnless j render value default else [] := by
  rw [entryUnless]
  by_cases hj : j = k <;> split <;> simp [hj]

lemma filter_map_key (j : Key) (render : α → Bytes) (l : List α) :
    (l.map fun a => (j, render a)).filter (fun p => p.1 = k)
      = if j = k then l.map (fun a => (j, render a)) else [] := by
  by_cases hj : j = k <;> simp [hj]

/-- the entries of a key among entries of other keys -/
lemma filterMap_own {E E' : List (Key × Bytes)} {render : α → Bytes} {l : List α}
    (hE : ∀ p ∈ E, p.1 ≠ k) (hl : ∀ a ∈ l, newline ∉ render a) (hE' : ∀ p ∈ E', p.1 ≠ k) :
    ((E ++ (l.map (fun a => (k, render a)) ++ E')).flatMap entryAssigns).filterMap (keyed k f)
      = (startedLines E).filterMap (keyed k f) ++ (l.filterMap (fun a => f (trim (render a))) ++
        (startedLines E').filterMap (keyed k f)) := by
  have hln : ∀ p ∈ l.map fun a => (k, render a), newline ∉ p.2 := by simpa using hl
  rw [List.flatMap_append, List.flatMap_append, List.filterMap_append, List.filterMap_append,
    filterMap_others hE, filterMap_others hE', filterMap_assigns hln, filter_map_key, if_pos rfl,
    List.filterMap_map]
  rfl

@[simp] lemma toList_map_key (j : Key) (render : α → Bytes) (o : Option α) :
    (o.map fun a => (j, render a)).toList = o.toList.map fun a => (j, render a) := by
  cases o <;> rfl

end ByKey

/-! ## Stores that a file can carry -/

/-- every value of the other keys stands on one line and is accepted there -/
structure Writable (st : ConfigStore) : Prop where
  level : isKnownLevel st.defaultLevel = true
  tsaUrls : ∀ u ∈ st.tsaUrls, Clean u ∧ isHttpUrl u false = true
  lastTsaUrl : Clean st.lastTsaUrl
  tslSources : ∀ s ∈ st.tslSources, s.Plain
  tslCacheDir : st.tslCacheDir = joinPath st.cacheRoot kTslSubdir ∨
    Clean st.tslCacheDir ∧ st.tslCacheDir ≠ []
  cscaCacheDir : st.cscaCacheDir = joinPath st.cacheRoot kCscaSubdir ∨
    Clean st.cscaCacheDir ∧ st.cscaCacheDir ≠ []
  anchorState : ∀ a, st.cscaAnchorState = some a → SubfieldOk a.signer

variable {p : Key × Bytes}

lemma newline_not_mem_encodeTslSource {s : TslSource} (h : s.Plain) :
    newline ∉ encodeTslSource s := by
  intro hm
  rw [encodeTslSource, mem_append, mem_append] at hm
  rcases hm with (hm | hm) | hm
  · exact h.noNewline hm
  · split at hm <;> exact absurd hm (by decide)
  · split at hm <;> exact absurd hm (by decide)

variable {st : ConfigStore}

lemma Writable.front (h : Writable st) (hp : p ∈ frontEntries st) : newline ∉ p.2 := by
  simp only [frontEntries, cacheEntries, mem_append, mem_map, Option.mem_toList,
    Option.map_eq_some_iff] at hp
  rcases hp with (((hp | ⟨u, hu, rfl⟩) | hp) | ⟨s, hs, rfl⟩) | (hp | hp) | ⟨a, ha, rfl⟩
  · rw [(mem_of_entryUnless hp).2]
    exact (clean_of_isKnownLevel h.level).noNewline
  · exact (h.tsaUrls u hu).1.noNewline
  · rw [(mem_of_entryUnless hp).2]
    exact h.lastTsaUrl.noNewline
  · exact newline_not_mem_encodeTslSource (h.tslSources s hs)
  · obtain ⟨hne, rfl⟩ := mem_of_entryUnless hp
    exact (h.tslCacheDir.resolve_left hne).1.noNewline
  · obtain ⟨hne, rfl⟩ := mem_of_entryUnless hp
    exact (h.cscaCacheDir.resolve_left hne).1.noNewline
  · exact (clean_encodeCscaAnchorState (h.anchorState a ha)).noNewline

lemma newline_not_mem_leaseEntries (hp : p ∈ leaseEntries st) : newline ∉ p.2 := by
  rcases mem_append.mp hp with hp | hp <;>
    · rw [(mem_of_entryUnless hp).2]
      exact (clean_decimal _).noNewline

lemma assigned_cases {τ : Type} (k : Key) (f : Bytes → Option τ) (text : Bytes) (d : τ) :
    ((assignments text).filterMap (keyed k f)).getLastD d = d ∨
      ∃ v, Clean v ∧ f v = some (((assignments text).filterMap (keyed k f)).getLastD d) := by
  rcases getLastD_mem ((assignments text).filterMap (keyed k f)) d with h | h
  · exact Or.inl h
  · obtain ⟨p, hp, he⟩ := mem_filterMap.mp h
    exact Or.inr ⟨p.2, clean_of_assigned hp, of_keyed he⟩

lemma assigned_mem {τ : Type} {k : Key} {f : Bytes → Option τ} {text : Bytes} {x : τ}
    (h : x ∈ (assignments text).filterMap (keyed k f)) : ∃ v, Clean v ∧ f v = some x := by
  obtain ⟨p, hp, he⟩ := mem_filterMap.mp h
  exact ⟨p.2, clean_of_assigned hp, of_keyed he⟩

lemma nonEmpty_eq_some {v w : Bytes} (h : nonEmpty v = some w) : v = w ∧ w ≠ [] := by
  rw [nonEmpty] at h
  split at h
  · cases h
  · rename_i hv
    cases h
    exact ⟨rfl, hv⟩

/-- **All that a load assigns can be written**: it stood on one line and was accepted. -/
lemma writable_of_load (cacheRoot text : Bytes) :
    Writable (loadFromFile (applyDefaults cacheRoot) text) := by
  have h := loadFromFile_assigned (applyDefaults cacheRoot) text
  have hr : (loadFromFile (applyDefaults cacheRoot) text).cacheRoot = cacheRoot := h.cacheRoot
  have hdi : ∀ (k : Key) (d : Bytes), ((assignments text).filterMap (keyed k nonEmpty)).getLastD d =
    d ∨
        Clean (((assignments text).filterMap (keyed k nonEmpty)).getLastD d) ∧
          ((assignments text).filterMap (keyed k nonEmpty)).getLastD d ≠ [] := by
    intro k d
    rcases assigned_cases k nonEmpty text d with hd | ⟨v, hv, he⟩
    · exact Or.inl hd
    · obtain ⟨rfl, hne⟩ := nonEmpty_eq_some he
      exact Or.inr ⟨hv, hne⟩
  constructor
  · rw [h.level, levelOf]
    rcases assigned_cases .defaultLevel (fun v => if isKnownLevel v then some v else none) text
      kLevelDefault with hd | ⟨v, -, he⟩
    · exact (congrArg isKnownLevel hd).trans (by decide)
    · simp only [Option.ite_none_right_eq_some, Option.some_inj] at he
      exact he.2 ▸ he.1
  · intro u hu
    rw [h.tsaUrls] at hu
    obtain ⟨v, hv, he⟩ := assigned_mem hu
    simp only [Option.ite_none_right_eq_some, Option.some_inj] at he
    exact he.2 ▸ ⟨hv, he.1⟩
  · rw [h.lastTsaUrl, lastTsaUrlOf]
    rcases assigned_cases .lastTsaUrl some text [] with hd | ⟨v, hv, he⟩
    · exact hd ▸ clean_nil
    · exact Option.some_inj.mp he ▸ hv
  · intro s hs
    rw [h.tslSources] at hs
    obtain ⟨v, hv, he⟩ := assigned_mem hs
    simp only [Option.ite_none_right_eq_some, Option.some_inj] at he
    exact he.2 ▸ TslSource.plain_of_parse hv.noNewline he.1
  · rw [h.tslCacheDir, hr]
    exact hdi _ _
  · rw [h.cscaCacheDir, hr]
    exact hdi _ _
  · intro a ha
    rw [h.anchorState, anchorStateOf] at ha
    rcases assigned_cases .cscaAnchorState (fun v => some (parseCscaAnchorState v)) text none with
      hd | ⟨v, hv, he⟩
    · exact absurd (ha.symm.trans hd) (by simp)
    · exact subfieldOk_of_parse hv.noNewline ((Option.some_inj.mp he).trans ha)

/-! ## Writing and opening again -/

def reopened (st : ConfigStore) : ConfigStore :=
  (ConfigStore.construct (some (persist st)) st.cacheRoot).1

lemma reopened_eq (st : ConfigStore) : reopened st = loadFromFile (applyDefaults st.cacheRoot)
    (persist st) := by
  rw [reopened, ConfigStore.construct]

lemma reopened_assigned (st : ConfigStore) :
    AssignedBy ((fileEntries st).flatMap entryAssigns) (applyDefaults st.cacheRoot)
      (reopened st) := by
  rw [← assignments_persist, reopened_eq]
  exact loadFromFile_assigned _ _

section Reopened
variable {st : ConfigStore}

def furtherLines (st : ConfigStore) : List (Key × Bytes) :=
  injected st.defaultReason ++ injected st.defaultLocation

variable {k : Key}

/-- the assignments of a key that is neither text: its entries before the texts, the further lines,
its entries after them -/
lemma filterMap_reopened {τ : Type} {f : Bytes → Option τ} (h : Writable st)
    (hr : .defaultReason ≠ k) (hl : .defaultLocation ≠ k) :
    ((fileEntries st).flatMap entryAssigns).filterMap (keyed k f)
      = ((frontEntries st).filter fun p => p.1 = k).filterMap (fun p => f (trim p.2))
        ++ ((furtherLines st).filterMap (keyed k f)
        ++ ((leaseEntries st).filter fun p => p.1 = k).filterMap (fun p => f (trim p.2))) := by
  rw [fileEntries, List.flatMap_append, List.flatMap_append, List.filterMap_append,
    List.filterMap_append, filterMap_assigns (fun p hp => h.front hp),
    filterMap_assigns (fun p hp => newline_not_mem_leaseEntries hp), textEntries,
    List.flatMap_append, List.filterMap_append, filterMap_text hr, filterMap_text hl,
    ← List.filterMap_append, furtherLines]

variable {α : Type}

variable {f : Bytes → Option α}

lemma getLastD_entryUnless [DecidableEq α] {render : α → Bytes} {value default : α}
    (h : value ≠ default → f (trim (render value)) = some value) :
    ((entryUnless k render value default).filterMap fun p => f (trim p.2)).getLastD default
      = value := by
  rw [entryUnless]
  split
  · rename_i hv
    rw [List.filterMap_nil, hv]
    rfl
  · rename_i hv
    have hf := h hv
    simp [hf]

/-- **A store that is written and opened again**, key by key: the further lines of the texts come
on top of the values, except for lease limits that are written after them. -/
structure ReopenedBy (st r : ConfigStore) (lines : List (Key × Bytes)) : Prop where
  level : r.defaultLevel = (lines.filterMap levelOf).getLastD st.defaultLevel
  tsaUrls : r.tsaUrls = st.tsaUrls ++ lines.filterMap tsaUrlOf
  lastTsaUrl : r.lastTsaUrl = (lines.filterMap lastTsaUrlOf).getLastD st.lastTsaUrl
  tslSources : r.tslSources = st.tslSources.filterMap TslSource.reread ++
    lines.filterMap tslSourceOf
  tslCacheDir : r.tslCacheDir = (lines.filterMap tslCacheDirOf).getLastD st.tslCacheDir
  cscaCacheDir : r.cscaCacheDir = (lines.filterMap cscaCacheDirOf).getLastD st.cscaCacheDir
  anchorState : r.cscaAnchorState = (lines.filterMap anchorStateOf).getLastD st.cscaAnchorState
  idleTimeout : r.pkcs11IdleTimeoutSecs = if st.pkcs11IdleTimeoutSecs = kPkcs11IdleDefault
    then (lines.filterMap idleTimeoutOf).getLastD kPkcs11IdleDefault else st.pkcs11IdleTimeoutSecs
  maxLifetime : r.pkcs11MaxLifetimeSecs = if st.pkcs11MaxLifetimeSecs = kPkcs11MaxLifetimeDefault
    then (lines.filterMap maxLifetimeOf).getLastD kPkcs11MaxLifetimeDefault
    else st.pkcs11MaxLifetimeSecs

lemma getLastD_front [DecidableEq α] {render : α → Bytes} {value default : α}
    (h : Writable st) (hr : .defaultReason ≠ k) (hl : .defaultLocation ≠ k)
    (hfr : ((frontEntries st).filter fun p => p.1 = k) = entryUnless k render value default)
    (hle : ((leaseEntries st).filter fun p => p.1 = k) = [])
    (hf : value ≠ default → f (trim (render value)) = some value) :
    (((fileEntries st).flatMap entryAssigns).filterMap (keyed k f)).getLastD default
      = ((furtherLines st).filterMap (keyed k f)).getLastD value := by
  rw [filterMap_reopened h hr hl, hfr, hle, List.filterMap_nil, append_nil, getLastD_append,
      getLastD_entryUnless hf]

lemma filterMap_front {β : Type} {render : β → Bytes} {l : List β} (h : Writable st)
    (hr : .defaultReason ≠ k) (hl : .defaultLocation ≠ k)
    (hfr : ((frontEntries st).filter fun p => p.1 = k) = l.map fun b => (k, render b))
    (hle : ((leaseEntries st).filter fun p => p.1 = k) = []) :
    ((fileEntries st).flatMap entryAssigns).filterMap (keyed k f)
      = l.filterMap (fun b => f (trim (render b))) ++ (furtherLines st).filterMap (keyed k f) := by
  rw [filterMap_reopened h hr hl, hfr, hle, List.filterMap_nil, append_nil, List.filterMap_map]
  rfl

lemma getLastD_lease {value default : UInt32} (h : Writable st)
    (hr : .defaultReason ≠ k) (hl : .defaultLocation ≠ k)
    (hf : ((frontEntries st).filter fun p => p.1 = k) = [])
    (hle : ((leaseEntries st).filter fun p => p.1 = k)
      = entryUnless k (fun n => decimal n.toNat) value default) :
    (((fileEntries st).flatMap entryAssigns).filterMap (keyed k parseU32)).getLastD default
      = if value = default then ((furtherLines st).filterMap (keyed k parseU32)).getLastD default
        else value := by
  rw [filterMap_reopened h hr hl, hf, hle, List.filterMap_nil, nil_append,
      getLastD_append, entryUnless]
  split
  · rfl
  · simp [(clean_decimal value.toNat).trimmed, parseU32_decimal]

lemma reopened_spec (h : Writable st) : ReopenedBy st (reopened st) (furtherLines st) := by
  have ha := reopened_assigned st
  have hl : ∀ k, k ≠ .pkcs11IdleTimeoutSecs → k ≠ .pkcs11MaxLifetimeSecs →
      ((leaseEntries st).filter fun p => p.1 = k) = [] := by
    intro k h1 h2
    simp [leaseEntries, h1.symm, h2.symm]
  have hfro {k : Key} {value default : Bytes} {f : Bytes → Option Bytes}
    (hr : .defaultReason ≠ k ∧ .defaultLocation ≠ k)
      (hk : k ≠ .pkcs11IdleTimeoutSecs ∧ k ≠ .pkcs11MaxLifetimeSecs)
      (hfr : ((frontEntries st).filter fun p => p.1 = k) = entryUnless k id value default)
      (hf : value ≠ default → f (trim value) = some value) :=
        getLastD_front h hr.1 hr.2 hfr (hl k hk.1 hk.2) hf
  constructor
  · refine ha.level.trans (hfro (by decide) (by decide)
      (by simp [frontEntries, cacheEntries, filter_map_key, applyDefaults]) fun _ => ?_)
    rw [(clean_of_isKnownLevel h.level).trimmed, if_pos h.level]
  · have hf : ((frontEntries st).filter fun p => p.1 = .tsaUrls) = st.tsaUrls.map fun u =>
      (.tsaUrls, u) := by
      simp [frontEntries, cacheEntries, filter_map_key]
    refine ha.tsaUrls.trans ((filterMap_front h (by decide) (by decide) hf
      (hl _ (by decide) (by decide))).trans ?_)
    congr 1
    apply filterMap_of_forall
    intro u hu
    obtain ⟨hc, hh⟩ := h.tsaUrls u hu
    rw [hc.trimmed, if_pos hh]
  · refine ha.lastTsaUrl.trans (hfro (by decide) (by decide)
      (by simp [frontEntries, cacheEntries, filter_map_key, applyDefaults]) fun _ => ?_)
    rw [h.lastTsaUrl.trimmed]
  · have hf : ((frontEntries st).filter fun p => p.1 = .tslSources)
        = st.tslSources.map fun s => (.tslSources, encodeTslSource s) := by
      simp [frontEntries, cacheEntries, filter_map_key]
    refine ha.tslSources.trans ((filterMap_front h (by decide) (by decide) hf
      (hl _ (by decide) (by decide))).trans ?_)
    congr 1
    apply List.filterMap_congr
    intro s hs
    have hs := tslSourceOf_encode (h.tslSources s hs)
    rw [tslSourceOf, keyed_self] at hs
    exact hs
  · refine ha.tslCacheDir.trans (hfro (by decide) (by decide)
      (by simp [frontEntries, cacheEntries, filter_map_key, applyDefaults]) fun hne => ?_)
    obtain ⟨hc, hn⟩ := h.tslCacheDir.resolve_left hne
    rw [hc.trimmed, nonEmpty, if_neg hn]
  · refine ha.cscaCacheDir.trans (hfro (by decide) (by decide)
      (by simp [frontEntries, cacheEntries, filter_map_key, applyDefaults]) fun hne => ?_)
    obtain ⟨hc, hn⟩ := h.cscaCacheDir.resolve_left hne
    rw [hc.trimmed, nonEmpty, if_neg hn]
  · have hf : ((frontEntries st).filter fun p => p.1 = .cscaAnchorState)
        = st.cscaAnchorState.toList.map fun a => (.cscaAnchorState, encodeCscaAnchorState a) := by
      simp [frontEntries, cacheEntries, filter_map_key]
    have hv : (st.cscaAnchorState.toList.filterMap fun a =>
        some (parseCscaAnchorState (trim (encodeCscaAnchorState a)))).getLastD none =
          st.cscaAnchorState := by
      cases hs : st.cscaAnchorState with
      | none => rfl
      | some a =>
        have hok := h.anchorState a hs
        simp [(clean_encodeCscaAnchorState hok).trimmed, parseCscaAnchorState_encode hok]
    have hd : (applyDefaults st.cacheRoot).cscaAnchorState = none := rfl
    rw [ha.anchorState, anchorStateOf, filterMap_front h (by decide) (by decide) hf
      (hl _ (by decide) (by decide)),
      getLastD_append, hd, hv]
  · refine ha.idleTimeout.trans (getLastD_lease h (by decide) (by decide)
      (by simp [frontEntries, cacheEntries, filter_map_key]) ?_)
    simp [leaseEntries, applyDefaults]
  · refine ha.maxLifetime.trans (getLastD_lease h (by decide) (by decide)
      (by simp [frontEntries, cacheEntries, filter_map_key]) ?_)
    simp [leaseEntries, applyDefaults]

end Reopened

/-! ## Keys that are kept -/

def withTexts (st : ConfigStore) (reason location : Bytes) : ConfigStore :=
  { st with defaultReason := reason, defaultLocation := location }

lemma writable_withTexts (reason location : Bytes) :
    Writable (withTexts st reason location) ↔ Writable st :=
  ⟨fun h => { h with }, fun h => { h with }⟩

/-- the nine keys that are not free text have the same values -/
structure OthersKept (st r : ConfigStore) : Prop where
  level : r.defaultLevel = st.defaultLevel
  tsaUrls : r.tsaUrls = st.tsaUrls
  lastTsaUrl : r.lastTsaUrl = st.lastTsaUrl
  tslSources : r.tslSources = st.tslSources
  tslCacheDir : r.tslCacheDir = st.tslCacheDir
  cscaCacheDir : r.cscaCacheDir = st.cscaCacheDir
  anchorState : r.cscaAnchorState = st.cscaAnchorState
  idleTimeout : r.pkcs11IdleTimeoutSecs = st.pkcs11IdleTimeoutSecs
  maxLifetime : r.pkcs11MaxLifetimeSecs = st.pkcs11MaxLifetimeSecs

/-- the store can be written, and the lines leave its keys alone: they add nothing to the two lists
(but for sources that the file lost at the end of its own), and the last line that sets another key,
if there is one, sets what is there; the lease limits are written after the texts unless they have
their defaults -/
structure Undisturbed (st : ConfigStore) (lines : List (Key × Bytes)) : Prop where
  writable : Writable st
  level : (lines.filterMap levelOf).getLastD st.defaultLevel = st.defaultLevel
  tsaUrls : lines.filterMap tsaUrlOf = []
  lastTsaUrl : (lines.filterMap lastTsaUrlOf).getLastD st.lastTsaUrl = st.lastTsaUrl
  exact : ∀ s ∈ st.tslSources, s.Exact ∨ s.Blank
  tslSources : st.tslSources.filter (fun s => !decide s.Blank) ++ lines.filterMap tslSourceOf
    = st.tslSources
  tslCacheDir : (lines.filterMap tslCacheDirOf).getLastD st.tslCacheDir = st.tslCacheDir
  cscaCacheDir : (lines.filterMap cscaCacheDirOf).getLastD st.cscaCacheDir = st.cscaCacheDir
  anchorState : (lines.filterMap anchorStateOf).getLastD st.cscaAnchorState = st.cscaAnchorState
  idleTimeout : st.pkcs11IdleTimeoutSecs = kPkcs11IdleDefault →
    (lines.filterMap idleTimeoutOf).getLastD kPkcs11IdleDefault = kPkcs11IdleDefault
  maxLifetime : st.pkcs11MaxLifetimeSecs = kPkcs11MaxLifetimeDefault →
    (lines.filterMap maxLifetimeOf).getLastD kPkcs11MaxLifetimeDefault = kPkcs11MaxLifetimeDefault

lemma OthersKept.writable {reason location : Bytes}
    (h : OthersKept st (reopened (withTexts st reason location))) : Writable st := by
  have hr : (reopened (withTexts st reason location)).cacheRoot = st.cacheRoot :=
    (reopened_assigned (withTexts st reason location)).cacheRoot
  have hw : Writable (reopened (withTexts st reason location)) := by
    rw [reopened_eq]
    exact writable_of_load _ _
  obtain ⟨h1, h2, h3, h4, h5, h6, h7⟩ := hw
  rw [h.level] at h1
  rw [h.tsaUrls] at h2
  rw [h.lastTsaUrl] at h3
  rw [h.tslSources] at h4
  rw [h.tslCacheDir, hr] at h5
  rw [h.cscaCacheDir, hr] at h6
  rw [h.anchorState] at h7
  exact ⟨h1, h2, h3, h4, h5, h6, h7⟩

lemma reopened_withTexts (h : Writable st) (reason location : Bytes) :
    ReopenedBy st (reopened (withTexts st reason location))
      (injected reason ++ injected location) := by
  have hs := reopened_spec ((writable_withTexts reason location).mpr h)
  exact { hs with }

lemma tslSources_kept_iff (l x y : List TslSource) :
    y ++ (l.filterMap TslSource.reread ++ x) = l ↔
      (∀ s ∈ l, s.Exact ∨ s.Blank) ∧ y ++ (l.filter (fun s => !decide s.Blank) ++ x) = l := by
  have hso : (fun s : TslSource => s.reread.isSome) = fun s => !decide s.Blank :=
    funext TslSource.reread_isSome
  rw [filterMap_append_eq_self fun s _ t ht => TslSource.reread_reread ht, hso]
  constructor
  · rintro ⟨ha, hx⟩
    refine ⟨fun s hs => ?_, hx⟩
    by_cases hb : s.Blank
    · exact Or.inr hb
    · rcases ha s hs with h | h
      · exact Or.inl ((TslSource.reread_eq_self hb).mp h)
      · exact Or.inr (TslSource.reread_eq_none.mp h)
  · rintro ⟨ha, hx⟩
    refine ⟨fun s hs => ?_, hx⟩
    by_cases hb : s.Blank
    · exact Or.inr (TslSource.reread_eq_none.mpr hb)
    · exact Or.inl ((TslSource.reread_eq_self hb).mpr ((ha s hs).resolve_right hb))

lemma othersKept_iff (st : ConfigStore) (reason location : Bytes) :
    OthersKept st (reopened (withTexts st reason location)) ↔
      Undisturbed st (injected reason ++ injected location) := by
  constructor
  · intro h
    have hw := h.writable
    have hs := reopened_withTexts hw reason location
    obtain ⟨he, hso⟩ :=
      (tslSources_kept_iff st.tslSources _ []).mp (hs.tslSources.symm.trans h.tslSources)
    refine ⟨hw, hs.level.symm.trans h.level, ?_, hs.lastTsaUrl.symm.trans h.lastTsaUrl, he,
      hso, hs.tslCacheDir.symm.trans h.tslCacheDir, hs.cscaCacheDir.symm.trans h.cscaCacheDir,
      hs.anchorState.symm.trans h.anchorState, ?_, ?_⟩
    · exact append_right_eq_self.mp (hs.tsaUrls.symm.trans h.tsaUrls)
    · intro hd
      have hi := hs.idleTimeout
      rw [h.idleTimeout, if_pos hd, hd] at hi
      exact hi.symm
    · intro hd
      have hi := hs.maxLifetime
      rw [h.maxLifetime, if_pos hd, hd] at hi
      exact hi.symm
  · intro h
    have hs := reopened_withTexts h.writable reason location
    have hso := (tslSources_kept_iff st.tslSources _ []).mpr ⟨h.exact, h.tslSources⟩
    refine ⟨hs.level.trans h.level, ?_, hs.lastTsaUrl.trans h.lastTsaUrl,
      hs.tslSources.trans hso, hs.tslCacheDir.trans h.tslCacheDir,
      hs.cscaCacheDir.trans h.cscaCacheDir, hs.anchorState.trans h.anchorState, ?_, ?_⟩
    · rw [hs.tsaUrls, h.tsaUrls, append_nil]
    · rw [hs.idleTimeout]
      split
      · next hd => rw [h.idleTimeout hd, hd]
      · rfl
    · rw [hs.maxLifetime]
      split
      · next hd => rw [h.maxLifetime hd, hd]
      · rfl

/-! ## The two texts -/

/-- a location after the reason was set: one that a line can carry, and left alone; it is written
after the lines of the reason, unless it is empty -/
structure LocationKept (location : Bytes) (lines : List (Key × Bytes)) : Prop where
  clean : Clean location
  last : location = [] → (lines.filterMap locationOf).getLastD [] = []

structure ReasonKept (reason : Bytes) (lines : List (Key × Bytes)) : Prop where
  clean : Clean reason
  last : (lines.filterMap reasonOf).getLastD reason = reason

section Texts
variable {st : ConfigStore}

/-- what the entries of the texts assign to one of them, in a store that can be written -/
lemma filterMap_texts {k : Key} (h : Writable st) (hk : k = .defaultReason ∨ k = .defaultLocation) :
    ((fileEntries st).flatMap entryAssigns).filterMap (keyed k some)
      = ((textEntries st).flatMap entryAssigns).filterMap (keyed k some) := by
  have hf : ((frontEntries st).filter fun p => p.1 = k) = [] := by
    rcases hk with rfl | rfl <;>
      simp [frontEntries, cacheEntries, filter_map_key]
  have hl : ((leaseEntries st).filter fun p => p.1 = k) = [] := by
    rcases hk with rfl | rfl <;> simp [leaseEntries]
  rw [fileEntries, List.flatMap_append, List.flatMap_append, List.filterMap_append,
    List.filterMap_append, filterMap_assigns (fun p hp => h.front hp),
    filterMap_assigns (fun p hp => newline_not_mem_leaseEntries hp), hf, hl,
    List.filterMap_nil, append_nil, nil_append]

lemma clean_text {k : Key} (text : Bytes) :
    Clean (((assignments text).filterMap (keyed k some)).getLastD []) := by
  rcases assigned_cases k some text [] with hd | ⟨v, hv, he⟩
  · rw [hd]
    exact clean_nil
  · exact Option.some_inj.mp he ▸ hv

lemma location_kept_iff (h : Writable st) : (reopened st).defaultLocation = st.defaultLocation ↔
      LocationKept st.defaultLocation (injected st.defaultReason) := by
  have hr := (reopened_assigned st).location
  have hcl : Clean (reopened st).defaultLocation := by
    rw [hr, ← assignments_persist]
    exact clean_text _
  have hva : Clean st.defaultLocation → (reopened st).defaultLocation
      = if st.defaultLocation = [] then ((injected st.defaultReason).filterMap locationOf).getLastD
        []
        else st.defaultLocation := by
    intro hc
    rw [hr, locationOf, filterMap_texts h (Or.inr rfl), textEntries, List.flatMap_append,
      List.filterMap_append, filterMap_text (by decide), getLastD_append]
    by_cases hn : st.defaultLocation = []
    · rw [if_pos hn, hn, entryUnless, if_pos rfl]
      rfl
    · rw [if_neg hn, entryUnless, if_neg hn, List.flatMap_cons, List.flatMap_nil, append_nil, id,
        hc.entryAssigns]
      rfl
  constructor
  · intro heq
    have hc : Clean st.defaultLocation := heq ▸ hcl
    refine ⟨hc, fun hn => ?_⟩
    have hv := hva hc
    rw [if_pos hn, heq, hn] at hv
    exact hv.symm
  · intro hk
    rw [hva hk.clean]
    split
    · next hn => rw [hk.last hn, hn]
    · rfl

lemma reason_kept_iff (h : Writable st) : (reopened st).defaultReason = st.defaultReason ↔
      ReasonKept st.defaultReason (injected st.defaultLocation) := by
  have hr := (reopened_assigned st).reason
  have hcl : Clean (reopened st).defaultReason := by
    rw [hr, ← assignments_persist]
    exact clean_text _
  have hv : Clean st.defaultReason → (reopened st).defaultReason
      = ((injected st.defaultLocation).filterMap reasonOf).getLastD st.defaultReason := by
    intro hc
    rw [hr, reasonOf, filterMap_texts h (Or.inl rfl), textEntries, List.flatMap_append,
      List.filterMap_append, filterMap_text (v := st.defaultLocation) (by decide), getLastD_append]
    have ho : (((entryUnless .defaultReason id st.defaultReason []).flatMap entryAssigns).filterMap
        (keyed .defaultReason some)).getLastD [] = st.defaultReason := by
      rw [entryUnless]
      split
      · next hn => exact hn.symm
      · rw [List.flatMap_cons, List.flatMap_nil, append_nil, id, hc.entryAssigns]
        rfl
    have hd : (applyDefaults st.cacheRoot).defaultReason = [] := rfl
    rw [hd, ho]
  constructor
  · intro heq
    have hc : Clean st.defaultReason := heq ▸ hcl
    exact ⟨hc, (hv hc).symm.trans heq⟩
  · intro hk
    rw [hv hk.clean, hk.last]

end Texts

/-- **Setting a text keeps the other keys** exactly when the store can be written and the further
lines of the two texts leave it alone; the other text too, when it can be written and is left alone.
-/
theorem setText_keeps_others (st : ConfigStore) (text : Bytes) :
    (OthersKept st (reopened (st.setDefaultReason text).2) ↔
      Undisturbed st (injected text ++ injected st.defaultLocation)) ∧
    (OthersKept st (reopened (st.setDefaultLocation text).2) ↔
      Undisturbed st (injected st.defaultReason ++ injected text)) ∧
    (OthersKept st (reopened (st.setDefaultReason text).2) ∧
        (reopened (st.setDefaultReason text).2).defaultLocation = st.defaultLocation ↔
      Undisturbed st (injected text ++ injected st.defaultLocation) ∧
        LocationKept st.defaultLocation (injected text)) ∧
          (OthersKept st (reopened (st.setDefaultLocation text).2) ∧
        (reopened (st.setDefaultLocation text).2).defaultReason = st.defaultReason ↔
      Undisturbed st (injected st.defaultReason ++ injected text) ∧
        ReasonKept st.defaultReason (injected text)) := by
  have hr : (st.setDefaultReason text).2 = withTexts st text st.defaultLocation := rfl
  have hl : (st.setDefaultLocation text).2 = withTexts st st.defaultReason text := rfl
  have hre := othersKept_iff st text st.defaultLocation
  have hlo := othersKept_iff st st.defaultReason text
  rw [hr, hl]
  refine ⟨hre, hlo, ?_, ?_⟩
  · rw [hre]
    refine and_congr_right fun h => ?_
    exact location_kept_iff ((writable_withTexts text st.defaultLocation).mpr h.writable)
  · rw [hlo]
    refine and_congr_right fun h => ?_
    exact reason_kept_iff ((writable_withTexts st.defaultReason text).mpr h.writable)

def freshStore : ConfigStore :=
  applyDefaults (lit "/var/cache/librescrs")

def twoLineReason : Bytes :=
  lit "approved\nTsaUrl = https://tsa.example"

/-- the second line of a reason becomes a timestamp authority -/
theorem setText_keeps_others_fails : (freshStore.setDefaultReason twoLineReason).1.ok = true ∧
    freshStore.tsaUrls = [] ∧
    (reopened (freshStore.setDefaultReason twoLineReason).2).tsaUrls
      = [lit "https://tsa.example"] := by
  refine ⟨rfl, rfl, ?_⟩
  decide

/-! ## The two lists -/

def withLists (st : ConfigStore) (urls : List Bytes) (sources : List TslSource) : ConfigStore :=
  ((st.setTsaUrls urls).2.setTslSources sources).2

lemma withLists_eq {urls : List Bytes} {sources : List TslSource} (hu : (st.setTsaUrls urls).1.ok)
    (hs : (st.setTslSources sources).1.ok) : withLists st urls sources =
    { st with tsaUrls := urls, tslSources := sources } ∧
      (∀ u ∈ urls, isHttpUrl u false) ∧ ∀ s ∈ sources, isHttpUrl s.url false := by
  have hu' : urls.all fun u => isHttpUrl u false := by
    by_contra hn
    simp [ConfigStore.setTsaUrls, hn] at hu
  have hs' : sources.all fun s => isHttpUrl s.url false := by
    by_contra hn
    simp [ConfigStore.setTslSources, hn] at hs
  refine ⟨?_, List.all_eq_true.mp hu', List.all_eq_true.mp hs'⟩
  rw [withLists, ConfigStore.setTslSources, if_pos hs', ConfigStore.setTsaUrls, if_pos hu']

section Lists
variable {urls : List Bytes} {sources : List TslSource}

section
variable (st)

def levelEntries : List (Key × Bytes) :=
  entryUnless .defaultLevel id st.defaultLevel kLevelDefault

def lastTsaEntries : List (Key × Bytes) :=
  entryUnless .lastTsaUrl id st.lastTsaUrl []

def entriesAfter : List (Key × Bytes) :=
  cacheEntries st ++ (textEntries st ++ leaseEntries st)

/-- the lines that values other than the two lists start, before the sources of the file -/
def linesBefore : List (Key × Bytes) :=
  startedLines (levelEntries st ++ lastTsaEntries st)

/-- the lines that values other than the two lists start, after the sources of the file -/
def linesAfter : List (Key × Bytes) :=
  startedLines (entriesAfter st)

end

lemma key_of_otherEntries (hp : p ∈ levelEntries st ∨ p ∈ lastTsaEntries st ∨ p ∈ entriesAfter st) :
    p.1 ≠ .tsaUrls ∧ p.1 ≠ .tslSources := by
  simp only [levelEntries, lastTsaEntries, entriesAfter, cacheEntries, textEntries, leaseEntries,
    mem_append, Option.mem_toList, Option.map_eq_some_iff] at hp
  rcases hp with hp | hp | ((hp | hp) | ⟨a, -, rfl⟩) | (hp | hp) | hp | hp
  case inr.inr.inl.inr => exact ⟨by simp, by simp⟩
  all_goals
    rw [(mem_of_entryUnless hp).2]
    exact ⟨by simp, by simp⟩

lemma fileEntries_lists (st : ConfigStore) : fileEntries st =
    levelEntries st ++ (st.tsaUrls.map (fun u => (.tsaUrls, u)) ++ (lastTsaEntries st ++
      (st.tslSources.map (fun s => (.tslSources, encodeTslSource s)) ++ entriesAfter st))) := by
  simp [fileEntries, frontEntries, levelEntries, lastTsaEntries, entriesAfter]

/-- the two lists after writing and opening again, when no entry of theirs starts a line -/
lemma lists_reopened (hu : ∀ u ∈ st.tsaUrls, newline ∉ u)
    (hs : ∀ s ∈ st.tslSources, newline ∉ encodeTslSource s) :
    (∃ x y, (reopened st).tsaUrls
        = x ++ (st.tsaUrls.filterMap (fun u => tsaUrlOf (.tsaUrls, trim u)) ++ y) ∧
      x ++ y = (linesBefore st ++ linesAfter st).filterMap tsaUrlOf) ∧
    (reopened st).tslSources = (linesBefore st).filterMap tslSourceOf ++
      (st.tslSources.filterMap (fun s => tslSourceOf (.tslSources, trim (encodeTslSource s))) ++
        (linesAfter st).filterMap tslSourceOf) := by
  have ha := reopened_assigned st
  have hk (p : Key × Bytes) := @key_of_otherEntries p st
  have hun : ∀ p ∈ st.tsaUrls.map fun u => (Key.tsaUrls, u), newline ∉ p.2 := by simpa using hu
  have hsn :
      ∀ p ∈ st.tslSources.map fun s => (Key.tslSources, encodeTslSource s), newline ∉ p.2 := by
    simpa using hs
  rw [fileEntries_lists] at ha
  constructor
  · refine ⟨_, _, ha.tsaUrls.trans (filterMap_own (fun p hp => (hk p (.inl hp)).1) hu ?_), ?_⟩
    · intro p hp
      simp only [mem_append, mem_map] at hp
      rcases hp with hp | ⟨s, -, rfl⟩ | hp
      · exact (hk p (.inr (.inl hp))).1
      · simp
      · exact (hk p (.inr (.inr hp))).1
    · rw [← List.filterMap_append, startedLines_append, startedLines_append,
        startedLines_of_not_mem hsn, nil_append, linesBefore, startedLines_append, append_assoc]
      rfl
  · have hfr : ∀ p ∈ levelEntries st ++ (st.tsaUrls.map (fun u => (.tsaUrls, u)) ++
      lastTsaEntries st),
        p.1 ≠ .tslSources := by
      intro p hp
      simp only [mem_append, mem_map] at hp
      rcases hp with hp | ⟨u, -, rfl⟩ | hp
      · exact (hk p (.inl hp)).2
      · simp
      · exact (hk p (.inr (.inl hp))).2
    rw [← append_assoc, ← append_assoc, ← append_assoc, append_assoc (levelEntries st),
      append_assoc (_ ++ _)] at ha
    refine ha.tslSources.trans ((filterMap_own hfr hs fun p hp => (hk p (.inr (.inr hp))).2).trans
      ?_)
    rw [startedLines_append, startedLines_append, startedLines_of_not_mem hun, nil_append,
      linesBefore, startedLines_append]
    rfl

/-- **The lists that the setters accept, after writing and opening again**: they are the same
exactly if each URL stands on one line, is not cut by a bar and is not shortened by trimming, no
line that another value starts is a timestamp URL, and such lines bring back, in their places, just
the sources that the file loses. -/
theorem trustLists_kept_iff (st : ConfigStore) (hu : (st.setTsaUrls urls).1.ok)
    (hs : (st.setTslSources sources).1.ok) :
    (reopened (withLists st urls sources)).tsaUrls = urls ∧
      (reopened (withLists st urls sources)).tslSources = sources ↔
    (∀ u ∈ urls, Clean u) ∧ (linesBefore st ++ linesAfter st).filterMap tsaUrlOf = [] ∧
      (∀ s ∈ sources, s.Plain ∧ (s.Exact ∨ s.Blank)) ∧
      (linesBefore st).filterMap tslSourceOf ++ (sources.filter (fun s => !decide s.Blank) ++
        (linesAfter st).filterMap tslSourceOf) = sources := by
  obtain ⟨he, hu, hs⟩ := withLists_eq hu hs
  rw [he]
  -- once the URLs stand on one line, each list is what it was between the lines that were started
  have hkept (hc : ∀ u ∈ urls, Clean u) (hp : ∀ s ∈ sources, s.Plain) :
      ((reopened { st with tsaUrls := urls, tslSources := sources }).tsaUrls = urls ↔
        (linesBefore st ++ linesAfter st).filterMap tsaUrlOf = []) ∧
      ((reopened { st with tsaUrls := urls, tslSources := sources }).tslSources = sources ↔
        (∀ s ∈ sources, s.Exact ∨ s.Blank) ∧ (linesBefore st).filterMap tslSourceOf ++
          (sources.filter (fun s => !decide s.Blank) ++ (linesAfter st).filterMap tslSourceOf)
            = sources) := by
    obtain ⟨⟨x, y, ht, hxy⟩, hts⟩ :=
      @lists_reopened { st with tsaUrls := urls, tslSources := sources }
      (fun u hm => (hc u hm).noNewline) fun s hm => newline_not_mem_encodeTslSource (hp s hm)
    have hid : urls.filterMap (fun u => tsaUrlOf (.tsaUrls, trim u)) = urls := by
      refine filterMap_of_forall fun u hm => ?_
      rw [tsaUrlOf, keyed_self, (hc u hm).trimmed, if_pos (hu u hm)]
    have hre : sources.filterMap (fun s => tslSourceOf (.tslSources, trim (encodeTslSource s)))
        = sources.filterMap TslSource.reread :=
      List.filterMap_congr fun s hm => tslSourceOf_encode (hp s hm)
    constructor
    · rw [ht, hid]
      refine Iff.trans ?_ (Eq.congr_left hxy)
      rw [← length_eq_zero_iff, length_append]
      constructor
      · intro h
        have hl := congrArg length h
        simp only [length_append] at hl
        omega
      · intro h
        rw [length_eq_zero_iff.mp (by omega : x.length = 0),
          length_eq_zero_iff.mp (by omega : y.length = 0)]
        simp
    · rw [hts, hre]
      exact tslSources_kept_iff _ _ _
  constructor
  · rintro ⟨ht, hts⟩
    have hw :=
      writable_of_load st.cacheRoot (persist { st with tsaUrls := urls, tslSources := sources })
    have hc : ∀ u ∈ urls, Clean u := fun u hm => (hw.tsaUrls u (ht.symm ▸ hm)).1
    have hp : ∀ s ∈ sources, s.Plain := fun s hm => hw.tslSources s (hts.symm ▸ hm)
    obtain ⟨hkt, hks⟩ := hkept hc hp
    obtain ⟨hex, hl⟩ := hks.mp hts
    exact ⟨hc, hkt.mp ht, fun s hm => ⟨hp s hm, hex s hm⟩, hl⟩
  · rintro ⟨hc, hn, hp, hl⟩
    obtain ⟨hkt, hks⟩ := hkept hc fun s hm => (hp s hm).1
    exact ⟨hkt.mpr hn, hks.mpr ⟨fun s hm => (hp s hm).2, hl⟩⟩

end Lists

/-- a store whose own timestamp URLs end in a space -/
def spacedStore : ConfigStore :=
  { freshStore with tsaUrls := [lit "https://old "], lastTsaUrl := lit "https://old " }

theorem trustLists_kept_iff_spaced :
    (reopened (withLists spacedStore [lit "https://tsa.example"]
      [⟨lit "https://lotl.example", true, false⟩])).tsaUrls = [lit "https://tsa.example"] ∧
    (reopened (withLists spacedStore [lit "https://tsa.example"]
      [⟨lit "https://lotl.example", true, false⟩])).tslSources
        = [⟨lit "https://lotl.example", true, false⟩] := by
  have hp : TslSource.Plain ⟨lit "https://lotl.example", true, false⟩ :=
    ⟨by decide, by decide, by decide⟩
  refine (trustLists_kept_iff spacedStore (by decide) (by decide)).mpr ⟨?_, rfl, ?_, by decide⟩
  · exact List.forall_mem_singleton.mpr ⟨by decide, by decide⟩
  · exact List.forall_mem_singleton.mpr ⟨hp, .inl (.inl rfl)⟩

/-- a bar in a URL comes back as a flag, and a space at its end does not come back -/
theorem trustLists_kept_fails : (freshStore.setTslSources
      [⟨lit "https://a|lotl", false, false⟩]).1.ok = true ∧
    (reopened (freshStore.setTslSources [⟨lit "https://a|lotl", false, false⟩]).2).tslSources =
      [⟨lit "https://a", true, false⟩] ∧
    (freshStore.setTsaUrls [lit "https://a "]).1.ok = true ∧
    (reopened (freshStore.setTsaUrls [lit "https://a "]).2).tsaUrls = [lit "https://a"] := by
  decide

/-! ## Restarts -/

lemma reopened_clean (h : Writable st) (hr : Clean st.defaultReason)
    (hl : Clean st.defaultLocation) :
    reopened st = { st with tslSources := st.tslSources.filterMap TslSource.reread } := by
  have hs := reopened_spec h
  have hri := injected_of_not_mem hr.noNewline
  have hli := injected_of_not_mem hl.noNewline
  rw [furtherLines, hri, hli] at hs
  have hre := (reason_kept_iff h).mpr ⟨hr, by rw [hli]; rfl⟩
  have hlo := (location_kept_iff h).mpr ⟨hl, fun _ => by rw [hri]; rfl⟩
  have hc : (reopened st).cacheRoot = st.cacheRoot := (reopened_assigned st).cacheRoot
  generalize reopened st = r at *
  have hi : r.pkcs11IdleTimeoutSecs = st.pkcs11IdleTimeoutSecs :=
    hs.idleTimeout.trans (ite_eq_right_iff.mpr Eq.symm)
  have hm : r.pkcs11MaxLifetimeSecs = st.pkcs11MaxLifetimeSecs :=
    hs.maxLifetime.trans (ite_eq_right_iff.mpr Eq.symm)
  have hu := hs.tsaUrls.trans (append_nil _)
  have ht := hs.tslSources.trans (append_nil _)
  obtain ⟨hle, -, hla, -, htd, hcd, han, -, -⟩ := hs
  cases r
  cases hc
  cases hle
  simp_all

/-- **A store that was read from a file is written and read back as it is**, but for an unflagged
source that ends in spaces; after that no number of restarts changes it. -/
theorem restarts_settle (cacheRoot text : Bytes) (n : Nat) :
    let st := loadFromFile (applyDefaults cacheRoot) text
    reopened st = { st with tslSources := st.tslSources.filterMap TslSource.reread } ∧
      reopened^[n] (reopened st) = reopened st := by
  have hload (text : Bytes) := by
    have h := loadFromFile_assigned (applyDefaults cacheRoot) text
    exact reopened_clean (writable_of_load cacheRoot text) (h.reason ▸ clean_text text)
      (h.location ▸ clean_text text)
  intro st
  refine ⟨hload text, Function.iterate_fixed ?_ n⟩
  have hst : st.cacheRoot = cacheRoot :=
    (loadFromFile_assigned (applyDefaults cacheRoot) text).cacheRoot
  have hre : reopened st = loadFromFile (applyDefaults cacheRoot) (persist st) :=
    hst ▸ reopened_eq st
  have h := hload (persist st)
  rw [← hre] at h
  have ht : (reopened st).tslSources.filterMap TslSource.reread = (reopened st).tslSources := by
    rw [hload text, List.filterMap_filterMap]
    refine List.filterMap_congr fun s _ => ?_
    cases hs : s.reread with
    | none => rfl
    | some s' => exact TslSource.reread_reread hs
  rw [h, ht]

end LibreAgent.Config
