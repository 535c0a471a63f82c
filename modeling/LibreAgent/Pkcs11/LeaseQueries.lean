import LibreAgent.Pkcs11.LeaseManager

/-!
# Usable leases and harmless queries

`grant` refreshes whatever entry is stored for its key, also one that has run out and has not been
asked about since.  The lease is then as old as that entry, and a query before the grant, which
would have dropped it, makes a difference.

* `GrantsLive` : every grant of a history finds no entry, or one that is still active;
* `Related` : two managers, one of which was also asked about leases; `answer_related` : they give
  the same answers;
* `usableAfterGrant_iff` : when a lease is usable right after its grant;
* `answer_withoutQueries` : while every grant finds its lease live or absent, queries change no
  answer.
-/

namespace LibreAgent.Pkcs11

open List LeaseManager

/-! ## Histories -/

section Histories
variable {Caller Card : Type*}

def LeaseCall.time : LeaseCall Caller Card → Option Int
  | .grant _ now | .isActive _ now | .touch _ now => some now
  | _ => none

def LeaseCall.isQuery : LeaseCall Caller Card → Bool
  | .isActive _ _ => true
  | _ => false

def LeaseCall.asks : LeaseCall Caller Card → Bool
  | .isActive _ _ | .touch _ _ => true
  | _ => false

variable (calls : List (LeaseCall Caller Card))

def times : List Int :=
  calls.filterMap LeaseCall.time

/-- the calls are made at times that do not go back -/
def Ordered : Prop :=
  (times calls).Pairwise (· ≤ ·)

/-- without the `isActive` queries -/
def withoutQueries : List (LeaseCall Caller Card) :=
  calls.filter fun call => !call.isQuery

end Histories

/-- the entry, if there is one, has not lapsed -/
def LiveOrAbsent (config : LeaseConfig) (now : Int) (stored : Option Entry) : Prop :=
  ∀ e, stored = some e → isActiveLocked config e now = true

variable {Caller Card : Type*} [DecidableEq Caller] [DecidableEq Card]

/-- a grant with a lifetime limit does not meet a lapsed entry -/
def GrantLive (m : LeaseManager Caller Card) : LeaseCall Caller Card → Prop
  | .grant key now => m.config.maxLifetime ≤ 0 ∨ LiveOrAbsent m.config now (m.leases key)
  | _ => True

/-- no grant of a history with a lifetime limit meets a lapsed entry -/
def GrantsLive (m : LeaseManager Caller Card) : List (LeaseCall Caller Card) → Prop
  | [] => True
  | call :: calls => GrantLive m call ∧ GrantsLive (m.perform call).2 calls

/-! ## Right after a grant -/

lemma isActiveLocked_iff (config : LeaseConfig) (e : Entry) (now : Int) :
    isActiveLocked config e now = true ↔
      now - e.lastUse < config.idleTimeout ∧
        (config.maxLifetime ≤ 0 ∨ now - e.origin < config.maxLifetime) := by
  unfold isActiveLocked
  split
  · rename_i h
    constructor
    · intro hf
      cases hf
    · rintro ⟨hi, -⟩
      omega
  · rename_i h
    split
    · rename_i hl
      constructor
      · intro hf
        cases hf
      · rintro ⟨-, hle⟩
        omega
    · rename_i hl
      constructor
      · intro _
        omega
      · intro _
        rfl

/-- the lifetime of the entry has not run out -/
def LifetimeLeft (config : LeaseConfig) (now : Int) (stored : Option Entry) : Prop :=
  config.maxLifetime ≤ 0 ∨ ∀ e, stored = some e → now - e.origin < config.maxLifetime

variable {config : LeaseConfig}

lemma lifetimeLeft_of_live {now : Int} {stored : Option Entry}
    (h : config.maxLifetime ≤ 0 ∨ LiveOrAbsent config now stored) :
    LifetimeLeft config now stored := by
  rcases h with h | h
  · exact Or.inl h
  · by_cases hm : config.maxLifetime ≤ 0
    · exact Or.inl hm
    · refine Or.inr fun e he => ?_
      obtain ⟨-, hl⟩ := (isActiveLocked_iff config e now).mp (h e he)
      omega

lemma isActiveLocked_granted (hi : 0 < config.idleTimeout) (now : Int) (stored : Option Entry) :
    isActiveLocked config (granted now stored) now = true ↔ LifetimeLeft config now stored := by
  rw [isActiveLocked_iff]
  cases stored with
  | none =>
    have ha : now - (granted now none).origin = 0 := Int.sub_self now
    have hu : now - (granted now none).lastUse = 0 := Int.sub_self now
    rw [ha, hu]
    constructor
    · intro _
      exact Or.inr fun e he => absurd he (Option.some_ne_none e).symm
    · intro _
      refine ⟨hi, ?_⟩
      omega
  | some e =>
    have hu : now - (granted now (some e)).lastUse = 0 := Int.sub_self now
    have ha : (granted now (some e)).origin = e.origin := rfl
    rw [hu, ha]
    constructor
    · rintro ⟨-, hm | hl⟩
      · exact Or.inl hm
      · refine Or.inr fun e' he' => ?_
        cases he'
        exact hl
    · rintro (hm | hl)
      · exact ⟨hi, Or.inl hm⟩
      · exact ⟨hi, Or.inr (hl e rfl)⟩

variable (m : LeaseManager Caller Card)

lemma usable_after_grant (hi : 0 < m.config.idleTimeout) (key : LeaseKey Caller Card) (now : Int) :
    ((m.grant key now).isActive key now).1 = true ∧ ((m.grant key now).touch key now).1 = true
      ↔ LifetimeLeft m.config now (m.leases key) := by
  have hc : (m.grant key now).config = m.config := m.perform_config (.grant key now)
  have hs : (m.grant key now).leases key = some (granted now (m.leases key)) := by
    rw [grant_leases, if_pos rfl]
  rw [touch_eq, isActive_eq, hc, hs, and_self, ← isActiveLocked_granted hi]
  cases ha : isActiveLocked m.config (granted now (m.leases key)) now with
  | true =>
    rw [reaped_live ha]
    exact ⟨fun _ => rfl, fun _ => rfl⟩
  | false =>
    rw [reaped_expired ha]
    exact ⟨fun h => absurd h Bool.false_ne_true, fun h => absurd h Bool.false_ne_true⟩

/-! ## With and without queries -/

lemma expired_mono {e : Entry} {t now : Int} (h : t ≤ now)
    (he : isActiveLocked config e t = false) : isActiveLocked config e now = false := by
  rw [Bool.eq_false_iff, Ne, isActiveLocked_iff] at he ⊢
  omega

def EntryRelated (config : LeaseConfig) (t : Int) : Option Entry → Option Entry → Prop
  | none, none => True
  | none, some e => isActiveLocked config e t = false
  | some e, some e' => e.lastUse = e'.lastUse ∧ (0 < config.maxLifetime → e.origin = e'.origin)
  | some _, none => False

section Entries
variable {config : LeaseConfig} {t now : Int} {o o' : Option Entry}

lemma EntryRelated.mono (h : EntryRelated config t o o') (ht : t ≤ now) :
    EntryRelated config now o o' := by
  cases o with
  | none =>
    cases o' with
    | none => trivial
    | some e => exact expired_mono ht h
  | some e =>
    cases o' <;> exact h

lemma isActiveLocked_related {e e' : Entry} (h : EntryRelated config t (some e) (some e')) :
    isActiveLocked config e now = isActiveLocked config e' now := by
  obtain ⟨hu, ho⟩ := h
  rw [Bool.eq_iff_iff, isActiveLocked_iff, isActiveLocked_iff, hu]
  by_cases hm : 0 < config.maxLifetime
  · rw [ho hm]
  · omega

section
variable (h : EntryRelated config t o o')
include h

lemma EntryRelated.reaped_both (ht : t ≤ now) :
    EntryRelated config now (reaped config now o) (reaped config now o') := by
  cases o with
  | none =>
    cases o' with
    | none => trivial
    | some e =>
      rw [reaped_expired (expired_mono ht h)]
      trivial
  | some e =>
    cases o' with
    | none => exact absurd h id
    | some e' =>
      have heq : isActiveLocked config e now = isActiveLocked config e' now :=
        isActiveLocked_related h
      cases ha : isActiveLocked config e' now with
      | true =>
        rw [reaped_live ha, reaped_live (heq.trans ha)]
        exact h
      | false =>
        rw [reaped_expired ha, reaped_expired (heq.trans ha)]
        trivial

lemma EntryRelated.reaped_left (ht : t ≤ now) :
    EntryRelated config now (reaped config now o) o' := by
  cases o with
  | none => exact h.mono ht
  | some e =>
    cases o' with
    | none => exact absurd h id
    | some e' =>
      cases ha : isActiveLocked config e now with
      | true =>
        rw [reaped_live ha]
        exact h
      | false =>
        rw [reaped_expired ha]
        exact (isActiveLocked_related h).symm.trans ha

lemma EntryRelated.isSome_reaped (ht : t ≤ now) :
    (reaped config now o).isSome = (reaped config now o').isSome := by
  have hb := h.reaped_both ht
  cases hr : reaped config now o with
  | none =>
    cases hr' : reaped config now o' with
    | none => rfl
    | some e =>
      -- what is left after reaping has not run out
      rw [hr, hr'] at hb
      have ha := (reaped_eq_some hr').2
      rw [hb] at ha
      cases ha
  | some e =>
    cases hr' : reaped config now o' with
    | none =>
      rw [hr, hr'] at hb
      exact absurd hb id
    | some e' => rfl

lemma EntryRelated.map {f : Entry → Entry} (hu : ∀ e, (f e).lastUse = e.lastUse)
    (ho : ∀ e, (f e).origin = e.origin) : EntryRelated config t (o.map f) (o'.map f) := by
  cases o with
  | none =>
    cases o' with
    | none => trivial
    | some e =>
      have he : isActiveLocked config (f e) t = isActiveLocked config e t := by
        rw [Bool.eq_iff_iff, isActiveLocked_iff, isActiveLocked_iff, hu, ho]
      exact he.trans h
  | some e =>
    cases o' with
    | none => exact h
    | some e' =>
      show (f e).lastUse = (f e').lastUse ∧ (0 < config.maxLifetime → (f e).origin = (f e').origin)
      rw [hu, hu, ho, ho]
      exact h

lemma EntryRelated.used :
    EntryRelated config t ((reaped config t o).map fun e => { e with lastUse := t })
      ((reaped config t o').map fun e => { e with lastUse := t }) := by
  have hb := h.reaped_both (Int.le_refl t)
  have hs := h.isSome_reaped (Int.le_refl t)
  cases hr : reaped config t o with
  | none =>
    cases hr' : reaped config t o' with
    | none => trivial
    | some e' =>
      rw [hr, hr'] at hs
      cases hs
  | some e =>
    cases hr' : reaped config t o' with
    | none =>
      rw [hr, hr'] at hs
      cases hs
    | some e' =>
      rw [hr, hr'] at hb
      exact ⟨rfl, hb.2⟩

lemma EntryRelated.granted (ht : t ≤ now)
    (hl : config.maxLifetime ≤ 0 ∨ LiveOrAbsent config now o') :
    EntryRelated config now (some (granted now o)) (some (Pkcs11.granted now o')) := by
  cases o with
  | none =>
    cases o' with
    | none => exact ⟨rfl, fun _ => rfl⟩
    | some e =>
      refine ⟨rfl, fun hm => ?_⟩
      rcases hl with hl | hl
      · omega
      · -- an entry that a query has dropped is not live
        have he := expired_mono ht h
        rw [hl e rfl] at he
        cases he
  | some e =>
    cases o' with
    | none => exact absurd h id
    | some e' => exact ⟨rfl, h.2⟩

end

end Entries

structure Related (t : Int) (m m' : LeaseManager Caller Card) : Prop where
  config : m.config = m'.config
  entries : ∀ key, EntryRelated m'.config t (m.leases key) (m'.leases key)

section Managers
variable {t now : Int} {m m' : LeaseManager Caller Card}

omit [DecidableEq Caller] [DecidableEq Card] in
lemma related_refl (m : LeaseManager Caller Card) (t : Int) : Related t m m := by
  refine ⟨rfl, fun key => ?_⟩
  cases m.leases key with
  | none => trivial
  | some e => exact ⟨rfl, fun _ => rfl⟩

lemma Related.query (h : Related t m m') (ht : t ≤ now) (k : LeaseKey Caller Card) :
    Related now (m.isActive k now).2 m' := by
  have hc : (m.isActive k now).2.config = m.config := m.perform_config (.isActive k now)
  refine ⟨hc.trans h.config, fun key => ?_⟩
  rw [isActive_leases, h.config]
  split
  · exact (h.entries key).reaped_left ht
  · exact (h.entries key).mono ht

variable {call : LeaseCall Caller Card}

lemma Related.perform (h : Related t m m') (hq : call.isQuery = false) (hl : GrantLive m' call)
    (ht : ∀ now ∈ call.time, t ≤ now) : Related (call.time.getD t) (m.perform call).2
    (m'.perform call).2 := by
  have hc : (m.perform call).2.config = (m'.perform call).2.config := by
    rw [m.perform_config, m'.perform_config, h.config]
  refine ⟨hc, fun key => ?_⟩
  rw [m'.perform_config, m.perform_leases, m'.perform_leases, h.config]
  have hke := h.entries key
  have hi {p : Prop} [Decidable p] {e e' : Option Entry} (he : EntryRelated m'.config t e e') :
      EntryRelated m'.config t (if p then e else m.leases key)
        (if p then e' else m'.leases key) := by
    split
    · exact he
    · exact hke
  cases call with
  | grant k now =>
    have hle : t ≤ now := ht now rfl
    show EntryRelated m'.config now (if key = k then _ else _) (if key = k then _ else _)
    split
    · rename_i hk
      rw [hk] at hke ⊢
      exact hke.granted hle hl
    · exact hke.mono hle
  | isActive k now => cases hq
  | touch k now =>
    have hle : t ≤ now := ht now rfl
    show EntryRelated m'.config now (if key = k then _ else _) (if key = k then _ else _)
    split
    · exact (hke.mono hle).used
    · exact hke.mono hle
  | isPinVerified k => exact hke
  | markPinVerified | clearPinVerified => exact hi (hke.map (fun _ => rfl) fun _ => rfl)
  | revoke | revokeCard | revokeCaller => exact hi trivial

lemma Related.answer (h : Related t m m') (ha : call.asks = true)
    (ht : ∀ now ∈ call.time, t ≤ now) : (m.perform call).1 = (m'.perform call).1 := by
  cases call with
  | isActive k now =>
    show some (m.isActive k now).1 = some (m'.isActive k now).1
    rw [m.isActive_eq, m'.isActive_eq, h.config, (h.entries k).isSome_reaped (ht now rfl)]
  | touch k now =>
    show some (m.touch k now).1 = some (m'.touch k now).1
    rw [m.touch_eq, m'.touch_eq, m.isActive_eq, m'.isActive_eq, h.config,
      (h.entries k).isSome_reaped (ht now rfl)]
  | grant | isPinVerified | markPinVerified | clearPinVerified | revoke | revokeCard
  | revokeCaller => cases ha

end Managers

variable {call : LeaseCall Caller Card} {calls history : List (LeaseCall Caller Card)}

omit [DecidableEq Caller] [DecidableEq Card] in
lemma ordered_cons {t : Int} (h : (t :: times (call :: calls)).Pairwise (· ≤ ·)) :
    (∀ now ∈ call.time, t ≤ now) ∧ (call.time.getD t :: times calls).Pairwise (· ≤ ·) := by
  cases ht : call.time with
  | none =>
    rw [times, List.filterMap_cons_none ht] at h
    exact ⟨fun now hn => absurd hn (Option.not_mem_none now), h⟩
  | some now =>
    rw [times, List.filterMap_cons_some ht] at h
    obtain ⟨hh, hta⟩ := pairwise_cons.mp h
    refine ⟨fun now' hn' => ?_, hta⟩
    cases hn'
    exact hh now mem_cons_self

lemma answer_related {t : Int} {m m' : LeaseManager Caller Card} (h : Related t m m')
    (hl : GrantsLive m' (withoutQueries history))
    (ha : call.asks = true) (ho : (t :: times (history ++ [call])).Pairwise (· ≤ ·)) :
    m.answer history call = m'.answer (withoutQueries history) call := by
  induction history generalizing t m m' with
  | nil => exact h.answer ha (ordered_cons ho).1
  | cons c history ih =>
    obtain ⟨ht, hr⟩ := ordered_cons ho
    cases hc : c.isQuery with
    | true =>
      -- only the history with queries moves
      have hs : withoutQueries (c :: history) = withoutQueries history :=
        filter_cons_of_neg (by rw [hc]; exact Bool.false_ne_true)
      rw [hs] at hl ⊢
      cases c with
      | isActive k now => exact ih (h.query (ht now rfl) k) hl hr
      | grant | touch | isPinVerified | markPinVerified | clearPinVerified | revoke | revokeCard
      | revokeCaller =>
        cases hc
    | false =>
      have hk : withoutQueries (c :: history) = c :: withoutQueries history :=
        filter_cons_of_pos (by rw [hc]; rfl)
      rw [hk] at hl ⊢
      exact ih (h.perform hc hl.1 ht) hl.2 hr

omit [DecidableEq Caller] [DecidableEq Card] in
lemma exists_start (h : Ordered calls) : ∃ t, (t :: times calls).Pairwise (· ≤ ·) := by
  cases ht : times calls with
  | nil => exact ⟨0, pairwise_singleton _ _⟩
  | cons now rest =>
    rw [Ordered, ht] at h
    refine ⟨now, pairwise_cons.mpr ⟨fun now' hn' => ?_, h⟩⟩
    rcases mem_cons.mp hn' with rfl | hn'
    · exact Int.le_refl _
    · exact (pairwise_cons.mp h).1 now' hn'

lemma answer_withoutQueries (hl : GrantsLive (.empty config) (withoutQueries history))
    (ha : call.asks = true) (ho : Ordered (history ++ [call])) : (empty config).answer history call
      = (empty config).answer (withoutQueries history) call := by
  obtain ⟨t, ht⟩ := exists_start ho
  exact answer_related (related_refl _ t) hl ha ht

/-! ## Granted leases -/

lemma performAll_config (calls : List (LeaseCall Caller Card)) :
    (m.performAll calls).config = m.config := by
  induction calls generalizing m with
  | nil => rfl
  | cons call calls ih =>
    show ((m.perform call).2.performAll calls).config = m.config
    rw [ih, m.perform_config]

lemma performAll_concat (calls : List (LeaseCall Caller Card)) (call : LeaseCall Caller Card) :
    m.performAll (calls ++ [call]) = ((m.performAll calls).perform call).2 := by
  rw [performAll, foldl_append]
  rfl

lemma grantsLive_append {m : LeaseManager Caller Card} {rest : List (LeaseCall Caller Card)} :
    GrantsLive m (calls ++ rest) ↔ GrantsLive m calls ∧ GrantsLive (m.performAll calls) rest := by
  induction calls generalizing m with
  | nil => exact ⟨fun h => ⟨trivial, h⟩, fun h => h.2⟩
  | cons call calls ih =>
    show GrantLive m call ∧ GrantsLive _ (calls ++ rest) ↔ (GrantLive m call ∧ GrantsLive _ calls) ∧
      GrantsLive _ rest
    rw [ih, and_assoc]
    rfl

omit [DecidableEq Caller] [DecidableEq Card] in
lemma ordered_again {again : LeaseCall Caller Card} {now : Int} (hc : call.time = some now)
    (hag : again.time = some now)
    (h : Ordered (calls ++ [call])) : Ordered (calls ++ [call] ++ [again]) := by
  have ht : times (calls ++ [call]) = times calls ++ [now] := by
    rw [times, List.filterMap_append, List.filterMap_cons_some hc]
    rfl
  have ht' : times (calls ++ [call] ++ [again]) = times calls ++ [now] ++ [now] := by
    rw [times, List.filterMap_append, ← times, ht, List.filterMap_cons_some hag]
    rfl
  rw [Ordered, ht] at h
  rw [Ordered, ht']
  refine pairwise_append.mpr ⟨h, pairwise_singleton _ _, ?_⟩
  intro a ha b hb
  rw [mem_singleton.mp hb]
  rcases mem_append.mp ha with ha | ha
  · exact (pairwise_append.mp h).2.2 a ha now mem_cons_self
  · rw [mem_singleton.mp ha]

/-- both questions about a lease are answered with yes right after its grant -/
def UsableAfterGrant (config : LeaseConfig) (history : List (LeaseCall Caller Card))
    (key : LeaseKey Caller Card) (now : Int) : Prop :=
  (empty config).answer (history ++ [.grant key now]) (.isActive key now) = some true ∧
    (empty config).answer (history ++ [.grant key now]) (.touch key now) = some true

lemma usableAfterGrant_iff (hi : 0 < config.idleTimeout)
    (history : List (LeaseCall Caller Card)) (key : LeaseKey Caller Card) (now : Int) :
    UsableAfterGrant config history key now ↔
      LifetimeLeft config now (((empty config).performAll history).leases key) := by
  have hc : ((empty config).performAll history).config = config := performAll_config _ history
  have hu := usable_after_grant ((empty config).performAll history) (by rw [hc]; exact hi) key now
  rw [hc] at hu
  unfold UsableAfterGrant answer
  rw [performAll_concat, ← hu]
  show some _ = some true ∧ some _ = some true ↔ _
  rw [Option.some_inj, Option.some_inj]
  rfl

lemma usableAfterGrant_of_live (hi : 0 < config.idleTimeout) {key : LeaseKey Caller Card}
    {now : Int} (hl : GrantsLive (.empty config) (withoutQueries (history ++ [.grant key now])))
    (ho : Ordered (history ++ [.grant key now])) : UsableAfterGrant config history key now := by
  have hs : withoutQueries (history ++ [LeaseCall.grant key now]) = withoutQueries history ++
    [.grant key now] := by
    rw [withoutQueries, filter_append]
    rfl
  have hw : UsableAfterGrant config (withoutQueries history) key now := by
    rw [usableAfterGrant_iff hi]
    apply lifetimeLeft_of_live
    rw [hs] at hl
    have hg := (grantsLive_append.mp hl).2.1
    rw [GrantLive, performAll_config] at hg
    exact hg
  unfold UsableAfterGrant at hw ⊢
  rw [answer_withoutQueries hl rfl (ordered_again rfl rfl ho),
      answer_withoutQueries hl rfl (ordered_again rfl rfl ho), hs]
  exact hw

/-- A grant makes its lease usable exactly if the lifetime of what is stored is not over.  Where
every grant finds a live entry or none, each makes its lease usable, and queries put in or taken out
change no later answer. -/
theorem granted_lease_usable (config : LeaseConfig) (hidle : 0 < config.idleTimeout)
    (history : List (LeaseCall Caller Card)) : (∀ key now, UsableAfterGrant config history key now ↔
      LifetimeLeft config now (((empty config).performAll history).leases key)) ∧
    (∀ key now, GrantsLive (.empty config) (withoutQueries (history ++ [.grant key now])) →
      Ordered (history ++ [.grant key now]) → UsableAfterGrant config history key now) ∧
    (GrantsLive (.empty config) (withoutQueries history) →
      ∀ other call, withoutQueries other = withoutQueries history → call.asks = true →
        Ordered (history ++ [call]) → Ordered (other ++ [call]) →
        (empty config).answer other call
          = (empty config).answer history call) := by
  refine ⟨usableAfterGrant_iff hidle history, fun key now => usableAfterGrant_of_live hidle, ?_⟩
  intro hl other call hs ha ho hot
  rw [answer_withoutQueries (by rw [hs]; exact hl) ha hot, hs, answer_withoutQueries hl ha ho]

def shortLease : LeaseConfig := ⟨30, 60⟩

def someKey : LeaseKey Nat Nat := ⟨1, 7⟩

theorem granted_lease_usable_renewed : UsableAfterGrant shortLease
    [.grant someKey 0, .touch someKey 20] someKey 40 ∧
      (empty shortLease).answer
          [.grant someKey 0, .isActive someKey 10, .touch someKey 20, .grant someKey 40]
          (.touch someKey 50)
        = (empty shortLease).answer
          [.grant someKey 0, .touch someKey 20, .grant someKey 40] (.touch someKey 50) := by
  have hl : GrantsLive (.empty shortLease)
    [LeaseCall.grant someKey 0, .touch someKey 20, .grant someKey 40] := by
    refine ⟨Or.inr fun e he => ?_, trivial, Or.inr fun e he => ?_, trivial⟩
    · cases he
    · cases he
      decide
  obtain ⟨-, hu, -⟩ :=
    granted_lease_usable shortLease (by decide) [LeaseCall.grant someKey 0, .touch someKey 20]
  obtain ⟨-, -, hq⟩ := granted_lease_usable shortLease (by decide)
    [LeaseCall.grant someKey 0, .touch someKey 20, .grant someKey 40]
  refine ⟨hu someKey 40 hl ?_, hq hl _ _ rfl rfl ?_ ?_⟩
  · show [(0 : Int), 20, 40].Pairwise (· ≤ ·)
    decide
  · show [(0 : Int), 20, 40, 50].Pairwise (· ≤ ·)
    decide
  · show [(0 : Int), 10, 20, 40, 50].Pairwise (· ≤ ·)
    decide

/-- an entry that outlived its time makes the next lease dead on arrival, and a query before the
grant would have made it usable -/
theorem granted_lease_usable_fails : ¬ UsableAfterGrant shortLease [.grant someKey 0] someKey 70 ∧
      (empty shortLease).answer [.grant someKey 0, .grant someKey 70] (.touch someKey 70)
        = some false ∧
      (empty shortLease).answer
          [.grant someKey 0, .isActive someKey 65, .grant someKey 70] (.touch someKey 70)
        = some true := by
  refine ⟨?_, by decide, by decide⟩
  intro h
  exact absurd h.1 (by decide)

end LibreAgent.Pkcs11
