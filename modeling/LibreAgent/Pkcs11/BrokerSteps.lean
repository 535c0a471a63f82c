import LibreAgent.Pkcs11.Broker

/-!
# What the steps of the broker can do
-/

set_option linter.unusedSectionVars false

namespace LibreAgent.Pkcs11

open Operations List

variable {Caller Card Reader : Type*} [DecidableEq Caller] [DecidableEq Card] [DecidableEq Reader]

/-! ## Events -/

namespace Event

def covers (key : LeaseKey Caller Card) : Event Caller Card → Prop
  | loggedOut k => k = key
  | disconnected caller => caller = key.caller
  | removed card => card = key.card
  | quiesced _ cards => key.card ∈ cards
  | _ => False

def isOutside : Event Caller Card → Prop
  | granted _ _ | collected _ _ | started _ _ _ | used _ _ _ | ended _ _ _ _ => False
  | _ => True

def grants (key : LeaseKey Caller Card) : Event Caller Card → Prop
  | granted _ k => k = key
  | _ => False

lemma not_grants_of_isOutside {e : Event Caller Card} (h : e.isOutside)
    (key : LeaseKey Caller Card) :
    ¬ e.grants key := by
  cases e <;> first | exact id | exact absurd h id

end Event

/-! ## Entries that are kept or dropped -/

def Shrinks (before after : Option Entry) : Prop :=
  ∀ e, after = some e → ∃ e', before = some e' ∧ e.pinVerified = e'.pinVerified

variable (stored : Option Entry)

lemma Shrinks.refl : Shrinks stored stored := fun e h => ⟨e, h, rfl⟩

lemma Shrinks.none : Shrinks stored none := fun _ h => nomatch h

lemma shrinks_reaped (config : LeaseConfig) (now : Int) (stored : Option Entry) :
    Shrinks stored (reaped config now stored) :=
  fun e h => ⟨e, (reaped_eq_some h).1, rfl⟩

lemma shrinks_ite {cond : Prop} [Decidable cond] {before after : Option Entry}
    (h : Shrinks before after) : Shrinks before (if cond then after else before) := by
  split
  · exact h
  · exact Shrinks.refl before

namespace LeaseManager

variable (m : LeaseManager Caller Card)

lemma isActive_shrinks (k key : LeaseKey Caller Card) (now : Int) :
    Shrinks (m.leases key) ((m.isActive k now).2.leases key) := by
  rw [isActive_leases]
  exact shrinks_ite (shrinks_reaped _ _ _)

lemma touch_shrinks (k key : LeaseKey Caller Card) (now : Int) :
    Shrinks (m.leases key) ((m.touch k now).2.leases key) := by
  rw [touch_leases]
  refine shrinks_ite fun e h => ?_
  obtain ⟨e', he', rfl⟩ := Option.map_eq_some_iff.mp h
  exact ⟨e', (reaped_eq_some he').1, rfl⟩

lemma revokeAll_shrinks (which : LeaseKey Caller Card → Bool)
    (key : LeaseKey Caller Card) : Shrinks (m.leases key) ((m.revokeAll which).leases key) :=
  shrinks_ite (Shrinks.none _)

lemma foldl_revokeCard_leases (cards : List Card) (m : LeaseManager Caller Card)
    (key : LeaseKey Caller Card) :
    (cards.foldl revokeCard m).leases key = if key.card ∈ cards then none else m.leases key := by
  induction cards generalizing m with
  | nil => simp
  | cons card cards ih =>
    rw [foldl_cons, ih]
    simp only [revokeCard, revokeAll, decide_eq_true_eq, mem_cons]
    by_cases hc : key.card = card <;> simp [hc]

end LeaseManager

/-! ## Steps that are not a worker's -/

def Action.revokes (home : Card → Reader) (w : World Caller Card Reader)
    (key : LeaseKey Caller Card) : Action Caller Card Reader → Prop
  | logout reader caller => caller = key.caller ∧ w.resolveCardKey home reader = some key.card
  | onClientDisconnected client => client = key.caller
  | onCardRemoved card => card = key.card
  | quiesce _ => key.card ∈ w.cards
  | _ => False

/-- a step that revokes the leases in question and is remembered by the events in `new` -/
structure Outside (home : Card → Reader) (revoked : LeaseKey Caller Card → Prop)
    (new : List (Event Caller Card)) (w w' : World Caller Card Reader) : Prop where
  lease : ∀ key, Shrinks (w.lease.leases key) (w'.lease.leases key)
  revokes : ∀ key, revoked key → w'.lease.leases key = none
  running : ∀ reader, (w'.workers reader).running = (w.workers reader).running
  queue : ∀ reader, ∀ job ∈ (w'.workers reader).queue, job ∈ (w.workers reader).queue ∨
    (home job.key.card = reader ∧ (job.task = .login →
      ⟨job.request, reader, job.key.caller⟩ ∈ w.authorizing))
  authorizing : ∀ pending ∈ w'.authorizing, pending ∈ w.authorizing ∨
    (Event.requested pending.request pending.caller ∈ new ∧ ∀ key, ¬ revoked key)
  nextOp : w'.nextOp = w.nextOp
  history : w'.history = new ++ w.history
  outside : ∀ e ∈ new, e.isOutside
  covers : ∀ e ∈ new, ∀ key, e.covers key → revoked key

abbrev Harmless (home : Card → Reader) (new : List (Event Caller Card))
    (w w' : World Caller Card Reader) : Prop :=
  Outside home (fun _ => False) new w w'

section
variable {home : Card → Reader} {new : List (Event Caller Card)} {w w' : World Caller Card Reader}

/-- nothing happens but that leases may run out, and logins may wait no longer -/
lemma harmless_of_shrinks (hl : ∀ key, Shrinks (w.lease.leases key) (w'.lease.leases key))
    (hw : w'.workers = w.workers) (ha : w'.authorizing ⊆ w.authorizing)
    (hn : w'.nextOp = w.nextOp) (hh : w'.history = w.history) : Harmless home [] w w' where
  lease := hl
  revokes _ := False.elim
  running reader := by rw [hw]
  queue reader job h := by
    rw [hw] at h
    exact .inl h
  authorizing pending h := .inl (ha h)
  nextOp := hn
  history := hh
  outside := nofun
  covers := nofun

lemma harmless_refl (home : Card → Reader) (w : World Caller Card Reader) : Harmless home [] w w :=
  harmless_of_shrinks (fun _ => Shrinks.refl _) rfl (List.Subset.refl _) rfl rfl

variable {e : Event Caller Card}

lemma Outside.record (h : Harmless home new w w') (he : e.isOutside)
    (hc : ∀ key, ¬ e.covers key) : Harmless home (e :: new) w (w'.record e) where
  lease := h.lease
  revokes := h.revokes
  running := h.running
  queue := h.queue
  authorizing pending hp := (h.authorizing pending hp).imp_right fun ⟨hne, hn⟩ =>
    ⟨List.mem_cons_of_mem _ hne, hn⟩
  nextOp := h.nextOp
  history := by rw [World.record, h.history, cons_append]
  outside x hx := by
    rcases mem_cons.mp hx with rfl | hx
    · exact he
    · exact h.outside x hx
  covers x hx key hco := by
    rcases mem_cons.mp hx with rfl | hx
    · exact hc key hco
    · exact h.covers x hx key hco

lemma outside_revocation {revoked : LeaseKey Caller Card → Prop}
    {lease : LeaseManager Caller Card} (hl : ∀ key, Shrinks (w.lease.leases key) (lease.leases key))
    (hr : ∀ key, revoked key → lease.leases key = none) (he : e.isOutside)
    (hc : ∀ key, e.covers key → revoked key) :
    Outside home revoked [e] w (World.record { w with lease } e) where
  lease := hl
  revokes := hr
  running _ := rfl
  queue _ _ := .inl
  authorizing _ := .inl
  nextOp := rfl
  history := rfl
  outside x hx := by
    rw [mem_singleton.mp hx]
    exact he
  covers x hx := by
    rw [mem_singleton.mp hx]
    exact hc

end

namespace World

variable {home : Card → Reader}

variable (w : World Caller Card Reader)

@[simp] lemma setWorker_self (reader : Reader)
    (worker : Worker Caller Card) : (w.setWorker reader worker).workers reader = worker :=
  Function.update_self ..

variable {reader : Reader}

@[simp] lemma setWorker_of_ne {reader' : Reader} (h : reader' ≠ reader)
    (w : World Caller Card Reader) (worker : Worker Caller Card) :
    (w.setWorker reader worker).workers reader' = w.workers reader' :=
  Function.update_of_ne h ..

lemma home_of_resolveCardKey {w : World Caller Card Reader} {card : Card}
    (h : w.resolveCardKey home reader = some card) : home card = reader :=
  of_decide_eq_true (List.find?_some (p := fun card => decide (home card = reader)) h)

lemma enqueueOnReaderWorker_outside {new : List (Event Caller Card)}
    {w w' w'' : World Caller Card Reader} {job : Job Caller Card} {room : Bool}
    (hw : Harmless home new w w') (h : w'.enqueueOnReaderWorker reader job room = some w'')
    (hjo : home job.key.card = reader)
    (hl : job.task = .login → ⟨job.request, reader, job.key.caller⟩ ∈ w.authorizing) :
    Harmless home new w w'' := by
  unfold enqueueOnReaderWorker at h
  split at h
  · cases h
    refine { hw with running := fun r => ?_, queue := fun r j hj => ?_ }
    · rw [← hw.running r]
      by_cases hr : r = reader
      · subst hr
        rw [setWorker_self]
      · rw [setWorker_of_ne hr]
    · by_cases hr : r = reader
      · subst hr
        rw [setWorker_self] at hj
        rcases mem_append.mp hj with hj | hj
        · exact hw.queue r j hj
        · rw [mem_singleton.mp hj]
          exact .inr ⟨hjo, hl⟩
      · rw [setWorker_of_ne hr] at hj
        exact hw.queue r j hj
  · cases h

lemma login_outside (reader : Reader) (caller : Caller) :
    Harmless home [.requested w.nextRequest caller] w (w.login reader caller) where
  lease _ := Shrinks.refl _
  revokes _ := False.elim
  running _ := rfl
  queue _ _ := .inl
  authorizing pending hp := by
    rcases mem_append.mp hp with hp | hp
    · exact .inl hp
    · rw [mem_singleton.mp hp]
      exact .inr ⟨mem_cons_self, fun _ => id⟩
  nextOp := rfl
  history := rfl
  outside x hx := by
    rw [mem_singleton.mp hx]
    trivial
  covers x hx := by
    rw [mem_singleton.mp hx]
    exact fun _ => id

lemma continueLogin_outside {w w' : World Caller Card Reader} (h : Harmless home [] w w')
    {pending : PendingLogin Caller Reader} (hp : pending ∈ w.authorizing) (room : Bool) :
    ∃ new, Harmless home new w (w'.continueLogin home pending room) := by
  unfold continueLogin
  split
  · exact ⟨_, h.record trivial fun _ => id⟩
  · rename_i card hc
    split
    · exact ⟨_, h.record trivial fun _ => id⟩
    · next w'' hw'' =>
        exact ⟨_, enqueueOnReaderWorker_outside h hw'' (home_of_resolveCardKey hc) fun _ => hp⟩

lemma authorized_outside (request : Nat) (outcome : AuthorizationOutcome) (room : Bool) :
    ∃ new, Harmless home new w (w.authorized home request outcome room) := by
  unfold authorized
  split
  · exact ⟨_, harmless_refl home w⟩
  · rename_i pending hp
    have hm : pending ∈ w.authorizing := mem_of_find?_eq_some hp
    have hl : Harmless home [] w { w with
        authorizing := w.authorizing.filter fun pending => pending.request ≠ request } :=
      harmless_of_shrinks (fun _ => Shrinks.refl _) rfl (filter_subset_self _) rfl rfl
    cases outcome with
    | granted =>
      show ∃ new, Harmless home new w (ite _ _ _)
      split
      · exact ⟨_, hl⟩
      · exact continueLogin_outside hl hm room
    | denied | undecided => exact ⟨_, hl.record trivial fun _ => id⟩

lemma logout_outside (reader : Reader) (caller : Caller) :
    ∃ new, Outside home (fun key => caller = key.caller ∧ w.resolveCardKey home reader =
      some key.card) new w
      (w.logout home reader caller) := by
  unfold logout
  split
  · rename_i hn
    refine ⟨[], { harmless_refl home w with revokes := ?_, authorizing := ?_, covers := nofun }⟩
    · rintro key ⟨-, hc⟩
      rw [hn] at hc
      cases hc
    · exact fun _ => .inl
  · rename_i card hc
    refine ⟨_, outside_revocation (LeaseManager.revokeAll_shrinks _ _) ?_ trivial ?_⟩
    · rintro ⟨_, _⟩ ⟨rfl, hk⟩
      rw [hc] at hk
      cases hk
      exact if_pos (decide_eq_true rfl)
    · rintro key rfl
      exact ⟨rfl, hc⟩

lemma loginActive_outside (reader : Reader) (caller : Caller) (now : Int) :
    ∃ new, Harmless home new w (w.loginActive home reader caller now) := by
  unfold loginActive
  split
  · exact ⟨_, (harmless_refl home w).record trivial fun _ => id⟩
  · rename_i card hc
    have ha : Harmless home [] w { w with lease := (w.lease.isActive ⟨caller, card⟩ now).2 } :=
      harmless_of_shrinks (fun key => LeaseManager.isActive_shrinks _ _ key now) rfl
        (List.Subset.refl _) rfl rfl
    exact ⟨_, ha.record trivial fun _ => id⟩

lemma dispatchCrypto_outside {w w' : World Caller Card Reader} (h : Harmless home [] w w')
    {key : LeaseKey Caller Card} (hk : home key.card = reader) (request : RawCryptoFlow.Request)
    (room : Bool) : ∃ new, Harmless home new w (w'.dispatchCrypto reader key request room) := by
  have hc : Harmless home [] w { w' with nextRequest := w'.nextRequest + 1 } :=
    { h with }
  unfold dispatchCrypto
  dsimp only
  split
  · exact ⟨_, hc.record trivial fun _ => id⟩
  · next w'' hw'' => exact ⟨_, enqueueOnReaderWorker_outside hc hw'' hk nofun⟩

lemma runCrypto_outside (call : CryptoCall) (reader : Reader)
    (certId label : String) (caller : Caller) (now : Int) (room : Bool) :
    ∃ new, Harmless home new w (w.runCrypto home call reader certId label caller now room) := by
  unfold runCrypto
  split
  · exact ⟨_, (harmless_refl home w).record trivial fun _ => id⟩
  · exact ⟨_, (harmless_refl home w).record trivial fun _ => id⟩
  · rename_i mechanism bytes card hc hca
    have ht : Harmless home [] w { w with lease := (w.lease.touch ⟨caller, card⟩ now).2 } :=
      harmless_of_shrinks (fun key => LeaseManager.touch_shrinks _ _ key now) rfl
        (List.Subset.refl _) rfl rfl
    dsimp only
    split
    · exact dispatchCrypto_outside ht (home_of_resolveCardKey hca) _ _
    · exact ⟨_, ht.record trivial fun _ => id⟩

lemma onCardRemoved_outside (card : Card) :
    Outside home (fun key => card = key.card) [.removed card] w (w.onCardRemoved card) := by
  refine outside_revocation (LeaseManager.revokeAll_shrinks _ _) ?_ trivial fun _ => id
  rintro key rfl
  exact if_pos (decide_eq_true rfl)

lemma onClientDisconnected_outside (client : Caller) :
    Outside home (fun key => client = key.caller) [.disconnected client] w
      (w.onClientDisconnected client) := by
  refine outside_revocation (LeaseManager.revokeAll_shrinks _ _) ?_ trivial fun _ => id
  rintro key rfl
  exact if_pos (decide_eq_true rfl)

lemma quiesce_outside (reason : QuiesceReason) :
    Outside home (fun key => key.card ∈ w.cards) [.quiesced reason w.cards] w
      (w.quiesce reason) := by
  refine outside_revocation (fun key => ?_) (fun key hk => ?_) trivial fun _ => id
  · rw [LeaseManager.foldl_revokeCard_leases]
    exact shrinks_ite (Shrinks.none _)
  · rw [LeaseManager.foldl_revokeCard_leases]
    exact if_pos hk

lemma removeReader_outside (reader : Reader) : Harmless home [] w (w.removeReader reader) := by
  refine { harmless_refl home w with running := fun r => ?_, queue := fun r job hj => ?_ }
  · by_cases hr : r = reader
    · subst hr
      rw [removeReader, setWorker_self]
    · rw [removeReader, setWorker_of_ne hr]
  · by_cases hr : r = reader
    · subst hr
      rw [removeReader, setWorker_self] at hj
      cases hj
    · rw [removeReader, setWorker_of_ne hr] at hj
      exact .inl hj

lemma step_outside (home : Card → Reader) (w : World Caller Card Reader)
    (action : Action Caller Card Reader) :
    (∃ reader answers, action = .work reader answers) ∨
      ∃ new, Outside home (fun key => action.revokes home w key) new w (w.step home action) := by
  cases action with
  | work reader answers => exact .inl ⟨reader, answers, rfl⟩
  | cardInserted | cardGone | shutdown => exact .inr ⟨[], { harmless_refl home w with }⟩
  | login reader caller => exact .inr ⟨_, login_outside w reader caller⟩
  | authorized request outcome room => exact .inr (authorized_outside w request outcome room)
  | logout reader caller => exact .inr (logout_outside w reader caller)
  | loginActive reader caller now => exact .inr (loginActive_outside w reader caller now)
  | crypto call reader certId label caller now room =>
    exact .inr (runCrypto_outside w call reader certId label caller now room)
  | onCardRemoved card => exact .inr ⟨_, onCardRemoved_outside w card⟩
  | onClientDisconnected client => exact .inr ⟨_, onClientDisconnected_outside w client⟩
  | quiesce reason => exact .inr ⟨_, quiesce_outside w reason⟩
  | removeReader reader => exact .inr ⟨_, removeReader_outside w reader⟩

end World

end LibreAgent.Pkcs11
