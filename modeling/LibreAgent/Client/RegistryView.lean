import LibreAgent.Client.AgentMirror
import LibreAgent.Client.ClientSteps

/-!
# The client's readers and cards

* `AgentClient.view` : the properties of the client's object with an id, and what the calls on the
  registry do to it;
* `Watched` : each object is subscribed under its id, and nobody else listens at its address.
-/

namespace LibreAgent.Client

open List Function

/-! ## Lists of objects -/

section Objects
variable {F : Type} {objects : List (Tracked F)} {applyProps : F → Props → F} {id id' : Bytes}
  {props : Props}

def trackedAt (objects : List (Tracked F)) (id : Bytes) : Option F :=
  (objects.find? (·.id = id)).map (·.properties)

lemma trackedAt_cons (o : Tracked F) (objects : List (Tracked F)) (id : Bytes) :
    trackedAt (o :: objects) id =
      if o.id = id then some o.properties else trackedAt objects id := by
  unfold trackedAt
  by_cases ho : o.id = id <;> simp [ho]

lemma trackedAt_map {q : Tracked F → Prop} [DecidablePred q] {p : Prop} [Decidable p] (f : F → F)
    (hq : ∀ o ∈ objects, o.id = id → (q o ↔ p)) :
    trackedAt (objects.map fun o => if q o then { o with properties := f o.properties } else o) id =
      if p then (trackedAt objects id).map f else trackedAt objects id := by
  induction objects with
  | nil => simp [trackedAt]
  | cons o objects ih => grind [trackedAt_cons]

lemma trackedAt_primed {v : F} (hv : ∀ f, applyProps f props = v)
    (ha : objects.any (·.id = id) = true) :
    trackedAt (primed applyProps id props objects) = update (trackedAt objects) id (some v) := by
  funext id'
  rw [primed, trackedAt_map (p := id' = id) (applyProps · props) (by grind), update_apply]
  split
  · rename_i hid
    rw [List.any_eq_true] at ha
    obtain ⟨o, ho⟩ := Option.isSome_iff_exists.mp (List.find?_isSome.mpr ha)
    simp only [trackedAt, hid, ho, Option.map_some, hv]
  · rfl

lemma trackedAt_append (hn : objects.any (·.id = id) = false) (address : Nat) (v : F) :
    trackedAt (objects ++ [⟨address, id, v⟩]) = update (trackedAt objects) id (some v) := by
  funext id'
  rw [update_apply]
  induction objects with
  | nil => grind [trackedAt]
  | cons o objects ih => grind [trackedAt_cons]

lemma trackedAt_filter (objects : List (Tracked F)) (id : Bytes) :
    trackedAt (objects.filter (·.id ≠ id)) = update (trackedAt objects) id none := by
  funext id'
  rw [update_apply]
  induction objects with
  | nil => simp [trackedAt]
  | cons o objects ih => grind [trackedAt_cons]

lemma foldl_changed {addresses : List Nat} (hn : addresses.Nodup) :
    addresses.foldl (fun objects address => changed applyProps address props objects) objects =
      objects.map fun o => if o.address ∈ addresses then
        { o with properties := applyProps o.properties props } else o := by
  induction addresses generalizing objects with
  | nil => simp
  | cons address addresses ih =>
    obtain ⟨hno, hn⟩ := nodup_cons.mp hn
    rw [foldl_cons, ih hn]
    unfold changed
    rw [map_map]
    refine map_congr_left fun o _ => ?_
    grind

end Objects

namespace AgentClient
variable {qt : QVariants} {c c' : AgentClient} {k : ObjectKind} {id : Bytes} {props : Props}

/-! ## The view -/

def view (c : AgentClient) (k : ObjectKind) : Bytes → Option k.Fields :=
  trackedAt (c.objects k)

/-- a view with one object put in or taken out -/
def setAt (view : (k : ObjectKind) → Bytes → Option k.Fields) (k : ObjectKind) (id : Bytes)
    (o : Option k.Fields) : (k : ObjectKind) → Bytes → Option k.Fields :=
  update view k (update (view k) id o)

lemma forall_setAt {view : (k : ObjectKind) → Bytes → Option k.Fields} {o : Option k.Fields}
    {P : (k : ObjectKind) → Bytes → Option k.Fields → Prop} (ho : P k id o)
    (hv : ∀ k' id', ¬ (k' = k ∧ id' = id) → P k' id' (view k' id')) (k' : ObjectKind)
    (id' : Bytes) : P k' id' (setAt view k id o k' id') := by
  unfold setAt
  by_cases hk : k' = k
  · subst hk
    rw [update_self, update_apply]
    split
    · next hid => exact hid ▸ ho
    · next hid => exact hv k' id' fun h => hid h.2
  · rw [update_of_ne hk]
    exact hv k' id' fun h => hk h.1

lemma view_update {l : List (Tracked k.Fields)} {o : Option k.Fields}
    (h : c'.objects = update c.objects k l) (hl : trackedAt l = update (c.view k) id o) :
    c'.view = setAt c.view k id o := by
  funext k'
  unfold view setAt
  rw [h]
  by_cases hk : k' = k
  · subst hk
    rw [update_self, update_self]
    exact hl
  · rw [update_of_ne hk, update_of_ne hk]

lemma view_addObject (c : AgentClient) (id : Bytes) {v : k.Fields}
    (hv : ∀ f, k.applyProps qt f props = v) :
    (c.addObject qt k id props).view = setAt c.view k id (some v) := by
  unfold addObject
  split
  · rename_i ha
    exact view_update rfl (trackedAt_primed hv ha)
  · rename_i ha
    rw [hv]
    exact view_update rfl (trackedAt_append (Bool.eq_false_of_not_eq_true ha) _ v)

lemma view_takeObject (c : AgentClient) (k : ObjectKind) (id : Bytes) :
    (c.takeObject k id).view = setAt c.view k id none :=
  view_update rfl (trackedAt_filter _ id)

lemma takeObject_absent (h : (c.objects k).find? (·.id = id) = none) : c.takeObject k id = c := by
  have hf : (c.objects k).filter (·.id ≠ id) = c.objects k := by
    refine filter_eq_self.mpr fun o ho => ?_
    simpa using List.find?_eq_none.mp h o ho
  unfold takeObject
  rw [hf, update_eq_self]

lemma view_removeReader (c : AgentClient) (id : Bytes) :
    (c.removeReader id).view = setAt c.view .reader id none := by
  rw [← view_takeObject]
  unfold removeReader
  split
  · rename_i hn
    rw [takeObject_absent hn]
  · rfl

lemma view_removeCard (c : AgentClient) (id : Bytes) :
    (c.removeCard id).view = setAt c.view .card id none := by
  rw [← view_takeObject]
  unfold removeCard
  split
  · rename_i hn
    rw [takeObject_absent hn]
  · rfl

/-! ## Subscriptions -/

lemma forall_update {l : List (Tracked k.Fields)}
    {P : (k : ObjectKind) → Tracked k.Fields → Prop} (hl : ∀ o ∈ l, P k o)
    (ho : ∀ k', ∀ o ∈ c.objects k', P k' o) : ∀ k', ∀ o ∈ update c.objects k l k', P k' o :=
  (forall_update_iff c.objects fun k' l => ∀ o ∈ l, P k' o).mpr ⟨hl, fun k' _ => ho k'⟩

structure Watched (c : AgentClient) : Prop where
  listeners : (c.transport.propertyWatches.map (·.listener)).Nodup
  below : ∀ watch ∈ c.transport.propertyWatches, watch.listener ≤ c.lastAddress
  watched : ∀ k, ∀ o ∈ c.objects k, ⟨o.address, o.id, k⟩ ∈ c.transport.propertyWatches
  doomed : ∀ card, .deleteCard card ∈ c.todo →
    card ≤ c.lastAddress ∧ ∀ k, ∀ o ∈ c.objects k, o.address ≠ card

namespace Watched

section
variable (h : Watched c)
include h

lemma mono (hw : c'.transport.propertyWatches = c.transport.propertyWatches)
    (hl : c.lastAddress ≤ c'.lastAddress)
    (ho : ∀ k, ∀ o ∈ c'.objects k, ∃ o' ∈ c.objects k, o'.address = o.address ∧ o'.id = o.id)
    (ht : ∀ card, .deleteCard card ∈ c'.todo → .deleteCard card ∈ c.todo) : Watched c' where
  listeners := hw ▸ h.listeners
  below watch hm := (h.below watch (hw ▸ hm)).trans hl
  watched k o hm := by
    obtain ⟨o', hm', ha, hi⟩ := ho k o hm
    rw [hw, ← ha, ← hi]
    exact h.watched k o' hm'
  doomed card hm := by
    obtain ⟨hle, hn⟩ := h.doomed card (ht card hm)
    refine ⟨hle.trans hl, fun k o hm => ?_⟩
    obtain ⟨o', hm', ha, -⟩ := ho k o hm
    exact ha ▸ hn k o' hm'

lemma unique {watch watch' : PropertyWatch}
    (hw : watch ∈ c.transport.propertyWatches) (hw' : watch' ∈ c.transport.propertyWatches)
    (ha : watch.listener = watch'.listener) : watch = watch' :=
  inj_on_of_nodup_map h.listeners hw hw' ha

lemma unsubscribed {address : Nat} (hn : ∀ k, ∀ o ∈ c.objects k, o.address ≠ address) :
    Watched { c with transport := c.transport.unsubscribeProperties address } :=
  { h with
    listeners := h.listeners.sublist (filter_sublist.map _)
    below := fun watch hm => h.below watch (mem_filter.mp hm).1
    watched := fun k o hm =>
      mem_filter.mpr ⟨h.watched k o hm, decide_eq_true (hn k o hm)⟩ }

/-- an object that was taken shares its address with none that is left -/
lemma taken {o : Tracked k.Fields} (ho : (c.objects k).find? (·.id = id) = some o) :
    Watched (c.takeObject k id) ∧ o.address ≤ c.lastAddress ∧
      ∀ k', ∀ o' ∈ (c.takeObject k id).objects k', o'.address ≠ o.address := by
  have hw := h.watched k o (mem_of_find?_eq_some ho)
  have hi : o.id = id := by simpa using List.find?_some ho
  have hsub : ∀ k', ∀ o' ∈ (c.takeObject k id).objects k', o' ∈ c.objects k' :=
    forall_update (fun o' hm => (mem_filter.mp hm).1) fun _ _ hm => hm
  refine ⟨h.mono rfl le_rfl (fun k' o' hm => ⟨o', hsub k' o' hm, rfl, rfl⟩) fun _ hm => hm,
    h.below _ hw, fun k' o' hm ha => ?_⟩
  have heq := h.unique hw (h.watched k' o' (hsub k' o' hm)) ha.symm
  obtain ⟨-, hid, hk⟩ := PropertyWatch.mk.inj heq
  subst hk
  have hne : o' ∈ (c.objects k).filter (·.id ≠ id) := by
    simpa only [takeObject, update_self] using hm
  exact of_decide_eq_true (mem_filter.mp hne).2 (hid.symm.trans hi)

lemma removeReader (id : Bytes) : Watched (c.removeReader id) := by
  unfold AgentClient.removeReader
  split
  · exact h
  · rename_i reader hr
    obtain ⟨ht, -, hn⟩ := h.taken hr
    exact ht.unsubscribed hn

lemma removeCard (id : Bytes) : Watched (c.removeCard id) := by
  unfold AgentClient.removeCard
  split
  · exact h
  · rename_i card hc
    obtain ⟨ht, hle, hn⟩ := h.taken hc
    refine { ht with doomed := fun address hm => ?_ }
    rcases mem_append.mp hm with hm | hm
    · obtain ⟨operation, -, heq⟩ := mem_map.mp hm
      cases heq
    · rcases mem_cons.mp hm with heq | hm
      · cases heq
        exact ⟨hle, hn⟩
      · exact ht.doomed address hm

lemma addObject (qt : QVariants) (k : ObjectKind) (id : Bytes) (props : Props) :
    Watched (c.addObject qt k id props) := by
  unfold AgentClient.addObject
  split
  · refine h.mono rfl le_rfl (forall_update (fun o hm => ?_) fun k' o hm => ⟨o, hm, rfl, rfl⟩)
      fun _ hm => hm
    obtain ⟨o', hm', rfl⟩ := mem_map.mp hm
    exact ⟨o', hm', by split <;> exact ⟨rfl, rfl⟩⟩
  · have hlt : ∀ watch ∈ c.transport.propertyWatches, watch.listener ≠ c.lastAddress + 1 :=
      fun watch hm => Nat.ne_of_lt (Nat.lt_succ_of_le (h.below watch hm))
    have hf : c.transport.propertyWatches.filter (·.listener ≠ c.lastAddress + 1) =
        c.transport.propertyWatches :=
      filter_eq_self.mpr fun watch hm => decide_eq_true (hlt watch hm)
    refine ⟨?_, ?_, ?_, fun card hm => ?_⟩
    · show ((_ ++ [_]).map _).Nodup
      rw [hf, map_append]
      refine nodup_append.mpr ⟨h.listeners, nodup_singleton _, fun a ha b hb => ?_⟩
      obtain ⟨watch, hm, rfl⟩ := mem_map.mp ha
      exact mem_singleton.mp hb ▸ hlt watch hm
    · intro watch hm
      rw [SocketTransport.subscribeProperties, hf] at hm
      rcases mem_append.mp hm with hm | hm
      · exact (h.below watch hm).trans (Nat.le_succ _)
      · exact mem_singleton.mp hm ▸ le_rfl
    · refine forall_update (fun o hm => ?_) fun k' o hm => ?_ <;>
        rw [SocketTransport.subscribeProperties, hf]
      · rcases mem_append.mp hm with hm | hm
        · exact mem_append_left _ (h.watched k o hm)
        · exact mem_append_right _ (mem_singleton.mpr (mem_singleton.mp hm ▸ rfl))
      · exact mem_append_left _ (h.watched k' o hm)
    · obtain ⟨hle, hn⟩ := h.doomed card hm
      refine ⟨hle.trans (Nat.le_succ _), forall_update (fun o hm => ?_) hn⟩
      rcases mem_append.mp hm with hm | hm
      · exact hn k o hm
      · exact mem_singleton.mp hm ▸ (Nat.ne_of_lt (Nat.lt_succ_of_le hle)).symm

/-- the listeners of an event are the objects it is about -/
lemma target {o : Tracked k.Fields} (ho : o ∈ c.objects k) (handle iface : Bytes) :
    o.address ∈ (c.transport.propertyTargets handle iface).map (·.listener) ↔
      o.id = handle ∧ iface = k.iface := by
  have hk : ((if iface = kReaderIface then some .reader
      else if iface = kCardIface then some .card else none) = some k) ↔ iface = k.iface := by
    have hne : kCardIface ≠ kReaderIface := by decide
    cases k <;> grind [ObjectKind.iface]
  have hm := h.watched k o ho
  rw [mem_map]
  constructor
  · rintro ⟨watch, hw, ha⟩
    obtain ⟨hw, hp⟩ := mem_filter.mp hw
    rw [h.unique hw hm ha] at hp
    exact (of_decide_eq_true hp).imp_right hk.mp
  · rintro ⟨hi, hf⟩
    exact ⟨_, mem_filter.mpr ⟨hm, decide_eq_true ⟨hi, hk.mpr hf⟩⟩, rfl⟩

/-- `onPropertiesChanged` of every listener -/
lemma told (qt : QVariants) (x : Exchange) (lost : Option Nat)
    (handle iface : Bytes) (props : Props) :
    ((c.transport.propertyTargets handle iface).map fun watch =>
      .propertiesChanged watch.listener props).foldl (AgentClient.handle qt x lost) c =
      { c with objects := fun k => (c.objects k).map fun o =>
          if o.id = handle ∧ iface = k.iface then
            { o with properties := k.applyProps qt o.properties props } else o } := by
  have hf (watches : List PropertyWatch) (c : AgentClient) :
      (watches.map fun watch => .propertiesChanged watch.listener props).foldl
        (AgentClient.handle qt x lost) c =
        { c with objects := fun k => (watches.map (·.listener)).foldl (fun objects address =>
            changed (k.applyProps qt) address props objects) (c.objects k) } := by
    induction watches generalizing c with
    | nil => rfl
    | cons watch watches ih => exact ih _
  rw [hf]
  congr 1
  funext k
  refine (foldl_changed (h.listeners.sublist (filter_sublist.map _))).trans ?_
  exact map_congr_left fun o ho => if_congr (h.target ho handle iface) rfl rfl

end

end Watched

end AgentClient

end LibreAgent.Client
