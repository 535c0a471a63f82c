import LibreAgent.Trust.AnchorCache

/-!
# The first bytes of the state file

A write of the state file that is cut short leaves some lines and the beginning of one more.
`getline` gives that beginning like any line, so what is left of a record may read as a record.

* `cutPlace` : the line in which a cut falls, and the column;
* `cutSigner`, `cutRefused` : what is left of a record at a column of its value;
* `standing`, `readState_take` : the records before a cut, and the state that is read from them.
-/

namespace LibreAgent.Trust

open Bytes Text List

/-! ## Lines before a cut -/

def cutPlace : List Bytes → Nat → Nat × Nat
  | [], n => (0, n)
  | line :: lines, n =>
    if n ≤ line.length then (0, n)
    else
      let place := cutPlace lines (n - (line.length + 1))
      (place.1 + 1, place.2)

/-- the entries of the lines before a cut, and what is left of the line in which it falls: nothing
unless its key is complete -/
def entriesBefore (entries : List (StateKey × Bytes)) (n : Nat) : List (StateKey × Bytes) :=
  let place := cutPlace (entries.map stateLine) n
  entries.take place.1 ++ match entries[place.1]? with
    | none => []
    | some (key, value) =>
      if place.2 ≤ key.name.length then []
      else [(key, value.take (place.2 - (key.name.length + 1)))]

lemma readLine_take (key : StateKey) (value : Bytes) (n : Nat) :
    readLine ((stateLine (key, value)).take n) =
      if n ≤ key.name.length then none else some (key, value.take (n - (key.name.length + 1))) := by
  have hk : equals ∉ key.name := by cases key <;> decide
  split
  · next hn =>
    rw [stateLine, take_append_of_le_length hn, readLine,
      cutAt_of_not_mem fun hm => hk (mem_of_mem_take hm)]
    rfl
  · next hn =>
    obtain ⟨m, rfl⟩ := Nat.exists_eq_add_of_lt (Nat.not_le.mp hn)
    have hm : key.name.length + m + 1 - (key.name.length + 1) = m := by omega
    rw [hm, stateLine, Nat.add_assoc, take_length_add_append, take_succ_cons]
    exact readLine_stateLine (key, value.take m)

lemma entries_take {entries : List (StateKey × Bytes)} (h : ∀ p ∈ entries, newline ∉ stateLine p)
    (n : Nat) : (getlines newline ((entries.flatMap fun p => stateLine p ++ [newline]).take
      n)).filterMap
      readLine = entriesBefore entries n := by
  induction entries generalizing n with
  | nil => rw [flatMap_nil, take_nil]; rfl
  | cons p entries ih =>
    obtain ⟨key, value⟩ := p
    have hp := h _ mem_cons_self
    rw [flatMap_cons, append_assoc, singleton_append, entriesBefore, map_cons, cutPlace]
    split
    · next hn =>
      have hr := readLine_take key value n
      rw [take_append_of_le_length hn, take_zero, nil_append]
      show _ = if n ≤ key.name.length then [] else _
      by_cases h0 : (stateLine (key, value)).take n = []
      · rw [h0] at hr ⊢
        split at hr
        · next hk => rw [if_pos hk]; rfl
        · cases hr
      · rw [getlines_of_not_mem (fun hm => hp (mem_of_mem_take hm)) h0]
        split at hr
        · next hk => rw [if_pos hk, List.filterMap_cons_none hr]; rfl
        · next hk => rw [if_neg hk, List.filterMap_cons_some hr]; rfl
    · next hn =>
      obtain ⟨m, rfl⟩ := Nat.exists_eq_add_of_lt (Nat.not_le.mp hn)
      have hm : (stateLine (key, value)).length + m + 1 - ((stateLine (key, value)).length + 1) =
        m := by
        omega
      rw [hm, Nat.add_assoc, take_length_add_append, take_succ_cons, getlines_append,
        pieces_of_not_mem hp, List.filterMap_append, ih fun q hq => h q (mem_cons_of_mem _ hq),
        List.filterMap_cons_some (readLine_stateLine _)]
      rfl

/-! ## What is left of a record -/

/-- the first characters of a date: a sign and no digit is no date -/
def cutDate (date : Int64) (n : Nat) : Option Int64 :=
  if n = 0 ∨ n = 1 ∧ date.toInt < 0 then none
  else some (Int64.ofInt (date.toInt.tdiv (10 ^ ((decimalInt date.toInt).length - n))))

/-- where the flag of a publisher ends: the fingerprint, a comma and a digit -/
def kFlagEnd : Nat := 2 * kSignerFingerprintSize + 2

/-- a record that is cut after its flag is one without a date, and one that is cut in its date has
the digits before the cut -/
def cutSigner (signer : AcceptedSigner) (n : Nat) : Option AcceptedSigner :=
  if (publisherValue signer).length ≤ n then some signer
  else if n < kFlagEnd then none
  else if n = kFlagEnd then some { signer with signedAt := none }
  else signer.signedAt.bind fun date =>
    (cutDate date (n - (kFlagEnd + 1))).map fun date => { signer with signedAt := some date }

/-- a refusal that is cut after its reason is one without a publisher -/
def cutRefused (refused : RefusedList) (n : Nat) : Option RefusedList :=
  if (refusedValue refused).length ≤ n then some refused
  else if n = (refusalName refused.reason).length then some ⟨refused.reason, none⟩
  else none

lemma wholeInteger_take (date : Int64) (n : Nat) :
    wholeInteger ((decimalInt date.toInt).take n) = cutDate date n := by
  rw [wholeInteger, parseDecimalInt_take, cutDate]
  split
  · rfl
  · rw [Option.bind_some, if_pos]
    have h1 : -2 ^ 63 ≤ date.toInt := date.le_toInt
    have h2 : date.toInt < 2 ^ 63 := date.toInt_lt
    by_cases hz : 0 ≤ date.toInt
    · have hn := Int.tdiv_nonneg hz (Int.natCast_nonneg (10 ^ ((decimalInt date.toInt).length - n)))
      have hl := Int.tdiv_le_self (10 ^ ((decimalInt date.toInt).length - n)) hz
      push_cast at hn
      omega
    · have hn := Int.tdiv_nonneg (a := -date.toInt) (by omega)
        (Int.natCast_nonneg (10 ^ ((decimalInt date.toInt).length - n)))
      have hl := Int.tdiv_le_self (10 ^ ((decimalInt date.toInt).length - n))
        (by omega : 0 ≤ -date.toInt)
      rw [Int.neg_tdiv] at hn hl
      push_cast at hn
      omega

lemma fingerprintFromHex_of_length {hex : Bytes} (h : hex.length ≠ 2 * kSignerFingerprintSize) :
    fingerprintFromHex hex = none := by
  rw [fingerprintFromHex, Option.bind_eq_none_iff]
  intro b hb
  exact dif_neg fun hl => h (by rw [length_of_fromHex hb, hl, Nat.mul_comm])

/-- a publisher by its fields -/
lemma readPublisher_two {value hex flag : Bytes} (h : commaFields value = [hex, flag]) :
    readPublisher value = (fingerprintFromHex hex).bind fun fingerprint =>
      (readEstablished flag).bind fun established => some ⟨fingerprint, established, none⟩ := by
  rw [readPublisher, h]
  rfl

lemma readPublisher_three {value hex flag date : Bytes}
    (h : commaFields value = [hex, flag, date]) :
    readPublisher value = (fingerprintFromHex hex).bind fun fingerprint =>
      (readEstablished flag).bind fun established =>
        (wholeInteger date).bind fun t => some ⟨fingerprint, established, some t⟩ := by
  rw [readPublisher, h]
  rfl

lemma readPublisher_take (signer : AcceptedSigner) (n : Nat) :
    readPublisher ((publisherValue signer).take n) = cutSigner signer n := by
  by_cases hw : (publisherValue signer).length ≤ n
  · rw [take_of_length_le hw, readPublisher_publisherValue, cutSigner, if_pos hw]
  rw [cutSigner, if_neg hw]
  obtain ⟨fingerprint, established, signedAt⟩ := signer
  obtain ⟨flag, hp, hfl, hf, hs⟩ : ∃ flag, comma ∉ flag ∧ flag.length = 1 ∧
      readEstablished flag = some established ∧
      (if established then lit ",1" else lit ",0") = comma :: flag := by
    cases established
    · exact ⟨lit "0", by decide⟩
    · exact ⟨lit "1", by decide⟩
  have hh := (plain_toHex fingerprint).2
  have hx := fingerprintFromHex_toHex fingerprint
  have hl : (toHex fingerprint).length = 64 := by
    rw [toHex, length_toHex, fingerprint.property]
    rfl
  have hk : kFlagEnd = 66 := rfl
  obtain ⟨tail, hv, ht⟩ : ∃ tail, publisherValue ⟨fingerprint, established, signedAt⟩
      = toHex fingerprint ++ comma :: (flag ++ tail) ∧
      tail = signedAt.elim [] fun t => comma :: decimalInt t.toInt := by
    cases signedAt <;>
      exact ⟨_, by rw [publisherValue, hs, append_assoc, cons_append]; rfl, rfl⟩
  -- fewer than two fields, or a flag that is missing
  have hfi := pieces_take hh (flag ++ tail) n
  rw [hl] at hfi
  rw [hv] at hw ⊢
  simp only [length_append, length_cons, hl, hfl] at hw
  split
  · by_cases hn : n ≤ 64
    · rw [if_pos hn] at hfi
      rw [readPublisher, commaFields, hfi]
    · have h0 : n - (64 + 1) = 0 := by omega
      rw [if_neg hn, h0, take_zero, pieces_nil] at hfi
      rw [readPublisher_two hfi, hx]
      rfl
  · cases signedAt with
    | none =>
      rw [show tail = [] from ht, length_nil] at hw
      omega
    | some date =>
      obtain rfl : tail = comma :: decimalInt date.toInt := ht
      rw [if_neg (by omega), pieces_take hp, hfl] at hfi
      split
      · next hn =>
        have h1 : n - (64 + 1) = flag.length := by omega
        rw [if_pos (by omega), h1, take_length] at hfi
        rw [readPublisher_two hfi, hx, hf]
        rfl
      · have h2 : n - (64 + 1) - (1 + 1) = n - (kFlagEnd + 1) := by omega
        rw [if_neg (by omega), h2,
          pieces_of_not_mem fun hm => (plain_decimalInt _).2 (mem_of_mem_take hm)] at hfi
        rw [readPublisher_three hfi, hx, hf, wholeInteger_take]
        show (cutDate date _).bind _ = (cutDate date _).map _
        cases cutDate date (n - (kFlagEnd + 1)) <;> rfl

/-- no reason is the beginning of another -/
lemma refusalFromName_take (reason : ImportRefusal) (n : Nat) :
    refusalFromName ((refusalName reason).take n) =
      if (refusalName reason).length ≤ n then some reason else none := by
  split
  · next hn => rw [take_of_length_le hn, refusalFromName_refusalName]
  · next hn =>
    have h : ∀ m < (refusalName reason).length,
        refusalFromName ((refusalName reason).take m) = none := by
      cases reason <;> decide
    exact h n (Nat.not_le.mp hn)

lemma readRefused_take (refused : RefusedList) (n : Nat) :
    readRefused ((refusedValue refused).take n) = cutRefused refused n := by
  by_cases hw : (refusedValue refused).length ≤ n
  · rw [take_of_length_le hw, readRefused_refusedValue, cutRefused, if_pos hw]
  rw [cutRefused, if_neg hw]
  obtain ⟨reason, signer⟩ := refused
  have hn := (plain_refusalName reason).2
  obtain ⟨tail, hv, ht⟩ : ∃ tail, refusedValue ⟨reason, signer⟩ = refusalName reason ++
    comma :: tail ∧
      tail = signer.elim (lit "-") toHex := by
    cases signer <;> exact ⟨_, rfl, rfl⟩
  have hfi := pieces_take hn tail n
  rw [hv] at hw ⊢
  rw [length_append, length_cons] at hw
  by_cases hle : n ≤ (refusalName reason).length
  · rw [if_pos hle] at hfi
    rw [readRefused, commaFields, hfi]
    show (refusalFromName _).bind _ = _
    rw [refusalFromName_take]
    by_cases he : n = (refusalName reason).length
    · rw [if_pos (ge_of_eq he), if_pos he]
      rfl
    · rw [if_neg (by omega), if_neg he]
      rfl
  · -- a part of the publisher is neither a dash nor a fingerprint
    have hrest : comma ∉ tail ∧ ∀ m < tail.length,
        tail.take m ≠ lit "-" ∧ fingerprintFromHex (tail.take m) = none := by
      cases signer with
      | none => rw [show tail = lit "-" from ht]; decide
      | some fingerprint =>
        obtain rfl : tail = toHex fingerprint := ht
        refine ⟨(plain_toHex fingerprint).2, fun m hm => ⟨fun hd => ?_, ?_⟩⟩
        · have hm : (45 : UInt8) ∈ (toHex fingerprint).take m := hd ▸ by decide
          obtain ⟨x, hx⟩ := hexValue_of_mem_toHex (mem_of_mem_take hm)
          exact absurd hx (by simp [hexValue])
        · refine fingerprintFromHex_of_length ?_
          rw [toHex, length_toHex, fingerprint.property] at hm
          rw [length_take, toHex, length_toHex, fingerprint.property]
          omega
    obtain ⟨hd, hf⟩ := hrest.2 (n - ((refusalName reason).length + 1)) (by omega)
    rw [if_neg hle, pieces_of_not_mem fun hm => hrest.1 (mem_of_mem_take hm)] at hfi
    have hne : n ≠ (refusalName reason).length := by omega
    rw [if_neg hne, readRefused, commaFields, hfi]
    simp [refusalFromName_refusalName, hd, hf]

/-! ## The records before a cut -/

/-- the publishers and the refusals that stand in the first bytes of the state file, or nothing if
what is left of the last one cannot be read -/
def standing (state : AnchorState) (n : Nat) : Option (List AcceptedSigner × List RefusedList) :=
  let place := cutPlace ((stateEntries state).map stateLine) n
  if place.1 < (countEntries state).length then some ([], [])
  else
    let record := place.1 - (countEntries state).length
    match state.signers[record]? with
    | some signer =>
      if place.2 ≤ StateKey.publisher.name.length then some (state.signers.take record, [])
      else (cutSigner signer (place.2 - (StateKey.publisher.name.length + 1))).map fun signer =>
        (state.signers.take record ++ [signer], [])
    | none =>
      let refusal := record - state.signers.length
      match state.refusedLists[refusal]? with
      | some refused =>
        if place.2 ≤ StateKey.refused.name.length then
          some (state.signers, state.refusedLists.take refusal)
        else (cutRefused refused (place.2 - (StateKey.refused.name.length + 1))).map fun refused =>
          (state.signers, state.refusedLists.take refusal ++ [refused])
      | none => some (state.signers, state.refusedLists)

section Reading
variable (state : AnchorState) (signers : List AcceptedSigner) (refusals : List RefusedList)

lemma finishReading_counts {entries : List (StateKey × Bytes)}
    (h : ∀ p ∈ entries, p.1 ∈ [StateKey.anchors, .issuers, .offered, .acceptedAt]) :
    finishReading (entries.foldl takeEntry {}) = {} := by
  have hk (r : Reading) (hr : r.out.signers = [] ∧ r.legacySigner = none) :
      (entries.foldl takeEntry r).out.signers = [] ∧
        (entries.foldl takeEntry r).legacySigner = none := by
    induction entries generalizing r with
    | nil => exact hr
    | cons p entries ih =>
      refine ih (fun q hq => h q (mem_cons_of_mem _ hq)) _ ?_
      obtain ⟨key, value⟩ := p
      have hp := h _ mem_cons_self
      simp only [mem_cons, not_mem_nil, or_false] at hp
      rcases hp with rfl | rfl | rfl | rfl <;> exact hr
  obtain ⟨hs, hl⟩ := hk {} ⟨rfl, rfl⟩
  rw [finishReading, withLegacy, hs, hl]
  simp [hs]

lemma foldl_takeEntry_counts : (countEntries state).foldl takeEntry {} =
    { out := { state with present := false, signers := [], refusedLists := [] } } := by
  simp [countEntries, takeEntry, strtoul_decimal, strtoll_decimalInt]

lemma finishReading_records : finishReading
      { out := { state with present := false, signers := signers, refusedLists := refusals } } =
    if signers = [] ∨ state.listsOffered.toNat < signers.length + refusals.length then {}
    else { state with present := true, signers := signers, refusedLists := refusals } := by
  have hl : withLegacy
      { out := { state with present := false, signers := signers, refusedLists := refusals } } =
      { state with present := false, signers := signers, refusedLists := refusals } := by
    cases signers <;> rfl
  rw [finishReading, hl]
  by_cases hs : signers = []
  · simp [hs]
  · simp [hs]

lemma finishReading_unreadable {r : Reading} (h : r.unreadable = true) : finishReading r = {} := by
  rw [finishReading, if_pos (.inr h)]

end Reading

lemma readState_take (state : AnchorState) (n : Nat) : readState ((stateText state).take n) =
    match standing state n with
    | none => {}
    | some (signers, refusals) =>
      if signers = [] ∨ state.listsOffered.toNat < signers.length + refusals.length then {}
      else { state with present := true, signers := signers, refusedLists := refusals } := by
  rw [readState, stateText, entries_take fun p hp => newline_not_mem_stateLine hp, entriesBefore,
    standing]
  generalize cutPlace ((stateEntries state).map stateLine) n = place
  obtain ⟨line, column⟩ := place
  have hE : stateEntries state = countEntries state ++
      (state.signers.map (fun s => (.publisher, publisherValue s)) ++
        state.refusedLists.map fun r => (.refused, refusedValue r)) := append_assoc _ _ _
  dsimp only
  by_cases hl : line < (countEntries state).length
  · rw [if_pos hl, hE, take_append_of_le_length hl.le, List.getElem?_append_left hl]
    refine (finishReading_counts fun p hp => ?_).trans (if_pos (.inl rfl)).symm
    have hc : ∀ q ∈ countEntries state,
        q.1 ∈ [StateKey.anchors, .issuers, .offered, .acceptedAt] := by
      simp [countEntries]
    rcases mem_append.mp hp with hp | hp
    · exact hc p (mem_of_mem_take hp)
    · rw [List.getElem?_eq_getElem hl] at hp
      dsimp only at hp
      split at hp
      · cases hp
      · rw [mem_singleton.mp hp]
        exact hc (countEntries state)[line] (getElem_mem hl)
  · obtain ⟨j, rfl⟩ := Nat.exists_eq_add_of_le (Nat.not_lt.mp hl)
    rw [if_neg hl, Nat.add_sub_cancel_left, hE, take_length_add_append,
      List.getElem?_append_right (Nat.le_add_right _ _), Nat.add_sub_cancel_left, foldl_append,
      foldl_append, foldl_takeEntry_counts]
    cases hs : state.signers[j]? with
    | some signer =>
      have hj := (List.getElem?_eq_some_iff.mp hs).1
      rw [take_append_of_le_length (by rw [length_map]; exact hj.le), ← map_take,
        List.getElem?_append_left (by rw [length_map]; exact hj), List.getElem?_map, hs,
        foldl_takeEntry_publishers]
      dsimp only [Option.map_some]
      split
      · exact finishReading_records state _ _
      · rw [foldl_cons, foldl_nil, takeEntry, readPublisher_take]
        cases cutSigner signer (column - (StateKey.publisher.name.length + 1)) with
        | none => exact finishReading_unreadable rfl
        | some signer => exact finishReading_records state _ _
    | none =>
      obtain ⟨t, rfl⟩ := Nat.exists_eq_add_of_le (List.getElem?_eq_none_iff.mp hs)
      have hp : (state.signers.map fun s => (StateKey.publisher, publisherValue s)).length
          = state.signers.length := length_map _
      rw [Nat.add_sub_cancel_left, ← hp, take_length_add_append, ← map_take,
        List.getElem?_append_right (Nat.le_add_right _ _), Nat.add_sub_cancel_left,
        List.getElem?_map, foldl_append, foldl_takeEntry_publishers, foldl_takeEntry_refused]
      cases hr : state.refusedLists[t]? with
      | some refused =>
        dsimp only [Option.map_some]
        split
        · exact finishReading_records state _ _
        · rw [foldl_cons, foldl_nil, takeEntry, readRefused_take]
          cases cutRefused refused (column - (StateKey.refused.name.length + 1)) with
          | none => exact finishReading_unreadable rfl
          | some refused => exact finishReading_records state _ _
      | none =>
        rw [take_of_length_le (List.getElem?_eq_none_iff.mp hr)]
        exact finishReading_records state _ _

end LibreAgent.Trust
