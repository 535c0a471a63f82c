import LibreAgent.Lib.Runs
import LibreAgent.Pkcs11Agent.Calls

/-!
# Signing in parts

One thread signs in a session: `C_SignUpdate` takes the data in parts, `C_SignFinal` signs them, and
either of `C_Sign` and `C_SignFinal` may be asked for the length first.

* `SessionState.doSign` : a call from its first section to its last;
* `sign_in_parts` : the parts are signed as the whole is, and a question for the length changes
  nothing.

If the client throws, the operation stays (`sign_outlives_throw`).
-/

namespace LibreAgent.Pkcs11Agent

open Runs List Section

/-! ## A call -/

namespace SignCursor

variable (cursor : SignCursor)

def length : Nat :=
  signatureLength cursor.keyType cursor.keyBits

def fits (data : Bytes) : Bool :=
  cursor.mechanism ≠ .ecdsa || data.length = 32 || data.length = 48 || data.length = 64

def isQuestion (buffer : Option Nat) : Bool :=
  buffer.all (· < cursor.length)

end SignCursor

def SignJob.request (job : SignJob) : Option (Bytes × Bytes × CkMechanism × Bytes) :=
  if job.cursor.fits job.data = true ∧ ¬ (job.cursor.length ≠ 0 ∧
      job.cursor.isQuestion job.buffer = true) then
    some (job.cursor.reader, job.cursor.certId, job.cursor.mechanism, job.data)
  else none

namespace SessionState

variable (s : SessionState) (h : Nat)

/-- `doSign`; without data, those that have been gathered are signed, and without a result the
client throws -/
def doSign (data : Option Bytes) (buffer : Option Nat) (result : Option (Status × Bytes))
    (now : Int) : SessionState × Answer :=
  match s.checkSign h data buffer with
  | .ok (.sign h job) =>
    ((job.conclude h result).1.foldl (fun s x => x.apply 0 now s)
      (s.updateSession h fun session => { session with rpcInFlight := true }),
        (job.conclude h result).2)
  | .ok _ => (s, ⟨.generalError, .nothing⟩)
  | .error rv => (s, ⟨rv, .nothing⟩)

def signing : Option (SignCursor × Bool) :=
  (s.session h).map fun session => (session.sign, session.rpcInFlight)

lemma session_updateSession (change : Session → Session) :
    (s.updateSession h change).session h = (s.session h).map change := by
  unfold updateSession
  cases ho : s.session h with
  | none => exact ho
  | some session => exact AList.lookup_insert _

variable (now : Int)

lemma signing_mark : (s.updateSession h fun session => { session with rpcInFlight := true }).signing
    h =
    (s.signing h).map fun v => (v.1, true) := by
  simp [signing, session_updateSession, Function.comp_def]

lemma signing_clear : ((clearSign h).apply 0 now s).signing h = (s.signing h).map fun v =>
    ({}, v.2) := by
  simp [signing, apply, session_updateSession, Function.comp_def]

lemma signing_release : ((release (some h)).apply 0 now s).signing h = (s.signing h).map fun v =>
    (v.1, false) := by
  simp [signing, apply, session_updateSession, Function.comp_def]

lemma signing_drop : ((dropLogin h).apply 0 now s).signing h = s.signing h := by
  simp only [signing, apply, Module.dropLogin]
  split
  · rfl
  · rw [(endLogin_loginsOnly _ _).session_eq h]

end SessionState

section
variable {s : SessionState} {h : Nat} {cursor : SignCursor} {data : Option Bytes}
  {buffer : Option Nat}
  {result : Option (Status × Bytes)} {now : Int}

namespace SignJob

variable {job : SignJob}

lemma conclude_misfit (hf : job.cursor.fits job.data = false) :
    job.conclude h result = ([.clearSign h, .release (some h)], ⟨.dataLenRange, .nothing⟩) := by
  refine if_pos ?_
  simpa [SignCursor.fits, and_assoc] using hf

lemma conclude_fits (hf : job.cursor.fits job.data = true) : job.conclude h result =
    if job.cursor.length ≠ 0 ∧ job.cursor.isQuestion job.buffer = true then
      ([.release (some h)], ⟨if job.buffer.isNone then .ok else .bufferTooSmall,
        .length job.cursor.length⟩)
    else match result with
      | none => unwind (some h)
      | some (status, bytes) =>
        if status ≠ .ok then
          (.clearSign h :: dropLoginOnLapsedLease status h ++ [.release (some h)],
            ⟨ckrFromStatus .dataLenRange status, .nothing⟩)
        else if job.cursor.mechanism = .ecdsa ∧ bytes.length ≠ job.cursor.length then
          ([.clearSign h, .release (some h)], ⟨.deviceError, .nothing⟩)
        else giveBytes (.clearSign h) h job.buffer bytes := by
  refine if_neg ?_
  simp [SignCursor.fits] at hf
  grind

lemma conclude_question (hf : job.cursor.fits job.data = true) (hl : job.cursor.length ≠ 0)
    (hq : job.cursor.isQuestion job.buffer = true) : job.conclude h result =
      ([.release (some h)], ⟨if job.buffer.isNone then .ok else .bufferTooSmall,
        .length job.cursor.length⟩) :=
  (conclude_fits hf).trans (if_pos ⟨hl, hq⟩)

lemma conclude_sections (job : SignJob) (h : Nat) (result : Option (Status × Bytes)) :
    (job.conclude h result).1 ∈ [[.release (some h)], [.clearSign h, .release (some h)],
      [.clearSign h, .dropLogin h, .release (some h)]] := by
  cases hf : job.cursor.fits job.data with
  | false => simp [conclude_misfit hf]
  | true =>
    rw [conclude_fits hf]
    cases result with
    | none => split <;> simp [unwind]
    | some answer =>
      simp only [apply_ite Prod.fst, giveBytes, dropLoginOnLapsedLease]
      cases job.buffer <;> grind

/-- with room for the signature, an answer ends the operation -/
lemma conclude_ends {status : Status} {bytes : Bytes}
    (hr : job.cursor.isQuestion job.buffer = false)
    (hrs : status = .ok → job.cursor.mechanism ≠ .ecdsa → bytes.length = job.cursor.length) :
    (job.conclude h (some (status, bytes))).1.any (·.isClear) = true ∧
      ∀ signature, (job.conclude h (some (status, bytes))).2.out = .bytes signature →
        signature.length = job.cursor.length := by
  have hc : isClear (.clearSign h) = true := rfl
  cases hf : job.cursor.fits job.data with
  | false =>
    rw [conclude_misfit hf]
    exact ⟨rfl, nofun⟩
  | true =>
    rw [conclude_fits hf, if_neg (by simp [hr])]
    obtain ⟨room, hb, hge⟩ : ∃ room, job.buffer = some room ∧ job.cursor.length ≤ room := by
      cases hb : job.buffer <;> simp_all [SignCursor.isQuestion]
    simp only [hb, giveBytes]
    grind

end SignJob

/-- a call in an operation answers as its job is concluded, and leaves its cursor unless that clears
it -/
lemma doSign_spec (hs : s.signing h = some (cursor, false)) (ha : cursor.active = true)
    (data : Option Bytes) (buffer : Option Nat) (result : Option (Status × Bytes)) (now : Int) :
    let done := SignJob.conclude h ⟨cursor, data.getD cursor.accumulated, buffer⟩ result
    (s.doSign h data buffer result now).2 = done.2 ∧
      (s.doSign h data buffer result now).1.signing h =
        some (if done.1.any (·.isClear) then {} else cursor, false) := by
  obtain ⟨session, ho, hse⟩ := Option.map_eq_some_iff.mp hs
  obtain ⟨rfl, hf⟩ := Prod.mk.inj hse
  have hsec :=
    SignJob.conclude_sections ⟨session.sign, data.getD session.sign.accumulated, buffer⟩ h result
  simp only [SessionState.doSign, SessionState.checkSign, ho, ha, hf]
  refine ⟨rfl, ?_⟩
  simp only [mem_cons, not_mem_nil, or_false] at hsec
  obtain hsec | hsec | hsec := hsec <;>
    simp [hsec, SessionState.signing_mark, SessionState.signing_clear, SessionState.signing_release,
      SessionState.signing_drop, hs, isClear]

lemma signUpdate_spec (hs : s.signing h = some (cursor, false)) (ha : cursor.active = true)
    (part : Bytes) :
    (s.within (.signUpdate h part)).2 = .ok ∧ (s.within (.signUpdate h part)).1.signing h =
      some ({ cursor with accumulated := cursor.accumulated ++ part }, false) := by
  obtain ⟨session, ho, hse⟩ := Option.map_eq_some_iff.mp hs
  obtain ⟨rfl, hf⟩ := Prod.mk.inj hse
  have hset (session' : Session) : (s.setSession h session').session h = some session' :=
    AList.lookup_insert _
  simp [SessionState.within, SessionState.changeSession, ho, SessionState.signUpdate, ha,
      SessionState.signing, hset, hf]

/-! ## The protocol -/

inductive SignStep where
  | part (bytes : Bytes)
  /-- a question for the length, whatever the client would have answered -/
  | ask (data : Option Bytes) (buffer : Option Nat) (result : Option (Status × Bytes))

namespace SignStep

def bytes : SignStep → Bytes
  | part bytes => bytes
  | ask _ _ _ => []

def next (cursor : SignCursor) (step : SignStep) : SignCursor :=
  { cursor with accumulated := cursor.accumulated ++ step.bytes }

/-- a part, or a question whose answer the agent is not asked for -/
def Quiet (cursor : SignCursor) : SignStep → Prop
  | part _ => True
  | ask data buffer _ =>
    cursor.isQuestion buffer = true ∧ cursor.fits (data.getD cursor.accumulated) = true

def perform (h : Nat) (now : Int) (s : SessionState) : SignStep → SessionState
  | part bytes => (s.within (.signUpdate h bytes)).1
  | ask data buffer result => (s.doSign h data buffer result now).1

end SignStep

lemma signing_run {steps : List SignStep} (now : Int) (hs : s.signing h = some (cursor, false))
    (ha : cursor.active = true)
    (hl : cursor.length ≠ 0) (hq : Along SignStep.next SignStep.Quiet cursor steps) :
    (run (SignStep.perform h now) s steps).signing h =
      some ({ cursor with accumulated := cursor.accumulated ++ steps.flatMap (·.bytes) },
        false) := by
  induction steps generalizing s cursor with
  | nil => simpa [run] using hs
  | cons step steps ih =>
    have hst : (step.perform h now s).signing h = some (step.next cursor, false) := by
      cases step with
      | part bytes => exact (signUpdate_spec hs ha bytes).2
      | ask data buffer result =>
        have hask := (doSign_spec hs ha data buffer result now).2
        rw [SignJob.conclude_question hq.1.2 hl hq.1.1] at hask
        simpa [SignStep.next, SignStep.bytes, SignStep.perform, isClear] using hask
    simpa [SignStep.next, run] using ih hst ha hl hq.2

lemma CertEntry.signatureLength_ne {cert : CertEntry} (hs : cert.isServed = true) :
    signatureLength cert.keyType cert.keyBits ≠ 0 := by
  unfold CertEntry.isServed at hs
  cases hk : cert.keyType with
  | rsa =>
    have hb : cert.keyBits.toNat ≠ 0 := by
      intro hz
      have hb : cert.keyBits = 0 := UInt32.toNat_inj.mp hz
      simp [hk, hb] at hs
    simp only [signatureLength]
    omega
  | ec =>
    simp only [hk, isNistCurveBits, Bool.and_eq_true, decide_eq_true_eq] at hs
    obtain ⟨-, hb | hb | hb⟩ := hs <;> rw [hb] <;> decide
  | other => simp [hk] at hs

lemma signInit_fresh {state : SessionState} {session : Session} {mechanism : CkMechanism}
    {key : UInt64} {reader : ReaderState} (hs : state.slotById session.slot = some reader.slot)
    (hi : state.signInit session mechanism key = .ok cursor) :
    cursor.active = true ∧ cursor.accumulated = [] ∧ cursor.length ≠ 0 := by
  simp only [SessionState.signInit, hs] at hi
  split at hi
  · cases hi
  split at hi
  · cases hi
  split at hi
  · cases hi
  · next obj hob =>
    have hin : obj ∈ reader.slot.objects := by
      simp only [SessionState.resolveObject, hs, Option.bind_some] at hob
      split at hob
      · cases hob
      · exact mem_of_getElem? hob
    simp only [ReaderState.slot, mem_flatMap] at hin
    obtain ⟨cert, hse, ho⟩ := hin
    have hse : cert.isServed = true := by grind
    have hl := CertEntry.signatureLength_ne hse
    have hk : obj.cls = .privateKey → obj.keyType = cert.keyType ∧ obj.keyBits = cert.keyBits := by
      grind [CertEntry.objects]
    grind [SignCursor.length]

/-- After any parts and questions for the length: the operation has the data that were given;
another question is answered without the agent, with the length of the signature, and leaves it so,
unless ECDSA does not take the data; and whatever the agent answers, the parts are signed as their
concatenation would have been, and that ends the operation. -/
theorem sign_in_parts {state : SessionState} {session : Session} {mechanism : CkMechanism}
    {key : UInt64} {reader : ReaderState} (hslot : state.slotById session.slot = some reader.slot)
    (hinit : state.signInit session mechanism key = .ok cursor)
    (hs : s.signing h = some (cursor, false)) (steps : List SignStep)
    (hquiet : Along SignStep.next SignStep.Quiet cursor steps) (now : Int) :
    let after := run (SignStep.perform h now) s steps
    let message := steps.flatMap (·.bytes)
    let gathered := { cursor with accumulated := message }
    after.signing h = some (gathered, false) ∧
      (∀ data buffer result, cursor.isQuestion buffer = true →
        let asked := after.doSign h data buffer result now
        (SignJob.mk gathered (data.getD message) buffer).request = none ∧
          if cursor.fits (data.getD message) then asked.1.signing h = some (gathered, false) ∧
            asked.2 = ⟨if buffer.isNone then .ok else .bufferTooSmall, .length cursor.length⟩
          else asked.1.signing h = some ({}, false) ∧ asked.2 = ⟨.dataLenRange, .nothing⟩) ∧
      ∀ buffer status bytes, cursor.isQuestion buffer = false →
        (status = .ok → cursor.mechanism ≠ .ecdsa → bytes.length = cursor.length) →
        let final := after.doSign h none buffer (some (status, bytes)) now
        let whole := s.doSign h (some message) buffer (some (status, bytes)) now
        after.checkSign h none buffer = .ok (.sign h ⟨gathered, message, buffer⟩) ∧
          s.checkSign h (some message) buffer = .ok (.sign h ⟨cursor, message, buffer⟩) ∧
          (SignJob.mk gathered message buffer).request =
            (SignJob.mk cursor message buffer).request ∧
          (∀ asked ∈ (SignJob.mk cursor message buffer).request, asked.2.2.2 = message) ∧
          final.2 = whole.2 ∧ final.1.signing h = some ({}, false) ∧ whole.1.signing h =
            some ({}, false) ∧
          ∀ signature, final.2.out = .bytes signature → signature.length = cursor.length := by
  intro after message gathered
  obtain ⟨ha, he, hle⟩ := signInit_fresh hslot hinit
  have haf : after.signing h = some (gathered, false) := by
    have hru := signing_run now hs ha hle hquiet
    rw [he] at hru
    exact hru
  have hc {s cursor} (hs : SessionState.signing s h = some (cursor, false))
    (ha : cursor.active = true) (data buffer) :
      s.checkSign h data buffer = .ok (.sign h ⟨cursor, data.getD cursor.accumulated, buffer⟩) := by
    grind [SessionState.signing, SessionState.checkSign]
  refine ⟨haf, fun data buffer result hq => ?_, fun buffer status bytes hr hrs => ?_⟩
  · obtain ⟨han, hcu⟩ := doSign_spec haf ha data buffer result now
    refine ⟨if_neg fun hask => hask.2 ⟨hle, hq⟩, ?_⟩
    split
    · next hf =>
      rw [SignJob.conclude_question hf hle hq] at han hcu
      exact ⟨hcu, han⟩
    · next hf =>
      rw [SignJob.conclude_misfit (Bool.eq_false_iff.mpr hf)] at han hcu
      exact ⟨hcu, han⟩
  · obtain ⟨han, hcu⟩ := doSign_spec haf ha none buffer (some (status, bytes)) now
    obtain ⟨han', hcu'⟩ := doSign_spec hs ha (some message) buffer (some (status, bytes)) now
    obtain ⟨hen, hl⟩ := @SignJob.conclude_ends h ⟨cursor, message, buffer⟩ status bytes hr hrs
    -- the answer does not look at what is gathered
    have hen' : (SignJob.conclude h ⟨gathered, none.getD message, buffer⟩
      (some (status, bytes))).1.any (·.isClear) = true :=
      hen
    refine ⟨hc haf ha none buffer, hc hs ha (some message) buffer, rfl, ?_, han.trans han'.symm,
      hcu.trans (by rw [if_pos hen']), hcu'.trans (by rw [Option.getD_some, if_pos hen]),
      fun signature ho => hl signature (han ▸ ho)⟩
    unfold SignJob.request
    grind

end

def signerReader : ReaderState :=
  { readerPath := [], hasCard := true
    certs := [{ signingCapable := true, canSign := true, keyType := .rsa, keyBits := 2048 }] }

def signer : SessionState :=
  { model := ⟨[signerReader.slot]⟩
    slotIndex := AList.singleton 0 0
    sessions := AList.singleton 1 { sign := { active := true, keyType := .rsa, keyBits := 2048 } } }

theorem sign_in_parts_asked : (run (SignStep.perform 1 0) signer
      [.part [1], .ask none none none, .part [2]]).signing 1 =
    some ({ active := true, keyType := .rsa, keyBits := 2048, accumulated := [1, 2] }, false) :=
  (@sign_in_parts signer 1 { active := true, keyType := .rsa, keyBits := 2048 } signer
      { slot := 0 } .rsaPkcs 3 signerReader
    rfl rfl rfl [.part [1], .ask none none none, .part [2]]
      ⟨trivial, ⟨rfl, rfl⟩, trivial, trivial⟩ 0).1

theorem sign_outlives_throw : (signer.doSign 1 (some []) (some 256) none 0).2 =
    ⟨.deviceError, .nothing⟩ ∧
    ((signer.doSign 1 (some []) (some 256) none 0).1.signing 1).map (·.1.active) = some true := by
  decide

end LibreAgent.Pkcs11Agent
