import LibreAgent.Wire.Fields

/-!
# Requests round-trip

* `parseRequestMap_encode` : the parser reads every request back from its map;
* `parseRequest_toCbor` : over the bytes, without NaN, within the caps and QCBOR's limits.
-/

namespace LibreAgent.Wire

open Bytes OrdMap CborValue

variable {ε α β : Type}

attribute [local simp] asMapOrWrongType fUint fText required fOptBool parseRequestMap
  encodeRequestBody fTag parseBody

@[simp] lemma ok_bind (a : α) (f : α → Except ε β) : (Except.ok a >>= f) = f a :=
  rfl

@[simp] lemma ok_map (a : α) (f : α → β) : Except.map f (Except.ok a : Except ε α) = .ok (f a) :=
  rfl

lemma readOptional_map {as : CborValue → Option α} {f : α → CborValue}
    (h : ∀ a, as (f a) = some a) (o : Option α) : readOptional as (o.map f) = .ok o := by
  cases o with
  | none => rfl
  | some a => simp [readOptional, h]

@[simp] lemma readOptional_text (o : Option Bytes) : readOptional asText (o.map .text) = .ok o :=
  readOptional_map asText_text o

@[simp] lemma readOptional_bool (o : Option Bool) : readOptional asBool (o.map .bool) = .ok o :=
  readOptional_map asBool_bool o

lemma parseVisualSignatureOpts_encode (v : VisualSignatureOpts) :
    parseVisualSignatureOpts (encodeVisualSignatureOpts v) = .ok v := by
  simp [parseVisualSignatureOpts, encodeVisualSignatureOpts, fDouble]

lemma parseSignOpts_encode (o : SignOpts) : parseSignOpts (encodeSignOpts o) = .ok o := by
  obtain ⟨format, level, packaging, allowExpired, displayName, reason, location, tsaUrl, vis⟩ := o
  cases vis with
  | none => simp [parseSignOpts, encodeSignOpts, fOptText, parseVisualSignature]
  | some v =>
    simp [parseSignOpts, encodeSignOpts, fOptText, parseVisualSignature,
      parseVisualSignatureOpts_encode]

lemma parseDocs_encode (docs : List BatchDocument) : parseDocs (docs.map encodeBatchDocument) =
    .ok docs := by
  induction docs with
  | nil => rfl
  | cons d docs ih =>
    have hd : parseBatchDocument (encodeBatchDocument d) = .ok d := by
      simp [parseBatchDocument, encodeBatchDocument]
    simp [parseDocs, hd, ih]

lemma parseRequestMap_encode (req : UInt64) (body : Request) :
    parseRequestMap ((encodeRequestBody body).put "req" (.ofUInt64 req)) = .ok ⟨req, body⟩ := by
  cases body with
  | hello proto wantsEvents =>
    cases wantsEvents <;> simp [readOptional]
  | sign card cert inFd opts =>
    simp [fAny, parseSignOpts_encode]
  | signBatch card cert docs opts =>
    simp [fAny, parseSignOpts_encode, parseDocs_encode]
  | setConfig key value =>
    simp [fAny]
  | pkSignRaw | pkDecrypt | pkDerive =>
    simp [fBytes, parseRawCrypto]
  | managePin card pinId verb activateKey =>
    simp
  | layoutVisual text x y width height =>
    simp [fDouble]
  | _ => simp

/-! ## Built requests -/

lemma built_encodeVisualSignatureOpts (v : VisualSignatureOpts) :
    (encodeVisualSignatureOpts v).Built :=
  built_ofFields (by simp)

lemma built_encodeSignOpts (o : SignOpts) : (encodeSignOpts o).Built :=
  built_ofFields (by simp [built_encodeVisualSignatureOpts])

lemma built_encodeBatchDocument (d : BatchDocument) : (encodeBatchDocument d).Built :=
  built_ofFields (by simp)

def Request.Built : Request → Prop
  | .setConfig _ value => value.Built
  | _ => True

lemma ok_encodeRequestBody {r : Request} (h : r.Built) : (encodeRequestBody r).Ok := by
  cases r with
  | setConfig key value =>
    have hv : value.Built := h
    exact CborMap.ok_tagged _ (by simp [hv])
  | hello proto wantsEvents => cases wantsEvents <;> exact CborMap.ok_tagged _ (by simp)
  | sign card cert inFd opts => exact CborMap.ok_tagged _ (by simp [built_encodeSignOpts])
  | signBatch card cert docs opts =>
    have hd : (array (docs.map encodeBatchDocument)).Built :=
      built_array_map fun d _ => built_encodeBatchDocument d
    exact CborMap.ok_tagged _ (by simp [hd, built_encodeSignOpts])
  | _ => exact CborMap.ok_tagged _ (by simp)

lemma RequestEnvelope.built_toCbor {env : RequestEnvelope} (h : env.body.Built) :
    env.toCbor.Built :=
  built_map ((ok_encodeRequestBody h).emplace (lit "req") (.ofUInt64 env.req))

/-- **A request comes back from its encoding**, whatever its alternative and its contents. -/
theorem parseRequest_toCbor (q : Qcbor) (hq : Documented q) (env : RequestEnvelope)
    (hb : env.body.Built) (hn : env.toCbor.noNaN = true) (hc : env.toCbor.InCaps)
    (hl : env.toCbor.InLimits) : parseRequest q (env.toCbor.encode q) = .ok env := by
  have hd := decode_encode hq (RequestEnvelope.built_toCbor hb) hn hc.items hl
  rw [parseRequest, hd]
  exact parseRequestMap_encode env.req env.body

/-- a request with a nested configuration value and one that omits its default -/
theorem parseRequest_toCbor_setConfig :
    let env : RequestEnvelope := ⟨7, .setConfig (lit "TsaUrls") (.array [.text (lit "https://a")])⟩
    Documented reference ∧ env.body.Built ∧
      parseRequest reference (env.toCbor.encode reference) = .ok env :=
  have hb : (array [.text (lit "https://a")]).Built := .array _ (by simp)
  ⟨reference_documented, hb, parseRequest_toCbor reference reference_documented _ hb rfl
    ⟨by decide, by decide⟩ ⟨by decide, by decide⟩⟩

/-- a configuration value of fifteen nested arrays makes sixteen containers with the request's own
map: within the caps of `decode`, one more than QCBOR tracks -/
theorem parseRequest_toCbor_fails :
    let env : RequestEnvelope := ⟨1, .setConfig (lit "TslSources") (nestedArrays 14)⟩
    env.body.Built ∧ env.toCbor.InCaps ∧
      parseRequest reference (env.toCbor.encode reference) = .error .notDecodable := by
  intro env
  refine ⟨built_nestedArrays 14, ⟨by decide, by decide⟩, ?_⟩
  rw [encode_too_deep reference_documented (by decide)]
  rfl

end LibreAgent.Wire
