import BoundSeal.Http1.Request
import BoundSeal.Stream.Operations

/-!
# The HTTP/1 codec (`nxb-http1`, `codec.rs`)

A codec owns a bounded stream. An exchange writes one request in pieces of at most
`io_operation_bytes`, then reads and parses until the parser has a verdict, closes
the stream, and leaves a receipt and an audit record.

`write_all` and `read_response` are loops over the stream. A backend that only ever
answers with backpressure is stopped by the limits, which is why a codec carries
the proof that its limits are valid: without it the loops need not end.
-/

namespace BoundSeal.Http1

open Rust Lib
open BoundSeal.Stream (BoundedByteStream ByteStreamBackend StreamControl StreamReadResult payloadHash)
open BoundSeal.Vault (SecretHeaderLease)

/-! ## Valid limits -/

theorem Http1Limits.eq_of_validate {limits validated : Http1Limits}
    (h : limits.validate = .ok validated) : limits = validated := by
  simp only [Http1Limits.validate, do_eq_ok] at h
  exact h.2.2.2.2.2.2.2.2.2.2.2.2.2.2.2.2

variable {limits : Http1Limits}

theorem Http1Limits.backpressure_lt (h : limits.validate = .ok limits) :
    limits.maximumBackpressureEvents < u64Max := by
  simp only [Http1Limits.validate, validateNonzeroCap, do_eq_ok] at h
  obtain ⟨-, -, -, -, -, -, -, -, -, -, -, -, -, hevents, -⟩ := h
  have hcap : maxHttpBackpressureEvents < u64Max := by decide
  omega

def patience (limits : Http1Limits) (backpressureEvents : ℕ) : ℕ :=
  limits.maximumBackpressureEvents + 1 - backpressureEvents

theorem patience_lt (limits : Http1Limits) (backpressureEvents : ℕ) :
    patience limits backpressureEvents < limits.maximumBackpressureEvents + 2 := by
  unfold patience
  omega

theorem patience_saturatingAdd (hvalid : limits.validate = .ok limits)
    {backpressureEvents : ℕ} (h : ¬ saturatingAdd backpressureEvents 1 > limits.maximumBackpressureEvents) :
    patience limits (saturatingAdd backpressureEvents 1) < patience limits backpressureEvents := by
  have hcap := Http1Limits.backpressure_lt hvalid
  unfold patience
  rw [saturatingAdd] at h ⊢
  omega

variable {control : StreamControl}

section

variable {B : Type} [ByteStreamBackend B]

/-! ## Writing -/

/-- The variables of `write_all`: the bytes from the offset on, and the stream. -/
structure WriteState (B : Type) where
  rest : Bytes
  backpressureEvents : ℕ
  stream : BoundedByteStream B

/-- One round of `write_all`. -/
def writeBody (limits : Http1Limits) (control : StreamControl) (state : WriteState B) :
    WriteState B ⊕ Except Http1Error Unit × BoundedByteStream B :=
  if state.rest = [] then .inr (.ok (), state.stream)
  else
    let chunk := state.rest.take limits.ioOperationBytes
    match state.stream.write chunk control with
    | (.error e, stream) => .inr (.error (.stream e), stream)
    | (.ok result, stream) =>
      match result.receipt.outcome with
      | .written | .partialWrite =>
        let transferred := result.receipt.transferredBytes
        if transferred = 0 ∨ transferred > chunk.length then
          .inr (.error (.invalidRequest "stream reported an invalid write length"), stream)
        else .inl ⟨state.rest.drop transferred, 0, stream⟩
      | .backpressure =>
        let backpressureEvents := saturatingAdd state.backpressureEvents 1
        if backpressureEvents > limits.maximumBackpressureEvents then
          .inr (.error .backpressureBudgetExceeded, stream)
        else .inl ⟨state.rest, backpressureEvents, stream⟩
      | outcome => .inr (.error (.streamOutcome outcome), stream)

theorem writeBody_inl {state next : WriteState B} (h : writeBody limits control state = .inl next) :
    state.rest ≠ [] ∧ ∃ result,
      state.stream.write (state.rest.take limits.ioOperationBytes) control = (.ok result, next.stream) ∧
      (((result.receipt.outcome = .written ∨ result.receipt.outcome = .partialWrite) ∧
          0 < result.receipt.transferredBytes ∧
          result.receipt.transferredBytes ≤ (state.rest.take limits.ioOperationBytes).length ∧
          next.rest = state.rest.drop result.receipt.transferredBytes ∧ next.backpressureEvents = 0) ∨
        (result.receipt.outcome = .backpressure ∧ next.rest = state.rest ∧
          next.backpressureEvents = saturatingAdd state.backpressureEvents 1 ∧
          ¬ next.backpressureEvents > limits.maximumBackpressureEvents)) := by
  unfold writeBody at h
  split_ifs at h with hrest
  refine ⟨hrest, ?_⟩
  dsimp only at h
  rcases hwrite : state.stream.write (state.rest.take limits.ioOperationBytes) control with ⟨_ | result, stream⟩
  · rw [hwrite] at h
    cases h
  · rw [hwrite] at h
    dsimp only at h
    cases houtcome : result.receipt.outcome with
    | written | partialWrite =>
      rw [houtcome] at h
      dsimp only at h
      split_ifs at h with hinvalid
      cases h
      exact ⟨result, rfl, .inl ⟨by simp [houtcome], by omega, by omega, rfl, rfl⟩⟩
    | backpressure =>
      rw [houtcome] at h
      dsimp only at h
      split_ifs at h with hbudget
      cases h
      exact ⟨result, rfl, .inr ⟨houtcome, rfl, rfl, hbudget⟩⟩
    | _ =>
      rw [houtcome] at h
      cases h

/-- A round that leaves has nothing to write, or its one write is the last. -/
theorem writeBody_inr {state : WriteState B} {a : Except Http1Error Unit × BoundedByteStream B}
    (h : writeBody limits control state = .inr a) :
    (state.rest = [] ∧ a = (.ok (), state.stream)) ∨ (state.rest ≠ [] ∧ (∃ e, a.1 = .error e) ∧
      a.2 = (state.stream.write (state.rest.take limits.ioOperationBytes) control).2) := by
  unfold writeBody at h
  split_ifs at h with hrest
  · cases h
    exact .inl ⟨hrest, rfl⟩
  · refine .inr ⟨hrest, ?_⟩
    dsimp only at h
    rcases hwrite : state.stream.write (state.rest.take limits.ioOperationBytes) control with
      ⟨_ | result, stream⟩
    · rw [hwrite] at h
      cases h
      exact ⟨⟨_, rfl⟩, rfl⟩
    · rw [hwrite] at h
      dsimp only at h
      split at h <;> try split_ifs at h
      all_goals
        cases h
        exact ⟨⟨_, rfl⟩, rfl⟩

/-- The loop of `write_all`. -/
def writeLoop (limits : Http1Limits) (hvalid : limits.validate = .ok limits) (control : StreamControl) :
    Loop (WriteState B) (Except Http1Error Unit × BoundedByteStream B) where
  body := writeBody limits control
  measure state := state.rest.length * (limits.maximumBackpressureEvents + 2) + patience limits state.backpressureEvents
  decreasing := by
    intro state next h
    obtain ⟨hrest, result, -, hnext⟩ := writeBody_inl h
    refine lex_measure_lt (patience_lt _ _) ?_
    rcases hnext with ⟨-, hpos, -, hdrop, -⟩ | ⟨-, hsame, hevents, hbudget⟩
    · left
      have hlength := List.length_pos_iff.mpr hrest
      rw [hdrop, List.length_drop]
      omega
    · right
      rw [hevents] at hbudget ⊢
      exact ⟨by rw [hsame], patience_saturatingAdd hvalid hbudget⟩

end

/-! ## Reading -/

section

variable {B : Type}

/-- The variables of `read_response`. -/
structure ReadState (B : Type) where
  wire : Bytes
  eof : Bool
  backpressureEvents : ℕ
  stream : BoundedByteStream B

/-- The check at the end of a round of `read_response`. -/
def checkWire (limits : Http1Limits) (state : ReadState B) :
    ReadState B ⊕ Except Http1Error (Http1Response × Bytes) × BoundedByteStream B :=
  if state.wire.length > limits.maximumResponseWireBytes then
    .inr (.error (.invalidResponse "response wire bytes exceed configured limit"), state.stream)
  else .inl state

/-- What `read_response` makes of the result of a read. -/
def received (limits : Http1Limits) (state : ReadState B) (result : StreamReadResult) :
    ReadState B ⊕ Except Http1Error (Http1Response × Bytes) × BoundedByteStream B :=
  match result.receipt.outcome with
  | .data =>
    if result.bytes = [] then .inr (.error (.invalidResponse "stream reported data without bytes"), state.stream)
    else checkWire limits { state with wire := state.wire ++ result.bytes, backpressureEvents := 0 }
  | .backpressure =>
    let backpressureEvents := saturatingAdd state.backpressureEvents 1
    if backpressureEvents > limits.maximumBackpressureEvents then
      .inr (.error .backpressureBudgetExceeded, state.stream)
    else checkWire limits { state with backpressureEvents }
  | .eof => checkWire limits { state with eof := true }
  | .truncated => .inr (.error (.truncatedResponse "underlying stream reported truncation"), state.stream)
  | outcome => .inr (.error (.streamOutcome outcome), state.stream)

variable {state next : ReadState B}

theorem checkWire_inl (h : checkWire limits state = .inl next) :
    next = state ∧ state.wire.length ≤ limits.maximumResponseWireBytes := by
  unfold checkWire at h
  split_ifs at h with hlimit
  cases h
  exact ⟨rfl, not_lt.mp hlimit⟩

theorem received_inl {result : StreamReadResult} (h : received limits state result = .inl next) :
    next.wire.length ≤ limits.maximumResponseWireBytes ∧ next.stream = state.stream ∧
      ((result.receipt.outcome = .data ∧ result.bytes ≠ [] ∧ next.wire = state.wire ++ result.bytes ∧
          next.eof = state.eof ∧ next.backpressureEvents = 0) ∨
        (result.receipt.outcome = .backpressure ∧ next.wire = state.wire ∧ next.eof = state.eof ∧
          next.backpressureEvents = saturatingAdd state.backpressureEvents 1 ∧
          ¬ next.backpressureEvents > limits.maximumBackpressureEvents) ∨
        (result.receipt.outcome = .eof ∧ next.wire = state.wire ∧ next.eof = true)) := by
  unfold received at h
  cases houtcome : result.receipt.outcome with
  | data =>
    rw [houtcome] at h
    dsimp only at h
    split_ifs at h with hempty
    obtain ⟨rfl, hlimit⟩ := checkWire_inl h
    exact ⟨hlimit, rfl, .inl ⟨rfl, hempty, rfl, rfl, rfl⟩⟩
  | backpressure =>
    rw [houtcome] at h
    dsimp only at h
    split_ifs at h with hbudget
    obtain ⟨rfl, hlimit⟩ := checkWire_inl h
    exact ⟨hlimit, rfl, .inr (.inl ⟨rfl, rfl, rfl, rfl, hbudget⟩)⟩
  | eof =>
    rw [houtcome] at h
    obtain ⟨rfl, hlimit⟩ := checkWire_inl h
    exact ⟨hlimit, rfl, .inr (.inr ⟨rfl, rfl, rfl⟩)⟩
  | _ =>
    rw [houtcome] at h
    cases h

theorem received_stream {state : ReadState B} {result : StreamReadResult}
    {a : Except Http1Error (Http1Response × Bytes) × BoundedByteStream B}
    (h : received limits state result = .inr a) : a.2 = state.stream := by
  unfold received checkWire at h
  dsimp only at h
  split at h <;> try split_ifs at h
  all_goals
    cases h
    rfl

variable [ByteStreamBackend B]

/-- One round of `read_response`. -/
def readBody (limits : Http1Limits) (requestMethod : String) (control : StreamControl) (state : ReadState B) :
    ReadState B ⊕ Except Http1Error (Http1Response × Bytes) × BoundedByteStream B :=
  match parseResponse state.wire state.eof requestMethod limits with
  | .error e => .inr (.error e, state.stream)
  | .ok (.complete parsed) =>
    if parsed.consumedWireBytes ≠ state.wire.length then
      .inr (.error (.invalidResponse "bytes remained after the framed response"), state.stream)
    else .inr (.ok (parsed.response, state.wire), state.stream)
  | .ok .incomplete =>
    if state.eof then
      .inr (.error (.truncatedResponse "stream reached EOF before response framing completed"), state.stream)
    else
      match state.stream.read limits.ioOperationBytes control with
      | (.error e, stream) => .inr (.error (.stream e), stream)
      | (.ok result, stream) => received limits { state with stream } result

theorem readBody_inl {requestMethod : String}
    (h : readBody limits requestMethod control state = .inl next) :
    state.eof = false ∧ ∃ result stream,
      state.stream.read limits.ioOperationBytes control = (.ok result, stream) ∧
      received limits { state with stream } result = .inl next := by
  unfold readBody at h
  split at h
  · cases h
  · split_ifs at h
  · split_ifs at h with heof
    refine ⟨Bool.eq_false_iff.mpr heof, ?_⟩
    rcases hread : state.stream.read limits.ioOperationBytes control with ⟨_ | result, stream⟩
    · rw [hread] at h
      cases h
    · rw [hread] at h
      exact ⟨result, stream, rfl, h⟩

/-- The bytes that may still come, and the end of the stream. -/
def expected (limits : Http1Limits) (state : ReadState B) : ℕ :=
  if state.eof then 0 else limits.maximumResponseWireBytes + 2 - state.wire.length

/-- The loop of `read_response`. -/
def readLoop (limits : Http1Limits) (hvalid : limits.validate = .ok limits) (requestMethod : String)
    (control : StreamControl) :
    Loop (ReadState B) (Except Http1Error (Http1Response × Bytes) × BoundedByteStream B) where
  body := readBody limits requestMethod control
  measure state :=
    expected limits state * (limits.maximumBackpressureEvents + 2) + patience limits state.backpressureEvents
  decreasing := by
    intro state next h
    obtain ⟨heof, result, stream, -, hreceived⟩ := readBody_inl h
    obtain ⟨hlimit, -, hnext⟩ := received_inl hreceived
    refine lex_measure_lt (patience_lt _ _) ?_
    simp only [expected, heof]
    rcases hnext with ⟨-, hbytes, hwire, heof', -⟩ | ⟨-, hwire, heof', hevents, hbudget⟩ | ⟨-, hsame, heof'⟩
    · left
      have hlength := List.length_pos_iff.mpr hbytes
      have hsum : next.wire.length = state.wire.length + result.bytes.length := by rw [hwire, List.length_append]
      simp only [heof', heof, Bool.false_eq_true, if_false]
      omega
    · right
      rw [hevents] at hbudget ⊢
      exact ⟨by simp only [heof', heof, hwire], patience_saturatingAdd hvalid hbudget⟩
    · left
      have hroom : state.wire.length ≤ limits.maximumResponseWireBytes := by rwa [hsame] at hlimit
      simp only [heof', Bool.false_eq_true, if_false, if_true]
      omega

end

/-! ## The codec -/

/-- `Http1Codec`, with the proof that its limits are valid. -/
structure Http1Codec (B : Type) where
  stream : BoundedByteStream B
  limits : Http1Limits
  validated : limits.validate = .ok limits
  audit : Http1AuditChain
  nextExchangeId : ℕ
  completed : Bool

namespace Http1Codec

variable {B : Type}

/-- `Http1Codec::new`. -/
def new (stream : BoundedByteStream B) (limits : Http1Limits) : Except Http1Error (Http1Codec B) :=
  match hvalid : limits.validate with
  | .error e => .error e
  | .ok validated => do
    stream.audit.verify.mapError .streamAudit
    let audit ← (Http1AuditChain.new stream.audit.tailHash).mapError .audit
    pure
      { stream
        limits
        validated := by rw [hvalid, Http1Limits.eq_of_validate hvalid]
        audit
        nextExchangeId := 1
        completed := false }

variable [ByteStreamBackend B] (self : Http1Codec B)

/-- `write_all`. -/
def writeAll (bytes : Bytes) (control : StreamControl) : Except Http1Error Unit × BoundedByteStream B :=
  (writeLoop self.limits self.validated control).exec ⟨bytes, 0, self.stream⟩

/-- `read_response`. -/
def readResponse (requestMethod : String) (control : StreamControl) :
    Except Http1Error (Http1Response × Bytes) × BoundedByteStream B :=
  (readLoop self.limits self.validated requestMethod control).exec ⟨[], false, 0, self.stream⟩

def exchangeIdText (n : ℕ) : String := s!"http1-exchange-{zeroPadded 20 n}"

/-- The fields of the receipt and the audit record of an exchange. -/
def exchangeFields (request : Http1Request) (serialized : SerializedRequest) (response : Http1Response)
    (responseWire : Bytes) (streamAuditBefore : String) : ExchangeFields where
  exchangeId := exchangeIdText self.nextExchangeId
  streamId := self.stream.grant.streamId
  executionId := self.stream.grant.executionId
  requestMethod := request.method
  requestTargetSha256 := payloadHash (bytes request.target)
  requestWireSha256 := payloadHash serialized.redactedAuditWire
  requestBodySha256 := payloadHash request.body
  requestHeaderCount := serialized.headerCount
  requestBodyBytes := request.body.length
  responseWireSha256 := payloadHash responseWire
  responseBodySha256 := payloadHash response.body
  responseStatus := response.statusCode
  responseVersion := response.version.code
  responseFraming := response.framing.code
  responseHeaderCount := response.headers.length
  responseTrailerCount := response.trailers.length
  responseBodyBytes := response.body.length
  interimResponses := response.interimResponses
  streamAuditBefore
  streamAuditAfter := self.stream.audit.tailHash

def exchangeMetadata (serialized : SerializedRequest) : BTreeMap String String :=
  let metadata := textMap [("connection_policy", "close_after_exchange"), ("authority_source", "stream_grant"),
    ("secret_header_count", serialized.secretHeaderCount.repr),
    ("secret_wire_audit_policy", "length_only_redaction")]
  match serialized.secretLeaseFingerprint with
  | some fingerprint => metadata.insert "secret_lease_fingerprint" fingerprint
  | none => metadata

/-- `if !self.stream.state().is_terminal() { self.stream.close()? }`. -/
def shut : Except Http1Error Unit × Http1Codec B :=
  if self.stream.state.isTerminal then (.ok (), self)
  else
    match self.stream.close with
    | (.error e, stream) => (.error (.stream e), { self with stream })
    | (.ok _, stream) => (.ok (), { self with stream })

/-- The end of an exchange, once the response has been read. -/
def conclude (request : Http1Request) (serialized : SerializedRequest) (response : Http1Response)
    (responseWire : Bytes) (streamAuditBefore : String) : Except Http1Error Http1Exchange × Http1Codec B :=
  match self.shut with
  | (.error e, self) => (.error e, self)
  | (.ok (), self) =>
    match self.stream.audit.verify with
    | .error e => (.error (.streamAudit e), self)
    | .ok () =>
      let fields := self.exchangeFields request serialized response responseWire streamAuditBefore
      let audit := self.audit.append { fields with metadata := exchangeMetadata serialized }
      (.ok ⟨response, { fields with httpAuditTail := audit.tailHash }⟩,
        { self with completed := true, nextExchangeId := saturatingAdd self.nextExchangeId 1, audit })

/-- The exchange of a request that was serialised. -/
def transact (request : Http1Request) (serialized : SerializedRequest) (control : StreamControl) :
    Except Http1Error Http1Exchange × Http1Codec B :=
  let streamAuditBefore := self.stream.audit.tailHash
  match self.writeAll serialized.wire control with
  | (.error e, stream) => (.error e, { self with stream })
  | (.ok (), stream) =>
    match ({ self with stream } : Http1Codec B).readResponse request.method control with
    | (.error e, stream) => (.error e, { self with stream })
    | (.ok (response, responseWire), stream) =>
      ({ self with stream } : Http1Codec B).conclude request serialized response responseWire streamAuditBefore

/-- `exchange_internal`, with the lease it leaves. -/
def exchangeInternal (request : Http1Request) (secretHeaders : Option (SecretHeaderLease × ℤ))
    (control : StreamControl) : Except Http1Error Http1Exchange × Option SecretHeaderLease × Http1Codec B :=
  if self.completed then (.error .exchangeAlreadyCompleted, secretHeaders.map (·.1), self)
  else if self.stream.state.isTerminal then
    (.error (.streamState self.stream.state), secretHeaders.map (·.1), self)
  else
    match serializeRequest request self.stream.grant.httpHost self.stream.grant.scheme self.limits secretHeaders with
    | (.error e, lease) => (.error e, lease, self)
    | (.ok serialized, lease) =>
      let (result, next) := self.transact request serialized control
      (result, lease, next)

/-- `Http1Codec::exchange`. -/
def exchange (request : Http1Request) (control : StreamControl) :
    Except Http1Error Http1Exchange × Http1Codec B :=
  let (result, _, next) := self.exchangeInternal request none control
  (result, next)

/-- `Http1Codec::exchange_with_secret_headers`. -/
def exchangeWithSecretHeaders (request : Http1Request) (secretHeaders : SecretHeaderLease) (nowEpochSeconds : ℤ)
    (control : StreamControl) : Except Http1Error Http1Exchange × SecretHeaderLease × Http1Codec B :=
  let (result, lease, next) := self.exchangeInternal request (some (secretHeaders, nowEpochSeconds)) control
  (result, lease.getD secretHeaders, next)

end Http1Codec

/-! ## What an exchange does to its codec -/

section

variable {B : Type} [ByteStreamBackend B] {limits : Http1Limits} {control : StreamControl}

theorem continues_writeLoop (hvalid : limits.validate = .ok limits) (state : WriteState B) :
    state.stream.Continues ((writeLoop limits hvalid control).exec state).2 := by
  refine (writeLoop limits hvalid control).exec_rule
    (fun state a => state.stream.Continues a.2) ?_ ?_ state
  · intro state a h
    rcases writeBody_inr h with ⟨-, rfl⟩ | ⟨-, -, hstream⟩
    · exact .refl _
    · rw [hstream]
      exact BoundedByteStream.continues_write _ _
  · intro state next a h hnext
    obtain ⟨-, result, hwrite, -⟩ := writeBody_inl h
    have hround : state.stream.Continues
        (state.stream.write (state.rest.take limits.ioOperationBytes) control).2 :=
      BoundedByteStream.continues_write _ _
    rw [hwrite] at hround
    exact hround.trans hnext

theorem continues_readLoop (hvalid : limits.validate = .ok limits) (requestMethod : String) (state : ReadState B) :
    state.stream.Continues ((readLoop limits hvalid requestMethod control).exec state).2 := by
  refine (readLoop limits hvalid requestMethod control).exec_rule
    (fun state a => state.stream.Continues a.2) ?_ ?_ state
  · intro state a h
    change readBody limits requestMethod control state = .inr a at h
    have hread : state.stream.Continues (state.stream.read limits.ioOperationBytes control).2 :=
      BoundedByteStream.continues_read _ _
    unfold readBody at h
    split at h
    · cases h
      exact .refl _
    · split_ifs at h <;>
      · cases h
        exact .refl _
    · split_ifs at h
      · cases h
        exact .refl _
      · rcases heq : state.stream.read limits.ioOperationBytes control with ⟨_ | result, stream⟩
        · rw [heq] at h hread
          cases h
          exact hread
        · rw [heq] at h hread
          rw [received_stream h]
          exact hread
  · intro state next a h hnext
    obtain ⟨-, result, stream, hread, hreceived⟩ := readBody_inl h
    obtain ⟨-, hstream, -⟩ := received_inl hreceived
    have hround : state.stream.Continues (state.stream.read limits.ioOperationBytes control).2 :=
      BoundedByteStream.continues_read _ _
    rw [hread] at hround
    rw [hstream] at hnext
    exact hround.trans hnext

end

namespace Http1Codec

theorem continues_writeAll {B : Type} [ByteStreamBackend B] (self : Http1Codec B) (bytes : Bytes)
    (control : StreamControl) : self.stream.Continues (self.writeAll bytes control).2 :=
  continues_writeLoop self.validated ⟨bytes, 0, self.stream⟩

/-- A stream that refuses the first piece refuses the request. -/
theorem writeAll_of_refused {B : Type} [ByteStreamBackend B] {self : Http1Codec B} {wire : Bytes}
    (hwire : wire ≠ []) {e : Stream.StreamError}
    (h : self.stream.ensureOperation .write (wire.take self.limits.ioOperationBytes).length = .error e) :
    self.writeAll wire control = (.error (.stream e), self.stream) := by
  have hround : writeBody self.limits control ⟨wire, 0, self.stream⟩ =
      .inr (.error (.stream e), self.stream) := by
    simp only [writeBody, if_neg hwire, BoundedByteStream.write, h]
  exact Loop.exec_of_inr _ hround

/-- A stream that takes the first piece leaves a record of it. -/
theorem records_lt_of_writeAll {B : Type} [ByteStreamBackend B] {self : Http1Codec B} {wire : Bytes}
    (control : StreamControl) (hwire : wire ≠ [])
    (h : self.stream.ensureOperation .write (wire.take self.limits.ioOperationBytes).length = .ok ()) :
    self.stream.audit.records.length < (self.writeAll wire control).2.audit.records.length := by
  have hfirst := BoundedByteStream.records_lt_of_write control h
  unfold writeAll
  cases hbody : writeBody self.limits control ⟨wire, 0, self.stream⟩ with
  | inr a =>
    rw [Loop.exec_of_inr _ hbody]
    rcases writeBody_inr hbody with ⟨hrest, -⟩ | ⟨-, -, hstream⟩
    · exact absurd hrest hwire
    · rwa [hstream]
  | inl next =>
    rw [Loop.exec_of_inl _ hbody]
    obtain ⟨-, result, hwrite, -⟩ := writeBody_inl hbody
    rw [hwrite] at hfirst
    exact hfirst.trans_le (continues_writeLoop self.validated next).records

theorem new_eq_ok {B : Type} {stream : BoundedByteStream B} {codec : Http1Codec B}
    (h : new stream limits = .ok codec) :
    codec.stream = stream ∧ codec.limits = limits ∧ codec.completed = false ∧ stream.audit.verify = .ok () := by
  unfold new at h
  split at h
  · cases h
  · simp only [do_eq_ok] at h
    obtain ⟨hverify, audit, -, rfl⟩ := h
    refine ⟨rfl, rfl, rfl, ?_⟩
    cases haudit : stream.audit.verify with
    | error e =>
      rw [haudit] at hverify
      cases hverify
    | ok u => rfl

variable {B : Type} [ByteStreamBackend B] {self : Http1Codec B}

variable {serialized : SerializedRequest}

theorem exchange_of_serialize {request : Http1Request}
    {lease : Option SecretHeaderLease} (hcompleted : self.completed = false)
    (hopen : self.stream.state.isTerminal = false)
    (hserialize : serializeRequest request self.stream.grant.httpHost self.stream.grant.scheme self.limits none =
      (.ok serialized, lease)) : self.exchange request control = self.transact request serialized control := by
  unfold exchange exchangeInternal
  rw [if_neg (by rw [hcompleted]; decide), if_neg (by rw [hopen]; decide), hserialize]

theorem conclude_eq_ok (haudit : self.stream.audit.verify = .ok ()) (request : Http1Request)
    (serialized : SerializedRequest) (response : Http1Response) (responseWire : Bytes) (streamAuditBefore : String) :
    ∃ exchange next, self.conclude request serialized response responseWire streamAuditBefore =
      (.ok exchange, next) ∧ exchange.response = response := by
  have hshut : ∃ next, self.shut = (.ok (), next) ∧ next.stream.audit.verify = .ok () := by
    unfold shut
    by_cases hterminal : self.stream.state.isTerminal = true
    · exact ⟨self, if_pos hterminal, haudit⟩
    · have hclosed : self.stream.Continues self.stream.close.2 := BoundedByteStream.continues_close
      unfold BoundedByteStream.close at hclosed ⊢
      rw [if_neg hterminal] at hclosed ⊢
      rw [if_neg hterminal]
      exact ⟨_, rfl, hclosed.audit haudit⟩
  obtain ⟨next, hshut, hverify⟩ := hshut
  simp only [conclude, hshut, hverify]
  exact ⟨_, _, rfl, rfl⟩

theorem completed_of_conclude {next : Http1Codec B} {request : Http1Request}
    {response : Http1Response} {responseWire : Bytes} {streamAuditBefore : String} {exchange : Http1Exchange}
    (h : self.conclude request serialized response responseWire streamAuditBefore = (.ok exchange, next)) :
    next.completed = true := by
  unfold conclude at h
  split at h
  · cases h
  · split at h
    · cases h
    · cases h
      rfl

/-- **Everything a serialised exchange can do**: the writing fails, the reading fails,
or it concludes. -/
theorem transact_cases (request : Http1Request) (serialized : SerializedRequest) (control : StreamControl) :
    (∃ e stream, self.writeAll serialized.wire control = (.error e, stream) ∧
      self.transact request serialized control = (.error e, { self with stream })) ∨
    ∃ stream, self.writeAll serialized.wire control = (.ok (), stream) ∧
      ((∃ e after, ({ self with stream } : Http1Codec B).readResponse request.method control = (.error e, after) ∧
        self.transact request serialized control = (.error e, { self with stream := after })) ∨
      ∃ response responseWire after,
        ({ self with stream } : Http1Codec B).readResponse request.method control =
        (.ok (response, responseWire), after) ∧
        self.transact request serialized control = ({ self with stream := after } : Http1Codec B).conclude request
          serialized response responseWire self.stream.audit.tailHash) := by
  unfold transact
  dsimp only
  rcases self.writeAll serialized.wire control with ⟨e | ⟨⟩, stream⟩
  · exact .inl ⟨e, stream, rfl, rfl⟩
  · refine .inr ⟨stream, rfl, ?_⟩
    dsimp only
    rcases ({ self with stream } : Http1Codec B).readResponse request.method control with ⟨e | ⟨response, wire⟩, after⟩
    · exact .inl ⟨e, after, rfl, rfl⟩
    · exact .inr ⟨response, wire, after, rfl, rfl⟩

/-- **Everything an exchange can do**: it is refused before anything is written, or a
serialised request is exchanged. -/
theorem exchangeInternal_cases (request : Http1Request)
    (secretHeaders : Option (SecretHeaderLease × ℤ)) (control : StreamControl) :
    (∃ e lease, self.exchangeInternal request secretHeaders control = (.error e, lease, self)) ∨
    (self.completed = false ∧ self.stream.state.isTerminal = false ∧ ∃ serialized lease,
      serializeRequest request self.stream.grant.httpHost self.stream.grant.scheme self.limits secretHeaders =
        (.ok serialized, lease) ∧
      self.exchangeInternal request secretHeaders control =
        ((self.transact request serialized control).1, lease, (self.transact request serialized control).2)) := by
  unfold exchangeInternal
  by_cases hcompleted : self.completed = true
  · exact .inl ⟨_, _, if_pos hcompleted⟩
  by_cases hterminal : self.stream.state.isTerminal = true
  · exact .inl ⟨_, _, by rw [if_neg hcompleted, if_pos hterminal]⟩
  rw [if_neg hcompleted, if_neg hterminal]
  rcases hserialize : serializeRequest request self.stream.grant.httpHost self.stream.grant.scheme self.limits
    secretHeaders with ⟨e | serialized, lease⟩
  · exact .inl ⟨e, lease, rfl⟩
  · exact .inr ⟨Bool.eq_false_iff.mpr hcompleted, Bool.eq_false_iff.mpr hterminal, serialized, lease, rfl, rfl⟩

end Http1Codec

end BoundSeal.Http1
