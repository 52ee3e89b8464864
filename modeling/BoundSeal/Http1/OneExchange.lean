import BoundSeal.Http1.Segmentation
import BoundSeal.Lib.Run

/-!
# One exchange for a codec

A codec marks itself completed at the end of an exchange that succeeds. An exchange
that fails marks nothing, and what stops a second one then is the stream, if it is
no longer writable.
-/

namespace BoundSeal.Http1

open Rust Lib
open BoundSeal.Stream (BoundedByteStream ByteStreamBackend StreamControl StreamOperationOutcome StreamState)
open BoundSeal.Vault (SecretHeaderLease)

/-! ## Calls -/

inductive CodecCall where
  | exchange (request : Http1Request) (control : StreamControl)
  | exchangeWithSecretHeaders (request : Http1Request) (secretHeaders : SecretHeaderLease)
      (nowEpochSeconds : ℤ) (control : StreamControl)

namespace CodecCall

def request : CodecCall → Http1Request
  | .exchange request _ | .exchangeWithSecretHeaders request _ _ _ => request

def secretHeaders : CodecCall → Option (SecretHeaderLease × ℤ)
  | .exchange _ _ => none
  | .exchangeWithSecretHeaders _ secretHeaders nowEpochSeconds _ => some (secretHeaders, nowEpochSeconds)

def control : CodecCall → StreamControl
  | .exchange _ control | .exchangeWithSecretHeaders _ _ _ control => control

end CodecCall

namespace Http1Codec

variable {B : Type} [ByteStreamBackend B]

def step (self : Http1Codec B) : CodecCall → Option (Except Http1Error Http1Exchange × Http1Codec B)
  | .exchange request control => some (self.exchange request control)
  | .exchangeWithSecretHeaders request secretHeaders nowEpochSeconds control =>
    let (result, _, next) := self.exchangeWithSecretHeaders request secretHeaders nowEpochSeconds control
    some (result, next)

end Http1Codec

abbrev CodecEvent (B : Type) := Event (Http1Codec B) CodecCall (Except Http1Error Http1Exchange)

/-- The call wrote at least one byte. -/
def Writes {B : Type} (e : CodecEvent B) : Prop := e.pre.stream.writtenBytes < e.post.stream.writtenBytes

/-- The stream takes bytes. -/
def Writable {B : Type} (codec : Http1Codec B) : Prop := codec.stream.ensureOpen .write = .ok ()

/-- The request serialises, and its first piece is not too long for the stream. -/
def Sendable {B : Type} (codec : Http1Codec B) (call : CodecCall) : Prop :=
  ∃ serialized lease, serializeRequest call.request codec.stream.grant.httpHost
      codec.stream.grant.scheme codec.limits call.secretHeaders = (.ok serialized, lease) ∧
    (serialized.wire.take codec.limits.ioOperationBytes).length ≤ codec.stream.limits.maximumOperationBytes

/-- Why a codec does not start an exchange, read off the codec and the call. -/
def Blocked {B : Type} (codec : Http1Codec B) (call : CodecCall) : Prop :=
  codec.completed = true ∨ ¬ Writable codec ∨ ¬ Sendable codec call

theorem first_ne_nil {B : Type} (codec : Http1Codec B) {wire : Bytes} (h : wire ≠ []) :
    (wire.take codec.limits.ioOperationBytes).length ≠ 0 := by
  have hvalid := codec.validated
  simp only [Http1Limits.validate, validateNonzeroCap, do_eq_ok] at hvalid
  obtain ⟨-, -, -, -, -, -, -, -, -, -, -, -, hbytes, -⟩ := hvalid
  have hlength := List.length_pos_iff.mpr h
  rw [List.length_take]
  omega

section

variable {B : Type} [ByteStreamBackend B] {pre post : Http1Codec B} {call : CodecCall}
  {reply : Except Http1Error Http1Exchange}

theorem exchangeInternal_of_step (h : pre.step call = some (reply, post)) :
    ∃ lease, pre.exchangeInternal call.request call.secretHeaders call.control = (reply, lease, post) := by
  cases call <;>
  · cases h
    exact ⟨_, rfl⟩

/-! ## A codec that starts no exchange -/

/-- **A blocked call is refused and changes nothing.** -/
theorem refused_of_blocked (h : Blocked pre call) (hstep : pre.step call = some (reply, post)) :
    (∃ e, reply = .error e) ∧ post = pre := by
  obtain ⟨lease, hinternal⟩ := exchangeInternal_of_step hstep
  rcases pre.exchangeInternal_cases call.request call.secretHeaders call.control with
    ⟨e, lease', hrefused⟩ | ⟨hfresh, -, serialized, lease', hserialize, htransact⟩
  · rw [hrefused] at hinternal
    cases hinternal
    exact ⟨⟨e, rfl⟩, rfl⟩
  · -- the request serialises, so it is the stream that does not take the first piece
    obtain ⟨_, _, _, hfinish⟩ := serializeRequest_finished hserialize
    cases hensure : pre.stream.ensureOperation .write
        (serialized.wire.take pre.limits.ioOperationBytes).length with
    | error e =>
      rw [htransact] at hinternal
      simp only [Http1Codec.transact,
        Http1Codec.writeAll_of_refused (wire_ne_nil hfinish) hensure] at hinternal
      cases hinternal
      exact ⟨⟨_, rfl⟩, rfl⟩
    | ok u =>
      rcases h with hcompleted | hclosed | hunsendable
      · rw [hcompleted] at hfresh
        cases hfresh
      · exact absurd (BoundedByteStream.ensureOpen_of_ensureOperation hensure) hclosed
      · simp only [BoundedByteStream.ensureOperation, do_eq_ok] at hensure
        exact absurd ⟨serialized, lease', hserialize, by omega⟩ hunsendable

theorem conclude_stream (codec : Http1Codec B) (request : Http1Request) (serialized : SerializedRequest)
    (response : Http1Response) (responseWire : Bytes) (streamAuditBefore : String) :
    (codec.conclude request serialized response responseWire streamAuditBefore).2.stream = codec.shut.2.stream := by
  unfold Http1Codec.conclude
  rcases codec.shut with ⟨e | ⟨⟩, next⟩
  · rfl
  · dsimp only
    split <;> rfl

theorem continues_shut (codec : Http1Codec B) : codec.stream.Continues codec.shut.2.stream := by
  unfold Http1Codec.shut
  split_ifs
  · exact .refl _
  · have hclosed : codec.stream.Continues codec.stream.close.2 := BoundedByteStream.continues_close
    rcases hclose : codec.stream.close with ⟨_ | _, stream⟩ <;>
    · rw [hclose] at hclosed
      exact hclosed

/-- What follows the writing keeps the records of the stream. -/
theorem continues_transact (codec : Http1Codec B) (request : Http1Request) (serialized : SerializedRequest)
    (control : StreamControl) : (codec.writeAll serialized.wire control).2.Continues
      (codec.transact request serialized control).2.stream := by
  rcases codec.transact_cases request serialized control with ⟨e, stream, hwrite, heq⟩ |
    ⟨stream, hwrite, hread⟩
  · rw [hwrite, heq]
    exact .refl _
  · have hloop : stream.Continues
        (({ codec with stream } : Http1Codec B).readResponse request.method control).2 :=
      continues_readLoop codec.validated _ ⟨[], false, 0, stream⟩
    rcases hread with ⟨e, after, hread, heq⟩ | ⟨response, wire, after, hread, heq⟩
    · rw [hread] at hloop
      rw [hwrite, heq]
      exact hloop
    · rw [hread] at hloop
      rw [hwrite, heq, conclude_stream]
      exact hloop.trans (continues_shut { codec with stream := after })

/-- **A call that is not blocked changes its codec**: the stream records a write. -/
theorem changed_of_not_blocked (h : ¬ Blocked pre call)
    (hstep : pre.step call = some (reply, post)) : post ≠ pre := by
  simp only [Blocked, not_or, not_not] at h
  obtain ⟨hfresh, hopen, serialized, lease, hserialize, hlength⟩ := h
  obtain ⟨_, _, _, hfinish⟩ := serializeRequest_finished hserialize
  have hwire := wire_ne_nil hfinish
  have hfirst : pre.stream.ensureOperation .write
      (serialized.wire.take pre.limits.ioOperationBytes).length = .ok () := by
    simp only [BoundedByteStream.ensureOperation, do_eq_ok]
    refine ⟨?_, hopen⟩
    have hpos := first_ne_nil pre hwire
    omega
  have hterminal := BoundedByteStream.not_terminal_of_ensureOpen hopen
  obtain ⟨lease', hinternal⟩ := exchangeInternal_of_step hstep
  rw [Http1Codec.exchangeInternal, if_neg hfresh, if_neg (by rw [hterminal]; decide), hserialize] at hinternal
  have hpost : post = (pre.transact call.request serialized call.control).2 := by
    cases hinternal
    rfl
  have hlt := (Http1Codec.records_lt_of_writeAll call.control hwire hfirst).trans_le
    (continues_transact pre call.request serialized call.control).records
  rw [← hpost] at hlt
  intro hsame
  rw [hsame] at hlt
  exact lt_irrefl _ hlt

/-- The blocked calls are those that are refused and change nothing. -/
theorem blocked_iff (hstep : pre.step call = some (reply, post)) :
    Blocked pre call ↔ (∃ e, reply = .error e) ∧ post = pre := by
  constructor
  · intro h
    exact refused_of_blocked h hstep
  · rintro ⟨-, hsame⟩
    by_contra h
    exact changed_of_not_blocked h hstep hsame

/-! ## What completes a codec -/

/-- An exchange that succeeds completes its codec. -/
theorem completed_of_ok {exchange : Http1Exchange}
    (hstep : pre.step call = some (.ok exchange, post)) : post.completed = true := by
  obtain ⟨lease, h⟩ := exchangeInternal_of_step hstep
  rcases pre.exchangeInternal_cases call.request call.secretHeaders call.control with
    ⟨e, lease', hrefused⟩ | ⟨-, -, serialized, lease', -, htransact⟩
  · rw [hrefused] at h
    cases h
  rw [htransact] at h
  simp only [Prod.mk.injEq] at h
  obtain ⟨hresult, -, rfl⟩ := h
  rcases pre.transact_cases call.request serialized call.control with ⟨e, stream, -, heq⟩ |
    ⟨stream, -, ⟨e, after, -, heq⟩ | ⟨response, wire, after, -, heq⟩⟩
  · rw [heq] at hresult
    cases hresult
  · rw [heq] at hresult
    cases hresult
  · rw [heq] at hresult ⊢
    exact Http1Codec.completed_of_conclude (Prod.ext hresult rfl)

/-! ## Whole runs -/

variable {start now : Http1Codec B} {es : List (CodecEvent B)}

theorem completed_of_run (h : start.completed = true) (hrun : Run Http1Codec.step start es now) :
    now.completed = true ∧ ∀ f ∈ es, f.pre.completed = true := by
  refine hrun.invariant (fun es now => now.completed = true ∧ ∀ f ∈ es, f.pre.completed = true)
    ⟨h, fun _ h => absurd h List.not_mem_nil⟩ ?_
  rintro es pre call reply post - ⟨hpre, hes⟩ hstep
  obtain ⟨-, rfl⟩ := refused_of_blocked (.inl hpre) hstep
  exact ⟨hpre, List.forall_mem_append.mpr ⟨hes, List.forall_mem_singleton.mpr hpre⟩⟩

/-- **One exchange on the wire**: in every run, the calls after one that wrote are all
refused, write nothing and change nothing exactly if each of them finds a codec that
is completed, a stream that is not writable, or a request that cannot be sent. After
an exchange that succeeded the codec is completed. -/
theorem one_exchange (hrun : Run Http1Codec.step start es now) :
    ((∀ before e after, es = before ++ e :: after → Writes e → ∀ f ∈ after,
        (∃ error, f.output = .error error) ∧ ¬ Writes f ∧ f.post = f.pre) ↔
      ∀ before e after, es = before ++ e :: after → Writes e → ∀ f ∈ after, Blocked f.pre f.input) ∧
    ∀ before e after exchange, es = before ++ e :: after → e.output = .ok exchange →
      ∀ f ∈ after, f.pre.completed = true := by
  have hcall : ∀ f ∈ es, Blocked f.pre f.input ↔ (∃ error, f.output = .error error) ∧ f.post = f.pre :=
    fun f hf => by
      obtain ⟨k, hk⟩ := List.mem_iff_getElem?.mp hf
      exact blocked_iff (hrun.step_of_getElem? hk)
  have hmem : ∀ {before e after f}, es = before ++ e :: after → f ∈ after → f ∈ es := by
    rintro before e after f rfl hf
    exact List.mem_append_right _ (List.mem_cons_of_mem _ hf)
  refine ⟨⟨fun h before e after hes hwrites f hf => ?_, fun h before e after hes hwrites f hf => ?_⟩, ?_⟩
  · obtain ⟨herror, -, hsame⟩ := h before e after hes hwrites f hf
    exact (hcall f (hmem hes hf)).mpr ⟨herror, hsame⟩
  · obtain ⟨herror, hsame⟩ := (hcall f (hmem hes hf)).mp (h before e after hes hwrites f hf)
    refine ⟨herror, ?_, hsame⟩
    rw [Writes, hsame]
    exact lt_irrefl _
  · rintro before e after exchange rfl houtput
    obtain ⟨-, hstep, hrest⟩ := hrun.split
    rw [houtput] at hstep
    exact (completed_of_run (completed_of_ok hstep) hrest).2

end

/-! ## Two requests on one wire -/

def notAResponse : Bytes := bytes "X\r\n\r\n"

section

variable {B : Type} [ByteStreamBackend B]

theorem transact_stream {codec : Http1Codec B} {request : Http1Request}
    {serialized : SerializedRequest} {control : StreamControl} {stream : BoundedByteStream B}
    (hwrite : codec.writeAll serialized.wire control = (.ok (), stream))
    (hread : (({ codec with stream } : Http1Codec B).readResponse request.method control).1.isOk = true) :
    (codec.transact request serialized control).2.stream =
      ({ codec with stream := (({ codec with stream } : Http1Codec B).readResponse request.method control).2 } :
        Http1Codec B).shut.2.stream := by
  unfold Http1Codec.transact
  rw [hwrite]
  dsimp only
  rcases hresult : ({ codec with stream } : Http1Codec B).readResponse request.method control with ⟨e | answer, after⟩
  · rw [hresult] at hread
    cases hread
  · exact conclude_stream _ _ _ _ _ _

end

/-- After a call of a run of two comes the second one, or nothing. -/
theorem eq_of_mem_after {B : Type} {e f e' g : CodecEvent B} {before after : List (CodecEvent B)}
    (h : [e, f] = before ++ e' :: after) (hg : g ∈ after) : g = f := by
  cases before with
  | nil =>
    cases h
    exact List.mem_singleton.mp hg
  | cons b before =>
    have hlength := congrArg List.length h
    have hpos := List.length_pos_of_mem hg
    simp only [List.length_append, List.length_cons, List.length_nil] at hlength
    omega

/-- A second call after a response finds the stream closed: it is refused. -/
theorem one_exchange_answered :
    ∃ (stream : BoundedByteStream Stream.Scripted) (start now : Http1Codec Stream.Scripted)
      (e f : CodecEvent Stream.Scripted), Http1Codec.new stream .conservativeDefault = .ok start ∧
      Run Http1Codec.step start [e, f] now ∧ Writes e ∧ ¬ Writable f.pre ∧
      (∃ error, f.output = .error error) ∧ ¬ Writes f ∧ f.post = f.pre := by
  obtain ⟨receipt, anchor, chain, audit, hnew⟩ := exists_testCodec
  specialize hnew [wholeResponse]
  generalize hcodec : testCodec audit (testStream receipt anchor chain [wholeResponse]) = codec at hnew
  let next := (codec.exchange testRequest {}).2
  obtain ⟨hbefore, hafter, hclosed⟩ : codec.stream.writtenBytes = 0 ∧
      next.stream.writtenBytes = 79 ∧ next.stream.state = .closed := by
    subst hcodec
    simp only [next]
    rw [Http1Codec.exchange_of_serialize rfl rfl rfl, transact_stream rfl (by with_unfolding_all rfl)]
    exact ⟨rfl, by with_unfolding_all rfl, by with_unfolding_all rfl⟩
  let e : CodecEvent Stream.Scripted :=
    ⟨codec, .exchange testRequest {}, (codec.exchange testRequest {}).1, next⟩
  let f : CodecEvent Stream.Scripted :=
    ⟨next, .exchange testRequest {}, (next.exchange testRequest {}).1, (next.exchange testRequest {}).2⟩
  have hrun : Run Http1Codec.step codec ([] ++ [e] ++ [f]) f.post := .snoc (.snoc .nil rfl) rfl
  have hwrites : Writes e := by
    change codec.stream.writtenBytes < next.stream.writtenBytes
    omega
  have hunwritable : ¬ Writable next := by
    simp only [Writable, BoundedByteStream.ensureOpen, hclosed]
    decide
  obtain ⟨herror, hquiet, hsame⟩ := (one_exchange hrun).1.mpr (fun before e' after hes _ g hg => by
    rw [eq_of_mem_after hes hg]
    exact .inr (.inl hunwritable)) [] e [f] rfl hwrites f (List.mem_singleton_self _)
  exact ⟨_, codec, _, e, f, hnew, hrun, hwrites, hunwritable, herror, hquiet, hsame⟩

/-- **A codec can write two requests**: after a response that could not be parsed the
second exchange writes again. -/
theorem written_twice :
    ∃ (stream : BoundedByteStream Stream.Scripted) (start now : Http1Codec Stream.Scripted)
      (e f : CodecEvent Stream.Scripted), Http1Codec.new stream .conservativeDefault = .ok start ∧
      Run Http1Codec.step start [e, f] now ∧ Writes e ∧ Writes f := by
  obtain ⟨receipt, anchor, chain, audit, hnew⟩ := exists_testCodec
  specialize hnew [notAResponse]
  generalize hcodec : testCodec audit (testStream receipt anchor chain [notAResponse]) = codec at hnew
  let next := (codec.exchange testRequest {}).2
  have hnext : ∃ audit, next = { codec with stream := { codec.stream with
      backend := ⟨[], []⟩, readBytes := 5, writtenBytes := 79, operationCount := 3, audit } } := by
    subst hcodec
    exact ⟨_, rfl⟩
  have hwritten : codec.stream.writtenBytes = 0 ∧ next.stream.writtenBytes = 79 ∧
      (next.exchange testRequest {}).2.stream.writtenBytes = 158 := by
    subst hcodec
    obtain ⟨audit', hnext⟩ := hnext
    rw [hnext]
    exact ⟨rfl, rfl, rfl⟩
  have hrun : Run Http1Codec.step codec
      ([] ++ [⟨codec, .exchange testRequest {}, (codec.exchange testRequest {}).1, next⟩] ++
        [⟨next, .exchange testRequest {}, (next.exchange testRequest {}).1, (next.exchange testRequest {}).2⟩]) _ :=
    .snoc (.snoc .nil rfl) rfl
  refine ⟨_, codec, _, _, _, hnew, hrun, ?_, ?_⟩
  · show codec.stream.writtenBytes < next.stream.writtenBytes
    omega
  · show next.stream.writtenBytes < (next.exchange testRequest {}).2.stream.writtenBytes
    omega

end BoundSeal.Http1
