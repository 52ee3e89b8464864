import BoundSeal.Http1.Codec
import BoundSeal.Stream.Runs

/-!
# A request is sent once and in order

`write_all` over any backend: whatever lengths it reports, the prefixes that the
stream accepts follow one another in the bytes to be sent. The writes are a run of
the stream itself, over a backend that keeps the calls it received.
-/

namespace BoundSeal.Http1

open Rust Lib
open BoundSeal.Stream (BoundedByteStream ByteStreamBackend Recording StreamControl StreamEvent
  StreamOperationOutcome StreamWriteResult)

/-! ## One write -/

variable {B : Type}

/-- The prefix of the bytes of a write that its receipt counts. -/
def accepted (e : StreamEvent B) : Bytes :=
  match e.input, e.output with
  | .write bytes _, .write (.ok result) => bytes.take result.receipt.transferredBytes
  | _, _ => []

/-- What the stream accepted in a run. -/
def acceptedBytes (es : List (StreamEvent B)) : Bytes := (es.map accepted).flatten

def IsBackpressure (e : StreamEvent B) : Prop :=
  ∃ result, e.output = .write (.ok result) ∧ result.receipt.outcome = .backpressure

/-- A write hands all its bytes to the backend in one call, or hands over nothing
and the stream accepts nothing. -/
def HandsOver (control : StreamControl) (e : StreamEvent (Recording B)) : Prop :=
  ∃ bytes, e.input = .write bytes control ∧
    (e.post.backend.calls =
        e.pre.backend.calls ++ [.write bytes e.pre.limits.writeDeadlineMilliseconds] ∨
      e.post.backend.calls = e.pre.backend.calls ∧ accepted e = [])

/-- Settling an answer counts its bytes or none, and does not ask the backend. -/
theorem settle_transferred (stream : BoundedByteStream B) (direction : Stream.StreamDirection)
    (requested elapsed transferred : ℕ) (payloadSha256 : Option String)
    (outcome : StreamOperationOutcome) (nextState : Stream.StreamState) :
    let settled := stream.settle direction requested elapsed transferred payloadSha256 outcome nextState
    settled.2.2.backend = stream.backend ∧ (settled.2.1.transferredBytes = 0 ∨
      settled.2.1.outcome = outcome ∧ settled.2.1.transferredBytes = transferred) := by
  unfold BoundedByteStream.settle
  dsimp only
  split_ifs
  · exact ⟨rfl, .inl rfl⟩
  · exact ⟨rfl, .inl rfl⟩
  · exact ⟨rfl, .inl rfl⟩
  · exact ⟨by cases direction <;> rfl, .inr ⟨rfl, rfl⟩⟩

theorem classifyWrite_backpressure {status : Stream.BackendWriteStatus} {requested : ℕ}
    {state : Stream.StreamState}
    (h : (Stream.classifyWrite status requested state).2.1 = .backpressure) :
    (Stream.classifyWrite status requested state).1 = 0 := by
  cases status with
  | written accepted =>
    unfold Stream.classifyWrite at h
    dsimp only at h
    split_ifs at h
  | _ => rfl

variable [ByteStreamBackend B] {limits : Http1Limits} {control : StreamControl}

/-- A write that is pushed back moves no byte. -/
theorem transferred_of_backpressure {pre post : BoundedByteStream B} {bytes : Bytes}
    {result : StreamWriteResult} (h : pre.write bytes control = (.ok result, post))
    (houtcome : result.receipt.outcome = .backpressure) : result.receipt.transferredBytes = 0 := by
  unfold BoundedByteStream.write at h
  dsimp only at h
  split at h
  · cases h
  split at h
  · cases h
    rfl
  · cases h
    rcases (settle_transferred (B := B) _ _ _ _ _ _ _ _).2 with hzero | ⟨hsame, htransferred⟩
    · exact hzero
    · rw [htransferred]
      exact classifyWrite_backpressure (hsame.symm.trans houtcome)

/-- A write of a stream, as a call of a run. -/
def writeEvent (stream : BoundedByteStream B) (bytes : Bytes) (control : StreamControl) :
    StreamEvent B where
  pre := stream
  input := .write bytes control
  output := .write (stream.write bytes control).1
  post := (stream.write bytes control).2

theorem step_writeEvent (stream : BoundedByteStream B) (bytes : Bytes) (control : StreamControl) :
    stream.step (.write bytes control) =
      some (.write (stream.write bytes control).1, (stream.write bytes control).2) := rfl

theorem handsOver_writeEvent (stream : BoundedByteStream (Recording B)) (bytes : Bytes)
    (control : StreamControl) : HandsOver control (writeEvent stream bytes control) := by
  refine ⟨bytes, rfl, ?_⟩
  unfold writeEvent accepted BoundedByteStream.write
  dsimp only
  split
  · exact .inr ⟨rfl, rfl⟩
  split
  · exact .inr ⟨rfl, List.take_zero⟩
  · exact .inl (congrArg Recording.calls (settle_transferred (B := Recording B) _ _ _ _ _ _ _ _).1)

theorem accepted_writeEvent_isPrefix (stream : BoundedByteStream B) (bytes : Bytes)
    (control : StreamControl) : accepted (writeEvent stream bytes control) <+: bytes := by
  unfold accepted writeEvent
  dsimp only
  split
  · next heq _ =>
    cases heq
    exact List.take_prefix _ _
  · exact List.nil_prefix

/-! ## The writes of `write_all` -/

/-- The write that a round of `write_all` makes. -/
def roundWrite (limits : Http1Limits) (control : StreamControl) (state : WriteState B) :
    StreamEvent B :=
  writeEvent state.stream (state.rest.take limits.ioOperationBytes) control

/-- What is accepted in a round and what is left for the next one make up what was left. -/
theorem accepted_append {state next : WriteState B}
    (hbody : writeBody limits control state = .inl next) :
    accepted (roundWrite limits control state) ++ next.rest = state.rest := by
  obtain ⟨-, result, hwrite, ⟨-, -, hfits, hnext, -⟩ | ⟨houtcome, hnext, -⟩⟩ := writeBody_inl hbody
  · rw [List.length_take] at hfits
    simp only [roundWrite, writeEvent, accepted, hwrite]
    rw [hnext, List.take_take, Nat.min_eq_left (by omega), List.take_append_drop]
  · simp only [roundWrite, writeEvent, accepted, hwrite, transferred_of_backpressure hwrite houtcome]
    rw [List.take_zero, List.nil_append, hnext]

/-- The writes `es` of `write_all` from some variables on, to its result `a`. -/
structure Sent (limits : Http1Limits) (control : StreamControl) (state : WriteState (Recording B))
    (es : List (StreamEvent (Recording B)))
    (a : Except Http1Error Unit × BoundedByteStream (Recording B)) : Prop where
  run : Run BoundedByteStream.step state.stream es a.2
  handsOver : ∀ e ∈ es, HandsOver control e
  isPrefix : acceptedBytes es <+: state.rest
  whole : a.1 = .ok () → acceptedBytes es = state.rest
  leading : a.1 = .ok () → state.backpressureEvents ≤ limits.maximumBackpressureEvents →
    ∀ block, block <+: es → (∀ e ∈ block, IsBackpressure e) →
      state.backpressureEvents + block.length ≤ limits.maximumBackpressureEvents
  within : a.1 = .ok () → state.backpressureEvents ≤ limits.maximumBackpressureEvents →
    ∀ block, block <:+: es → (∀ e ∈ block, IsBackpressure e) →
      block.length ≤ limits.maximumBackpressureEvents

variable {state next : WriteState (Recording B)} {es : List (StreamEvent (Recording B))}
  {a : Except Http1Error Unit × BoundedByteStream (Recording B)}

/-- The last round writes nothing, or its write is the last and the result an error. -/
theorem sent_of_writeBody_inr (hbody : writeBody limits control state = .inr a) :
    ∃ es, Sent limits control state es a := by
  rcases writeBody_inr hbody with ⟨hrest, rfl⟩ | ⟨-, ⟨e, herror⟩, hstream⟩
  · refine ⟨[], .nil, fun e he => absurd he List.not_mem_nil, List.nil_prefix, fun _ => hrest.symm,
      fun _ hevents block hblock _ => ?_, fun _ _ block hblock _ => ?_⟩
    · rw [List.prefix_nil.mp hblock]
      exact hevents
    · rw [List.infix_nil.mp hblock]
      exact Nat.zero_le _
  · have hfailed : a.1 ≠ .ok () := by
      rw [herror]
      exact fun h => by cases h
    refine ⟨[roundWrite limits control state], ?_, ?_, ?_, fun h => absurd h hfailed,
      fun h => absurd h hfailed, fun h => absurd h hfailed⟩
    · rw [hstream]
      exact Run.snoc .nil (step_writeEvent _ _ _)
    · rw [List.forall_mem_singleton]
      exact handsOver_writeEvent _ _ _
    · rw [acceptedBytes, List.map_singleton, List.flatten_singleton]
      exact (accepted_writeEvent_isPrefix _ _ _).trans (List.take_prefix _ _)

/-- The count of a round that goes on is within its bound, and one more than before
if the round was pushed back. -/
theorem backpressureEvents_of_writeBody {state next : WriteState B}
    (hbody : writeBody limits control state = .inl next) (hvalid : limits.validate = .ok limits) :
    next.backpressureEvents ≤ limits.maximumBackpressureEvents ∧
      (IsBackpressure (roundWrite limits control state) →
        next.backpressureEvents = state.backpressureEvents + 1) := by
  obtain ⟨-, result, hwrite, hnext⟩ := writeBody_inl hbody
  rcases hnext with ⟨hwritten, -, -, -, hzero⟩ | ⟨-, -, hcount, hbudget⟩
  · refine ⟨by omega, fun ⟨result', hresult, houtcome⟩ => ?_⟩
    simp only [roundWrite, writeEvent, hwrite] at hresult
    cases hresult
    simp [houtcome] at hwritten
  · refine ⟨not_lt.mp hbudget, fun _ => ?_⟩
    have hcap := Http1Limits.backpressure_lt hvalid
    rw [hcount, saturatingAdd] at hbudget ⊢
    omega

/-- A round that goes on puts its write in front of the later ones. -/
theorem sent_of_writeBody (hvalid : limits.validate = .ok limits)
    (hbody : writeBody limits control state = .inl next) (hnext : Sent limits control next es a) :
    Sent limits control state (roundWrite limits control state :: es) a := by
  obtain ⟨-, result, hwrite, -⟩ := writeBody_inl hbody
  obtain ⟨hle, hcount⟩ := backpressureEvents_of_writeBody hbody hvalid
  have hleading : a.1 = .ok () → state.backpressureEvents ≤ limits.maximumBackpressureEvents →
      ∀ block, block <+: roundWrite limits control state :: es → (∀ e ∈ block, IsBackpressure e) →
        state.backpressureEvents + block.length ≤ limits.maximumBackpressureEvents := by
    intro hok hevents block hblock hpushed
    rcases List.prefix_cons_iff.mp hblock with rfl | ⟨tail, rfl, htail⟩
    · exact hevents
    · obtain ⟨hhead, hpushed⟩ := List.forall_mem_cons.mp hpushed
      have hrest := hnext.leading hok hle tail htail hpushed
      rw [hcount hhead] at hrest
      rw [List.length_cons]
      omega
  refine ⟨?_, ?_, ?_, fun hok => ?_, hleading, fun hok hevents block hblock hpushed => ?_⟩
  · refine Run.cons (step_writeEvent _ _ _) ?_
    rw [hwrite]
    exact hnext.run
  · exact List.forall_mem_cons.mpr ⟨handsOver_writeEvent _ _ _, hnext.handsOver⟩
  · rw [← accepted_append hbody]
    exact List.prefix_append_right_inj _ |>.mpr hnext.isPrefix
  · rw [← accepted_append hbody, ← hnext.whole hok]
    rfl
  · rcases List.infix_cons_iff.mp hblock with hprefix | hinfix
    · have hsum := hleading hok hevents block hprefix hpushed
      omega
    · exact hnext.within hok hle block hinfix hpushed

theorem exists_sent (codec : Http1Codec (Recording B)) (wire : Bytes) (control : StreamControl) :
    ∃ es, Sent codec.limits control ⟨wire, 0, codec.stream⟩ es (codec.writeAll wire control) := by
  refine (writeLoop codec.limits codec.validated control).exec_rule
    (fun state a => ∃ es, Sent codec.limits control state es a) ?_ ?_ ⟨wire, 0, codec.stream⟩
  · intro state a hbody
    exact sent_of_writeBody_inr hbody
  · rintro state next a hbody ⟨es, hnext⟩
    exact ⟨_, sent_of_writeBody codec.validated hbody hnext⟩

/-- **A request is sent once and in order**, over every backend. The writes of
`write_all` are a run of the stream in which each write is one call of the backend,
or none and nothing is accepted; what is accepted in them is a prefix of the
request, and all of it if `write_all` succeeds. -/
theorem sent_once (codec : Http1Codec (Recording B)) (wire : Bytes) (control : StreamControl) :
    ∃ es, Run BoundedByteStream.step codec.stream es (codec.writeAll wire control).2 ∧
      (∀ e ∈ es, HandsOver control e) ∧
      acceptedBytes es <+: wire ∧
      ((codec.writeAll wire control).1 = .ok () → acceptedBytes es = wire ∧
        ∀ block, block <:+: es → (∀ e ∈ block, IsBackpressure e) →
          block.length ≤ codec.limits.maximumBackpressureEvents) := by
  obtain ⟨es, hsent⟩ := exists_sent codec wire control
  exact ⟨es, hsent.run, hsent.handsOver, hsent.isPrefix,
    fun hok => ⟨hsent.whole hok, hsent.within hok (Nat.zero_le _)⟩⟩

end BoundSeal.Http1
