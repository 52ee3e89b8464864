import BoundSeal.Http1.Codec
import BoundSeal.Http1.Stability
import BoundSeal.Stream.Runs

/-!
# Reading in pieces

How the outcome of an exchange depends on the pieces in which the response
arrives.
-/

namespace BoundSeal.Http1

open Rust Lib
open BoundSeal.Stream (BoundedByteStream ByteStreamBackend StreamControl StreamOperationReceipt)

/-! ## Bytes the parser counts -/

section

variable {limits : Http1Limits} {eof : Bool}

theorem needMore_ne_some {α : Type} {reason : String} {a : α} : needMore eof reason ≠ .ok (some a) := by
  unfold needMore
  split_ifs <;> exact nofun

variable {body : ParsedBody}

theorem parseTrailers_consumed {rest decoded : Bytes} {cursor : ℕ}
    (h : parseTrailers limits eof rest cursor decoded = .ok (some body)) : body.consumed ≤ cursor + rest.length := by
  unfold parseTrailers at h
  by_cases hshort : rest.length < 2
  · rw [if_pos hshort] at h
    exact absurd h needMore_ne_some
  rw [if_neg hshort] at h
  by_cases hend : rest.take 2 = crlf
  · rw [if_pos hend] at h
    cases h
    show cursor + 2 ≤ _
    omega
  rw [if_neg hend] at h
  cases hfind : findDoubleCrlf rest with
  | none =>
    rw [hfind] at h
    split_ifs at h
    exact absurd h needMore_ne_some
  | some trailerEnd =>
    rw [hfind] at h
    simp only [do_eq_ok, Option.some.injEq] at h
    obtain ⟨-, -, trailers, -, rfl⟩ := h
    exact Nat.add_le_add_left (findDoubleCrlf_le hfind).2 cursor

theorem parseChunk_consumed {chunkSize : ℕ} {state next : ChunkState}
    (h : parseChunk limits eof chunkSize state = .inl next) :
    next.cursor + next.rest.length = state.cursor + state.rest.length := by
  unfold parseChunk at h
  dsimp only at h
  split_ifs at h with _ _ _ hlength _
  cases h
  show state.cursor + chunkSize + 2 + (state.rest.drop (chunkSize + 2)).length = _
  rw [List.length_drop]
  omega

theorem parseChunk_ne_some {chunkSize : ℕ} {state : ChunkState} :
    parseChunk limits eof chunkSize state ≠ .inr (.ok (some body)) := by
  intro h
  unfold parseChunk at h
  dsimp only at h
  split_ifs at h
  · cases h
  · cases h
  · cases h
  · exact absurd (Sum.inr.inj h) needMore_ne_some
  · cases h

variable {rest : Bytes}

theorem parseChunked_consumed
    (h : parseChunked rest eof limits = .ok (some body)) : body.consumed ≤ rest.length := by
  -- cursor and bytes left add up to the same in every round
  have hloop := (chunkLoop limits eof).exec_rule
    (fun state x => ∀ body, x = .ok (some body) → body.consumed ≤ state.cursor +
      state.rest.length) ?_ ?_ ⟨rest, 0, [], 0⟩
  · simpa using hloop body h
  · intro state x hbody body hx
    subst hx
    change chunkBody limits eof state = _ at hbody
    unfold chunkBody at hbody
    split at hbody
    · split_ifs at hbody
      · cases hbody
      · exact absurd (Sum.inr.inj hbody) needMore_ne_some
    · next lineEnd hline =>
      split at hbody
      · cases hbody
      · dsimp only at hbody
        split_ifs at hbody
        · have hconsumed := parseTrailers_consumed (Sum.inr.inj hbody)
          have hle := findCrlf_le hline
          rw [List.length_drop] at hconsumed
          omega
        · exact absurd hbody parseChunk_ne_some
  · intro state next x hbody hnext body hx
    have hle := hnext body hx
    change chunkBody limits eof state = _ at hbody
    unfold chunkBody at hbody
    split at hbody
    · split_ifs at hbody
    · next lineEnd hline =>
      split at hbody
      · cases hbody
      · dsimp only at hbody
        split_ifs at hbody
        have hsame := parseChunk_consumed hbody
        have hfound := findCrlf_le hline
        dsimp only at hsame
        rw [List.length_drop] at hsame
        omega

theorem parseBody_consumed {framing : Http1Framing}
    (h : parseBody framing rest eof limits = .ok (some body)) : body.consumed ≤ rest.length := by
  cases framing with
  | noBody =>
    cases h
    exact Nat.zero_le _
  | contentLength length =>
    unfold parseBody at h
    dsimp only at h
    split_ifs at h with hlimit hshort
    · exact absurd h needMore_ne_some
    · cases h
      exact not_lt.mp hshort
  | chunked => exact parseChunked_consumed h
  | connectionClose =>
    unfold parseBody at h
    split_ifs at h
    · cases h
      exact le_rfl
    · cases h

variable {parsed : ParsedResponse} {requestMethod : String}

theorem responseBody_complete {state : ResponseState}
    (h : responseBody requestMethod limits eof state = .inr (.ok (.complete parsed))) :
    ∃ relativeEnd head, findDoubleCrlf state.rest = some relativeEnd ∧
      parseHead (state.rest.take relativeEnd) limits = .ok head ∧ ¬ (100 ≤ head.statusCode ∧ head.statusCode < 200) ∧
      finishResponse requestMethod limits eof head (state.rest.drop relativeEnd)
        (state.offset + relativeEnd) state.interimResponses = .ok (.complete parsed) := by
  unfold responseBody at h
  split at h
  · split_ifs at h <;> cases h
  next relativeEnd hend =>
  split at h
  · cases h
  next head hhead =>
  split_ifs at h with hinterim
  · unfold skipInterim at h
    dsimp only at h
    split_ifs at h <;> cases h
  · exact ⟨relativeEnd, head, hend, hhead, hinterim, Sum.inr.inj h⟩

theorem finishResponse_complete {head : ParsedHead} {bodyStart interimResponses : ℕ}
    (h : finishResponse requestMethod limits eof head rest bodyStart interimResponses = .ok (.complete parsed)) :
    ∃ framing body, determineFraming requestMethod head = .ok framing ∧
      parseBody framing rest eof limits = .ok (some body) ∧
      parsed = ⟨⟨head.version, head.statusCode, head.reason, head.headers, body.trailers, body.body,
        framing, interimResponses⟩, bodyStart + body.consumed⟩ := by
  simp only [finishResponse, bind_eq_ok] at h
  obtain ⟨framing, hframing, body, hbody, hparsed⟩ := h
  cases body with
  | none => cases hparsed
  | some body => exact ⟨framing, body, hframing, hbody, (ParseProgress.complete.inj (Except.ok.inj hparsed)).symm⟩

/-- **The parser counts only bytes it was given.** -/
theorem consumed_le {b : Bytes}
    (h : parseResponse b eof requestMethod limits = .ok (.complete parsed)) : parsed.consumedWireBytes ≤ b.length := by
  have hloop := (responseLoop requestMethod limits eof).exec_rule
    (fun state x => ∀ parsed, x = .ok (.complete parsed) → parsed.consumedWireBytes ≤ state.offset + state.rest.length)
    ?_ ?_ ⟨b, 0, 0⟩
  · simpa using hloop parsed h
  · rintro state x hbody parsed rfl
    obtain ⟨relativeEnd, head, hend, -, -, hfinish⟩ := responseBody_complete hbody
    obtain ⟨framing, body, -, hparsed, rfl⟩ := finishResponse_complete hfinish
    have hconsumed := parseBody_consumed hparsed
    have hle := (findDoubleCrlf_le hend).2
    show state.offset + relativeEnd + body.consumed ≤ _
    rw [List.length_drop] at hconsumed
    omega
  · intro state next x hbody hnext parsed hx
    have hle := hnext parsed hx
    change responseBody requestMethod limits eof state = _ at hbody
    unfold responseBody at hbody
    split at hbody
    · split_ifs at hbody
    · next relativeEnd hend =>
      split at hbody
      · cases hbody
      · dsimp only at hbody
        split_ifs at hbody
        have hfound := (findDoubleCrlf_le hend).2
        unfold skipInterim at hbody
        dsimp only at hbody
        split_ifs at hbody
        cases hbody
        dsimp only at hle
        rw [List.length_drop] at hle
        omega

end

/-! ## Streams that bring pieces -/

/-- Read with the control again and again, the stream brings the pieces and then its end. -/
inductive Feeds {B : Type} [ByteStreamBackend B] (maximumBytes : ℕ) (control : StreamControl) :
    BoundedByteStream B → List Bytes → Prop
  | ends {stream post : BoundedByteStream B} {receipt : StreamOperationReceipt}
      (read : stream.read maximumBytes control = (.ok ⟨[], receipt⟩, post)) (outcome : receipt.outcome = .eof) :
      Feeds maximumBytes control stream []
  | brings {stream post : BoundedByteStream B} {receipt : StreamOperationReceipt} {piece : Bytes} {pieces : List Bytes}
      (read : stream.read maximumBytes control = (.ok ⟨piece, receipt⟩, post)) (outcome : receipt.outcome = .data)
      (nonempty : piece ≠ []) (rest : Feeds maximumBytes control post pieces) :
      Feeds maximumBytes control stream (piece :: pieces)

/-- What the verdict on the bytes so far makes of the reading; `none`: read on. -/
def verdictOf (wire : Bytes) (verdict : Except Http1Error ParseProgress) :
    Option (Except Http1Error (Http1Response × Bytes)) :=
  match verdict with
  | .error e => some (.error e)
  | .ok (.complete parsed) =>
    some (if parsed.consumedWireBytes ≠ wire.length then
      .error (.invalidResponse "bytes remained after the framed response") else .ok (parsed.response, wire))
  | .ok .incomplete => none

/-- `read_response` on a stream that brings the pieces. -/
def readPieces (limits : Http1Limits) (requestMethod : String) (wire : Bytes) :
    List Bytes → Except Http1Error (Http1Response × Bytes)
  | [] =>
    ((verdictOf wire (parseResponse wire false requestMethod limits)).or
      (verdictOf wire (parseResponse wire true requestMethod limits))).getD
      (.error (.truncatedResponse "stream reached EOF before response framing completed"))
  | piece :: pieces =>
    (verdictOf wire (parseResponse wire false requestMethod limits)).getD
      (if (wire ++ piece).length > limits.maximumResponseWireBytes then
        .error (.invalidResponse "response wire bytes exceed configured limit")
      else readPieces limits requestMethod (wire ++ piece) pieces)

variable {wire : Bytes} {pieces : List Bytes}

section

variable {B : Type} [ByteStreamBackend B] {limits : Http1Limits} {requestMethod : String} {control : StreamControl}

theorem readBody_of_verdict {state : ReadState B} {x : Except Http1Error (Http1Response × Bytes)}
    (h : verdictOf state.wire (parseResponse state.wire state.eof requestMethod limits) = some x) :
    readBody limits requestMethod control state = .inr (x, state.stream) := by
  unfold readBody
  cases hparse : parseResponse state.wire state.eof requestMethod limits with
  | error e =>
    rw [hparse] at h
    cases h
    rfl
  | ok progress =>
    rw [hparse] at h
    cases progress with
    | incomplete => cases h
    | complete parsed =>
      cases h
      dsimp only
      split_ifs <;> rfl

theorem incomplete_of_verdict {verdict : Except Http1Error ParseProgress}
    (h : verdictOf wire verdict = none) : verdict = .ok .incomplete := by
  unfold verdictOf at h
  split at h
  · cases h
  · cases h
  · rfl

/-- **Reading a stream that brings pieces.** -/
theorem readLoop_of_feeds (hvalid : limits.validate = .ok limits) {stream : BoundedByteStream B}
    (hfeeds : Feeds limits.ioOperationBytes control stream pieces)
    (hwire : wire.length ≤ limits.maximumResponseWireBytes) (backpressureEvents : ℕ) :
    ((readLoop limits hvalid requestMethod control).exec ⟨wire, false, backpressureEvents, stream⟩).1 =
      readPieces limits requestMethod wire pieces := by
  induction hfeeds generalizing wire backpressureEvents with
  | @ends stream post receipt hread houtcome =>
    unfold readPieces
    cases hverdict : verdictOf wire (parseResponse wire false requestMethod limits) with
    | some x =>
      rw [Loop.exec_of_inr _ (readBody_of_verdict hverdict)]
      rfl
    | none =>
      have hnext : readBody limits requestMethod control ⟨wire, false, backpressureEvents, stream⟩ =
          .inl ⟨wire, true, backpressureEvents, post⟩ := by
        simp only [readBody, incomplete_of_verdict hverdict, Bool.false_eq_true, if_false, hread,
          received, houtcome, checkWire]
        rw [if_neg (not_lt.mpr hwire)]
      rw [Loop.exec_of_inl _ hnext]
      -- the last round, after the end of the stream
      cases hlast : verdictOf wire (parseResponse wire true requestMethod limits) with
      | some x =>
        rw [Loop.exec_of_inr _ (readBody_of_verdict hlast)]
        rfl
      | none =>
        have htruncated : readBody limits requestMethod control ⟨wire, true, backpressureEvents, post⟩ =
            .inr (.error (.truncatedResponse "stream reached EOF before response framing completed"), post) := by
          simp only [readBody, incomplete_of_verdict hlast, if_true]
        rw [Loop.exec_of_inr _ htruncated]
        rfl
  | @brings stream post receipt piece pieces hread houtcome hnonempty _ ih =>
    unfold readPieces
    cases hverdict : verdictOf wire (parseResponse wire false requestMethod limits) with
    | some x =>
      rw [Loop.exec_of_inr _ (readBody_of_verdict hverdict)]
      rfl
    | none =>
      have hround : readBody limits requestMethod control ⟨wire, false, backpressureEvents,
          stream⟩ = checkWire limits ⟨wire ++ piece, false, 0, post⟩ := by
        simp only [readBody, incomplete_of_verdict hverdict, Bool.false_eq_true, if_false, hread,
          received, houtcome, hnonempty]
      unfold checkWire at hround
      rw [Option.getD_none]
      split_ifs at hround ⊢ with hlimit
      · rw [Loop.exec_of_inr _ hround]
      · rw [Loop.exec_of_inl _ hround]
        exact ih (not_lt.mp hlimit) 0

end

/-! ## Where reading succeeds -/

section

variable {limits : Http1Limits} {requestMethod : String}

def Frames (limits : Http1Limits) (requestMethod : String) (eof : Bool) (wire : Bytes)
    (response : Http1Response) : Prop :=
  parseResponse wire eof requestMethod limits = .ok (.complete ⟨response, wire.length⟩)

variable {response : Http1Response} {pieces : List Bytes}

theorem verdictOf_eq_ok {wire wire' : Bytes} {verdict : Except Http1Error ParseProgress} :
    verdictOf wire verdict = some (.ok (response, wire')) ↔
      wire' = wire ∧ verdict = .ok (.complete ⟨response, wire.length⟩) := by
  unfold verdictOf
  split
  · simp
  · next parsed =>
    obtain ⟨parsedResponse, consumed⟩ := parsed
    rw [Option.some.injEq]
    by_cases hconsumed : consumed = wire.length
    · simp only [hconsumed, ne_eq, not_true_eq_false, if_false, Except.ok.injEq, Prod.mk.injEq,
        ParseProgress.complete.injEq, ParsedResponse.mk.injEq, and_true]
      exact ⟨fun h => ⟨h.2.symm, h.1⟩, fun h => ⟨h.2, h.1.symm⟩⟩
    · simp [hconsumed]
  · simp

theorem Frames.stands {wire e : Bytes} (h : Frames limits requestMethod false wire response) (eof : Bool) :
    parseResponse (wire ++ e) eof requestMethod limits = .ok (.complete ⟨response, wire.length⟩) := by
  rcases @parseResponse_agrees limits e eof requestMethod wire with hincomplete | hsame | ⟨_, _, herr, -⟩
  · rw [h] at hincomplete
    cases hincomplete
  · rw [← hsame, h]
  · rw [h] at herr
    cases herr

theorem incomplete_of_frames {wire e : Bytes} {eof : Bool} (he : e ≠ [])
    (h : Frames limits requestMethod eof (wire ++ e) response) :
    parseResponse wire false requestMethod limits = .ok .incomplete := by
  rcases @parseResponse_agrees limits e eof requestMethod wire with hincomplete | hsame | ⟨_, _, -, herr⟩
  · exact hincomplete
  · -- the verdict would count bytes that have not arrived
    rw [h] at hsame
    have hle := consumed_le hsame
    have hpos := List.length_pos_iff.mpr he
    dsimp only at hle
    rw [List.length_append] at hle
    omega
  · rw [h] at herr
    cases herr

/-- **Reading succeeds** at a boundary where the bytes so far are one response, or at
the end of the stream. -/
theorem readPieces_eq_ok {wire wire' : Bytes} (hpieces : ∀ piece ∈ pieces, piece ≠ [])
    (hwire : wire.length ≤ limits.maximumResponseWireBytes) :
    readPieces limits requestMethod wire pieces = .ok (response, wire') ↔
      ∃ taken rest eof, pieces = taken ++ rest ∧ wire' = wire ++ taken.flatten ∧ (eof = true → rest = []) ∧
        wire'.length ≤ limits.maximumResponseWireBytes ∧ Frames limits requestMethod eof wire' response := by
  induction pieces generalizing wire with
  | nil =>
    unfold readPieces
    constructor
    · intro h
      cases hverdict : verdictOf wire (parseResponse wire false requestMethod limits) with
      | some x =>
        rw [hverdict] at h
        obtain rfl : x = .ok (response, wire') := h
        obtain ⟨rfl, hframes⟩ := verdictOf_eq_ok.mp hverdict
        exact ⟨[], [], false, rfl, by simp, fun _ => rfl, hwire, hframes⟩
      | none =>
        rw [hverdict, Option.none_or] at h
        cases hlast : verdictOf wire (parseResponse wire true requestMethod limits) with
        | some x =>
          rw [hlast] at h
          obtain rfl : x = .ok (response, wire') := h
          obtain ⟨rfl, hframes⟩ := verdictOf_eq_ok.mp hlast
          exact ⟨[], [], true, rfl, by simp, fun _ => rfl, hwire, hframes⟩
        | none =>
          rw [hlast] at h
          cases h
    · rintro ⟨taken, rest, eof, hsplit, rfl, -, -, hframes⟩
      obtain ⟨rfl, rfl⟩ := List.append_eq_nil_iff.mp hsplit.symm
      simp only [List.flatten_nil, List.append_nil] at hframes ⊢
      cases eof with
      | false => rw [verdictOf_eq_ok.mpr ⟨rfl, hframes⟩, Option.some_or, Option.getD_some]
      | true =>
        rcases @parseResponse_agrees limits [] true requestMethod wire with hincomplete | hsame | ⟨_, _, -, herr⟩
        · rw [hincomplete]
          show ((none : Option _).or _).getD _ = _
          rw [Option.none_or, verdictOf_eq_ok.mpr ⟨rfl, hframes⟩, Option.getD_some]
        · rw [List.append_nil] at hsame
          rw [hsame, verdictOf_eq_ok.mpr ⟨rfl, hframes⟩, Option.some_or, Option.getD_some]
        · rw [List.append_nil, hframes] at herr
          cases herr
  | cons piece pieces ih =>
    have hpiece : piece ≠ [] := hpieces piece List.mem_cons_self
    have hrest : ∀ p ∈ pieces, p ≠ [] := fun p hp => hpieces p (List.mem_cons_of_mem _ hp)
    unfold readPieces
    constructor
    · intro h
      cases hverdict : verdictOf wire (parseResponse wire false requestMethod limits) with
      | some x =>
        rw [hverdict] at h
        obtain rfl : x = .ok (response, wire') := h
        obtain ⟨rfl, hframes⟩ := verdictOf_eq_ok.mp hverdict
        exact ⟨[], piece :: pieces, false, rfl, by simp, nofun, hwire, hframes⟩
      | none =>
        rw [hverdict, Option.getD_none] at h
        split_ifs at h with hlimit
        obtain ⟨taken, rest, eof, rfl, rfl, heof, hlength, hframes⟩ := (ih hrest (not_lt.mp hlimit)).mp h
        exact ⟨piece :: taken, rest, eof, rfl, by simp, heof, hlength, hframes⟩
    · rintro ⟨taken, rest, eof, hsplit, rfl, heof, hlength, hframes⟩
      cases taken with
      | nil =>
        have hfalse : eof = false := by
          cases eof with
          | false => rfl
          | true =>
            rw [List.nil_append, heof rfl] at hsplit
            cases hsplit
        subst hfalse
        simp only [List.flatten_nil, List.append_nil] at hframes ⊢
        rw [verdictOf_eq_ok.mpr ⟨rfl, hframes⟩, Option.getD_some]
      | cons first taken =>
        obtain ⟨rfl, rfl⟩ := List.cons_eq_cons.mp hsplit
        rw [List.flatten_cons] at hframes hlength ⊢
        have hlong : (wire ++ piece).length ≤ limits.maximumResponseWireBytes := by
          simp only [List.length_append] at hlength ⊢
          omega
        have hne : piece ++ taken.flatten ≠ [] := fun h => hpiece (List.append_eq_nil_iff.mp h).1
        rw [incomplete_of_frames hne hframes]
        show (none : Option _).getD _ = _
        rw [Option.getD_none, if_neg (not_lt.mpr hlong)]
        exact (ih hrest hlong).mpr ⟨taken, rest, eof, rfl, by simp, heof, hlength, hframes⟩

/-- A boundary before the last is the end of a response. -/
def StopsEarly (limits : Http1Limits) (requestMethod : String) (pieces : List Bytes) : Prop :=
  ∃ taken rest response, pieces = taken ++ rest ∧ rest ≠ [] ∧
    taken.flatten.length ≤ limits.maximumResponseWireBytes ∧
    Frames limits requestMethod false taken.flatten response

def HasTrailing (limits : Http1Limits) (requestMethod : String) (s : Bytes) : Prop :=
  ∃ wire e response, s = wire ++ e ∧ e ≠ [] ∧ Frames limits requestMethod false wire response

variable (hpieces : ∀ piece ∈ pieces, piece ≠ [])

include hpieces

theorem flatten_ne_nil (hne : pieces ≠ []) : pieces.flatten ≠ [] := by
  obtain ⟨piece, rest, rfl⟩ := List.exists_cons_of_ne_nil hne
  intro h
  exact hpieces piece List.mem_cons_self (List.append_eq_nil_iff.mp h).1

theorem readPieces_of_not_stopsEarly (hearly : ¬ StopsEarly limits requestMethod pieces) :
    readPieces limits requestMethod [] pieces = .ok (response, wire) ↔
      wire = pieces.flatten ∧ wire.length ≤ limits.maximumResponseWireBytes ∧
        Frames limits requestMethod true wire response := by
  rw [readPieces_eq_ok hpieces (Nat.zero_le _)]
  simp only [List.nil_append]
  constructor
  · rintro ⟨taken, rest, eof, rfl, rfl, heof, hlength, hframes⟩
    cases eof with
    | false =>
      have hrest : rest = [] := by
        by_contra hne
        exact hearly ⟨taken, rest, response, rfl, hne, hlength, hframes⟩
      subst hrest
      refine ⟨by rw [List.append_nil], hlength, ?_⟩
      have hstands := hframes.stands (e := []) true
      rwa [List.append_nil] at hstands
    | true =>
      rw [heof rfl, List.append_nil]
      exact ⟨rfl, hlength, hframes⟩
  · rintro ⟨rfl, hlength, hframes⟩
    exact ⟨pieces, [], true, by rw [List.append_nil], rfl, fun _ => rfl, hlength, hframes⟩

theorem StopsEarly.accepts (h : StopsEarly limits requestMethod pieces) :
    HasTrailing limits requestMethod pieces.flatten ∧
      (readPieces limits requestMethod [] pieces).toOption.map (·.1) ≠ none := by
  obtain ⟨taken, rest, response, rfl, hne, hlength, hframes⟩ := h
  constructor
  · refine ⟨taken.flatten, rest.flatten, response, List.flatten_append, ?_, hframes⟩
    exact flatten_ne_nil (fun piece hpiece => hpieces piece (List.mem_append_right _ hpiece)) hne
  · rw [(readPieces_eq_ok hpieces (Nat.zero_le _)).mpr ⟨taken, rest, false, rfl, rfl, nofun, hlength, hframes⟩]
    exact nofun

theorem HasTrailing.refused
    (htrailing : HasTrailing limits requestMethod pieces.flatten) (hearly : ¬ StopsEarly limits requestMethod pieces) :
    (readPieces limits requestMethod [] pieces).toOption.map (·.1) = none := by
  cases hread : readPieces limits requestMethod [] pieces with
  | error e => rfl
  | ok x =>
    obtain ⟨response, wire⟩ := x
    obtain ⟨rfl, -, hframes⟩ := (readPieces_of_not_stopsEarly hpieces hearly).mp hread
    obtain ⟨start, e, response', hsplit, he, hstart⟩ := htrailing
    -- the response ends before the last byte, and at it
    have hstands := hstart.stands (e := e) true
    rw [← hsplit, hframes] at hstands
    have hlength : pieces.flatten.length = start.length := by
      simp only [Except.ok.injEq, ParseProgress.complete.injEq, ParsedResponse.mk.injEq] at hstands
      exact hstands.2
    rw [hsplit, List.length_append] at hlength
    have hpos := List.length_pos_iff.mpr he
    omega

end

/-! ## Exchanges -/

section

variable {B : Type} [ByteStreamBackend B]

def Serializes (codec : Http1Codec B) (request : Http1Request) : Prop :=
  ∃ serialized lease, serializeRequest request codec.stream.grant.httpHost codec.stream.grant.scheme codec.limits none =
    (.ok serialized, lease)

/-- The request is written when it can be serialised, and the stream then brings the
pieces and its end. -/
def Fed (codec : Http1Codec B) (request : Http1Request) (control : StreamControl) (pieces : List Bytes) : Prop :=
  ∀ serialized lease,
    serializeRequest request codec.stream.grant.httpHost codec.stream.grant.scheme codec.limits none =
      (.ok serialized, lease) →
    ∃ stream, codec.writeAll serialized.wire control = (.ok (), stream) ∧
      Feeds codec.limits.ioOperationBytes control stream pieces

def responseOf (result : Except Http1Error Http1Exchange) : Option Http1Response := result.toOption.map (·.response)

variable {stream : BoundedByteStream B} {control : StreamControl}

theorem Feeds.nonempty {maximumBytes : ℕ}
    (h : Feeds maximumBytes control stream pieces) : ∀ piece ∈ pieces, piece ≠ [] := by
  induction h with
  | ends => exact fun _ h => absurd h List.not_mem_nil
  | brings _ _ hne _ ih =>
    intro piece hmem
    rcases List.mem_cons.mp hmem with rfl | hrest
    · exact hne
    · exact ih piece hrest

theorem not_terminal_of_writeAll {codec : Http1Codec B}
    (hwire : wire ≠ []) (h : codec.writeAll wire control = (.ok (), stream)) :
    codec.stream.state.isTerminal = false := by
  by_contra hterminal
  cases hensure : codec.stream.ensureOperation .write (wire.take codec.limits.ioOperationBytes).length with
  | error e =>
    rw [Http1Codec.writeAll_of_refused hwire hensure] at h
    cases h
  | ok u =>
    exact absurd (BoundedByteStream.not_terminal_of_ensureOpen
      (BoundedByteStream.ensureOpen_of_ensureOperation hensure)) hterminal

/-- **An exchange over a stream that brings pieces** is the reading of the pieces. -/
theorem responseOf_exchange {limits : Http1Limits} {codec : Http1Codec B}
    (hnew : Http1Codec.new stream limits = .ok codec) {request : Http1Request}
    (hfed : Fed codec request control pieces) :
    (¬ Serializes codec request ∧ responseOf (codec.exchange request control).1 = none) ∨
      (Serializes codec request ∧ (∀ piece ∈ pieces, piece ≠ []) ∧
        responseOf (codec.exchange request control).1 =
          (readPieces limits request.method [] pieces).toOption.map (·.1)) := by
  obtain ⟨rfl, rfl, hcompleted, haudit⟩ := Http1Codec.new_eq_ok hnew
  rcases hserialize : serializeRequest request codec.stream.grant.httpHost
      codec.stream.grant.scheme codec.limits none with
    ⟨e | serialized, lease⟩
  · refine .inl ⟨?_, ?_⟩
    · rintro ⟨serialized, lease', hok⟩
      rw [hserialize] at hok
      cases hok
    · simp only [Http1Codec.exchange, Http1Codec.exchangeInternal, hcompleted, hserialize]
      by_cases hterminal : codec.stream.state.isTerminal = true <;>
        simp [hterminal, responseOf, Except.toOption]
  · obtain ⟨written, hwrite, hfeeds⟩ := hfed serialized lease hserialize
    obtain ⟨_, _, _, hfinish⟩ := serializeRequest_finished hserialize
    have hopen := not_terminal_of_writeAll (wire_ne_nil hfinish) hwrite
    refine .inr ⟨⟨serialized, lease, hserialize⟩, hfeeds.nonempty, ?_⟩
    have hread : ((readLoop codec.limits codec.validated request.method control).exec ⟨[], false, 0, written⟩).1 =
        readPieces codec.limits request.method [] pieces := readLoop_of_feeds codec.validated hfeeds (Nat.zero_le _) 0
    have hwritten := codec.continues_writeAll serialized.wire control
    rw [hwrite] at hwritten
    have hloop : written.Continues
        ((readLoop codec.limits codec.validated request.method control).exec ⟨[], false, 0, written⟩).2 :=
      continues_readLoop codec.validated request.method ⟨[], false, 0, written⟩
    rw [Http1Codec.exchange_of_serialize hcompleted hopen hserialize]
    simp only [Http1Codec.transact, hwrite, Http1Codec.readResponse]
    rcases hresult : (readLoop codec.limits codec.validated request.method control).exec ⟨[], false, 0, written⟩ with
      ⟨e | ⟨response, wire⟩, after⟩
    · rw [hresult] at hread
      rw [← hread]
      rfl
    · rw [hresult] at hread hloop
      rw [← hread]
      have hverify : after.audit.verify = .ok () := hloop.audit (hwritten.audit haudit)
      have hend : ({ codec with stream := after } : Http1Codec B).stream.audit.verify = .ok () := hverify
      obtain ⟨exchange, next, hconclude, hresponse⟩ :=
        Http1Codec.conclude_eq_ok hend request serialized response wire codec.stream.audit.tailHash
      dsimp only
      rw [hconclude, ← hresponse]
      rfl

variable {B' : Type} [ByteStreamBackend B']

/-- **Pieces do not matter exactly when no boundary is the end of a response.** Two
codecs for the same grant and limits send a request, and their streams bring the same
bytes in pieces and then end. Both exchanges succeed with the same response or both
fail, and both fail when bytes follow the framed response, if and only if the request
cannot be sent or neither stream has a boundary before the last at which the bytes so
far are one response. -/
theorem exchange_segmentation {stream : BoundedByteStream B} {stream' : BoundedByteStream B'} {limits : Http1Limits}
    {codec : Http1Codec B} {codec' : Http1Codec B'} (hnew : Http1Codec.new stream limits = .ok codec)
    (hnew' : Http1Codec.new stream' limits = .ok codec') (hgrant : stream'.grant = stream.grant)
    {request : Http1Request} {control : StreamControl} {pieces pieces' : List Bytes}
    (hfed : Fed codec request control pieces) (hfed' : Fed codec' request control pieces')
    (hsame : pieces'.flatten = pieces.flatten) :
    (responseOf (codec.exchange request control).1 = responseOf (codec'.exchange request control).1 ∧
      (HasTrailing limits request.method pieces.flatten →
        responseOf (codec.exchange request control).1 = none ∧
          responseOf (codec'.exchange request control).1 = none)) ↔
    (Serializes codec request →
      ¬ StopsEarly limits request.method pieces ∧ ¬ StopsEarly limits request.method pieces') := by
  have hserializes : Serializes codec' request ↔ Serializes codec request := by
    obtain ⟨rfl, rfl, -, -⟩ := Http1Codec.new_eq_ok hnew
    obtain ⟨rfl, hlimits, -, -⟩ := Http1Codec.new_eq_ok hnew'
    rw [Serializes, Serializes, hgrant, hlimits]
  rcases responseOf_exchange hnew hfed with ⟨hnot, hnone⟩ | ⟨hserial, hpieces, hread⟩
  · rcases responseOf_exchange hnew' hfed' with ⟨-, hnone'⟩ | ⟨hserial', -, -⟩
    · rw [hnone, hnone']
      exact ⟨fun _ h => absurd h hnot, fun _ => ⟨rfl, fun _ => ⟨rfl, rfl⟩⟩⟩
    · exact absurd (hserializes.mp hserial') hnot
  rcases responseOf_exchange hnew' hfed' with ⟨hnot', -⟩ | ⟨-, hpieces', hread'⟩
  · exact absurd (hserializes.mpr hserial) hnot'
  rw [hread, hread']
  constructor
  · rintro ⟨-, htrailing⟩ -
    constructor
    · intro hearly
      obtain ⟨htrail, haccepted⟩ := hearly.accepts hpieces
      exact haccepted (htrailing htrail).1
    · intro hearly
      obtain ⟨htrail, haccepted⟩ := hearly.accepts hpieces'
      exact haccepted (htrailing (hsame ▸ htrail)).2
  · intro hearly
    obtain ⟨hleft, hright⟩ := hearly hserial
    have hiff : ∀ response wire, readPieces limits request.method [] pieces = .ok (response, wire) ↔
        readPieces limits request.method [] pieces' = .ok (response, wire) := by
      intro response wire
      rw [readPieces_of_not_stopsEarly hpieces hleft, readPieces_of_not_stopsEarly hpieces' hright, hsame]
    constructor
    · cases hx : readPieces limits request.method [] pieces with
      | ok x => rw [(hiff x.1 x.2).mp hx]
      | error e =>
        cases hy : readPieces limits request.method [] pieces' with
        | ok y =>
          rw [(hiff y.1 y.2).mpr hy] at hx
          cases hx
        | error e' => rfl
    · intro htrailing
      exact ⟨htrailing.refused hpieces hleft, (hsame ▸ htrailing : HasTrailing _ _ _).refused hpieces' hright⟩

end

/-! ## Two ways to cut a response -/

def testRequest : Http1Request := .new "GET" "/"

theorem validate_conservativeDefault : Http1Limits.conservativeDefault.validate = .ok .conservativeDefault := by
  decide +kernel

/-- A stream of the test permit that brings the pieces at once. -/
def testStream (receipt : Execution.ExecutionReceipt) (anchor : String)
    (chain : Stream.StreamAuditChain) (pieces : List Bytes) : BoundedByteStream Stream.Scripted :=
  .fresh (Stream.streamGrant Stream.testPermit receipt anchor) .conservativeDefault
    ⟨pieces.map fun piece => ⟨0, .data piece⟩, []⟩ chain

def testCodec (audit : Http1AuditChain) (stream : BoundedByteStream Stream.Scripted) : Http1Codec Stream.Scripted :=
  ⟨stream, .conservativeDefault, validate_conservativeDefault, audit, 1, false⟩

theorem exists_testCodec : ∃ receipt anchor chain audit, ∀ pieces,
    Http1Codec.new (testStream receipt anchor chain pieces) .conservativeDefault =
      .ok (testCodec audit (testStream receipt anchor chain pieces)) := by
  obtain ⟨receipt, _, anchor, chain, hopen⟩ := Stream.exists_open Stream.validate_conservativeDefault
  obtain ⟨hverify, htail⟩ := BoundedByteStream.audit_of_open (hopen _ (⟨[], []⟩ : Stream.Scripted))
  refine ⟨receipt, anchor, chain,
    { HashChain.start chain.tailHash with genesisHash := chain.tailHash }, fun pieces => ?_⟩
  have hhash : ¬ ¬ isLowerHexSha256 (testStream receipt anchor chain pieces).audit.tailHash = true := not_not.mpr htail
  unfold Http1Codec.new
  split
  · next e herror =>
    cases herror
  · simp only [do_eq_ok]
    refine ⟨?_, _, ?_, rfl⟩
    · rw [show (testStream receipt anchor chain pieces).audit.verify = .ok () from hverify]
      rfl
    · rw [Http1AuditChain.new, failIf, if_neg hhash]
      rfl

def wholeResponse : Bytes := bytes "HTTP/1.1 204 No Content\r\n\r\n"

/-- A response cut inside its head, and at once. -/
theorem exchange_segmentation_cut :
    ∃ (stream stream' : BoundedByteStream Stream.Scripted) (codec codec' : Http1Codec Stream.Scripted),
      Http1Codec.new stream .conservativeDefault = .ok codec ∧
      Http1Codec.new stream' .conservativeDefault = .ok codec' ∧
      Fed codec testRequest {} [wholeResponse.take 20, wholeResponse.drop 20] ∧
      Fed codec' testRequest {} [wholeResponse] ∧
      ((responseOf (codec.exchange testRequest {}).1 = responseOf (codec'.exchange testRequest {}).1 ∧
        (HasTrailing .conservativeDefault "GET" [wholeResponse.take 20, wholeResponse.drop 20].flatten →
          responseOf (codec.exchange testRequest {}).1 = none ∧
            responseOf (codec'.exchange testRequest {}).1 = none)) ↔
        (Serializes codec testRequest →
          ¬ StopsEarly .conservativeDefault "GET" [wholeResponse.take 20, wholeResponse.drop 20] ∧
            ¬ StopsEarly .conservativeDefault "GET" [wholeResponse])) := by
  obtain ⟨receipt, anchor, chain, audit, hnew⟩ := exists_testCodec
  have hfed : Fed (testCodec audit (testStream receipt anchor chain [wholeResponse.take 20, wholeResponse.drop 20]))
      testRequest {} [wholeResponse.take 20, wholeResponse.drop 20] := by
    intro serialized lease hserialize
    cases hserialize
    exact ⟨_, rfl, .brings rfl rfl (by decide +kernel) (.brings rfl rfl (by decide +kernel) (.ends rfl rfl))⟩
  have hfed' : Fed (testCodec audit (testStream receipt anchor chain [wholeResponse])) testRequest
    {} [wholeResponse] := by
    intro serialized lease hserialize
    cases hserialize
    exact ⟨_, rfl, .brings rfl rfl (by decide +kernel) (.ends rfl rfl)⟩
  have hnew' := hnew [wholeResponse]
  specialize hnew [wholeResponse.take 20, wholeResponse.drop 20]
  exact ⟨_, _, _, _, hnew, hnew', hfed, hfed', exchange_segmentation hnew hnew' rfl hfed hfed' (by decide +kernel)⟩

/-- **The pieces matter**: the same bytes succeed when a boundary is the end of the
response, and fail when they come at once. -/
theorem trailing_byte_accepted :
    ∃ (stream stream' : BoundedByteStream Stream.Scripted) (codec codec' : Http1Codec Stream.Scripted),
      Http1Codec.new stream .conservativeDefault = .ok codec ∧
      Http1Codec.new stream' .conservativeDefault = .ok codec' ∧ stream'.grant = stream.grant ∧
      Fed codec testRequest {} [wholeResponse, bytes "x"] ∧ Fed codec' testRequest {} [wholeResponse ++ bytes "x"] ∧
      HasTrailing .conservativeDefault "GET" (wholeResponse ++ bytes "x") ∧
      (responseOf (codec.exchange testRequest {}).1).isSome = true ∧
      responseOf (codec'.exchange testRequest {}).1 = none := by
  obtain ⟨receipt, anchor, chain, audit, hnew⟩ := exists_testCodec
  have hfed : Fed (testCodec audit (testStream receipt anchor chain [wholeResponse, bytes "x"])) testRequest {}
      [wholeResponse, bytes "x"] := by
    intro serialized lease hserialize
    cases hserialize
    exact ⟨_, rfl, .brings rfl rfl (by decide +kernel) (.brings rfl rfl (by decide +kernel) (.ends rfl rfl))⟩
  have hfed' : Fed (testCodec audit (testStream receipt anchor chain [wholeResponse ++ bytes "x"])) testRequest {}
      [wholeResponse ++ bytes "x"] := by
    intro serialized lease hserialize
    cases hserialize
    exact ⟨_, rfl, .brings rfl rfl (by decide +kernel) (.ends rfl rfl)⟩
  have hnew' := hnew [wholeResponse ++ bytes "x"]
  specialize hnew [wholeResponse, bytes "x"]
  refine ⟨_, _, _, _, hnew, hnew', rfl, hfed, hfed', ?_, ?_, ?_⟩
  · refine ⟨wholeResponse, bytes "x", ⟨.http11, 204, bytes "No Content", [], [], [], .noBody, 0⟩, rfl,
      by decide +kernel, ?_⟩
    show parseResponse wholeResponse false "GET" .conservativeDefault = _
    decide +kernel
  · rcases responseOf_exchange hnew hfed with ⟨hnot, -⟩ | ⟨-, -, hread⟩
    · exact absurd ⟨_, _, rfl⟩ hnot
    · rw [hread]
      decide +kernel
  · rcases responseOf_exchange hnew' hfed' with ⟨hnot, -⟩ | ⟨-, -, hread⟩
    · exact absurd ⟨_, _, rfl⟩ hnot
    · rw [hread]
      decide +kernel

end BoundSeal.Http1
