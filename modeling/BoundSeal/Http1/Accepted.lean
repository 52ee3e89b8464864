import BoundSeal.Http1.Segmentation

/-!
# Accepted responses are well formed

What `parse_response` returns, on any bytes and however it got there, has passed the
checks that are spread over the parser: `WellFormed` collects them. The chunk loop keeps
the decoded bytes within the body limit, and the loop over interim responses their number.
-/

namespace BoundSeal.Http1

open Rust Lib

/-- A field within the limits, with a token as its name and no control byte in its value. -/
structure FieldOk (limits : Http1Limits) (header : Http1Header) : Prop where
  name : ∃ name : Bytes, header.name = asciiLower name ∧ name ≠ [] ∧
    name.length ≤ limits.maximumHeaderNameBytes ∧ name.all isTokenByte = true
  value : header.value.length ≤ limits.maximumHeaderValueBytes
  printable : hasControlBytes header.value = false

/-- A body within the limits, and trailers that are no framing fields. -/
structure BodyOk (limits : Http1Limits) (body : Bytes) (trailers : List Http1Header) : Prop where
  size : body.length ≤ limits.maximumResponseBodyBytes
  count : trailers.length ≤ limits.maximumTrailerCount
  trailers : ∀ trailer ∈ trailers, FieldOk limits trailer ∧ isProhibitedTrailer trailer.name = false

structure WellFormed (limits : Http1Limits) (response : Http1Response) : Prop where
  /-- The final response, not an interim one. -/
  status : 200 ≤ response.statusCode ∧ response.statusCode ≤ 999
  count : response.headers.length ≤ limits.maximumHeaderCount
  headers : ∀ header ∈ response.headers, FieldOk limits header
  body : BodyOk limits response.body response.trailers
  interim : response.interimResponses ≤ limits.maximumInterimResponses

variable {limits : Http1Limits} {eof trailers : Bool} {headers : List Http1Header} {body : ParsedBody} {rest : Bytes}

/-- What one field has passed. -/
theorem fieldOk_of_parseHeaderLine {line : Bytes} {header : Http1Header}
    (h : parseHeaderLine limits trailers line = .ok header) :
    FieldOk limits header ∧ (trailers = true → isProhibitedTrailer header.name = false) := by
  simp only [parseHeaderLine, validateFieldValue, do_eq_ok, not_lt] at h
  obtain ⟨hline, -, colon, hcolon, hpos, hname, htoken, htrailer, hvalue, hprintable, rfl⟩ := h
  have hne : line.take colon ≠ [] := by simp [hline, hpos]
  exact ⟨⟨⟨_, rfl, hne, hname, by simpa using htoken⟩, hvalue, by simpa using hprintable⟩, by simpa using htrailer⟩

theorem length_of_mapM {α β : Type} {f : α → Except Http1Error β} {l : List α} {l' : List β}
    (h : l.mapM f = .ok l') : l'.length = l.length := by
  induction l generalizing l' with
  | nil =>
    rw [List.mapM_nil, pure_eq_ok] at h
    simp [← h]
  | cons a l ih =>
    rw [List.mapM_cons] at h
    simp only [do_eq_ok] at h
    obtain ⟨b, -, bs, hbs, rfl⟩ := h
    rw [List.length_cons, List.length_cons, ih hbs]

theorem fieldsOk_of_parseHeaderLines {lines : List Bytes} (h : parseHeaderLines lines limits trailers = .ok headers) :
    headers.length ≤ (if trailers then limits.maximumTrailerCount else limits.maximumHeaderCount) ∧
      ∀ header ∈ headers, FieldOk limits header ∧ (trailers = true → isProhibitedTrailer header.name = false) := by
  simp only [parseHeaderLines, do_eq_ok, not_lt] at h
  obtain ⟨hcount, hlines⟩ := h
  refine ⟨length_of_mapM hlines ▸ hcount, fun header hheader => ?_⟩
  obtain ⟨line, -, hline⟩ := (mem_mapM hlines).mp hheader
  exact fieldOk_of_parseHeaderLine hline

theorem parseHead_ok {block : Bytes} {head : ParsedHead} (h : parseHead block limits = .ok head) :
    head.statusCode ≤ 999 ∧ 100 ≤ head.statusCode ∧ head.headers.length ≤ limits.maximumHeaderCount ∧
      ∀ header ∈ head.headers, FieldOk limits header := by
  simp only [parseHead, do_eq_ok] at h
  obtain ⟨-, -, h⟩ := h
  split at h
  · cases h
  next statusLine headerLines _ =>
  simp only [do_eq_ok] at h
  obtain ⟨⟨version, statusCode, reason⟩, hstatus, headers, hheaders, rfl⟩ := h
  obtain ⟨hcount, hfields⟩ := fieldsOk_of_parseHeaderLines hheaders
  have hrange : 100 ≤ statusCode ∧ statusCode ≤ 999 := by
    simp only [parseStatusLine, do_eq_ok] at hstatus
    obtain ⟨-, _, -, _, -, hstatus⟩ := hstatus
    split at hstatus
    · simp only [do_eq_ok, not_not, Prod.mk.injEq] at hstatus
      obtain ⟨-, -, hrange, -, -, rfl, -⟩ := hstatus
      exact hrange
    · cases hstatus
  exact ⟨hrange.2, hrange.1, hcount, fun header hheader => (hfields header hheader).1⟩

theorem parseTrailers_ok {cursor : ℕ} {decoded : Bytes} (hdecoded : decoded.length ≤ limits.maximumResponseBodyBytes)
    (h : parseTrailers limits eof rest cursor decoded = .ok (some body)) : BodyOk limits body.body body.trailers := by
  unfold parseTrailers at h
  by_cases hshort : rest.length < 2
  · rw [if_pos hshort] at h
    exact absurd h needMore_ne_some
  rw [if_neg hshort] at h
  by_cases hend : rest.take 2 = crlf
  · rw [if_pos hend] at h
    cases h
    exact ⟨hdecoded, Nat.zero_le _, by simp⟩
  · rw [if_neg hend] at h
    split at h
    · split_ifs at h
      exact absurd h needMore_ne_some
    · simp only [do_eq_ok, Option.some.injEq] at h
      obtain ⟨-, -, trailers, htrailers, rfl⟩ := h
      obtain ⟨hcount, hfields⟩ := fieldsOk_of_parseHeaderLines htrailers
      exact ⟨hdecoded, hcount, fun trailer hmem => ⟨(hfields trailer hmem).1, (hfields trailer hmem).2 rfl⟩⟩

variable (hvalid : limits.validate = .ok limits)

include hvalid

/-- A chunk that is taken leaves the decoded bytes within the limit: the sum does not saturate. -/
theorem decoded_of_parseChunk {chunkSize : ℕ} {state next : ChunkState}
    (h : parseChunk limits eof chunkSize state = .inl next) :
    next.decoded.length ≤ limits.maximumResponseBodyBytes := by
  simp only [Http1Limits.validate, validateNonzeroCap, do_eq_ok] at hvalid
  obtain ⟨-, -, -, -, -, -, hbody, -⟩ := hvalid
  have hcap : maxHttpBodyBytes < u64Max := by decide
  unfold parseChunk at h
  dsimp only at h
  split_ifs at h with _ _ hlimit hlength _
  cases h
  rw [saturatingAdd] at hlimit
  rw [List.length_append, List.length_take]
  omega

theorem parseChunked_ok (h : parseChunked rest eof limits = .ok (some body)) :
    BodyOk limits body.body body.trailers := by
  refine (chunkLoop limits eof).exec_rule (fun state x => state.decoded.length ≤ limits.maximumResponseBodyBytes →
    x = .ok (some body) → BodyOk limits body.body body.trailers) ?_ ?_ ⟨rest, 0, [], 0⟩ (Nat.zero_le _) h
  · rintro state x hround hdecoded rfl
    change chunkBody limits eof state = _ at hround
    unfold chunkBody at hround
    split at hround
    · split_ifs at hround
      · cases hround
      · exact absurd (Sum.inr.inj hround) needMore_ne_some
    · split at hround
      · cases hround
      · dsimp only at hround
        split_ifs at hround
        · exact parseTrailers_ok hdecoded (Sum.inr.inj hround)
        · exact absurd hround parseChunk_ne_some
  · intro state next x hround hnext _
    change chunkBody limits eof state = _ at hround
    unfold chunkBody at hround
    split at hround
    · split_ifs at hround
    · split at hround
      · cases hround
      · dsimp only at hround
        split_ifs at hround
        exact hnext (decoded_of_parseChunk hvalid hround)

theorem parseBody_ok {framing : Http1Framing} (h : parseBody framing rest eof limits = .ok (some body)) :
    BodyOk limits body.body body.trailers := by
  have hplain : ∀ {bytes : Bytes}, bytes.length ≤ limits.maximumResponseBodyBytes → BodyOk limits bytes [] :=
    fun hsize => ⟨hsize, Nat.zero_le _, by simp⟩
  cases framing with
  | noBody =>
    cases h
    exact hplain (Nat.zero_le _)
  | contentLength length =>
    unfold parseBody at h
    dsimp only at h
    split_ifs at h with hlimit hshort
    · exact absurd h needMore_ne_some
    · cases h
      exact hplain ((List.length_take_le _ _).trans (not_lt.mp hlimit))
  | chunked => exact parseChunked_ok hvalid h
  | connectionClose =>
    unfold parseBody at h
    split_ifs at h with _ hlimit
    · cases h
      exact hplain (not_lt.mp hlimit)
    · cases h

/-- **What is accepted is well formed**: whatever the bytes, the method and whether the stream has
ended, a response that the parser returns under valid limits is a final one, its fields are tokens
and printable values, and its headers, trailers, body and interim responses are within the limits.
-/
theorem wellFormed_of_complete {b : Bytes} {requestMethod : String} {parsed : ParsedResponse}
    (h : parseResponse b eof requestMethod limits = .ok (.complete parsed)) : WellFormed limits parsed.response := by
  refine (responseLoop requestMethod limits eof).exec_rule (fun state x =>
    state.interimResponses ≤ limits.maximumInterimResponses → x = .ok (.complete parsed) →
      WellFormed limits parsed.response) ?_ ?_ ⟨b, 0, 0⟩ (Nat.zero_le _) h
  · rintro state x hround hinterim rfl
    obtain ⟨_, head, -, hhead, hfinal, hfinish⟩ := responseBody_complete hround
    obtain ⟨framing, body, -, hbody, rfl⟩ := finishResponse_complete hfinish
    obtain ⟨hmax, hmin, hcount, hheaders⟩ := parseHead_ok hhead
    exact ⟨⟨by show 200 ≤ head.statusCode; omega, hmax⟩, hcount, hheaders, parseBody_ok hvalid hbody, hinterim⟩
  · intro state next x hround hnext _
    change responseBody requestMethod limits eof state = _ at hround
    unfold responseBody at hround
    split at hround
    · split_ifs at hround
    · split at hround
      · cases hround
      · dsimp only at hround
        split_ifs at hround
        unfold skipInterim at hround
        dsimp only at hround
        split_ifs at hround with _ hinterim _
        cases hround
        exact hnext (not_lt.mp hinterim)

omit hvalid

/-- A response in one chunk, with a trailer. -/
def chunkedWire : Bytes :=
  bytes "HTTP/1.1 200 OK\r\nTransfer-Encoding: chunked\r\n\r\n2\r\nhi\r\n0\r\nX-Sum: 1\r\n\r\n"

def chunkedResponse : ParsedResponse where
  response := ⟨.http11, 200, bytes "OK", [⟨"transfer-encoding", bytes "chunked"⟩],
    [⟨"x-sum", bytes "1"⟩], bytes "hi", .chunked, 0⟩
  consumedWireBytes := 69

theorem wellFormed_of_complete_chunked :
    parseResponse chunkedWire false "GET" .conservativeDefault = .ok (.complete chunkedResponse) ∧
      WellFormed .conservativeDefault chunkedResponse.response := by
  have hparsed : parseResponse chunkedWire false "GET" .conservativeDefault = .ok (.complete chunkedResponse) := by
    decide +kernel
  exact ⟨hparsed, wellFormed_of_complete validate_conservativeDefault hparsed⟩

end BoundSeal.Http1
