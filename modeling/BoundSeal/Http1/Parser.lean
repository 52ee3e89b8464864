import BoundSeal.Http1.Model
import BoundSeal.Lib.Loop
import BoundSeal.Lib.Search

/-!
# Parsing a response (`nxb-http1`, `parser.rs`)

`parse_response` is run from the start on a buffer that grows with every read. It
reads header blocks up to the first that is not an interim response, decides how
the body is framed, and reads the body. On a buffer that ends too early it answers
`Incomplete`, or with a truncation once the stream has ended.

The two loops of the source carry an offset into the buffer; here they carry the
bytes from the offset on as well. Slices never leave the buffer, so the checks of
the source against overflowing offsets have no counterpart.
-/

namespace BoundSeal.Http1

open Rust Lib

/-! ## Bytes and lines -/

def crlf : Bytes := [0x0d, 0x0a]

def doubleCrlf : Bytes := [0x0d, 0x0a, 0x0d, 0x0a]

def byteChar (b : UInt8) : Char := Char.ofNat b.toNat

/-- `is_token_byte`. -/
def isTokenByte (b : UInt8) : Bool := isTokenChar (byteChar b)

def isDigitByte (b : UInt8) : Bool := 0x30 ≤ b && b ≤ 0x39

/-- `u8::is_ascii_hexdigit`. -/
def isHexdigitByte (b : UInt8) : Bool := isDigitByte b || (0x41 ≤ b && b ≤ 0x46) || (0x61 ≤ b && b ≤ 0x66)

def hexdigitValue (b : UInt8) : ℕ :=
  if isDigitByte b then b.toNat - 0x30 else if b ≤ 0x46 then b.toNat - 0x41 + 10 else b.toNat - 0x61 + 10

/-- `find_double_crlf`: the end of the first empty line. -/
def findDoubleCrlf (bytes : Bytes) : Option ℕ := (firstOccurrence doubleCrlf bytes).map (· + 4)

/-- `find_crlf`. -/
def findCrlf (bytes : Bytes) : Option ℕ := firstOccurrence crlf bytes

theorem findCrlf_le {bytes : Bytes} {index : ℕ} (h : findCrlf bytes = some index) : index + 2 ≤ bytes.length :=
  firstOccurrence_eq_some h

theorem findDoubleCrlf_le {bytes : Bytes} {index : ℕ} (h : findDoubleCrlf bytes = some index) :
    4 ≤ index ∧ index ≤ bytes.length := by
  obtain ⟨start, hstart, rfl⟩ := Option.map_eq_some_iff.mp h
  have hle := firstOccurrence_eq_some hstart
  simp only [doubleCrlf, List.length_cons, List.length_nil] at hle
  omega

/-- `validate_crlf_block`, with the byte before. -/
def validateCrlfBlock (previous : Option UInt8) : Bytes → Except Http1Error Unit
  | [] => .ok ()
  | byte :: rest => do
    failIf (byte = 0x0a ∧ previous ≠ some 0x0d) (.invalidResponse "bare LF is prohibited")
    failIf (byte = 0x0d ∧ rest.head? ≠ some 0x0a) (.invalidResponse "bare CR is prohibited")
    validateCrlfBlock (some byte) rest

/-- The loop of `split_crlf`: the lines so far and the bytes left. -/
def splitLoop : Loop (List Bytes × Bytes) (List Bytes) where
  body := fun (output, bytes) =>
    match findCrlf bytes with
    | some index => .inl (output ++ [bytes.take index], bytes.drop (index + 2))
    | none => .inr (output ++ [bytes])
  measure s := s.2.length
  decreasing := by
    rintro ⟨output, bytes⟩ s' h
    dsimp only at h
    split at h
    · next index hindex =>
      cases h
      have hle := findCrlf_le hindex
      show (bytes.drop (index + 2)).length < bytes.length
      rw [List.length_drop]
      omega
    · cases h

/-- `split_crlf`. -/
def splitCrlf (bytes : Bytes) : List Bytes := splitLoop.exec ([], bytes)

def isOws (b : UInt8) : Bool := b == 0x20 || b == 0x09

/-- `trim_ows`. -/
def trimOws (value : Bytes) : Bytes := (value.dropWhile isOws).rdropWhile isOws

def hasControlBytes (value : Bytes) : Bool := value.any fun b => (b < 0x20 && b != 0x09) || b == 0x7f

/-- `validate_field_value`. -/
def validateFieldValue (value : Bytes) : Except Http1Error Unit :=
  failIf (hasControlBytes value) (.invalidResponse "header value contains prohibited control bytes")

/-- `ascii_lower`. -/
def asciiLower (value : Bytes) : String := String.ofList (value.map fun b => (byteChar b).toLower)

/-- `is_prohibited_trailer`. -/
def isProhibitedTrailer (name : String) : Bool :=
  ["content-length", "transfer-encoding", "host", "connection", "trailer", "upgrade", "proxy-connection"].contains name

/-! ## Heads -/

/-- `validate_reason_phrase`. -/
def validateReasonPhrase (value : Bytes) : Except Http1Error Unit :=
  failIf (hasControlBytes value) (.invalidResponse "reason phrase contains prohibited control bytes")

def parseVersion (version : Bytes) : Except Http1Error Http1Version :=
  if version = bytes "HTTP/1.0" then .ok .http10
  else if version = bytes "HTTP/1.1" then .ok .http11
  else .error (.invalidResponse "unsupported or malformed HTTP version")

/-- `parse_status_line`. -/
def parseStatusLine (line : Bytes) : Except Http1Error (Http1Version × ℕ × Bytes) := do
  failIf (line.contains 0x09) (.invalidResponse "status line contains horizontal tab")
  let firstSpace ← okOr (line.idxOf? 0x20) (.invalidResponse "status line is missing status code")
  let version ← parseVersion (line.take firstSpace)
  match line.drop (firstSpace + 1) with
  | a :: b :: c :: rest => do
    failIf (¬ [a, b, c].all isDigitByte) (.invalidResponse "status code must contain exactly three digits")
    failIf (rest ≠ [] ∧ rest.head? ≠ some 0x20) (.invalidResponse "status code must be followed by a single space")
    let statusCode := (a.toNat - 0x30) * 100 + (b.toNat - 0x30) * 10 + (c.toNat - 0x30)
    failIf (¬ (100 ≤ statusCode ∧ statusCode ≤ 999)) (.invalidResponse "status code is outside the supported range")
    let reason := rest.drop 1
    validateReasonPhrase reason
    pure (version, statusCode, reason)
  | _ => .error (.invalidResponse "status code must contain exactly three digits")

/-- One line of `parse_header_lines`. -/
def parseHeaderLine (limits : Http1Limits) (trailers : Bool) (line : Bytes) : Except Http1Error Http1Header := do
  failIf (line = []) (.invalidResponse "unexpected empty header line")
  failIf (line.head?.any isOws) (.invalidResponse "obsolete folded headers are prohibited")
  let colon ← okOr (line.idxOf? 0x3a) (.invalidResponse "header is missing colon")
  failIf (colon = 0) (.invalidResponse "header name is empty")
  let name := line.take colon
  failIf (name.length > limits.maximumHeaderNameBytes) (.invalidResponse "header name exceeds configured limit")
  failIf (¬ name.all isTokenByte)
    (.invalidResponse "header name contains invalid bytes or whitespace before colon")
  let name := asciiLower name
  failIf (trailers ∧ isProhibitedTrailer name) (.invalidResponse s!"prohibited trailer field: {name}")
  let value := trimOws (line.drop (colon + 1))
  failIf (value.length > limits.maximumHeaderValueBytes) (.invalidResponse "header value exceeds configured limit")
  validateFieldValue value
  pure ⟨name, value⟩

/-- `parse_header_lines`. -/
def parseHeaderLines (lines : List Bytes) (limits : Http1Limits) (trailers : Bool) :
    Except Http1Error (List Http1Header) := do
  failIf (lines.length > if trailers then limits.maximumTrailerCount else limits.maximumHeaderCount)
    (.invalidResponse
      (if trailers then "trailer count exceeds configured limit" else "header count exceeds configured limit"))
  lines.mapM (parseHeaderLine limits trailers)

structure ParsedHead where
  version : Http1Version
  statusCode : ℕ
  reason : Bytes
  headers : List Http1Header

/-- A whole header block, with the empty line at its end. -/
def parseHead (head : Bytes) (limits : Http1Limits) : Except Http1Error ParsedHead := do
  failIf (head.length > limits.maximumResponseHeaderBytes)
    (.invalidResponse "response header block exceeds configured limit")
  validateCrlfBlock none head
  match splitCrlf (head.take (head.length - 4)) with
  | [] => .error (.invalidResponse "missing status line")
  | statusLine :: headerLines => do
    let (version, statusCode, reason) ← parseStatusLine statusLine
    let headers ← parseHeaderLines headerLines limits false
    pure ⟨version, statusCode, reason, headers⟩

/-! ## Framing -/

/-- The values of one `Content-Length` field. -/
def readLengths (header : Http1Header) : Except Http1Error (List ℕ) := do
  let text ← okOr (fromUtf8 header.value) (.invalidResponse "Content-Length must contain ASCII digits")
  (splitChar ',' text).mapM fun component => do
    let component := trimMatches [' ', '\t'] component
    failIf (component = "" ∨ ¬ component.toList.all Char.isDigit)
      (.invalidResponse "Content-Length contains a non-decimal value")
    let value := Nat.ofDigitChars 10 component.toList 0
    failIf (value > u64Max) (.invalidResponse "Content-Length integer overflow")
    pure value

/-- `parse_content_length`. -/
def parseContentLength (headers : List Http1Header) : Except Http1Error (Option ℕ) := do
  let values ← (headers.filter fun header => header.name == "content-length").mapM readLengths
  match values.flatten with
  | [] => pure none
  | first :: rest => do
    failIf (rest.any (· != first)) (.invalidResponse "conflicting Content-Length values")
    pure (some first)

/-- The tokens of one `Transfer-Encoding` field. -/
def readCodings (header : Http1Header) : Except Http1Error (List String) := do
  let text ← okOr (fromUtf8 header.value) (.invalidResponse "Transfer-Encoding must be ASCII")
  (splitChar ',' text).mapM fun component => do
    let token := toAsciiLowercase (trimMatches [' ', '\t'] component)
    failIf (token = "" ∨ ¬ token.toList.all isTokenChar)
      (.invalidResponse "Transfer-Encoding contains an invalid token")
    pure token

/-- `parse_transfer_encoding`. -/
def parseTransferEncoding (headers : List Http1Header) : Except Http1Error Bool := do
  let tokens ← (headers.filter fun header => header.name == "transfer-encoding").mapM readCodings
  match tokens.flatten with
  | [] => pure false
  | tokens => do
    failIf (tokens ≠ ["chunked"]) (.invalidResponse "only one final chunked transfer coding is supported")
    pure true

/-- `determine_framing`. -/
def determineFraming (requestMethod : String) (head : ParsedHead) : Except Http1Error Http1Framing :=
  if eqIgnoreAsciiCase requestMethod "HEAD" ∨ (100 ≤ head.statusCode ∧ head.statusCode < 200) ∨
      head.statusCode = 204 ∨ head.statusCode = 304 then .ok .noBody
  else do
    let contentLength ← parseContentLength head.headers
    let transferEncoding ← parseTransferEncoding head.headers
    failIf (contentLength.isSome ∧ transferEncoding)
      (.invalidResponse "Transfer-Encoding and Content-Length cannot coexist")
    if transferEncoding then do
      failIf (head.version ≠ .http11) (.invalidResponse "chunked transfer coding requires HTTP/1.1")
      pure .chunked
    else
      match contentLength with
      | some length => pure (.contentLength length)
      | none => pure .connectionClose

/-! ## Bodies -/

structure ParsedBody where
  body : Bytes
  trailers : List Http1Header
  consumed : ℕ

/-- A buffer that ends too early: more may come, unless the stream has ended. -/
def needMore {α : Type} (eof : Bool) (reason : String) : Except Http1Error (Option α) :=
  if eof then .error (.truncatedResponse reason) else .ok none

/-- The variables of `parse_chunked`: the bytes from the cursor on, the cursor, the
decoded bytes and the number of chunks. -/
structure ChunkState where
  rest : Bytes
  cursor : ℕ
  decoded : Bytes
  chunks : ℕ

def chunkSizeOf (line : Bytes) : Except Http1Error ℕ := do
  failIf (line.contains 0x3b) (.invalidResponse "chunk extensions are intentionally unsupported")
  failIf (line = [] ∨ line.length > 16 ∨ ¬ line.all isHexdigitByte)
    (.invalidResponse "chunk size must be 1-16 hexadecimal digits")
  pure (line.foldl (fun size b => size * 16 + hexdigitValue b) 0)

/-- After the zero chunk: the end, or a trailer block. -/
def parseTrailers (limits : Http1Limits) (eof : Bool) (rest : Bytes) (cursor : ℕ)
    (decoded : Bytes) : Except Http1Error (Option ParsedBody) :=
  if rest.length < 2 then needMore eof "zero chunk was not followed by a trailer terminator"
  else if rest.take 2 = crlf then .ok (some ⟨decoded, [], cursor + 2⟩)
  else
    match findDoubleCrlf rest with
    | none =>
      if rest.length > limits.maximumTrailerBytes then
        .error (.invalidResponse "trailer block exceeds configured limit")
      else needMore eof "trailer block ended before CRLFCRLF"
    | some trailerEnd => do
      let trailerBlock := rest.take trailerEnd
      failIf (trailerBlock.length > limits.maximumTrailerBytes)
        (.invalidResponse "trailer block exceeds configured limit")
      validateCrlfBlock none trailerBlock
      let trailers ← parseHeaderLines (splitCrlf (trailerBlock.take (trailerBlock.length - 4))) limits true
      pure (some ⟨decoded, trailers, cursor + trailerEnd⟩)

/-- One chunk of `parse_chunked` that is not the last; `state` is behind the line. -/
def parseChunk (limits : Http1Limits) (eof : Bool) (chunkSize : ℕ) (state : ChunkState) :
    ChunkState ⊕ Except Http1Error (Option ParsedBody) :=
  let chunks := saturatingAdd state.chunks 1
  if chunks > limits.maximumChunkCount then .inr (.error (.invalidResponse "chunk count exceeds configured limit"))
  else if chunkSize > limits.maximumChunkBytes then
    .inr (.error (.invalidResponse "chunk size exceeds configured limit"))
  else if saturatingAdd state.decoded.length chunkSize > limits.maximumResponseBodyBytes then
    .inr (.error (.invalidResponse "decoded chunked body exceeds configured limit"))
  else if state.rest.length < chunkSize + 2 then
    .inr (needMore eof "chunk data ended before declared size or CRLF")
  else if (state.rest.drop chunkSize).take 2 ≠ crlf then
    .inr (.error (.invalidResponse "chunk data is not followed by CRLF"))
  else
    .inl ⟨state.rest.drop (chunkSize + 2), state.cursor + chunkSize + 2,
      state.decoded ++ state.rest.take chunkSize, chunks⟩

/-- One round of `parse_chunked`. -/
def chunkBody (limits : Http1Limits) (eof : Bool) (state : ChunkState) :
    ChunkState ⊕ Except Http1Error (Option ParsedBody) :=
  match findCrlf state.rest with
  | none =>
    if state.rest.length > 128 then .inr (.error (.invalidResponse "chunk-size line exceeds 128 bytes"))
    else .inr (needMore eof "chunk-size line ended before CRLF")
  | some lineEnd =>
    match chunkSizeOf (state.rest.take lineEnd) with
    | .error e => .inr (.error e)
    | .ok chunkSize =>
      let rest := state.rest.drop (lineEnd + 2)
      let cursor := state.cursor + lineEnd + 2
      if chunkSize = 0 then .inr (parseTrailers limits eof rest cursor state.decoded)
      else parseChunk limits eof chunkSize { state with rest, cursor }

theorem length_of_parseChunk {limits : Http1Limits} {eof : Bool} {chunkSize : ℕ} {state next : ChunkState}
    (h : parseChunk limits eof chunkSize state = .inl next) : next.rest.length < state.rest.length := by
  unfold parseChunk at h
  dsimp only at h
  split_ifs at h with _ _ _ hlength _
  cases h
  rw [List.length_drop]
  omega

/-- The loop of `parse_chunked`. -/
def chunkLoop (limits : Http1Limits) (eof : Bool) : Loop ChunkState (Except Http1Error (Option ParsedBody)) where
  body := chunkBody limits eof
  measure state := state.rest.length
  decreasing := by
    intro state next h
    unfold chunkBody at h
    split at h
    · split_ifs at h
    · next lineEnd hline =>
      split at h
      · cases h
      · dsimp only at h
        split_ifs at h
        have hlt := length_of_parseChunk h
        dsimp only at hlt
        rw [List.length_drop] at hlt
        omega

/-- `parse_chunked`. -/
def parseChunked (bytes : Bytes) (eof : Bool) (limits : Http1Limits) : Except Http1Error (Option ParsedBody) :=
  (chunkLoop limits eof).exec ⟨bytes, 0, [], 0⟩

/-- The body of a response, from the bytes behind its head. -/
def parseBody (framing : Http1Framing) (rest : Bytes) (eof : Bool) (limits : Http1Limits) :
    Except Http1Error (Option ParsedBody) :=
  match framing with
  | .noBody => .ok (some ⟨[], [], 0⟩)
  | .contentLength length =>
    if length > limits.maximumResponseBodyBytes then
      .error (.invalidResponse "Content-Length exceeds configured body limit")
    else if rest.length < length then
      needMore eof s!"Content-Length promised {length} bytes but only {rest.length} arrived"
    else .ok (some ⟨rest.take length, [], length⟩)
  | .chunked => parseChunked rest eof limits
  | .connectionClose =>
    if ¬ eof then .ok none
    else if rest.length > limits.maximumResponseBodyBytes then
      .error (.invalidResponse "connection-close body exceeds configured limit")
    else .ok (some ⟨rest, [], rest.length⟩)

/-! ## Responses -/

structure ParsedResponse where
  response : Http1Response
  consumedWireBytes : ℕ
  deriving DecidableEq

inductive ParseProgress where
  | incomplete
  | complete (parsed : ParsedResponse)
  deriving DecidableEq

/-- The variables of `parse_response`: the bytes from the offset on, the offset and
the number of interim responses. -/
structure ResponseState where
  rest : Bytes
  offset : ℕ
  interimResponses : ℕ

/-- The end of `parse_response`, behind the head of the final response. -/
def finishResponse (requestMethod : String) (limits : Http1Limits) (eof : Bool) (head : ParsedHead)
    (rest : Bytes) (bodyStart interimResponses : ℕ) : Except Http1Error ParseProgress := do
  let framing ← determineFraming requestMethod head
  match ← parseBody framing rest eof limits with
  | none => pure .incomplete
  | some parsed =>
    pure (.complete
      { consumedWireBytes := bodyStart + parsed.consumed
        response :=
          { version := head.version
            statusCode := head.statusCode
            reason := head.reason
            headers := head.headers
            trailers := parsed.trailers
            body := parsed.body
            framing
            interimResponses } })

def skipInterim (limits : Http1Limits) (eof : Bool) (statusCode : ℕ) (rest : Bytes)
    (headEnd interimResponses : ℕ) : ResponseState ⊕ Except Http1Error ParseProgress :=
  if statusCode = 101 then .inr (.error (.invalidResponse "protocol upgrades are not supported"))
  else
    let interimResponses := saturatingAdd interimResponses 1
    if interimResponses > limits.maximumInterimResponses then
      .inr (.error (.invalidResponse "interim response count exceeds configured limit"))
    else if rest = [] then
      if eof then .inr (.error (.truncatedResponse "stream ended after interim response"))
      else .inr (.ok .incomplete)
    else .inl ⟨rest, headEnd, interimResponses⟩

/-- One round of `parse_response`. -/
def responseBody (requestMethod : String) (limits : Http1Limits) (eof : Bool)
    (state : ResponseState) : ResponseState ⊕ Except Http1Error ParseProgress :=
  match findDoubleCrlf state.rest with
  | none =>
    if state.rest.length > limits.maximumResponseHeaderBytes then
      .inr (.error (.invalidResponse "response header block exceeds configured limit"))
    else if eof then .inr (.error (.truncatedResponse "response header block ended before CRLFCRLF"))
    else .inr (.ok .incomplete)
  | some relativeEnd =>
    match parseHead (state.rest.take relativeEnd) limits with
    | .error e => .inr (.error e)
    | .ok head =>
      let rest := state.rest.drop relativeEnd
      let headEnd := state.offset + relativeEnd
      if 100 ≤ head.statusCode ∧ head.statusCode < 200 then
        skipInterim limits eof head.statusCode rest headEnd state.interimResponses
      else .inr (finishResponse requestMethod limits eof head rest headEnd state.interimResponses)

theorem skipInterim_eq_inl {limits : Http1Limits} {eof : Bool} {statusCode : ℕ} {rest : Bytes}
    {headEnd interimResponses : ℕ} {next : ResponseState}
    (h : skipInterim limits eof statusCode rest headEnd interimResponses = .inl next) : next.rest = rest := by
  unfold skipInterim at h
  dsimp only at h
  split_ifs at h
  cases h
  rfl

/-- The loop of `parse_response`. -/
def responseLoop (requestMethod : String) (limits : Http1Limits) (eof : Bool) :
    Loop ResponseState (Except Http1Error ParseProgress) where
  body := responseBody requestMethod limits eof
  measure state := state.rest.length
  decreasing := by
    intro state next h
    unfold responseBody at h
    split at h
    · split_ifs at h
    · next relativeEnd hend =>
      split at h
      · cases h
      · dsimp only at h
        split_ifs at h
        rw [skipInterim_eq_inl h, List.length_drop]
        have hle := findDoubleCrlf_le hend
        omega

/-- `parse_response`. -/
def parseResponse (bytes : Bytes) (eof : Bool) (requestMethod : String) (limits : Http1Limits) :
    Except Http1Error ParseProgress :=
  (responseLoop requestMethod limits eof).exec ⟨bytes, 0, 0⟩

example : (parseResponse (bytes "HTTP/1.1 200 OK\r\nContent-Length: 2\r\n\r\nhi!") false "GET" .conservativeDefault).map
    (fun progress => match progress with
      | .complete parsed => some (parsed.response.body, parsed.consumedWireBytes)
      | .incomplete => none) = .ok (some (bytes "hi", 40)) := by decide +kernel

end BoundSeal.Http1
