import BoundSeal.Http1.Parser

/-!
# The parser's verdicts stand

The parser is run again from the start whenever bytes arrive. A verdict it has
given, a response or that there can be none, is the one it gives on every longer
buffer, whether or not the stream has ended.
-/

namespace BoundSeal.Http1

open Rust Lib

variable {α : Type}

/-- The same verdict: only the reason for an invalid response may differ. -/
def Agrees (x y : Except Http1Error α) : Prop :=
  x = y ∨ ∃ reason reason', x = .error (.invalidResponse reason) ∧ y = .error (.invalidResponse reason')

theorem Agrees.refl (x : Except Http1Error α) : Agrees x x := .inl rfl

theorem Agrees.symm {x y : Except Http1Error α} (h : Agrees x y) : Agrees y x := by
  rcases h with rfl | ⟨reason, reason', hx, hy⟩
  · exact .refl x
  · exact .inr ⟨reason', reason, hy, hx⟩

theorem Agrees.trans {x y z : Except Http1Error α} (h : Agrees x y) (h' : Agrees y z) : Agrees x z := by
  rcases h with rfl | ⟨reason, reason', hx, hy⟩
  · exact h'
  · rcases h' with rfl | ⟨reason₁, reason₂, -, hz⟩
    · exact .inr ⟨reason, reason', hx, hy⟩
    · exact .inr ⟨reason, reason₂, hx, hz⟩

theorem agrees_invalid (reason reason' : String) :
    Agrees (.error (.invalidResponse reason) : Except Http1Error α) (.error (.invalidResponse reason')) :=
  .inr ⟨reason, reason', rfl, rfl⟩

theorem Agrees.bind {β : Type} {x y : Except Http1Error α} (h : Agrees x y)
    (f : α → Except Http1Error β) : Agrees (x >>= f) (y >>= f) := by
  rcases h with rfl | ⟨reason, reason', rfl, rfl⟩
  · exact .refl _
  · exact agrees_invalid reason reason'

/-- What a round of a loop makes of more input: it goes on with more behind, or keeps the verdict it
had. -/
def Follows {σ : Type} (extend : σ → σ) (undecided : α) : σ ⊕ Except Http1Error α → σ ⊕ Except Http1Error α → Prop
  | .inl next, y => y = .inl (extend next)
  | .inr x, y => x = .ok undecided ∨ ∃ z, y = .inr z ∧ Agrees x z

theorem Follows.refl {σ : Type} (extend : σ → σ) (undecided : α) (x : Except Http1Error α) :
    Follows extend undecided (.inr x) (.inr x) := .inr ⟨x, rfl, .refl x⟩

theorem agrees_of_follows {σ : Type} {L M : Loop σ (Except Http1Error α)} {extend : σ → σ}
    {undecided : α} (h : ∀ s, Follows extend undecided (L.body s) (M.body (extend s))) (s : σ) :
    L.exec s = .ok undecided ∨ Agrees (L.exec s) (M.exec (extend s)) := by
  refine L.exec_rel M extend (fun x y => x = .ok undecided ∨ Agrees x y) ?_ ?_ s
  · intro s x hs
    have hround := h s
    rw [hs] at hround
    refine hround.imp_right ?_
    rintro ⟨y, hy, hagrees⟩
    rwa [M.exec_of_inr hy]
  · intro s next hs
    have hround := h s
    rwa [hs] at hround

/-! ## Where lines end -/

section

variable {rest : Bytes} {index : ℕ} (e : Bytes)

theorem findCrlf_append (h : findCrlf rest = some index) : findCrlf (rest ++ e) = some index :=
  firstOccurrence_append h e

theorem findDoubleCrlf_append (h : findDoubleCrlf rest = some index) : findDoubleCrlf (rest ++ e) = some index := by
  obtain ⟨start, hstart, rfl⟩ := Option.map_eq_some_iff.mp h
  rw [findDoubleCrlf, firstOccurrence_append hstart e]
  rfl

variable {e}

theorem length_lt_of_findCrlf_append (hnone : findCrlf rest = none)
    (h : findCrlf (rest ++ e) = some index) : rest.length < index + 2 :=
  length_lt_of_firstOccurrence_append hnone h

theorem length_lt_of_findDoubleCrlf_append (hnone : findDoubleCrlf rest = none)
    (h : findDoubleCrlf (rest ++ e) = some index) : rest.length < index := by
  obtain ⟨start, hstart, rfl⟩ := Option.map_eq_some_iff.mp h
  exact length_lt_of_firstOccurrence_append (Option.map_eq_none_iff.mp hnone) hstart

end

/-! ## Chunked bodies -/

section

variable {limits : Http1Limits} (e : Bytes) (eof : Bool)

theorem parseTrailers_agrees (rest : Bytes) (cursor : ℕ) (decoded : Bytes) :
    parseTrailers limits false rest cursor decoded = .ok none ∨
      Agrees (parseTrailers limits false rest cursor decoded)
        (parseTrailers limits eof (rest ++ e) cursor decoded) := by
  by_cases hshort : rest.length < 2
  · exact .inl (by rw [parseTrailers, if_pos hshort]; rfl)
  have hlong : ¬ (rest ++ e).length < 2 := by
    rw [List.length_append]
    omega
  have htake : (rest ++ e).take 2 = rest.take 2 := List.take_append_of_le_length (by omega)
  unfold parseTrailers
  rw [if_neg hshort, if_neg hlong, htake]
  by_cases hend : rest.take 2 = crlf
  · rw [if_pos hend, if_pos hend]
    exact .inr (.refl _)
  rw [if_neg hend, if_neg hend]
  cases hfind : findDoubleCrlf rest with
  | some trailerEnd =>
    rw [findDoubleCrlf_append e hfind]
    dsimp only
    rw [List.take_append_of_le_length (findDoubleCrlf_le hfind).2]
    exact .inr (.refl _)
  | none =>
    dsimp only
    by_cases hlimit : rest.length > limits.maximumTrailerBytes
    · rw [if_pos hlimit]
      refine .inr ?_
      -- the block is too long already, wherever its end turns out to be
      cases hfound : findDoubleCrlf (rest ++ e) with
      | none =>
        dsimp only
        rw [if_pos (by rw [List.length_append]; omega)]
        exact .refl _
      | some trailerEnd =>
        have hlt := length_lt_of_findDoubleCrlf_append hfind hfound
        have hle := (findDoubleCrlf_le hfound).2
        have htoo : ((rest ++ e).take trailerEnd).length > limits.maximumTrailerBytes := by
          rw [List.length_take]
          omega
        dsimp only
        rw [failIf, if_pos htoo]
        exact .refl _
    · exact .inl (by rw [if_neg hlimit]; rfl)

theorem take_two_append {rest : Bytes} {n : ℕ} (h : ¬ rest.length < n + 2) :
    ((rest ++ e).drop n).take 2 = (rest.drop n).take 2 := by
  rw [List.drop_append_of_le_length (by omega)]
  refine List.take_append_of_le_length ?_
  rw [List.length_drop]
  omega

def ChunkState.extend (state : ChunkState) : ChunkState := { state with rest := state.rest ++ e }

variable {state : ChunkState}

theorem parseChunk_follows (chunkSize : ℕ) (state : ChunkState) :
    Follows (ChunkState.extend e) none (parseChunk limits false chunkSize state)
      (parseChunk limits eof chunkSize (state.extend e)) := by
  show Follows _ _ _ (parseChunk limits eof chunkSize ⟨state.rest ++ e, state.cursor, state.decoded, state.chunks⟩)
  unfold parseChunk
  dsimp only
  by_cases hshort : state.rest.length < chunkSize + 2
  · rw [if_pos hshort]
    split_ifs
    · exact .refl _ _ _
    · exact .refl _ _ _
    · exact .refl _ _ _
    all_goals exact .inl rfl
  · have hlong : ¬ (state.rest ++ e).length < chunkSize + 2 := by
      rw [List.length_append]
      omega
    rw [if_neg hshort, if_neg hlong, take_two_append e hshort,
      List.drop_append_of_le_length (by omega), List.take_append_of_le_length (by omega)]
    split_ifs
    all_goals first | exact .refl _ _ _ | exact rfl

theorem chunkBody_of_line {lineEnd : ℕ} (h : findCrlf state.rest = some lineEnd) :
    chunkBody limits eof (state.extend e) =
      match chunkSizeOf (state.rest.take lineEnd) with
      | .error e => .inr (.error e)
      | .ok chunkSize =>
        let next : ChunkState :=
          { state with rest := state.rest.drop (lineEnd + 2), cursor := state.cursor + lineEnd + 2 }
        if chunkSize = 0 then .inr (parseTrailers limits eof (next.rest ++ e) next.cursor state.decoded)
        else parseChunk limits eof chunkSize (next.extend e) := by
  have hle := findCrlf_le h
  show chunkBody limits eof ⟨state.rest ++ e, state.cursor, state.decoded, state.chunks⟩ = _
  unfold chunkBody
  dsimp only
  rw [findCrlf_append e h]
  dsimp only
  rw [List.take_append_of_le_length (by omega), List.drop_append_of_le_length hle]
  rfl

theorem chunkBody_follows (state : ChunkState) :
    Follows (ChunkState.extend e) none (chunkBody limits false state) (chunkBody limits eof (state.extend e)) := by
  cases hline : findCrlf state.rest with
  | none =>
    show Follows _ _ _ (chunkBody limits eof ⟨state.rest ++ e, state.cursor, state.decoded, state.chunks⟩)
    unfold chunkBody
    rw [hline]
    dsimp only
    by_cases hlimit : state.rest.length > 128
    · rw [if_pos hlimit]
      refine .inr ?_
      cases hfound : findCrlf (state.rest ++ e) with
      | none =>
        have hlong : (state.rest ++ e).length > 128 := by
          rw [List.length_append]
          omega
        exact ⟨_, if_pos hlong, .refl _⟩
      | some lineEnd =>
        -- the line is longer than a chunk size may be
        have hlt := length_lt_of_findCrlf_append hline hfound
        have hle := findCrlf_le hfound
        have hlength : ((state.rest ++ e).take lineEnd).length > 16 := by
          rw [List.length_take]
          omega
        obtain ⟨reason, hreason⟩ : ∃ reason, chunkSizeOf ((state.rest ++ e).take lineEnd) =
            .error (.invalidResponse reason) := by
          unfold chunkSizeOf
          by_cases hsemicolon : ((state.rest ++ e).take lineEnd).contains 0x3b = true
          · exact ⟨_, by rw [failIf, if_pos hsemicolon]; rfl⟩
          · exact ⟨_, by rw [failIf, if_neg hsemicolon, failIf, if_pos (.inr (.inl hlength))]; rfl⟩
        dsimp only
        rw [hreason]
        exact ⟨_, rfl, agrees_invalid _ _⟩
    · rw [if_neg hlimit]
      exact .inl rfl
  | some lineEnd =>
    rw [chunkBody_of_line e eof hline, chunkBody, hline]
    dsimp only
    cases chunkSizeOf (state.rest.take lineEnd) with
    | error reason => exact .refl _ _ _
    | ok chunkSize =>
      dsimp only
      split_ifs
      · exact (parseTrailers_agrees e eof _ _ _).imp_right fun hagrees => ⟨_, rfl, hagrees⟩
      · exact parseChunk_follows e eof chunkSize _

theorem parseChunked_agrees (rest : Bytes) : parseChunked rest false limits = .ok none ∨
      Agrees (parseChunked rest false limits) (parseChunked (rest ++ e) eof limits) :=
  agrees_of_follows (L := chunkLoop limits false) (M := chunkLoop limits eof) (chunkBody_follows e eof) _

/-! ## Responses -/

theorem parseBody_agrees (framing : Http1Framing) (rest : Bytes) :
    parseBody framing rest false limits = .ok none ∨
      Agrees (parseBody framing rest false limits) (parseBody framing (rest ++ e) eof limits) := by
  cases framing with
  | noBody => exact .inr (.refl _)
  | contentLength length =>
    unfold parseBody
    dsimp only
    by_cases hlimit : length > limits.maximumResponseBodyBytes
    · rw [if_pos hlimit, if_pos hlimit]
      exact .inr (.refl _)
    rw [if_neg hlimit, if_neg hlimit]
    by_cases hshort : rest.length < length
    · rw [if_pos hshort]
      exact .inl rfl
    · have hlong : ¬ (rest ++ e).length < length := by
        rw [List.length_append]
        omega
      rw [if_neg hshort, if_neg hlong, List.take_append_of_le_length (not_lt.mp hshort)]
      exact .inr (.refl _)
  | chunked => exact parseChunked_agrees e eof rest
  | connectionClose => exact .inl rfl

theorem finishResponse_agrees (requestMethod : String) (head : ParsedHead) (rest : Bytes)
    (bodyStart interimResponses : ℕ) :
    finishResponse requestMethod limits false head rest bodyStart interimResponses = .ok .incomplete ∨
      Agrees (finishResponse requestMethod limits false head rest bodyStart interimResponses)
        (finishResponse requestMethod limits eof head (rest ++ e) bodyStart interimResponses) := by
  unfold finishResponse
  cases determineFraming requestMethod head with
  | error reason => exact .inr (.refl _)
  | ok framing =>
    rcases parseBody_agrees e eof framing rest with hnone | hagrees
    · refine .inl ?_
      show (parseBody framing rest false limits >>= _) = _
      rw [hnone]
      rfl
    · exact .inr (hagrees.bind _)

def ResponseState.extend (state : ResponseState) : ResponseState := { state with rest := state.rest ++ e }

theorem skipInterim_follows (statusCode : ℕ) (rest : Bytes) (headEnd interimResponses : ℕ) :
    Follows (ResponseState.extend e) .incomplete (skipInterim limits false statusCode rest headEnd interimResponses)
      (skipInterim limits eof statusCode (rest ++ e) headEnd interimResponses) := by
  unfold skipInterim
  dsimp only
  by_cases hempty : rest = []
  · rw [if_pos hempty, if_neg Bool.false_ne_true]
    split_ifs
    · exact .refl _ _ _
    · exact .refl _ _ _
    all_goals exact .inl rfl
  · have hmore : rest ++ e ≠ [] := fun h => hempty (List.append_eq_nil_iff.mp h).1
    rw [if_neg hempty, if_neg hmore]
    split_ifs
    all_goals first | exact .refl _ _ _ | exact rfl

variable (requestMethod : String)

theorem responseBody_of_head {state : ResponseState} {relativeEnd : ℕ}
    (h : findDoubleCrlf state.rest = some relativeEnd) :
    responseBody requestMethod limits eof (state.extend e) =
      match parseHead (state.rest.take relativeEnd) limits with
      | .error e => .inr (.error e)
      | .ok head =>
        if 100 ≤ head.statusCode ∧ head.statusCode < 200 then
          skipInterim limits eof head.statusCode (state.rest.drop relativeEnd ++ e)
            (state.offset + relativeEnd) state.interimResponses
        else
          .inr (finishResponse requestMethod limits eof head (state.rest.drop relativeEnd ++ e)
            (state.offset + relativeEnd) state.interimResponses) := by
  have hle := (findDoubleCrlf_le h).2
  show responseBody requestMethod limits eof ⟨state.rest ++ e, state.offset, state.interimResponses⟩ = _
  unfold responseBody
  dsimp only
  rw [findDoubleCrlf_append e h]
  dsimp only
  rewrite [List.take_append_of_le_length hle, List.drop_append_of_le_length hle]
  rfl

theorem responseBody_follows (state : ResponseState) :
    Follows (ResponseState.extend e) .incomplete (responseBody requestMethod limits false state)
      (responseBody requestMethod limits eof (state.extend e)) := by
  cases hend : findDoubleCrlf state.rest with
  | none =>
    show Follows _ _ _ (responseBody requestMethod limits eof ⟨state.rest ++ e, state.offset, state.interimResponses⟩)
    unfold responseBody
    rw [hend]
    dsimp only
    by_cases hlimit : state.rest.length > limits.maximumResponseHeaderBytes
    · rw [if_pos hlimit]
      refine .inr ?_
      -- the block is too long already, wherever its end turns out to be
      cases hfound : findDoubleCrlf (state.rest ++ e) with
      | none =>
        have hlong : (state.rest ++ e).length > limits.maximumResponseHeaderBytes := by
          rw [List.length_append]
          omega
        exact ⟨_, if_pos hlong, .refl _⟩
      | some relativeEnd =>
        have hlt := length_lt_of_findDoubleCrlf_append hend hfound
        have hle := (findDoubleCrlf_le hfound).2
        have htoo : ((state.rest ++ e).take relativeEnd).length > limits.maximumResponseHeaderBytes := by
          rw [List.length_take]
          omega
        have hhead : parseHead ((state.rest ++ e).take relativeEnd) limits =
            .error (.invalidResponse "response header block exceeds configured limit") := by
          rw [parseHead, failIf, if_pos htoo]
          rfl
        dsimp only
        rw [hhead]
        exact ⟨_, rfl, .refl _⟩
    · rw [if_neg hlimit]
      exact .inl rfl
  | some relativeEnd =>
    rw [responseBody_of_head e eof requestMethod hend, responseBody, hend]
    dsimp only
    cases parseHead (state.rest.take relativeEnd) limits with
    | error reason => exact .refl _ _ _
    | ok head =>
      dsimp only
      split_ifs
      · exact skipInterim_follows e eof _ _ _ _
      · exact (finishResponse_agrees e eof requestMethod head _ _ _).imp_right fun hagrees => ⟨_, rfl, hagrees⟩

/-- **More input**: a verdict on a buffer is the verdict on every longer one. -/
theorem parseResponse_agrees (b : Bytes) :
    parseResponse b false requestMethod limits = .ok .incomplete ∨
      Agrees (parseResponse b false requestMethod limits) (parseResponse (b ++ e) eof requestMethod limits) :=
  agrees_of_follows (L := responseLoop requestMethod limits false)
    (M := responseLoop requestMethod limits eof) (responseBody_follows e eof requestMethod) _

end

/-! ## Reading in pieces -/

/-- The first verdict when the bytes arrive in pieces: the buffer is parsed when a
piece has been added to it, and once more when the stream has ended. -/
def firstVerdict (limits : Http1Limits) (requestMethod : String) (buffer : Bytes) :
    List Bytes → Except Http1Error ParseProgress
  | [] => parseResponse buffer true requestMethod limits
  | piece :: pieces =>
    match parseResponse (buffer ++ piece) false requestMethod limits with
    | .ok .incomplete => firstVerdict limits requestMethod (buffer ++ piece) pieces
    | verdict => verdict

theorem firstVerdict_agrees (limits : Http1Limits) (requestMethod : String) (buffer : Bytes)
    (pieces : List Bytes) : Agrees (firstVerdict limits requestMethod buffer pieces)
      (parseResponse (buffer ++ pieces.flatten) true requestMethod limits) := by
  induction pieces generalizing buffer with
  | nil =>
    rw [List.flatten_nil, List.append_nil]
    exact .refl _
  | cons piece pieces ih =>
    rw [List.flatten_cons, ← List.append_assoc]
    unfold firstVerdict
    split
    · exact ih _
    · next hverdict =>
      exact (parseResponse_agrees pieces.flatten true requestMethod (buffer ++ piece)).resolve_left hverdict

/-- A verdict given before the end of the stream stands, whatever bytes follow and
whether or not the stream has ended then, so the first verdict does not depend on
how the bytes were cut into pieces. -/
theorem verdicts_stand (limits : Http1Limits) (requestMethod : String) :
    (∀ (b e : Bytes) (eof : Bool),
      (∀ parsed, parseResponse b false requestMethod limits = .ok (.complete parsed) →
        parseResponse (b ++ e) eof requestMethod limits = .ok (.complete parsed)) ∧
      (∀ reason, parseResponse b false requestMethod limits = .error (.invalidResponse reason) →
        ∃ reason', parseResponse (b ++ e) eof requestMethod limits = .error (.invalidResponse reason'))) ∧
    ∀ pieces pieces' : List Bytes, pieces.flatten = pieces'.flatten →
      Agrees (firstVerdict limits requestMethod [] pieces) (firstVerdict limits requestMethod [] pieces') := by
  refine ⟨fun b e eof => ⟨?_, ?_⟩, ?_⟩
  · intro parsed h
    rcases @parseResponse_agrees limits e eof requestMethod b with hincomplete | hsame | ⟨_, _, herr, -⟩
    · rw [h] at hincomplete
      cases hincomplete
    · rw [← hsame, h]
    · rw [h] at herr
      cases herr
  · intro reason h
    rcases @parseResponse_agrees limits e eof requestMethod b with hincomplete | hsame | ⟨_, reason', -, h'⟩
    · rw [h] at hincomplete
      cases hincomplete
    · exact ⟨reason, by rw [← hsame, h]⟩
    · exact ⟨reason', h'⟩
  · intro pieces pieces' hflatten
    have hleft := firstVerdict_agrees limits requestMethod [] pieces
    rw [hflatten] at hleft
    exact hleft.trans (firstVerdict_agrees limits requestMethod [] pieces').symm

/-- What the parser makes of a response with a body of two bytes. -/
def twoByteResponse : ParsedResponse where
  consumedWireBytes := 40
  response :=
    { version := .http11
      statusCode := 200
      reason := bytes "OK"
      headers := [⟨"content-length", bytes "2"⟩]
      trailers := []
      body := bytes "hi"
      framing := .contentLength 2
      interimResponses := 0 }

/-- A response of two bytes, one with a bare line feed, and one cut inside a line end. -/
theorem verdicts_stand_hi :
    parseResponse (bytes "HTTP/1.1 200 OK\r\nContent-Length: 2\r\n\r\nhi" ++ bytes "!") true "GET"
        .conservativeDefault = .ok (.complete twoByteResponse) ∧
    (∃ reason, parseResponse (bytes "HTTP/1.1 200 OK\nA: b\r\n\r\n" ++ bytes "!") true "GET" .conservativeDefault =
        .error (.invalidResponse reason)) ∧
    Agrees (firstVerdict .conservativeDefault "GET" [] [bytes "HTTP/1.1 204 N", bytes "o\r\n\r\n"])
      (firstVerdict .conservativeDefault "GET" [] [bytes "HTTP/1.1 204 No\r", bytes "\n\r\n"]) := by
  have hstand := verdicts_stand .conservativeDefault "GET"
  refine ⟨?_, ?_, hstand.2 _ _ (by decide +kernel)⟩
  · exact (hstand.1 _ _ _).1 twoByteResponse (by decide +kernel)
  · exact (hstand.1 _ _ _).2 "bare LF is prohibited" (by decide +kernel)

end BoundSeal.Http1
