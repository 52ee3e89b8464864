import BoundSeal.Http1.Segmentation

/-!
# The framing fields of a response

`determine_framing` refuses contradictory framing fields, but for a response without
a body it returns before it looks at them.
-/

namespace BoundSeal.Http1

open Rust Lib

/-- The method or the status says that there is no body. -/
def Bodiless (requestMethod : String) (statusCode : ℕ) : Prop :=
  eqIgnoreAsciiCase requestMethod "HEAD" = true ∨ statusCode = 204 ∨ statusCode = 304

/-- Headers that frame a body in one way at most: not both fields, one length, and
`chunked` as the only coding. -/
structure Unambiguous (headers : List Http1Header) : Prop where
  exclusive : ¬ ((∃ header ∈ headers, header.name = "transfer-encoding") ∧
    ∃ header ∈ headers, header.name = "content-length")
  length : ∃ length, ∀ header ∈ headers, header.name = "content-length" →
    ∃ lengths, readLengths header = .ok lengths ∧ ∀ n ∈ lengths, n = length
  coding : ∃ codings, (headers.filter fun header => header.name == "transfer-encoding").mapM readCodings = .ok codings ∧
    (codings.flatten = [] ∨ codings.flatten = ["chunked"])

theorem flatten_ne_nil_of_read {α : Type} {read : Http1Header → Except Http1Error (List α)}
    (hread : ∀ header values, read header = .ok values →
      ∃ text, ∃ f : String → Except Http1Error α, (splitChar ',' text).mapM f = .ok values)
    {headers : List Http1Header} {values : List (List α)} (h : headers.mapM read = .ok values)
    {header : Http1Header} (hmem : header ∈ headers) : values.flatten ≠ [] := by
  obtain ⟨value, hvalue⟩ := mapM_defined h hmem
  obtain ⟨text, f, hcomponents⟩ := hread header value hvalue
  obtain ⟨first, hfirst⟩ := List.exists_mem_of_ne_nil (splitChar ',' text) (by simp [splitChar])
  obtain ⟨component, hcomponent⟩ := mapM_defined hcomponents hfirst
  exact List.ne_nil_of_mem (List.mem_flatten.mpr ⟨value, (mem_mapM h).mpr ⟨header, hmem, hvalue⟩,
    (mem_mapM hcomponents).mpr ⟨first, hfirst, hcomponent⟩⟩)

variable {requestMethod : String} {limits : Http1Limits} {eof : Bool}

theorem unambiguous_of_framing {head : ParsedHead} {framing : Http1Framing}
    (h : determineFraming requestMethod head = .ok framing) (hbody : ¬ Bodiless requestMethod head.statusCode)
    (hfinal : ¬ (100 ≤ head.statusCode ∧ head.statusCode < 200)) : Unambiguous head.headers := by
  unfold Bodiless at hbody
  rw [determineFraming, if_neg (by tauto)] at h
  simp only [do_eq_ok] at h
  obtain ⟨contentLength, hlengths, transferEncoding, hcodings, hboth, -⟩ := h
  simp only [parseContentLength, bind_eq_ok] at hlengths
  obtain ⟨lengths, hlengths, hlength⟩ := hlengths
  simp only [parseTransferEncoding, bind_eq_ok] at hcodings
  obtain ⟨codings, hcodings, hcoding⟩ := hcodings
  obtain ⟨length, hsame, hsome⟩ : ∃ length, (∀ n ∈ lengths.flatten, n = length) ∧
      (lengths.flatten ≠ [] → contentLength.isSome = true) := by
    split at hlength
    · next hnone => exact ⟨0, by simp [hnone], fun h => absurd hnone h⟩
    · next first rest hfirst =>
      simp only [do_eq_ok] at hlength
      obtain ⟨hsame, rfl⟩ := hlength
      exact ⟨first, by simpa [hfirst] using hsame, fun _ => rfl⟩
  obtain ⟨hchunked, htrue⟩ : (codings.flatten = [] ∨ codings.flatten = ["chunked"]) ∧
      (codings.flatten ≠ [] → transferEncoding = true) := by
    split at hcoding
    · next hnone => exact ⟨.inl hnone, fun h => absurd hnone h⟩
    · simp only [do_eq_ok, not_not] at hcoding
      exact ⟨.inr hcoding.1, fun _ => hcoding.2.symm⟩
  refine ⟨?_, ⟨length, ?_⟩, codings, hcodings, hchunked⟩
  · rintro ⟨⟨coded, hcoded, hname⟩, sized, hsized, hname'⟩
    refine hboth ⟨hsome (flatten_ne_nil_of_read ?_ hlengths (List.mem_filter.mpr ⟨hsized, by simp [hname']⟩)),
      htrue (flatten_ne_nil_of_read ?_ hcodings (List.mem_filter.mpr ⟨hcoded, by simp [hname]⟩))⟩
    · intro header values hvalues
      simp only [readLengths, bind_eq_ok] at hvalues
      exact hvalues.imp fun _ h => ⟨_, h.2⟩
    · intro header values hvalues
      simp only [readCodings, bind_eq_ok] at hvalues
      exact hvalues.imp fun _ h => ⟨_, h.2⟩
  · intro header hmem hname
    have hfield : header ∈ head.headers.filter fun header => header.name == "content-length" := by simp [hmem, hname]
    obtain ⟨values, hvalues⟩ := mapM_defined hlengths hfield
    exact ⟨values, hvalues, fun n hn => hsame n
      (List.mem_flatten.mpr ⟨values, (mem_mapM hlengths).mpr ⟨header, hfield, hvalues⟩, hn⟩)⟩

variable {b : Bytes} {parsed : ParsedResponse}

/-- **A response with a body has unambiguous framing fields.** -/
theorem unambiguous_of_complete
    (h : parseResponse b eof requestMethod limits = .ok (.complete parsed))
    (hbody : ¬ Bodiless requestMethod parsed.response.statusCode) : Unambiguous parsed.response.headers := by
  refine (responseLoop requestMethod limits eof).exec_rule (fun _ x => x = .ok (.complete parsed) →
    Unambiguous parsed.response.headers) ?_ (fun _ _ _ _ hnext => hnext) ⟨b, 0, 0⟩ h
  rintro state x hround rfl
  obtain ⟨_, head, -, -, hfinal, hfinish⟩ := responseBody_complete hround
  obtain ⟨framing, body, hframing, -, rfl⟩ := finishResponse_complete hfinish
  exact unambiguous_of_framing hframing hbody hfinal

/-- A whole response to `HEAD` is one to every method when its status has no body. -/
theorem parseResponse_of_bodiless (h : parseResponse b eof "HEAD" limits = .ok (.complete parsed))
    (hbody : Bodiless requestMethod parsed.response.statusCode) :
    parseResponse b eof requestMethod limits = .ok (.complete parsed) := by
  refine (responseLoop "HEAD" limits eof).exec_rel (responseLoop requestMethod limits eof) id
    (fun x y => x = .ok (.complete parsed) → y = .ok (.complete parsed)) ?_ ?_ ⟨b, 0, 0⟩ h
  · rintro state x hround rfl
    obtain ⟨relativeEnd, head, hend, hhead, hfinal, hfinish⟩ := responseBody_complete hround
    have hstatus : parsed.response.statusCode = head.statusCode := by
      obtain ⟨_, _, -, -, rfl⟩ := finishResponse_complete hfinish
      rfl
    have hframing : determineFraming requestMethod head = determineFraming "HEAD" head := by
      unfold Bodiless at hbody
      rw [determineFraming, if_pos (by rw [← hstatus]; tauto), determineFraming, if_pos (.inl (by decide +kernel))]
    refine Loop.exec_of_inr _ ?_
    show responseBody requestMethod limits eof state = _
    simp only [responseBody, hend, hhead]
    rw [if_neg hfinal, ← hfinish, finishResponse, hframing]
    rfl
  · intro state next hround
    change responseBody "HEAD" limits eof state = _ at hround
    show responseBody requestMethod limits eof state = _
    unfold responseBody at hround ⊢
    split at hround
    · split_ifs at hround
    split at hround
    · cases hround
    next head hhead =>
    dsimp only at hround ⊢
    split_ifs at hround ⊢
    exact hround

/-! ## Contradictory fields that are accepted -/

/-- A response with this status and contradictory framing fields. -/
def contradictory (status : String) : Bytes :=
  bytes s!"HTTP/1.1 {status} X\r\nTransfer-Encoding: chunked\r\nContent-Length: 1\r\n\r\n"

theorem parse_contradictory (requestMethod status : String) (statusCode : ℕ)
    (h : (status, statusCode) ∈ [("200", 200), ("204", 204), ("304", 304)])
    (hbody : Bodiless requestMethod statusCode) :
    ∃ parsed, parseResponse (contradictory status) false requestMethod .conservativeDefault = .ok (.complete parsed) ∧
      parsed.response.statusCode = statusCode ∧ ¬ Unambiguous parsed.response.headers := by
  let parsed : ParsedResponse := ⟨⟨.http11, statusCode, bytes "X", [⟨"transfer-encoding", bytes "chunked"⟩,
    ⟨"content-length", bytes "1"⟩], [], [], .noBody, 0⟩, (contradictory status).length⟩
  have hparsed : parseResponse (contradictory status) false "HEAD" .conservativeDefault = .ok (.complete parsed) := by
    simp only [List.mem_cons, Prod.mk.injEq, List.not_mem_nil, or_false] at h
    rcases h with ⟨rfl, rfl⟩ | ⟨rfl, rfl⟩ | ⟨rfl, rfl⟩ <;> decide +kernel
  exact ⟨parsed, parseResponse_of_bodiless hparsed hbody, rfl, fun h => h.exclusive (by simp [parsed])⟩

/-- The framing fields of every whole response with a status of the set agree. -/
def Checked (requestMethod : String) (statuses : Set ℕ) : Prop :=
  ∀ b eof limits parsed, parseResponse b eof requestMethod limits = .ok (.complete parsed) →
    parsed.response.statusCode ∈ statuses → Unambiguous parsed.response.headers

theorem not_checked {statuses : Set ℕ} (status : String) {statusCode : ℕ}
    (hmem : statusCode ∈ statuses) (hbody : Bodiless requestMethod statusCode)
    (h : (status, statusCode) ∈ [("200", 200), ("204", 204), ("304", 304)]) : ¬ Checked requestMethod statuses := by
  intro hchecked
  obtain ⟨parsed, hparsed, rfl, hambiguous⟩ := parse_contradictory _ _ _ h hbody
  exact hambiguous (hchecked _ _ _ _ hparsed hmem)

/-- **The framing fields are checked for a set of statuses with 200** if and only if
the method is not `HEAD` and neither 204 nor 304 is in the set. -/
theorem unambiguous_iff (requestMethod : String) (statuses : Set ℕ) (hok : 200 ∈ statuses) :
    Checked requestMethod statuses ↔
      eqIgnoreAsciiCase requestMethod "HEAD" = false ∧ 204 ∉ statuses ∧ 304 ∉ statuses := by
  constructor
  · intro hchecked
    refine ⟨(Bool.not_eq_true _).mp fun hhead => ?_, fun hmem => ?_, fun hmem => ?_⟩
    · exact not_checked "200" hok (.inl hhead) (by simp) hchecked
    · exact not_checked "204" hmem (.inr (.inl rfl)) (by simp) hchecked
    · exact not_checked "304" hmem (.inr (.inr rfl)) (by simp) hchecked
  · rintro ⟨hhead, hno204, hno304⟩ b eof limits parsed hparsed hmem
    refine unambiguous_of_complete hparsed ?_
    rintro (hmethod | hstatus | hstatus)
    · rw [hhead] at hmethod
      cases hmethod
    · exact hno204 (hstatus ▸ hmem)
    · exact hno304 (hstatus ▸ hmem)

theorem unambiguous_iff_get : Checked "GET" {200} :=
  (unambiguous_iff "GET" {200} rfl).mpr ⟨by decide +kernel, by decide, by decide⟩

/-- **A response to `HEAD` with both framing fields is accepted.** -/
theorem contradictory_accepted :
    ∃ parsed, parseResponse (contradictory "200") false "HEAD" .conservativeDefault = .ok
      (.complete parsed) ∧ ¬ Unambiguous parsed.response.headers := by
  obtain ⟨parsed, hparsed, -, hambiguous⟩ :=
    parse_contradictory "HEAD" "200" 200 List.mem_cons_self (.inl (by decide +kernel))
  exact ⟨parsed, hparsed, hambiguous⟩

end BoundSeal.Http1
