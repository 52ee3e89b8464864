import BoundSeal.Http1.Parser

/-!
# Writing a request (`nxb-http1`, `codec.rs`)

`serialize_request` puts a request on the wire: the request line, the `Host` of the
stream, the caller's headers, the secret headers of a lease, and the two headers
that frame the body. Beside the wire it makes the wire for the audit, where the
length of a secret value stands for the value.
-/

namespace BoundSeal.Http1

open Rust Lib
open BoundSeal.Vault (SecretHeaderLease SecretHeaderBatch)

/-! ## Checks -/

/-- `u8::is_ascii_lowercase`. -/
def isLowercaseByte (b : UInt8) : Bool := 0x61 ≤ b && b ≤ 0x7a

/-- `validate_method`. -/
def validateMethod (method : String) : Except Http1Error Unit :=
  failIf (method = "" ∨ method.utf8ByteSize > 32 ∨ ¬ (bytes method).all isTokenByte ∨
      ¬ ((bytes method).all fun b => !isLowercaseByte b) ∨ method = "CONNECT")
    (.invalidRequest "method must be an uppercase token and CONNECT is unsupported")

/-- `validate_target`. -/
def validateTarget (method target : String) : Except Http1Error Unit := do
  failIf (target = "" ∨ target.utf8ByteSize > 8 * 1024 ∨
      ((bytes target).any fun b => isAsciiControl b || b == 0x20) ∨ containsChar '#' target ∨
      startsWithStr "http://" target ∨ startsWithStr "https://" target ∨ startsWithStr "//" target)
    (.invalidRequest "request target must be bounded origin-form without fragment")
  if target = "*" then
    failIf (method ≠ "OPTIONS") (.invalidRequest "asterisk-form is allowed only for OPTIONS")
  else failIf (¬ startsWithChar '/' target) (.invalidRequest "request target must use origin-form")

/-- The check of the authority in `serialize_request`. -/
def validateAuthority (authority : String) : Except Http1Error Unit :=
  failIf (authority = "" ∨
      (bytes authority).any fun b => isAsciiControl b || b == 0x20 || b == 0x2f || b == 0x5c || b == 0x40)
    (.invalidRequest "stream authority is malformed")

/-- `validate_request_header`: the name in lower case. -/
def validateRequestHeader (header : Http1Header) (limits : Http1Limits) : Except Http1Error String := do
  failIf (header.name = "" ∨ header.name.utf8ByteSize > limits.maximumHeaderNameBytes ∨
      ¬ (bytes header.name).all isTokenByte)
    (.invalidRequest "request header name is invalid")
  failIf (header.value.length > limits.maximumHeaderValueBytes ∨ hasControlBytes header.value)
    (.invalidRequest "request header value is invalid")
  pure (toAsciiLowercase header.name)

/-- `is_managed_request_header`. -/
def isManagedRequestHeader (name : String) : Bool :=
  ["host", "content-length", "transfer-encoding", "connection", "proxy-connection", "expect",
    "upgrade", "trailer", "te"].contains name

/-- `is_sensitive_request_header`. -/
def isSensitiveRequestHeader (name : String) : Bool :=
  ["authorization", "proxy-authorization", "cookie", "x-api-key", "x-csrf-token"].contains name

/-! ## The wire -/

/-- `append_request_prefix`. -/
def requestStart (request : Http1Request) (authority : String) : Bytes :=
  bytes request.method ++ bytes " " ++ bytes request.target ++ bytes " HTTP/1.1\r\nHost: " ++ bytes authority ++ crlf

/-- `append_header`. -/
def headerLine (name : String) (value : Bytes) : Bytes := bytes name ++ bytes ": " ++ value ++ crlf

/-- One of the caller's headers, behind the wire and the names so far. -/
def appendPublic (limits : Http1Limits) : Bytes × BTreeSet String → Http1Header →
    Except Http1Error (Bytes × BTreeSet String) := fun (output, publicNames) header => do
  let normalizedName ← validateRequestHeader header limits
  failIf (isManagedRequestHeader normalizedName)
    (.invalidRequest s!"caller cannot supply managed header: {normalizedName}")
  failIf (isSensitiveRequestHeader normalizedName)
    (.invalidRequest s!"caller cannot supply vault-managed header: {normalizedName}")
  pure (output ++ headerLine normalizedName header.value, publicNames.insert normalizedName)

/-- The part of `serialize_request` before the secret headers. -/
def publicPart (request : Http1Request) (authority : String) (limits : Http1Limits) :
    Except Http1Error (Bytes × BTreeSet String) := do
  validateMethod request.method
  validateTarget request.method request.target
  validateAuthority authority
  failIf (request.body.length > limits.maximumRequestBodyBytes)
    (.invalidRequest "request body exceeds configured limit")
  request.headers.foldlM (appendPublic limits) (requestStart request authority, ∅)

def framingLines (request : Http1Request) : Bytes :=
  headerLine "Content-Length" (bytes request.body.length.repr) ++ headerLine "Connection" (bytes "close") ++ crlf

/-- `SerializedRequest`. -/
structure SerializedRequest where
  wire : Bytes
  redactedAuditWire : Bytes
  headerCount : ℕ
  secretHeaderCount : ℕ
  secretLeaseFingerprint : Option String
  deriving DecidableEq

/-- The end of `serialize_request`, behind the two wires with all other headers. -/
def finishRequest (request : Http1Request) (limits : Http1Limits) (wires : Bytes × Bytes) (secretHeaderCount : ℕ)
    (secretLeaseFingerprint : Option String) : Except Http1Error SerializedRequest := do
  let output := wires.1 ++ framingLines request
  failIf (output.length > limits.maximumRequestHeaderBytes)
    (.invalidRequest "request header block exceeds configured limit")
  pure
    { wire := output ++ request.body
      redactedAuditWire := wires.2 ++ framingLines request ++ request.body
      headerCount := request.headers.length + secretHeaderCount + 3
      secretHeaderCount
      secretLeaseFingerprint }

def checkHeaderCount (request : Http1Request) (limits : Http1Limits) (secretHeaderCount : ℕ) :
    Except Http1Error Unit :=
  failIf (request.headers.length + secretHeaderCount + 3 > limits.maximumHeaderCount)
    (.invalidRequest "request header count exceeds configured limit")

/-- What `serialize_request` does with the batch of a lease. -/
def appendSecrets (request : Http1Request) (limits : Http1Limits) (output : Bytes) (publicNames : BTreeSet String)
    (batch : SecretHeaderBatch) : Except Http1Error SerializedRequest := do
  publicNames.toList.forM fun name =>
    failIf (batch.containsName name) (.invalidRequest s!"public and secret headers collide: {name}")
  checkHeaderCount request limits batch.headerCount
  let wires ← (batch.appendHttp1 (output, output)).mapError .secretHeaders
  finishRequest request limits wires batch.headerCount (some batch.leaseFingerprint)

/-- `serialize_request`, with the lease it leaves. -/
def serializeRequest (request : Http1Request) (authority scheme : String) (limits : Http1Limits)
    (secretHeaders : Option (SecretHeaderLease × ℤ)) :
    Except Http1Error SerializedRequest × Option SecretHeaderLease :=
  match publicPart request authority limits with
  | .error e => (.error e, secretHeaders.map (·.1))
  | .ok (output, publicNames) =>
    match secretHeaders with
    | none =>
      (do
        checkHeaderCount request limits 0
        finishRequest request limits (output, output) 0 none, none)
    | some (lease, nowEpochSeconds) =>
      let (batch, lease) := lease.takeFor authority scheme nowEpochSeconds
      (do
        let batch ← batch.mapError .secretHeaders
        appendSecrets request limits output publicNames batch, some lease)

variable {serialized : SerializedRequest}

theorem wire_ne_nil {request : Http1Request} {limits : Http1Limits} {wires : Bytes × Bytes}
    {secretHeaderCount : ℕ} {fingerprint : Option String}
    (h : finishRequest request limits wires secretHeaderCount fingerprint = .ok serialized) : serialized.wire ≠ [] := by
  simp only [finishRequest, do_eq_ok] at h
  obtain ⟨-, rfl⟩ := h
  simp [framingLines, crlf]

theorem serializeRequest_finished {request : Http1Request} {authority scheme : String} {limits : Http1Limits}
    {secretHeaders : Option (SecretHeaderLease × ℤ)} {lease : Option SecretHeaderLease}
    (h : serializeRequest request authority scheme limits secretHeaders = (.ok serialized, lease)) :
    ∃ wires count fingerprint, finishRequest request limits wires count fingerprint = .ok serialized := by
  unfold serializeRequest at h
  split at h
  · cases h
  · split at h
    · simp only [Prod.mk.injEq, do_eq_ok] at h
      exact ⟨_, _, _, h.1.2⟩
    · simp only [Prod.mk.injEq, do_eq_ok, appendSecrets] at h
      obtain ⟨⟨batch, -, -, -, wires, -, hfinish⟩, -⟩ := h
      exact ⟨_, _, _, hfinish⟩

end BoundSeal.Http1
