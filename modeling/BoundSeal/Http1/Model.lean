import BoundSeal.Http1.Message
import BoundSeal.Stream.Model
import BoundSeal.Vault.Model

/-!
# Limits, errors, receipts and audit of the HTTP/1 codec (`nxb-http1`, `model.rs`, `audit.rs`)
-/

namespace BoundSeal.Http1

open Rust Lib
open BoundSeal.Stream (StreamError StreamState StreamOperationOutcome)
open BoundSeal.Vault (VaultError)

/-! ## Errors -/

inductive Http1AuditError where
  | invalidGenesisHash
  | chain (error : ChainError)
  deriving DecidableEq, Repr

inductive Http1Error where
  | invalidLimits (reason : String)
  | invalidRequest (reason : String)
  | invalidResponse (reason : String)
  | truncatedResponse (reason : String)
  | stream (error : StreamError)
  | streamState (state : StreamState)
  | streamOutcome (outcome : StreamOperationOutcome)
  | backpressureBudgetExceeded
  | exchangeAlreadyCompleted
  | secretHeaders (error : VaultError)
  | audit (error : Http1AuditError)
  | streamAudit (error : ChainError)
  deriving DecidableEq, Repr

/-! ## Limits -/

def maxHttpHeaderBytes : ℕ := 256 * 1024

def maxHttpHeaders : ℕ := 512

def maxHttpBodyBytes : ℕ := 64 * 1024 * 1024

def maxHttpChunks : ℕ := 65536

def maxHttpTrailerBytes : ℕ := 64 * 1024

def maxHttpInterimResponses : ℕ := 32

def maxHttpOperationBytes : ℕ := 64 * 1024

def maxHttpBackpressureEvents : ℕ := 1024

def maxHttpWireBytes : ℕ := 96 * 1024 * 1024

/-- `Http1Limits`. -/
structure Http1Limits where
  maximumRequestHeaderBytes : ℕ
  maximumResponseHeaderBytes : ℕ
  maximumHeaderCount : ℕ
  maximumHeaderNameBytes : ℕ
  maximumHeaderValueBytes : ℕ
  maximumRequestBodyBytes : ℕ
  maximumResponseBodyBytes : ℕ
  maximumChunkBytes : ℕ
  maximumChunkCount : ℕ
  maximumTrailerBytes : ℕ
  maximumTrailerCount : ℕ
  maximumInterimResponses : ℕ
  ioOperationBytes : ℕ
  maximumBackpressureEvents : ℕ
  maximumResponseWireBytes : ℕ
  deriving DecidableEq, Repr

/-- `validate_nonzero_cap`. -/
def validateNonzeroCap (value cap : ℕ) (name : String) : Except Http1Error Unit :=
  failIf (value = 0 ∨ value > cap) (.invalidLimits s!"{name} is outside the supported range")

namespace Http1Limits

def conservativeDefault : Http1Limits where
  maximumRequestHeaderBytes := 32 * 1024
  maximumResponseHeaderBytes := 64 * 1024
  maximumHeaderCount := 128
  maximumHeaderNameBytes := 128
  maximumHeaderValueBytes := 8 * 1024
  maximumRequestBodyBytes := 2 * 1024 * 1024
  maximumResponseBodyBytes := 8 * 1024 * 1024
  maximumChunkBytes := 1024 * 1024
  maximumChunkCount := 4096
  maximumTrailerBytes := 16 * 1024
  maximumTrailerCount := 32
  maximumInterimResponses := 8
  ioOperationBytes := 16 * 1024
  maximumBackpressureEvents := 32
  maximumResponseWireBytes := 16 * 1024 * 1024

/-- `Http1Limits::validate`. -/
def validate (self : Http1Limits) : Except Http1Error Http1Limits := do
  validateNonzeroCap self.maximumRequestHeaderBytes maxHttpHeaderBytes "request_header_bytes"
  validateNonzeroCap self.maximumResponseHeaderBytes maxHttpHeaderBytes "response_header_bytes"
  validateNonzeroCap self.maximumHeaderCount maxHttpHeaders "header_count"
  validateNonzeroCap self.maximumHeaderNameBytes 1024 "header_name_bytes"
  validateNonzeroCap self.maximumHeaderValueBytes maxHttpHeaderBytes "header_value_bytes"
  validateNonzeroCap self.maximumRequestBodyBytes maxHttpBodyBytes "request_body_bytes"
  validateNonzeroCap self.maximumResponseBodyBytes maxHttpBodyBytes "response_body_bytes"
  validateNonzeroCap self.maximumChunkBytes self.maximumResponseBodyBytes "chunk_bytes"
  validateNonzeroCap self.maximumChunkCount maxHttpChunks "chunk_count"
  validateNonzeroCap self.maximumTrailerBytes maxHttpTrailerBytes "trailer_bytes"
  validateNonzeroCap self.maximumTrailerCount self.maximumHeaderCount "trailer_count"
  validateNonzeroCap self.maximumInterimResponses maxHttpInterimResponses "interim_responses"
  validateNonzeroCap self.ioOperationBytes maxHttpOperationBytes "io_operation_bytes"
  validateNonzeroCap self.maximumBackpressureEvents maxHttpBackpressureEvents "backpressure_events"
  validateNonzeroCap self.maximumResponseWireBytes maxHttpWireBytes "response_wire_bytes"
  failIf (self.maximumResponseWireBytes < self.maximumResponseBodyBytes)
    (.invalidLimits "response wire budget must cover response body budget")
  pure self

end Http1Limits

/-! ## Receipts and audit -/

/-- The fields that receipts and audit events share. -/
structure ExchangeFields where
  exchangeId : String
  streamId : String
  executionId : String
  requestMethod : String
  requestTargetSha256 : String
  requestWireSha256 : String
  requestBodySha256 : String
  requestHeaderCount : ℕ
  requestBodyBytes : ℕ
  responseWireSha256 : String
  responseBodySha256 : String
  responseStatus : ℕ
  responseVersion : String
  responseFraming : String
  responseHeaderCount : ℕ
  responseTrailerCount : ℕ
  responseBodyBytes : ℕ
  interimResponses : ℕ
  streamAuditBefore : String
  streamAuditAfter : String
  deriving DecidableEq, Repr

/-- `Http1ExchangeReceipt`. -/
structure Http1ExchangeReceipt extends ExchangeFields where
  httpAuditTail : String
  deriving DecidableEq, Repr

structure Http1Exchange where
  response : Http1Response
  receipt : Http1ExchangeReceipt

/-- `Http1AuditEvent`. -/
structure Http1AuditEvent extends ExchangeFields where
  metadata : BTreeMap String String

def Http1AuditEvent.toJson (event : Http1AuditEvent) : Json :=
  .object [("exchange_id", .text event.exchangeId), ("stream_id", .text event.streamId),
    ("execution_id", .text event.executionId), ("request_method", .text event.requestMethod),
    ("request_target_sha256", .text event.requestTargetSha256),
    ("request_wire_sha256", .text event.requestWireSha256),
    ("request_body_sha256", .text event.requestBodySha256),
    ("request_header_count", .number event.requestHeaderCount),
    ("request_body_bytes", .number event.requestBodyBytes),
    ("response_wire_sha256", .text event.responseWireSha256),
    ("response_body_sha256", .text event.responseBodySha256), ("response_status", .number event.responseStatus),
    ("response_version", .text event.responseVersion), ("response_framing", .text event.responseFraming),
    ("response_header_count", .number event.responseHeaderCount),
    ("response_trailer_count", .number event.responseTrailerCount),
    ("response_body_bytes", .number event.responseBodyBytes),
    ("interim_responses", .number event.interimResponses),
    ("stream_audit_before", .text event.streamAuditBefore), ("stream_audit_after", .text event.streamAuditAfter),
    ("metadata", textMapJson event.metadata)]

/-- `Http1AuditChain`: a chain on the tail of the stream's audit. -/
structure Http1AuditChain extends HashChain Http1AuditEvent where
  genesisHash : String

namespace Http1AuditChain

def new (genesisHash : String) : Except Http1AuditError Http1AuditChain := do
  failIf (¬ isLowerHexSha256 genesisHash) .invalidGenesisHash
  pure { HashChain.start genesisHash with genesisHash }

def append (self : Http1AuditChain) (event : Http1AuditEvent) : Http1AuditChain :=
  { self with toHashChain := HashChain.append (recordHash Http1AuditEvent.toJson) self.toHashChain event }

/-- `Http1AuditChain::verify`. -/
def verify (self : Http1AuditChain) : Except ChainError Unit :=
  HashChain.verify (recordHash Http1AuditEvent.toJson) self.genesisHash self.toHashChain

end Http1AuditChain

end BoundSeal.Http1
