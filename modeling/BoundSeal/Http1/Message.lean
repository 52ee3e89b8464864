import BoundSeal.Rust.Text

/-!
# HTTP/1 messages (`nxb-http1`, `model.rs`)

The request and response values the codec and the redirect coordinator pass
around. Names are texts, everything else on the wire is bytes.
-/

namespace BoundSeal.Http1

open Rust

structure Http1Header where
  name : String
  value : Bytes
  deriving DecidableEq, Repr

structure Http1Request where
  method : String
  target : String
  headers : List Http1Header
  body : Bytes
  deriving DecidableEq, Repr

/-- `Http1Request::new`. -/
def Http1Request.new (method target : String) : Http1Request := ⟨method, target, [], []⟩

inductive Http1Version where
  | http10
  | http11
  deriving DecidableEq, Repr

def Http1Version.code : Http1Version → String
  | .http10 => "http_1_0"
  | .http11 => "http_1_1"

inductive Http1Framing where
  | noBody
  | contentLength (length : ℕ)
  | chunked
  | connectionClose
  deriving DecidableEq, Repr

def Http1Framing.code : Http1Framing → String
  | .noBody => "no_body"
  | .contentLength _ => "content_length"
  | .chunked => "chunked"
  | .connectionClose => "connection_close"

/-- `Http1Response`. -/
structure Http1Response where
  version : Http1Version
  statusCode : ℕ
  reason : Bytes
  headers : List Http1Header
  trailers : List Http1Header
  body : Bytes
  framing : Http1Framing
  interimResponses : ℕ
  deriving DecidableEq, Repr

/-! ## Bytes of the ASCII range (`u8::is_ascii_*`) -/

/-- `u8::is_ascii_control`. -/
def isAsciiControl (b : UInt8) : Bool := b < 0x20 || b == 0x7f

/-- `u8::is_ascii_whitespace`. -/
def isAsciiWhitespace (b : UInt8) : Bool :=
  b == 0x20 || b == 0x09 || b == 0x0a || b == 0x0c || b == 0x0d

end BoundSeal.Http1
