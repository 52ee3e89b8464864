import BoundSeal.Rust.Text
import BoundSeal.Rust.Result

/-!
# Passive requests

The request of `nxb-live-adapter`: a method that only reads and a target whose
path names none of the denied actions.
-/

namespace BoundSeal.Live

open Rust

/-- `MAX_LIVE_REQUEST_TARGET_BYTES`. -/
def maxLiveRequestTargetBytes : ℕ := 4 * 1024

/-- `DENIED_PATH_SEGMENTS`. -/
def deniedPathSegments : List String :=
  ["delete", "destroy", "disable", "drop", "logoff", "logout", "remove", "reset", "revoke",
   "shutdown", "signout", "terminate", "unsubscribe"]

/-- `PassiveMethod`. -/
inductive PassiveMethod where
  | get
  | head
deriving DecidableEq, Repr

/-- `PassiveMethod::code`. -/
def PassiveMethod.code : PassiveMethod → String
  | .get => "GET"
  | .head => "HEAD"

/-- The errors of `LiveAdapterError` that a request can cause. -/
inductive RequestTargetError where
  | invalidRequestTarget
  | deniedRequestTarget
deriving DecidableEq, Repr

/-- `LivePassiveRequest`. -/
structure LivePassiveRequest where
  method : PassiveMethod
  target : String
deriving DecidableEq

namespace LivePassiveRequest

/-- `LivePassiveRequest::validate`. -/
def validate (request : LivePassiveRequest) : Except RequestTargetError Unit := do
  failIf (request.target = "" ∨ maxLiveRequestTargetBytes < request.target.utf8ByteSize ∨
    ¬ startsWithChar '/' request.target ∨ startsWithStr "//" request.target ∨ containsChar '?' request.target ∨
    containsChar '#' request.target ∨ containsChar '%' request.target ∨ containsChar '\\' request.target ∨
    request.target.toList.any fun c => isAsciiControlChar c || c == ' ') .invalidRequestTarget
  failIf ((splitChar '/' request.target).any fun segment =>
    deniedPathSegments.any (eqIgnoreAsciiCase segment)) .deniedRequestTarget

end LivePassiveRequest

end BoundSeal.Live
