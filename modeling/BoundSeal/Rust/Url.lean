import BoundSeal.Rust.Text

/-!
# URLs, as the `url` crate presents them

A parsed `Url` is read through its accessors, which are the fields below. What
the parser guarantees about them is not assumed.
-/

namespace BoundSeal.Rust

/-- `url::Url`. -/
structure Url where
  scheme : String
  username : String
  password : Option String
  hostStr : Option String
  port : Option ℕ
  path : String
  query : Option String
  fragment : Option String
  deriving DecidableEq, Repr

namespace Url

def knownDefaultPort (scheme : String) : Option ℕ :=
  if scheme = "http" ∨ scheme = "ws" then some 80
  else if scheme = "https" ∨ scheme = "wss" then some 443
  else if scheme = "ftp" then some 21
  else none

/-- `Url::port_or_known_default`. -/
def portOrKnownDefault (url : Url) : Option ℕ := url.port.or (knownDefaultPort url.scheme)

def userinfo (url : Url) : String :=
  match url.password with
  | some password => url.username ++ ":" ++ password ++ "@"
  | none => if url.username = "" then "" else url.username ++ "@"

def toString (url : Url) : String :=
  let authority := match url.hostStr with
    | some host => "//" ++ url.userinfo ++ host ++ (url.port.elim "" fun port => s!":{port}")
    | none => ""
  url.scheme ++ ":" ++ authority ++ url.path ++ (url.query.elim "" fun query => "?" ++ query) ++
    (url.fragment.elim "" fun fragment => "#" ++ fragment)

end Url

end BoundSeal.Rust
