import BoundSeal.Rust.Net
import BoundSeal.Vault.Model

/-!
# `Set-Cookie` fields (`nxb-cookie-jar`)

`parseSetCookie` reads one field of a response: the cookie pair, then the
attributes one by one, then the rules on domain, path, prefixes and lifetime.
The date parser of the `httpdate` crate is a parameter, `parseHttpDate`, that
yields seconds from the epoch.
-/

namespace BoundSeal.Cookie

open Rust
open Vault (SameSitePolicy VaultError)

/-! ## Limits and errors -/

/-- `MAX_SET_COOKIE_HEADER_BYTES`. -/
def maxSetCookieHeaderBytes : ℕ := 8 * 1024

/-- `MAX_COOKIE_NAME_BYTES`. -/
def maxCookieNameBytes : ℕ := 256

/-- `MAX_COOKIE_VALUE_BYTES`. -/
def maxCookieValueBytes : ℕ := 4 * 1024

/-- `MAX_COOKIE_PATH_BYTES`. -/
def maxCookiePathBytes : ℕ := 2 * 1024

/-- `MAX_COOKIE_LIFETIME_SECONDS`. -/
def maxCookieLifetimeSeconds : ℤ := 400 * 24 * 60 * 60

/-- `CookieJarError`, without the audit errors. -/
inductive CookieJarError where
  | invalidConfig (message : String)
  | invalidIdentifier (name : String)
  | invalidOrigin
  | invalidRequestTarget
  | setCookieHeaderLimitExceeded
  | cookieRecordLimitExceeded
  | invalidSetCookie (message : String)
  | domainOutsideOrigin
  | publicSuffixLikeDomain
  | domainAttributeOnIpOrigin
  | secureCookieOverInsecureOrigin
  | sameSiteNoneWithoutSecure
  | securePrefixViolation
  | hostPrefixViolation
  | originOutsideBinding
  | cookieScopeEmpty
  | vaultCookieMetadataMismatch
  | rollbackFailed (message : String)
  | commitInvariant (message : String)
  | vault (error : VaultError)
  deriving DecidableEq, Repr

/-! ## Names, hosts and paths -/

/-- `trim_ascii`: blanks and tabs. -/
def trimAscii (value : Bytes) : Bytes :=
  (value.dropWhile fun b => b == 0x20 || b == 0x09).rdropWhile fun b => b == 0x20 || b == 0x09

def validateIdentifier (value name : String) : Except CookieJarError Unit :=
  failIf (value = "" ∨ value.utf8ByteSize > 256 ∨
      ¬ value.toList.all fun c => c.isAlphanum || c == '-' || c == '_' || c == '.' || c == ':')
    (.invalidIdentifier name)

def validateCookieName (name : String) : Except CookieJarError Unit :=
  failIf (name = "" ∨ name.utf8ByteSize > maxCookieNameBytes ∨ ¬ name.toList.all isTokenChar)
    (.invalidSetCookie "cookie name is not a bounded token")

def isCookieOctet (b : UInt8) : Bool :=
  b == 0x21 || (0x23 ≤ b && b ≤ 0x2b) || (0x2d ≤ b && b ≤ 0x3a) || (0x3c ≤ b && b ≤ 0x5b) ||
    (0x5d ≤ b && b ≤ 0x7e)

def validateCookieValue (value : Bytes) : Except CookieJarError Unit :=
  failIf (value.length > maxCookieValueBytes ∨ ¬ value.all isCookieOctet)
    (.invalidSetCookie "cookie value contains unsupported bytes")

/-- `normalize_rotation_name`. -/
def normalizeRotationName (value : String) : Except CookieJarError String := do
  validateCookieName value
  pure (toAsciiLowercase value)

/-- `normalize_host` of this crate. -/
def normalizeHost (host : String) : Except CookieJarError String := do
  let normalized := toAsciiLowercase (trimEndMatches '.' (trim host))
  failIf (normalized = "" ∨ normalized.utf8ByteSize > 253 ∨ startsWithChar '.' normalized ∨
      endsWithChar '.' normalized ∨ containsStr ".." normalized ∨
      normalized.toList.any fun c => isAsciiControlChar c || c == ' ')
    .invalidOrigin
  pure normalized

/-- The host of an authority: without brackets and without a port. -/
def authorityHost (authority : String) : Except CookieJarError String :=
  match authority.toList with
  | '[' :: rest => do
    failIf (']' ∉ rest) .invalidOrigin
    let suffix := (rest.dropWhile (· != ']')).drop 1
    failIf (suffix ≠ [] ∧
        (suffix.head? ≠ some ':' ∨ suffix.drop 1 = [] ∨ ¬ (suffix.drop 1).all Char.isDigit))
      .invalidOrigin
    pure (String.ofList (rest.takeWhile (· != ']')))
  | chars =>
    let port := (chars.dropWhile (· != ':')).drop 1
    if chars.count ':' = 1 ∧ port ≠ [] ∧ port.all Char.isDigit then
      .ok (String.ofList (chars.takeWhile (· != ':')))
    else .ok authority

/-- `normalize_authority_host`. -/
def normalizeAuthorityHost (authority : String) : Except CookieJarError String := do
  let authority := trim authority
  failIf (authority = "" ∨ containsChar '@' authority ∨ containsChar '/' authority ∨
    containsChar '\\' authority) .invalidOrigin
  let host ← authorityHost authority
  normalizeHost host

/-- `normalize_scheme`. -/
def normalizeScheme (scheme : String) : Except CookieJarError String := do
  let normalized := toAsciiLowercase (trim scheme)
  failIf (normalized ∉ ["http", "https"]) .invalidOrigin
  pure normalized

/-- `CookieOrigin`. -/
structure CookieOrigin where
  host : String
  scheme : String
  deriving DecidableEq, Repr

/-- `CookieOrigin::new`. -/
def CookieOrigin.new (authority scheme : String) : Except CookieJarError CookieOrigin := do
  let host ← normalizeAuthorityHost authority
  let scheme ← normalizeScheme scheme
  pure ⟨host, scheme⟩

/-- `normalize_domain_attribute`. -/
def normalizeDomainAttribute (value : Bytes) : Except CookieJarError String := do
  let text ← okOr (fromUtf8 value) (.invalidSetCookie "domain is not ASCII")
  let text := trimStartMatches '.' (trim text)
  failIf (endsWithChar '.' text) (.invalidSetCookie "domain must not have a trailing dot")
  normalizeHost text

/-- `normalize_cookie_path`. -/
def normalizeCookiePath (path : String) : Except CookieJarError String := do
  failIf (path = "" ∨ ¬ startsWithChar '/' path ∨ path.utf8ByteSize > maxCookiePathBytes ∨
      path.toList.any fun c => isAsciiControlChar c || c == ';')
    (.invalidSetCookie "cookie path is invalid")
  pure path

def validateRequestTarget (target : String) : Except CookieJarError Unit :=
  failIf (target = "" ∨ target.utf8ByteSize > 8 * 1024 ∨ ¬ startsWithChar '/' target ∨
      containsChar '#' target ∨ target.toList.any fun c => isAsciiControlChar c || c == ' ')
    .invalidRequestTarget

/-- `default_cookie_path`: the path up to its last slash. -/
def defaultCookiePath (requestTarget : String) : String :=
  let path := (splitChar '?' requestTarget).headD "/"
  if ¬ startsWithChar '/' path ∨ path = "/" then "/"
  else
    let before := (path.toList.rdropWhile (· != '/')).dropLast
    if before = [] then "/" else String.ofList before

/-- `domain_matches`: the vault's function. -/
def domainMatches (host domain : String) : Bool := Vault.domainMatches host domain

/-- `is_public_suffix_like`. -/
def isPublicSuffixLike (domain : String) : Bool :=
  !containsChar '.' domain ||
    ["com", "net", "org", "edu", "gov", "mil", "int", "io", "dev", "app", "co.uk", "org.uk",
      "ac.uk", "gov.uk", "com.tr", "org.tr", "net.tr", "gen.tr", "biz.tr", "info.tr", "web.tr",
      "com.au", "net.au", "org.au", "co.jp", "ne.jp", "co.nz"].contains domain

/-! ## Attributes -/

inductive AttributeName where
  | domain
  | path
  | maxAge
  | expires
  | secure
  | httpOnly
  | sameSite
  deriving DecidableEq, Repr

def AttributeName.ofText (name : String) : Option AttributeName :=
  if name = "domain" then some .domain
  else if name = "path" then some .path
  else if name = "max-age" then some .maxAge
  else if name = "expires" then some .expires
  else if name = "secure" then some .secure
  else if name = "httponly" then some .httpOnly
  else if name = "samesite" then some .sameSite
  else none

structure CookieAttributes where
  domain : Option String := none
  path : Option String := none
  maxAge : Option ℤ := none
  expires : Option ℤ := none
  secure : Bool := false
  httpOnly : Bool := false
  sameSite : SameSitePolicy := .unspecified
  deriving DecidableEq, Repr

/-- `required_attribute_value`. -/
def requiredAttributeValue (value : Option Bytes) (name : String) : Except CookieJarError Bytes := do
  let value ← okOr value (.invalidSetCookie s!"{name} requires a value")
  failIf (value = []) (.invalidSetCookie s!"{name} value is empty")
  pure value

/-- `str::parse::<i64>` of digits after an optional minus sign. -/
def parseI64 (text : String) : Option ℤ :=
  let (negative, digits) := match text.toList with
    | '-' :: digits => (true, digits)
    | digits => (false, digits)
  let value : ℤ := Nat.ofDigitChars 10 digits 0
  let value := if negative then -value else value
  if digits = [] ∨ value < i64Min ∨ i64Max < value then none else some value

/-- `parse_max_age`. -/
def parseMaxAge (value : Bytes) : Except CookieJarError ℤ := do
  let text ← okOr (fromUtf8 value) (.invalidSetCookie "Max-Age is not ASCII")
  -- a minus sign may stand in front; a plus sign is no digit
  let unsigned := if startsWithChar '-' text then text.toList.drop 1 else text.toList
  failIf (text = "" ∨ ¬ unsigned.all Char.isDigit)
    (.invalidSetCookie "Max-Age is not a strict decimal integer")
  okOr (parseI64 text) (.invalidSetCookie "Max-Age is out of range")

/-- `SameSite` values. -/
def parseSameSite (value : Bytes) : Except CookieJarError SameSitePolicy := do
  let text ← okOr (fromUtf8 value) (.invalidSetCookie "SameSite is invalid")
  let text := toAsciiLowercase text
  if text = "strict" then pure .strict
  else if text = "lax" then pure .lax
  else if text = "none" then pure .none
  else .error (.invalidSetCookie "SameSite value is unsupported")

section

variable (parseHttpDate : String → Option ℤ)

/-- One attribute, a round of the loop of `parse_set_cookie`. -/
def CookieAttributes.set (attributes : CookieAttributes) (rawValue : Option Bytes) :
    AttributeName → Except CookieJarError CookieAttributes
  | .domain => do
    let value ← requiredAttributeValue rawValue "domain"
    let domain ← normalizeDomainAttribute value
    pure { attributes with domain := some domain }
  | .path => do
    let value ← requiredAttributeValue rawValue "path"
    let text ← okOr (fromUtf8 value) (.invalidSetCookie "path is not valid UTF-8")
    let path ← normalizeCookiePath text
    pure { attributes with path := some path }
  | .maxAge => do
    let value ← requiredAttributeValue rawValue "max-age"
    let maxAge ← parseMaxAge value
    pure { attributes with maxAge := some maxAge }
  | .expires => do
    let value ← requiredAttributeValue rawValue "expires"
    let text ← okOr (fromUtf8 value) (.invalidSetCookie "expires is not valid ASCII")
    let expires ← okOr (parseHttpDate text) (.invalidSetCookie "expires is not a valid HTTP date")
    pure { attributes with expires := some expires }
  | .secure => do
    failIf (rawValue ≠ none) (.invalidSetCookie "Secure must not have a value")
    pure { attributes with secure := true }
  | .httpOnly => do
    failIf (rawValue ≠ none) (.invalidSetCookie "HttpOnly must not have a value")
    pure { attributes with httpOnly := true }
  | .sameSite => do
    let value ← requiredAttributeValue rawValue "samesite"
    let sameSite ← parseSameSite value
    pure { attributes with sameSite }

/-- A part before and after the first `=`, if there is one. -/
def splitAtEquals (segment : Bytes) : Bytes × Option Bytes :=
  if 0x3d ∈ segment then (segment.takeWhile (· != 0x3d), some ((segment.dropWhile (· != 0x3d)).drop 1))
  else (segment, none)

/-- One segment after the cookie pair; a name may occur once. -/
def parseSegment (state : BTreeSet String × CookieAttributes) (rawSegment : Bytes) :
    Except CookieJarError (BTreeSet String × CookieAttributes) := do
  let (seen, attributes) := state
  let segment := trimAscii rawSegment
  failIf (segment = []) (.invalidSetCookie "empty attribute segment is prohibited")
  let (rawName, rawValue) := splitAtEquals segment
  let name ← okOr (fromUtf8 (trimAscii rawName)) (.invalidSetCookie "attribute name is not ASCII")
  let name := toAsciiLowercase name
  failIf (name ∈ seen) (.invalidSetCookie s!"duplicate attribute: {name}")
  let known ← okOr (AttributeName.ofText name) (.invalidSetCookie s!"unsupported attribute: {name}")
  let attributes ← attributes.set parseHttpDate (rawValue.map trimAscii) known
  pure (seen.insert name, attributes)

structure CookiePair where
  name : String
  value : Bytes
  deriving DecidableEq, Repr

def parseCookiePair (segment : Bytes) : Except CookieJarError CookiePair := do
  let (rawName, rawValue) := splitAtEquals (trimAscii segment)
  let rawValue ← okOr rawValue (.invalidSetCookie "cookie pair does not contain '='")
  let value := trimAscii rawValue
  let name ← okOr (fromUtf8 (trimAscii rawName)) (.invalidSetCookie "cookie name is not ASCII")
  validateCookieName name
  validateCookieValue value
  pure ⟨name, value⟩

/-- The pair and the attributes of a field, as written. -/
def readSetCookie (header : Bytes) : Except CookieJarError (CookiePair × CookieAttributes) := do
  failIf (header = [] ∨ header.length > maxSetCookieHeaderBytes)
    (.invalidSetCookie "header size is outside the supported range")
  failIf (header.any fun b => b == 0x0d || b == 0x0a || b == 0)
    (.invalidSetCookie "header contains a prohibited control byte")
  let segments := header.splitOn 0x3b
  let pair ← parseCookiePair (segments.headD [])
  let (_, attributes) ← segments.tail.foldlM (parseSegment parseHttpDate) (∅, {})
  pure (pair, attributes)

end

/-! ## Rules -/

/-- `CookieKey`. -/
structure CookieKey where
  name : String
  domain : String
  path : String
  deriving DecidableEq, Repr

/-- `ParsedSetCookie`. -/
structure ParsedSetCookie where
  name : String
  value : Bytes
  domain : String
  path : String
  hostOnly : Bool
  expiresAtEpochSeconds : Option ℤ
  secure : Bool
  httpOnly : Bool
  sameSite : SameSitePolicy
  delete : Bool
  valueSha256 : String
  deriving DecidableEq, Repr

def ParsedSetCookie.key (self : ParsedSetCookie) : CookieKey := ⟨self.name, self.domain, self.path⟩

/-- The domain of a cookie, and whether it is for the origin host alone. -/
def cookieDomain (attributes : CookieAttributes) (origin : CookieOrigin) :
    Except CookieJarError (String × Bool) :=
  match attributes.domain with
  | some domain => do
    failIf ((IpAddr.parse origin.host).isSome ∨ (IpAddr.parse domain).isSome) .domainAttributeOnIpOrigin
    failIf (isPublicSuffixLike domain) .publicSuffixLikeDomain
    failIf (¬ domainMatches origin.host domain) .domainOutsideOrigin
    pure (domain, false)
  | none => .ok (origin.host, true)

/-- When a cookie expires, and whether that deletes it; `Max-Age` goes first. -/
def cookieLifetime (attributes : CookieAttributes) (nowEpochSeconds : ℤ) : Option ℤ × Bool :=
  match attributes.maxAge with
  | some maxAge =>
    if maxAge ≤ 0 then (some nowEpochSeconds, true)
    else (some (saturatingAddI64 nowEpochSeconds (min maxAge maxCookieLifetimeSeconds)), false)
  | none =>
    match attributes.expires with
    | some expires => (some expires, decide (expires ≤ nowEpochSeconds))
    | none => (none, false)

/-- `parse_set_cookie`. -/
def parseSetCookie (parseHttpDate : String → Option ℤ) (header : Bytes) (origin : CookieOrigin)
    (requestTarget : String) (nowEpochSeconds : ℤ) : Except CookieJarError ParsedSetCookie := do
  let (pair, attributes) ← readSetCookie parseHttpDate header
  failIf (attributes.secure = true ∧ origin.scheme ≠ "https") .secureCookieOverInsecureOrigin
  failIf (attributes.sameSite = .none ∧ attributes.secure = false) .sameSiteNoneWithoutSecure
  let (domain, hostOnly) ← cookieDomain attributes origin
  let path := attributes.path.getD (defaultCookiePath requestTarget)
  failIf (startsWithStr "__Secure-" pair.name ∧
    (attributes.secure = false ∨ origin.scheme ≠ "https")) .securePrefixViolation
  failIf (startsWithStr "__Host-" pair.name ∧
      (attributes.secure = false ∨ origin.scheme ≠ "https" ∨ hostOnly = false ∨ path ≠ "/"))
    .hostPrefixViolation
  let (expiresAtEpochSeconds, delete) := cookieLifetime attributes nowEpochSeconds
  pure
    { name := pair.name
      value := pair.value
      domain
      path
      hostOnly
      expiresAtEpochSeconds
      secure := attributes.secure
      httpOnly := attributes.httpOnly
      sameSite := attributes.sameSite
      delete
      valueSha256 := toLowerHex (Sha256.digest pair.value) }

structure Accepted (parseHttpDate : String → Option ℤ) (header : Bytes) (origin : CookieOrigin)
    (requestTarget : String) (now : ℤ) (attributes : CookieAttributes) (parsed : ParsedSetCookie) : Prop where
  read : readSetCookie parseHttpDate header = .ok (⟨parsed.name, parsed.value⟩, attributes)
  secure : parsed.secure = attributes.secure
  scheme : parsed.secure = true → origin.scheme = "https"
  hostOnly : parsed.hostOnly = true → attributes.domain = none ∧ parsed.domain = origin.host
  domain : parsed.hostOnly = false → attributes.domain = some parsed.domain ∧
    domainMatches origin.host parsed.domain = true
  path : parsed.path = attributes.path.getD (defaultCookiePath requestTarget)
  lifetime : (parsed.expiresAtEpochSeconds, parsed.delete) = cookieLifetime attributes now

variable {parseHttpDate : String → Option ℤ} {header : Bytes} {origin : CookieOrigin}
  {requestTarget : String} {now : ℤ} {parsed : ParsedSetCookie}

/-- What an accepted field satisfies. -/
theorem parseSetCookie_spec
    (h : parseSetCookie parseHttpDate header origin requestTarget now = .ok parsed) :
    ∃ attributes, Accepted parseHttpDate header origin requestTarget now attributes parsed := by
  simp only [parseSetCookie, do_eq_ok, Prod.exists, not_and] at h
  obtain ⟨pair, attributes, hread, hscheme, -, domain, hostOnly, hdomain, -, -, rfl⟩ := h
  refine ⟨attributes, hread, rfl, fun hsecure => not_not.mp (hscheme hsecure), ?_, ?_, rfl, rfl⟩
  · intro hhostOnly
    unfold cookieDomain at hdomain
    split at hdomain
    · simp only [do_eq_ok, Prod.mk.injEq] at hdomain
      rw [← hdomain.2.2.2.2] at hhostOnly
      cases hhostOnly
    · next hnone =>
      cases hdomain
      exact ⟨hnone, rfl⟩
  · intro hhostOnly
    unfold cookieDomain at hdomain
    split at hdomain
    · next hsome =>
      simp only [do_eq_ok, Prod.mk.injEq, not_not] at hdomain
      obtain ⟨-, -, hmatches, rfl, -⟩ := hdomain
      exact ⟨hsome, hmatches⟩
    · cases hdomain
      cases hhostOnly

/-! ## Normalised domains -/

theorem normalizeHost_eq_ok {host domain : String} (h : normalizeHost host = .ok domain) :
    toAsciiLowercase domain = domain ∧ domain.toList.getLast? ≠ some '.' := by
  simp only [normalizeHost, do_eq_ok, not_or] at h
  obtain ⟨⟨-, -, -, hend, -⟩, rfl⟩ := h
  refine ⟨toAsciiLowercase_idem _, ?_⟩
  intro hlast
  exact hend (by rw [endsWithChar, hlast]; rfl)

/-- **A normalised host that the vault accepts is normalised to itself.** -/
theorem normalizeHost_fixed {host domain accepted again : String}
    (h : normalizeHost host = .ok domain) (hvault : Vault.normalizeHost domain = .ok accepted)
    (hagain : normalizeHost domain = .ok again) : again = domain := by
  obtain ⟨hlower, hlast⟩ := normalizeHost_eq_ok h
  have hend : trimEndMatches '.' domain = domain := trimEndMatches_eq_self hlast
  simp only [Vault.normalizeHost, do_eq_ok, hend, hlower, not_or] at hvault
  obtain ⟨⟨-, -, -, -, hchars⟩, -⟩ := hvault
  have htrim : trim domain = domain := by
    refine trim_eq_self fun c hc => ?_
    have hallowed : c.isAlphanum = true ∨ c = '.' ∨ c = '-' := by
      by_contra hnot
      refine hchars (List.any_eq_true.mpr ⟨c, hc, ?_⟩)
      rw [not_or, not_or] at hnot
      simp [hnot.1, hnot.2.1, hnot.2.2]
    rcases hallowed with halpha | rfl | rfl
    · exact isWhitespace_of_isAlphanum halpha
    · decide
    · decide
  simp only [normalizeHost, do_eq_ok, htrim, hend, hlower] at hagain
  exact hagain.2.symm

theorem domain_of_parseSegment {state next : BTreeSet String × CookieAttributes} {segment : Bytes}
    (h : parseSegment parseHttpDate state segment = .ok next) {domain : String}
    (hdomain : next.2.domain = some domain) :
    state.2.domain = some domain ∨ ∃ host, normalizeHost host = .ok domain := by
  simp only [parseSegment, do_eq_ok] at h
  obtain ⟨-, _, -, -, known, -, attributes, hset, rfl⟩ := h
  cases known with
  | domain =>
    simp only [CookieAttributes.set, do_eq_ok, normalizeDomainAttribute] at hset
    obtain ⟨_, -, _, ⟨_, -, -, hhost⟩, rfl⟩ := hset
    cases hdomain
    exact .inr ⟨_, hhost⟩
  | path | maxAge | expires | secure | httpOnly | sameSite =>
    simp only [CookieAttributes.set, do_eq_ok] at hset
    first
      | (obtain ⟨-, rfl⟩ := hset; exact .inl hdomain)
      | (obtain ⟨_, -, _, -, rfl⟩ := hset; exact .inl hdomain)
      | (obtain ⟨_, -, _, -, _, -, rfl⟩ := hset; exact .inl hdomain)

theorem Accepted.normalDomain {attributes : CookieAttributes}
    (h : Accepted parseHttpDate header origin requestTarget now attributes parsed)
    (horigin : ∃ host, normalizeHost host = .ok origin.host) : ∃ host, normalizeHost host = .ok parsed.domain := by
  cases hhostOnly : parsed.hostOnly with
  | true =>
    rw [(h.hostOnly hhostOnly).2]
    exact horigin
  | false =>
    have hread := h.read
    simp only [readSetCookie, do_eq_ok, Prod.exists, Prod.mk.injEq] at hread
    obtain ⟨-, -, _, -, _, _, hfold, -, rfl⟩ := hread
    refine foldlM_keeps (I := fun state => ∀ domain, state.2.domain = some domain → ∃ host,
      normalizeHost host = .ok domain)
      (fun hstep hstate domain hdomain => ?_) hfold (fun _ hnone => by cases hnone) _ (h.domain hhostOnly).1
    exact (domain_of_parseSegment hstep hdomain).elim (hstate domain) id

theorem CookieOrigin.normal_of_new {authority scheme : String} (h : CookieOrigin.new authority scheme = .ok origin) :
    ∃ host, normalizeHost host = .ok origin.host := by
  simp only [CookieOrigin.new, normalizeAuthorityHost, do_eq_ok] at h
  obtain ⟨_, ⟨-, host, -, hhost⟩, _, -, rfl⟩ := h
  exact ⟨host, hhost⟩

end BoundSeal.Cookie
