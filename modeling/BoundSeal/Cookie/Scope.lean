import BoundSeal.Cookie.Runs

/-!
# The scope of committed cookies

What a transaction stores is sent only where the response allowed it. The scope is
kept in three places: the parser binds the domain to the origin, the jar cuts the
binding's hosts down to the domain, and the vault compares the request with both.

Hosts are compared after normalisation: the vault lower-cases the hosts of a
binding and strips their trailing dots, the jar takes them as they are.
-/

namespace BoundSeal.Cookie

open Rust Lib
open Vault (InMemorySecretVault SecretBinding SecretEntry SecretHandle VaultAccessContext VaultEvent Contribution
  PutsOn StoresUnder)

/-! ## New secrets -/

section

variable {binding : SecretBinding} {origin : CookieOrigin} {generation : ℕ} {now : ℤ}
  {vault post : InMemorySecretVault}

variable {handle : SecretHandle} {entry : SecretEntry}

theorem revokeHandles_entries {handles : List SecretHandle} {result : Except Vault.VaultError Unit}
    (h : revokeHandles handles vault = (result, post))
    (hentry : post.entries[handle]? = some entry) : vault.entries[handle]? = some entry := by
  induction handles generalizing vault with
  | nil =>
    cases h
    exact hentry
  | cons first handles ih =>
    rw [revokeHandles] at h
    split at h
    · cases h
      exact hentry
    next mid hrevoke =>
    obtain ⟨-, hentries, -⟩ := Vault.InMemorySecretVault.revokeSecret_eq_ok hrevoke
    have hmid := ih h
    rw [hentries] at hmid
    by_cases heq : first = handle
    · rw [heq, getElem?_erase_self] at hmid
      cases hmid
    · rwa [getElem?_erase_of_ne _ heq] at hmid

/-- A secret that is new after the staging loop was stored for an accepted field. -/
theorem stage_entries {mutations : List (CookieKey × CookieMutation)}
    {staged staged' : BTreeMap CookieKey CookieRecord}
    (h : stage binding origin generation now mutations staged vault = (.ok staged', post))
    (hentry : post.entries[handle]? = some entry) :
    vault.entries[handle]? = some entry ∨
      ∃ key parsed, (key, CookieMutation.set parsed) ∈ mutations ∧
        StagedEntry binding origin now parsed handle entry := by
  induction mutations generalizing vault staged with
  | nil =>
    cases h
    exact .inl hentry
  | cons mutation mutations ih =>
    obtain ⟨key, mutation⟩ := mutation
    have hlater : ∀ {mid : InMemorySecretVault} {staged : BTreeMap CookieKey CookieRecord},
        stage binding origin generation now mutations staged mid = (.ok staged', post) →
        mid.entries[handle]? = some entry ∨
          ∃ key' parsed, (key', CookieMutation.set parsed) ∈ (key, mutation) :: mutations ∧
            StagedEntry binding origin now parsed handle entry := by
      intro mid staged hstage
      refine (ih hstage).imp id ?_
      rintro ⟨key', parsed, hmem, hstaged⟩
      exact ⟨key', parsed, List.mem_cons_of_mem _ hmem, hstaged⟩
    cases mutation with
    | delete =>
      exact hlater h
    | set parsed =>
      rw [stage] at h
      split at h
      · cases h
      next allowedHosts hhosts =>
      dsimp only at h
      split at h
      · cases h
      split at h
      · cases h
      next handle' mid hinsert =>
      rcases Vault.InMemorySecretVault.insert_cases hinsert with ⟨e, herror, -⟩ | ⟨_, hok, hinserted⟩
      · cases herror
      cases hok
      obtain ⟨normalized, hnormalized, hentries⟩ := hinserted.entries
      rcases hlater h with hmid | hstaged
      · rw [hentries] at hmid
        by_cases heq : handle' = handle
        · subst heq
          rw [getElem?_insert_self, Option.some.injEq] at hmid
          exact .inr ⟨key, parsed, List.mem_cons_self,
            ⟨allowedHosts, normalized, hhosts, hinserted.validated, hnormalized, hmid.symm⟩⟩
        · rw [getElem?_insert_of_ne _ _ heq] at hmid
          exact .inl hmid
      · exact .inr hstaged

/-- **A secret that is new after a transaction was stored for an accepted field.** -/
theorem applyResponse_entries {parseHttpDate : String → Option ℤ} {jar jar' : CookieJar}
    {requestTarget : String} {setCookieValues : List Bytes} {commit : CookieCommit}
    (h : jar.applyResponse parseHttpDate vault binding origin requestTarget setCookieValues now =
      (.ok commit, jar', post))
    (hentry : post.entries[handle]? = some entry)
    (hnew : vault.entries[handle]? ≠ some entry) :
    ∃ normalized mutations, Planned parseHttpDate jar vault binding origin requestTarget setCookieValues now
        normalized mutations ∧
      ∃ key parsed, mutations[(key : CookieKey)]? = some (.set parsed) ∧
        StagedEntry binding normalized now parsed handle entry := by
  rw [CookieJar.applyResponse] at h
  split at h
  · cases h
  next normalized mutations supersededHeaders hplan =>
  dsimp only at h
  split at h
  · cases h
  next staged mid hstage =>
  split at h
  · cases h
  next vault' hrevoke =>
  split at h
  · cases h
  cases h
  have hmid := revokeHandles_entries hrevoke hentry
  rcases stage_entries hstage hmid with hold | ⟨key, parsed, hmem, hstaged⟩
  · exact absurd hold hnew
  · exact ⟨normalized, mutations, plan_spec hplan, key, parsed,
      Std.ExtTreeMap.mem_toList_iff_getElem?_eq_some.mp hmem, hstaged⟩

end

/-! ## Where a secret is released -/

/-- Where a cookie that was accepted may be sent. -/
structure Confined (binding : SecretBinding) (origin : CookieOrigin) (attributes : CookieAttributes)
    (parsed : ParsedSetCookie) (context : VaultAccessContext) (requestTarget : String) (now : ℤ) : Prop where
  /-- The authority is a host of the binding, as the vault normalises hosts. -/
  host : ∃ host ∈ binding.allowedHosts, Vault.normalizeHost host = .ok context.authority
  /-- Without a `Domain` attribute it is the origin's host. -/
  hostOnly : attributes.domain = none → context.authority = origin.host
  /-- With one, both it and the origin's host match the domain. -/
  domain : ∀ domain, attributes.domain = some domain →
    domainMatches context.authority domain = true ∧ domainMatches origin.host domain = true
  path : Vault.cookiePathMatches requestTarget parsed.path = true
  secure : attributes.secure = true → context.scheme = "https"
  identity : Vault.sameIdentity binding context
  unexpired : ∀ expires, parsed.expiresAtEpochSeconds = some expires → now < expires

theorem vault_normalizeHost_eq {host domain accepted : String} (h : normalizeHost host = .ok domain)
    (hvault : Vault.normalizeHost domain = .ok accepted) : accepted = domain := by
  obtain ⟨hlower, hlast⟩ := normalizeHost_eq_ok h
  have hend : trimEndMatches '.' domain = domain := trimEndMatches_eq_self hlast
  simp only [Vault.normalizeHost, do_eq_ok, hend, hlower] at hvault
  exact hvault.2.symm

variable {binding : SecretBinding} {origin : CookieOrigin}

theorem allowedHostsForCookie_spec {parsed : ParsedSetCookie}
    {allowedHosts : BTreeSet String} (h : allowedHostsForCookie binding origin parsed = .ok allowedHosts)
    {host : String} (hmem : host ∈ allowedHosts) :
    (parsed.hostOnly = true ∧ host = origin.host) ∨ (parsed.hostOnly = false ∧ host ∈ binding.allowedHosts) := by
  simp only [allowedHostsForCookie, do_eq_ok] at h
  obtain ⟨-, rfl⟩ := h
  cases hhostOnly : parsed.hostOnly with
  | true =>
    rw [hhostOnly, if_pos rfl] at hmem
    have heq : origin.host = host := by simpa using hmem
    exact .inl ⟨rfl, heq.symm⟩
  | false =>
    rw [hhostOnly, if_neg Bool.false_ne_true, Std.ExtTreeSet.mem_filter] at hmem
    exact .inr ⟨rfl, hmem.1⟩

/-- **A stored cookie is released in its scope only.** -/
theorem StagedEntry.confined {attributes : CookieAttributes}
    {parsed : ParsedSetCookie} {handle : SecretHandle} {entry : SecretEntry}
    {parseHttpDate : String → Option ℤ} {header : Bytes} {target : String} {stored : ℤ}
    (h : StagedEntry binding origin stored parsed handle entry)
    (haccepted : Accepted parseHttpDate header origin target stored attributes parsed)
    (horigin : ∃ host, normalizeHost host = .ok origin.host) (hhost : origin.host ∈ binding.allowedHosts)
    {context : VaultAccessContext} {requestTarget : String} {now : ℤ} {contribution : Contribution}
    (hcontribution : entry.contribution context requestTarget now = .ok contribution)
    (hput : contribution ≠ .nothing) :
    Confined binding origin attributes parsed context requestTarget now := by
  obtain ⟨allowedHosts, normalized, hhosts, -, hnormalized, rfl⟩ := h.stored
  have hreleased := (Vault.InMemorySecretVault.contribution_cases hcontribution).resolve_left hput
  obtain ⟨cookie, hdelivery, -, happlies⟩ | ⟨_, _, hdelivery, -⟩ := hreleased.value
  · cases hdelivery
    simp only [Vault.cookieApplies, do_eq_ok, Bool.and_eq_true, Bool.not_eq_true'] at happlies
    obtain ⟨domain, hdomain, ⟨⟨hmatches, hpath⟩, hsecure⟩, hexpired⟩ := happlies
    obtain ⟨raw, hraw⟩ := haccepted.normalDomain horigin
    have hsame : domain = parsed.domain := vault_normalizeHost_eq hraw hdomain
    simp only [Vault.normalizedBinding, do_eq_ok] at hnormalized
    obtain ⟨-, -, -, -, -, -, hostSet, hhostSet, _, -, rfl⟩ := hnormalized
    obtain ⟨host, hmem, hnormal⟩ := (mem_collectSet hhostSet).mp hreleased.host
    refine ⟨?_, ?_, ?_, hpath, ?_, hreleased.identity, ?_⟩
    · rcases allowedHostsForCookie_spec hhosts hmem with ⟨-, rfl⟩ | ⟨-, hallowed⟩
      · exact ⟨_, hhost, hnormal⟩
      · exact ⟨host, hallowed, hnormal⟩
    · intro hnone
      rcases allowedHostsForCookie_spec hhosts hmem with ⟨-, rfl⟩ | ⟨hnot, -⟩
      · obtain ⟨_, hnormalHost⟩ := horigin
        exact vault_normalizeHost_eq hnormalHost hnormal
      · rw [(haccepted.domain hnot).1] at hnone
        cases hnone
    · intro domain' hsome
      have hhostOnly : parsed.hostOnly = false := by
        cases hhostOnly : parsed.hostOnly with
        | false => rfl
        | true =>
          rw [(haccepted.hostOnly hhostOnly).1] at hsome
          cases hsome
      obtain ⟨hattribute, horiginMatches⟩ := haccepted.domain hhostOnly
      rw [hattribute] at hsome
      cases hsome
      exact ⟨hsame ▸ hmatches, horiginMatches⟩
    · intro hsecureSet
      have hset : parsed.secure = true := haccepted.secure.trans hsecureSet
      simpa [secretInputOf, hset] using hsecure
    · intro expires hexpires
      simpa [Vault.isExpired, secretInputOf, hexpires] using hexpired
  · cases hdelivery

/-! ## Later runs of the vault -/

/-- **Cookies are confined.** A secret that a transaction stored comes from an accepted
field, and whatever the vault is asked afterwards, its value is put on a request in
the scope of that field only, for as long as it is the secret under its handle. -/
theorem committed_cookie_confined {parseHttpDate : String → Option ℤ} {jar jar' : CookieJar}
    {vault vault' : InMemorySecretVault} {binding : SecretBinding} {origin : CookieOrigin}
    {requestTarget : String} {setCookieValues : List Bytes} {now : ℤ} {commit : CookieCommit}
    (h : jar.applyResponse parseHttpDate vault binding origin requestTarget setCookieValues now =
      (.ok commit, jar', vault'))
    {handle : SecretHandle} {entry : SecretEntry} (hentry : vault'.entries[handle]? = some entry)
    (hnew : vault.entries[handle]? ≠ some entry) :
    ∃ normalized, CookieOrigin.new origin.host origin.scheme = .ok normalized ∧
      ∃ header ∈ setCookieValues, ∃ attributes parsed,
        Accepted parseHttpDate header normalized requestTarget now attributes parsed ∧ entry.value = parsed.value ∧
        ∀ (es : List VaultEvent) (later : InMemorySecretVault), Run InMemorySecretVault.step vault' es later →
          ∀ (k : ℕ) (e : VaultEvent), es[k]? = some e → (∀ f ∈ es.take k, ¬ StoresUnder f handle) →
          ∀ context target t, PutsOn e handle context target t →
            Confined binding normalized attributes parsed context target t := by
  obtain ⟨normalized, mutations, hplanned, key, parsed, hset, hstaged⟩ := applyResponse_entries h hentry hnew
  obtain ⟨header, hmem, hparsed, -⟩ := hplanned.parsed_set hset
  obtain ⟨attributes, haccepted⟩ := parseSetCookie_spec hparsed
  refine ⟨normalized, hplanned.origin, header, hmem, attributes, parsed, haccepted, ?_, ?_⟩
  · obtain ⟨_, _, -, -, -, rfl⟩ := hstaged.stored
    rfl
  · intro es later hrun k e hk hsince context target t hputs
    obtain ⟨_, _, _, _, _, entry', contribution, -, -, -, -, -, hentry', hcontribution, hput⟩ := hputs
    have hsame := Vault.entry_of_run (hrun.before hk) hsince hentry'
    rw [hentry] at hsame
    cases hsame
    exact hstaged.confined haccepted (CookieOrigin.normal_of_new hplanned.origin) hplanned.host hcontribution hput

/-! ## A host spelled in upper case -/

/-- A binding that spells one of its hosts in upper case. -/
def wideBinding : SecretBinding :=
  { testBinding with allowedHosts := Std.ExtTreeSet.ofList ["example.com", "A.example.com"] compare }

def wideResult : Except CookieJarError CookieCommit × CookieJar × InMemorySecretVault :=
  testJar.applyResponse (fun _ => none) Vault.testVault wideBinding ⟨"example.com", "https"⟩ "/"
    [bytes "a=1; Domain=example.com"] 0

theorem isOk_wideResult : wideResult.1.isOk = true := by decide +kernel

theorem apply_wide : testJar.applyResponse (fun _ => none) Vault.testVault wideBinding ⟨"example.com", "https"⟩ "/"
    [bytes "a=1; Domain=example.com"] 0 = (.ok (unwrap wideResult.1 isOk_wideResult), wideResult.2) :=
  Prod.ext (eq_ok_unwrap _ isOk_wideResult) rfl

/-- A context on that host, in the spelling the vault gives it. -/
def wideContext : VaultAccessContext := { Vault.testContext with authority := "a.example.com" }

theorem puts_wide : ∃ entry es later e, wideResult.2.2.entries[Vault.testHandle]? = some entry ∧
    Vault.testVault.entries[Vault.testHandle]? ≠ some entry ∧ Run InMemorySecretVault.step wideResult.2.2 es later ∧
    es[1]? = some e ∧ (∀ f ∈ es.take 1, ¬ StoresUnder f Vault.testHandle) ∧
    PutsOn e Vault.testHandle wideContext "/" 1 := by
  have hcalls : (runCalls InMemorySecretVault.step wideResult.2.2 (Vault.useCalls wideContext)).map
      (fun r => (r.1[1]?.any (Vault.putsOnCheck wideContext), (r.1.take 1).all Vault.isLease)) =
        some (true, true) := by decide +kernel
  obtain ⟨es, later, hrun, hchecked⟩ := exists_run_of_map_runCalls hcalls
  obtain ⟨hsecond, hfirst⟩ := Prod.mk.inj hchecked
  obtain ⟨e, he, hputs⟩ := (Option.any_eq_true _ _).mp hsecond
  refine ⟨_, es, later, e, (Option.some_get (by decide +kernel)).symm, ?_, hrun, he, ?_,
    (Vault.putsOn_of_check hputs).2⟩
  · rw [show Vault.testVault.entries[Vault.testHandle]? = none from Std.ExtTreeMap.getElem?_empty]
    exact nofun
  · intro f hf hstores
    have hlease := List.all_eq_true.mp hfirst f hf
    rw [Vault.isLease, hstores] at hlease
    cases hlease

theorem committed_cookie_confined_wide :
    ∃ es later e, Run InMemorySecretVault.step wideResult.2.2 es later ∧ es[1]? = some e ∧
      PutsOn e Vault.testHandle wideContext "/" 1 ∧
      ∃ origin, CookieOrigin.new "example.com" "https" = .ok origin ∧
        ∃ attributes parsed, Confined wideBinding origin attributes parsed wideContext "/" 1 := by
  obtain ⟨entry, es, later, e, hentry, hnew, hrun, he, hsince, hputs⟩ := puts_wide
  obtain ⟨origin, horigin, _, -, attributes, parsed, -, -, hconfined⟩ :=
    committed_cookie_confined apply_wide hentry hnew
  exact ⟨es, later, e, hrun, he, hputs, origin, horigin, attributes, parsed,
    hconfined es later hrun 1 e he hsince _ _ _ hputs⟩

/-- The host of the request is not itself in the binding: only its normal form is. -/
theorem released_outside_allowed_hosts :
    ∃ commit, testJar.applyResponse (fun _ => none) Vault.testVault wideBinding ⟨"example.com",
        "https"⟩ "/" [bytes "a=1; Domain=example.com"] 0 = (.ok commit, wideResult.2) ∧
      ∃ entry es later e, wideResult.2.2.entries[Vault.testHandle]? = some entry ∧
        Vault.testVault.entries[Vault.testHandle]? ≠ some entry ∧
        Run InMemorySecretVault.step wideResult.2.2 es later ∧ es[1]? = some e ∧
        PutsOn e Vault.testHandle wideContext "/" 1 ∧ wideContext.authority ∉ wideBinding.allowedHosts := by
  obtain ⟨entry, es, later, e, hentry, hnew, hrun, he, -, hputs⟩ := puts_wide
  exact ⟨_, apply_wide, entry, es, later, e, hentry, hnew, hrun, he, hputs, by decide +kernel⟩

end BoundSeal.Cookie
