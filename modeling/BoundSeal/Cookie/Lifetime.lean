import BoundSeal.Cookie.Runs

/-!
# Lifetimes of committed cookies

`Max-Age` is cut to `MAX_COOKIE_LIFETIME_SECONDS`, an `Expires` date is not.
-/

namespace BoundSeal.Cookie

open Rust Lib
open Vault (InMemorySecretVault SecretBinding)

section

variable {config : CookieJarConfig} {generation : ℕ} {state next : CommitState} {key : CookieKey}
  {record : CookieRecord}

theorem commitOne_records {written : CookieKey} {mutation : CookieMutation}
    (h : commitOne config generation state written mutation = (.ok (), next)) :
    (next.staged[key]? = some record → state.staged[key]? = some record) ∧
      (next.records[key]? = some record → state.records[key]? = some record ∧ key ≠ written ∨
        ∃ staged, state.staged[key]? = some staged ∧ record.ageless = staged.ageless) := by
  have herase : (state.records.erase written)[key]? = some record →
      state.records[key]? = some record ∧ key ≠ written := by
    intro hrecord
    by_cases heq : written = key
    · rw [heq, getElem?_erase_self] at hrecord
      cases hrecord
    · rw [getElem?_erase_of_ne _ heq] at hrecord
      exact ⟨hrecord, Ne.symm heq⟩
  cases mutation with
  | delete =>
    unfold commitOne at h
    dsimp only at h
    split at h <;>
    · cases h
      exact ⟨id, fun hrecord => .inl (herase hrecord)⟩
  | set parsed =>
    unfold commitOne at h
    dsimp only at h
    split at h
    · cases h
    next staged hstaged =>
    have hnext : next.staged = state.staged.erase written ∧ ∃ generation,
        next.records = (state.records.erase written).insert written { staged with generation } := by
      split at h <;>
      · cases h
        exact ⟨rfl, _, rfl⟩
    obtain ⟨hleft, generation, hrecords⟩ := hnext
    rw [hleft, hrecords]
    constructor
    · intro hrecord
      by_cases heq : written = key
      · rw [heq, getElem?_erase_self] at hrecord
        cases hrecord
      · rwa [getElem?_erase_of_ne _ heq] at hrecord
    · intro hrecord
      rcases getElem?_insert_eq_some.mp hrecord with ⟨rfl, rfl⟩ | ⟨-, hrecord⟩
      · exact .inr ⟨staged, hstaged, rfl⟩
      · exact .inl (herase hrecord)

variable {mutations : List (CookieKey × CookieMutation)}

theorem commitAll_records {post : CommitState}
    (h : commitAll config generation mutations state = (.ok (), post)) (hrecord : post.records[key]? = some record) :
    state.records[key]? = some record ∧ key ∉ mutations.map (·.1) ∨
      ∃ staged, state.staged[key]? = some staged ∧ record.ageless = staged.ageless := by
  induction mutations generalizing state with
  | nil =>
    cases h
    exact .inl ⟨hrecord, List.not_mem_nil⟩
  | cons mutation mutations ih =>
    rw [commitAll] at h
    split at h
    · cases h
    next next hone =>
    rcases ih h with ⟨hnext, hother⟩ | ⟨staged, hstaged, hsame⟩
    · rcases (commitOne_records hone).2 hnext with ⟨hold, hne⟩ | hstaged
      · exact .inl ⟨hold, by simp only [List.map_cons, List.mem_cons, not_or]; exact ⟨hne, hother⟩⟩
      · exact .inr hstaged
    · exact .inr ⟨staged, (commitOne_records hone).1 hstaged, hsame⟩

/-- A staged record was staged for a field, and the vault took its secret as not expired. -/
theorem stage_records {binding : SecretBinding} {origin : CookieOrigin} {now : ℤ}
    {staged staged' : BTreeMap CookieKey CookieRecord}
    {vault post : InMemorySecretVault}
    (h : stage binding origin generation now mutations staged vault = (.ok staged', post))
    (hrecord : staged'[key]? = some record) :
    staged[key]? = some record ∨ ∃ parsed, (key, CookieMutation.set parsed) ∈ mutations ∧
      record.expiresAtEpochSeconds = parsed.expiresAtEpochSeconds ∧
      Vault.isExpired parsed.expiresAtEpochSeconds now = false := by
  induction mutations generalizing staged vault with
  | nil =>
    cases h
    exact .inl hrecord
  | cons mutation mutations ih =>
    obtain ⟨written, mutation⟩ := mutation
    cases mutation with
    | delete =>
      rw [stage] at h
      rcases ih h with hold | ⟨parsed, hmem, hparsed⟩
      · exact .inl hold
      · exact .inr ⟨parsed, List.mem_cons_of_mem _ hmem, hparsed⟩
    | set parsed =>
      rw [stage] at h
      split at h
      · cases h
      dsimp only at h
      split at h
      · cases h
      split at h
      · cases h
      next handle mid hinsert =>
      rcases ih h with hold | ⟨parsed', hmem, hparsed⟩
      · rcases getElem?_insert_eq_some.mp hold with ⟨rfl, rfl⟩ | ⟨-, hold⟩
        · rcases InMemorySecretVault.insert_cases hinsert with ⟨e, herror, -⟩ | ⟨_, -, hinserted⟩
          · cases herror
          have hvalidated := hinserted.validated
          simp only [Vault.validateSecretInput, do_eq_ok] at hvalidated
          obtain ⟨-, -, -, -, halive, -⟩ := hvalidated
          exact .inr ⟨parsed, List.mem_cons_self, rfl, (Bool.not_eq_true _).mp halive⟩
        · exact .inl hold
      · exact .inr ⟨parsed', List.mem_cons_of_mem _ hmem, hparsed⟩

end

section

variable {parseHttpDate : String → Option ℤ} {jar jar' : CookieJar} {vault vault' : InMemorySecretVault}
  {binding : SecretBinding} {origin normalized : CookieOrigin} {requestTarget : String} {setCookieValues : List Bytes}
  {now : ℤ} {mutations : BTreeMap CookieKey CookieMutation} {supersededHeaders : ℕ} {commit : CookieCommit}
  {key : CookieKey} {parsed : ParsedSetCookie} {record : CookieRecord}
  (h : jar.applyResponse parseHttpDate vault binding origin requestTarget setCookieValues now =
    (.ok commit, jar', vault'))
  (hplan : jar.plan parseHttpDate vault binding origin requestTarget setCookieValues now =
    .ok (normalized, mutations, supersededHeaders))
  (hset : mutations[key]? = some (.set parsed)) (hrecord : jar'.records[key]? = some record)

include h hplan hset hrecord

theorem applyResponse_record : record.expiresAtEpochSeconds = parsed.expiresAtEpochSeconds ∧
      Vault.isExpired parsed.expiresAtEpochSeconds now = false := by
  rw [CookieJar.applyResponse, hplan] at h
  dsimp only at h
  split at h
  · cases h
  next staged mid hstage =>
  split at h
  · cases h
  split at h
  · cases h
  next state hcommit =>
  cases h
  have hsame := (finish_records { jar with nextTransactionId := saturatingAdd jar.nextTransactionId 1 }
    vault.audit.tailHash vault'.audit.tailHash jar.transactionId normalized supersededHeaders state).1 key
  rw [hrecord] at hsame
  obtain ⟨last, hlast, hageless⟩ := Option.map_eq_some_iff.mp hsame.symm
  have hexpires : ∀ {a b : CookieRecord}, a.ageless = b.ageless → a.expiresAtEpochSeconds = b.expiresAtEpochSeconds :=
    fun h => congrArg (·.expiresAtEpochSeconds) h
  rcases commitAll_records hcommit hlast with ⟨-, hother⟩ | ⟨first, hfirst, hageless'⟩
  · exact absurd (List.mem_map.mpr ⟨_, Std.ExtTreeMap.mem_toList_iff_getElem?_eq_some.mpr hset, rfl⟩) hother
  rcases stage_records hstage hfirst with hempty | ⟨parsed', hmem, hparsed, halive⟩
  · rw [Std.ExtTreeMap.getElem?_empty] at hempty
    cases hempty
  rw [Std.ExtTreeMap.mem_toList_iff_getElem?_eq_some, hset, Option.some.injEq] at hmem
  cases hmem
  exact ⟨(hexpires hageless).symm.trans ((hexpires hageless').trans hparsed), halive⟩

/-- **The lifetime of a written record** is bounded if and only if its field has a
`Max-Age`, or no `Expires` later than the bound. -/
theorem lifetime_bounded_iff (hnow : i64Min ≤ now) : ∃ header ∈ setCookieValues, ∃ attributes,
      Accepted parseHttpDate header normalized requestTarget now attributes parsed ∧
      ((∀ expires, record.expiresAtEpochSeconds = some expires →
          now < expires ∧ expires ≤ now + maxCookieLifetimeSeconds) ↔
        (attributes.maxAge = none → ∀ instant, attributes.expires = some instant →
          instant ≤ now + maxCookieLifetimeSeconds)) := by
  obtain ⟨hexpires, halive⟩ := applyResponse_record h hplan hset hrecord
  obtain ⟨header, hmem, hparsed, -, hdelete⟩ := (plan_spec hplan).parsed_set hset
  obtain ⟨attributes, haccepted⟩ := parseSetCookie_spec hparsed
  refine ⟨header, hmem, attributes, haccepted, ?_⟩
  have hlater : ∀ expires, parsed.expiresAtEpochSeconds = some expires → now < expires := by
    intro expires hsome
    simpa [Vault.isExpired, hsome] using halive
  have hlifetime := haccepted.lifetime
  rw [hdelete] at hlifetime
  rw [hexpires]
  unfold cookieLifetime at hlifetime
  cases hmaxAge : attributes.maxAge with
  | some maxAge =>
    rw [hmaxAge] at hlifetime
    dsimp only at hlifetime
    split_ifs at hlifetime with hpositive
    · cases congrArg Prod.snd hlifetime
    · simp only [Prod.mk.injEq, and_true] at hlifetime
      refine iff_of_true (fun expires hsome => ⟨hlater expires hsome, ?_⟩) nofun
      rw [hlifetime, Option.some.injEq] at hsome
      -- `now` is a machine integer, so the sum can only be cut from above
      have hlower : i64Min ≤ now + min maxAge maxCookieLifetimeSeconds := by
        unfold maxCookieLifetimeSeconds
        omega
      rw [← hsome, saturatingAddI64]
      omega
  | none =>
    rw [hmaxAge] at hlifetime
    cases hinstant : attributes.expires with
    | none =>
      rw [hinstant] at hlifetime
      simp only [Prod.mk.injEq, and_true] at hlifetime
      rw [hlifetime]
      exact iff_of_true nofun nofun
    | some instant =>
      rw [hinstant] at hlifetime
      simp only [Prod.mk.injEq] at hlifetime
      rw [hlifetime.1] at hlater ⊢
      simp only [Option.some.injEq, forall_eq', forall_const] at hlater ⊢
      exact and_iff_right hlater

end

/-! ## The last second of the year 9999 -/

def lastSecond : ℤ := 253402300799

def parseLastDate (text : String) : Option ℤ :=
  if text = "Fri, 31 Dec 9999 23:59:59 GMT" then some lastSecond else none

def lastField : Bytes := bytes "a=1; Expires=Fri, 31 Dec 9999 23:59:59 GMT"

def lastKey : CookieKey := ⟨"a", "app.example.com", "/"⟩

def lastResult : Except CookieJarError CookieCommit × CookieJar × InMemorySecretVault :=
  testJar.applyResponse parseLastDate Vault.testVault testBinding ⟨"app.example.com", "https"⟩ "/" [lastField] 0

def lastCookie : ParsedSetCookie where
  name := "a"
  value := bytes "1"
  domain := "app.example.com"
  path := "/"
  hostOnly := true
  expiresAtEpochSeconds := some lastSecond
  secure := false
  httpOnly := false
  sameSite := .unspecified
  delete := false
  valueSha256 := toLowerHex (Sha256.digest (bytes "1"))

theorem last_computed : lastResult.1.isOk = true ∧
    lastResult.2.1.records[lastKey]?.map (·.expiresAtEpochSeconds) = some (some lastSecond) ∧
    (testJar.plan parseLastDate Vault.testVault testBinding ⟨"app.example.com", "https"⟩ "/" [lastField] 0).map
      (fun plan => plan.2.1[lastKey]?) = .ok (some (.set lastCookie)) := by
  decide +kernel

theorem lifetime_bounded_iff_last :
    ∃ record, lastResult.2.1.records[lastKey]? = some record ∧ ∃ normalized attributes,
      Accepted parseLastDate lastField normalized "/" 0 attributes lastCookie ∧
      ((∀ expires, record.expiresAtEpochSeconds = some expires →
          0 < expires ∧ expires ≤ 0 + maxCookieLifetimeSeconds) ↔
        (attributes.maxAge = none → ∀ instant, attributes.expires = some instant →
          instant ≤ 0 + maxCookieLifetimeSeconds)) := by
  obtain ⟨hok, hrecord, hplan⟩ := last_computed
  obtain ⟨record, hrecord, -⟩ := Option.map_eq_some_iff.mp hrecord
  obtain ⟨⟨_, _, _⟩, hplan, hset⟩ := map_eq_ok.mp hplan
  obtain ⟨header, hmem, attributes, haccepted, hiff⟩ :=
    lifetime_bounded_iff (Prod.ext (eq_ok_unwrap _ hok) rfl) hplan hset hrecord (by decide)
  rw [List.mem_singleton.mp hmem] at haccepted
  exact ⟨record, hrecord, _, attributes, haccepted, hiff⟩

/-- **An `Expires` date is not cut**: the record lives for thousands of years. -/
theorem lifetime_unbounded :
    ∃ commit record, testJar.applyResponse parseLastDate Vault.testVault testBinding
        ⟨"app.example.com", "https"⟩ "/" [lastField] 0 = (.ok commit, lastResult.2) ∧
      lastResult.2.1.records[lastKey]? = some record ∧ record.expiresAtEpochSeconds = some lastSecond ∧
      0 + maxCookieLifetimeSeconds < lastSecond := by
  obtain ⟨hok, hrecord, -⟩ := last_computed
  obtain ⟨record, hrecord, hexpires⟩ := Option.map_eq_some_iff.mp hrecord
  exact ⟨_, record, Prod.ext (eq_ok_unwrap _ hok) rfl, hrecord, hexpires, by decide⟩

end BoundSeal.Cookie
