import BoundSeal.Cookie.Transaction

/-!
# Runs of a jar and its vault

A jar and a vault under any calls: seeding, transactions and purges of the jar,
and every call of the vault itself, so that a secret of the jar may be revoked
behind its back.
-/

namespace BoundSeal.Cookie

open Rust Lib
open Vault (InMemorySecretVault SecretBinding SecretEntry SecretHandle Issued Numbered Later VaultCall VaultReply)

/-! ## Calls -/

structure JarState where
  jar : CookieJar
  vault : InMemorySecretVault

inductive JarCall where
  | vault (call : VaultCall)
  | seedFromVault (handles : List SecretHandle)
  | applyResponse (binding : SecretBinding) (origin : CookieOrigin) (requestTarget : String)
      (setCookieValues : List Bytes) (now : ℤ)
  | purge (reason : String)

inductive JarReply where
  | vault (reply : VaultReply)
  | seeded (result : Except CookieJarError Unit)
  | applied (result : Except CookieJarError CookieCommit)
  | purged (result : Except CookieJarError CookieCommit)

variable (parseHttpDate : String → Option ℤ)

def JarState.step (self : JarState) : JarCall → Option (JarReply × JarState)
  | .vault call => (self.vault.step call).map fun (reply, vault) => (.vault reply, { self with vault })
  | .seedFromVault handles =>
    let (result, jar) := self.jar.seedFromVault handles self.vault
    some (.seeded result, { self with jar })
  | .applyResponse binding origin requestTarget setCookieValues now =>
    let (result, jar, vault) :=
      self.jar.applyResponse parseHttpDate self.vault binding origin requestTarget setCookieValues now
    some (.applied result, ⟨jar, vault⟩)
  | .purge reason =>
    let (result, jar, vault) := self.jar.purge self.vault reason
    some (.purged result, ⟨jar, vault⟩)

abbrev JarEvent := Event JarState JarCall JarReply

def JarCall.newSecrets : JarCall → ℕ
  | .vault (.insert _ _) => 1
  | .applyResponse _ _ _ setCookieValues _ => setCookieValues.length
  | _ => 0

/-- The vault has a number for every secret the call may store. -/
def HasRoom (e : JarEvent) : Prop := e.pre.vault.nextSecretId + e.input.newSecrets ≤ u64Max

/-! ## The invariant of a run -/

/-- What holds of a jar and its vault in every run. -/
structure Reachable (state : JarState) : Prop where
  vault : Numbered state.vault
  jar : JarInvariant state.jar state.vault

variable {parseHttpDate}

/-- **Every call keeps the invariant.** -/
theorem Reachable.step {pre post : JarState} {call : JarCall} {reply : JarReply} (h : Reachable pre)
    (hstep : pre.step parseHttpDate call = some (reply, post))
    (hroom : HasRoom ⟨pre, call, reply, post⟩) : Reachable post := by
  cases call with
  | vault call =>
    obtain ⟨⟨reply', vault⟩, hvault, heq⟩ := Option.map_eq_some_iff.mp hstep
    cases heq
    have hlater : Later pre.vault vault := by
      refine Vault.later_of_step h.vault hvault ?_
      rintro input now rfl
      exact hroom
    exact ⟨hlater.numbered, h.jar.later hlater⟩
  | seedFromVault handles =>
    cases hseed : pre.jar.seedFromVault handles pre.vault with
    | mk result jar =>
      simp only [JarState.step, hseed] at hstep
      cases hstep
      exact ⟨h.vault, (h.jar.seedFromVault h.vault hseed).1⟩
  | applyResponse binding origin requestTarget setCookieValues now =>
    rcases applyResponse_spec parseHttpDate binding origin requestTarget setCookieValues now h.vault h.jar hroom with
      ⟨e, jar', vault', happly, hrecords, -, hconfig, -, -, hlater⟩ |
      ⟨commit, jar', vault', normalized, mutations, happly, -, happlied⟩
    · simp only [JarState.step, happly] at hstep
      cases hstep
      exact ⟨hlater.numbered, (h.jar.congr hconfig hrecords).later hlater⟩
    · simp only [JarState.step, happly] at hstep
      cases hstep
      exact ⟨happlied.later.numbered, happlied.invariant⟩
  | purge reason =>
    cases hpurge : pre.jar.purge pre.vault reason with
    | mk result rest =>
      obtain ⟨jar, vault⟩ := rest
      simp only [JarState.step, hpurge] at hstep
      cases hstep
      obtain ⟨hlater, hconfig, hrecords⟩ := purge_later h.vault hpurge
      refine ⟨hlater.numbered, ?_⟩
      rcases hrecords with hsame | hempty
      · exact (h.jar.congr hconfig hsame).later hlater
      · exact jarInvariant_empty (hconfig ▸ h.jar.headerLimit) hempty

structure Fresh (state : JarState) : Prop where
  jar : ∃ jarId config, CookieJar.new jarId config = .ok state.jar
  vault : ∃ vaultId, InMemorySecretVault.new vaultId = .ok state.vault

theorem Fresh.reachable {state : JarState} (h : Fresh state) : Reachable state := by
  obtain ⟨jarId, config, hjar⟩ := h.jar
  obtain ⟨vaultId, hvault⟩ := h.vault
  exact ⟨Vault.numbered_new hvault, (jarInvariant_new hjar).1⟩

/-- **The invariant of every run**, while the vault's numbers last. -/
theorem run_reachable {start now : JarState} {es : List JarEvent} (hfresh : Fresh start)
    (hrun : Run (JarState.step parseHttpDate) start es now) (hroom : ∀ e ∈ es, HasRoom e) : Reachable now := by
  refine Run.invariant (fun es now => (∀ e ∈ es, HasRoom e) → Reachable now) ?_ ?_ hrun hroom
  · intro _
    exact hfresh.reachable
  · intro es t i o u _ ih hstep hroom
    refine (ih fun e he => hroom e (List.mem_append_left _ he)).step hstep ?_
    exact hroom _ (List.mem_append_right _ List.mem_cons_self)

/-! ## What a transaction guarantees -/

def Touched (parseHttpDate : String → Option ℤ) (origin : CookieOrigin) (requestTarget : String)
    (setCookieValues : List Bytes) (now : ℤ) (key : CookieKey) : Prop :=
  ∃ normalized, CookieOrigin.new origin.host origin.scheme = .ok normalized ∧ ∃ header ∈ setCookieValues, ∃ parsed,
    parseSetCookie parseHttpDate header normalized requestTarget now = .ok parsed ∧ parsed.key = key

/-- What a committed transaction that touches some cookies leaves. -/
structure CommitGuarantees (Touched : CookieKey → Prop) (pre : JarState) (commit : CookieCommit)
    (post : JarState) : Prop where
  /-- A record that was written has a live secret, stored by this transaction. -/
  live : ∀ (key : CookieKey) (record : CookieRecord), Touched key → post.jar.records[key]? = some record →
    ∃ entry, post.vault.entries[record.handle]? = some entry ∧ entry.metadata.kind = .cookie ∧
      pre.vault.entries[record.handle]? = none
  distinct : DistinctHandles post.jar.records
  /-- The other records are as before, and so are their secrets. -/
  untouched : ∀ key : CookieKey, ¬ Touched key →
    post.jar.records[key]?.map CookieRecord.ageless = pre.jar.records[key]?.map CookieRecord.ageless ∧
      ∀ record, post.jar.records[key]? = some record →
        post.vault.entries[record.handle]? = pre.vault.entries[record.handle]?
  /-- So if every record had a live secret, every record has one. -/
  allLive : (∀ (key : CookieKey) (record : CookieRecord), pre.jar.records[key]? = some record →
      pre.vault.entries[record.handle]? ≠ none) →
    ∀ (key : CookieKey) (record : CookieRecord), post.jar.records[key]? = some record →
      post.vault.entries[record.handle]? ≠ none
  /-- The secrets of replaced and deleted cookies are gone. -/
  gone : ∀ (key : CookieKey) (record : CookieRecord), Touched key →
    pre.jar.records[key]? = some record → post.vault.entries[record.handle]? = none
  others : ∀ handle : SecretHandle,
    (∀ (key : CookieKey) (record : CookieRecord), Touched key →
      pre.jar.records[key]? = some record → record.handle ≠ handle) →
    (∀ (key : CookieKey) (record : CookieRecord), Touched key →
      post.jar.records[key]? = some record → record.handle ≠ handle) →
    post.vault.entries[handle]? = pre.vault.entries[handle]?
  inserted : commit.inserted = post.jar.records.toList.countP fun entry => !pre.jar.records.contains entry.1
  replaced : commit.replaced = post.jar.records.toList.countP fun entry =>
    pre.jar.records[entry.1]?.any fun before => before.handle != entry.2.handle
  deleted : commit.deleted = pre.jar.records.toList.countP fun entry => !post.jar.records.contains entry.1
  size : post.jar.records.size + commit.deleted = pre.jar.records.size + commit.inserted

/-- What a transaction guarantees, failed or committed. -/
structure TransactionGuarantees (parseHttpDate : String → Option ℤ) (e : JarEvent) : Prop where
  failed : ∀ error, e.output = .applied (.error error) →
    e.post.jar.records = e.pre.jar.records ∧ e.post.jar.generation = e.pre.jar.generation ∧
      e.post.vault.entries = e.pre.vault.entries ∧ e.post.vault.leases = e.pre.vault.leases
  committed : ∀ binding origin requestTarget setCookieValues now commit,
    e.input = .applyResponse binding origin requestTarget setCookieValues now →
    e.output = .applied (.ok commit) →
    CommitGuarantees (Touched parseHttpDate origin requestTarget setCookieValues now) e.pre commit e.post

section

variable {jar jar' : CookieJar} {vault vault' : InMemorySecretVault} {binding : SecretBinding}
  {origin normalized : CookieOrigin} {requestTarget : String} {setCookieValues : List Bytes} {now : ℤ}
  {mutations : BTreeMap CookieKey CookieMutation} {commit : CookieCommit}

theorem Planned.touched_iff
    (h : Planned parseHttpDate jar vault binding origin requestTarget setCookieValues now normalized mutations)
    (key : CookieKey) :
    Touched parseHttpDate origin requestTarget setCookieValues now key ↔ mutations[key]? ≠ none := by
  constructor
  · rintro ⟨normalized', hnormalized, header, hmem, parsed, hparsed, rfl⟩
    rw [h.origin] at hnormalized
    cases hnormalized
    obtain ⟨parsed', hparsed', hcovered⟩ := h.covered header hmem
    rw [hparsed, Except.ok.injEq] at hparsed'
    rwa [hparsed']
  · intro hmutation
    obtain ⟨mutation, hmutation⟩ := Option.ne_none_iff_exists'.mp hmutation
    obtain ⟨header, hmem, parsed, hparsed, hkey, -⟩ := h.parsed key mutation hmutation
    exact ⟨normalized, h.origin, header, hmem, parsed, hparsed, hkey⟩

theorem getElem?_of_contains {records : BTreeMap CookieKey CookieRecord} {key : CookieKey} :
    records.contains key = true ↔ ∃ record, records[key]? = some record := by
  rw [contains_iff, Option.isSome_iff_exists]

theorem Applied.record_cases (h : Applied binding normalized now mutations jar vault commit jar' vault')
    {key : CookieKey} {record : CookieRecord} (hrecord : jar'.records[key]? = some record) :
    (mutations[key]? = none ∧ ∃ before, jar.records[key]? = some before ∧ before.handle = record.handle) ∨
    ∃ parsed, mutations[key]? = some (.set parsed) ∧ ¬ Issued vault record.handle ∧
      ∃ entry, vault'.entries[record.handle]? = some entry ∧ entry.metadata.kind = .cookie := by
  cases hmutation : mutations[key]? with
  | none =>
    obtain ⟨before, hbefore, -, hhandle⟩ := exists_of_ageless (h.untouched key hmutation) hrecord
    exact .inl ⟨rfl, before, hbefore, hhandle⟩
  | some mutation =>
    cases mutation with
    | delete =>
      rw [h.deleted key hmutation] at hrecord
      cases hrecord
    | set parsed =>
      obtain ⟨record', entry, hrecord', -, hfresh, hentry, hstaged⟩ := h.set key parsed hmutation
      rw [hrecord'] at hrecord
      cases hrecord
      obtain ⟨_, _, -, -, -, rfl⟩ := hstaged.stored
      exact .inr ⟨parsed, rfl, hfresh, _, hentry, rfl⟩

section

variable (h : Applied binding normalized now mutations jar vault commit jar' vault')
include h

theorem Applied.inserted_eq :
    commit.inserted = jar'.records.toList.countP fun entry => !jar.records.contains entry.1 := by
  rw [h.insertions]
  refine countP_toList_congr fun key => ?_
  constructor
  · rintro ⟨mutation, hmutation, hinsertion⟩
    cases mutation with
    | delete => simp [isInsertion, CookieMutation.isSet] at hinsertion
    | set parsed =>
      obtain ⟨record, -, hrecord, -⟩ := h.set key parsed hmutation
      exact ⟨record, hrecord, by simpa [isInsertion, CookieMutation.isSet] using hinsertion⟩
  · rintro ⟨record, hrecord, hnew⟩
    rcases h.record_cases hrecord with ⟨-, before, hbefore, -⟩ | ⟨parsed, hmutation, -⟩
    · rw [getElem?_of_contains.mpr ⟨before, hbefore⟩] at hnew
      cases hnew
    · exact ⟨_, hmutation, by simpa [isInsertion, CookieMutation.isSet] using hnew⟩

theorem Applied.replaced_eq (hjar : JarInvariant jar vault) :
    commit.replaced = jar'.records.toList.countP fun entry =>
      jar.records[entry.1]?.any fun before => before.handle != entry.2.handle := by
  rw [h.replacements]
  refine countP_toList_congr fun key => ?_
  constructor
  · rintro ⟨mutation, hmutation, hreplacement⟩
    rw [isReplacement, Bool.and_eq_true] at hreplacement
    obtain ⟨before, hbefore⟩ := getElem?_of_contains.mp hreplacement.2
    cases mutation with
    | delete => cases hreplacement.1
    | set parsed =>
      obtain ⟨record, -, hrecord, -, hfresh, -⟩ := h.set key parsed hmutation
      refine ⟨record, hrecord, ?_⟩
      rw [hbefore, Option.any_some, bne_iff_ne]
      intro hsame
      exact hfresh (hsame ▸ hjar.issued key before hbefore)
  · rintro ⟨record, hrecord, hother⟩
    rcases h.record_cases hrecord with ⟨-, before, hbefore, hhandle⟩ | ⟨parsed, hmutation, -⟩
    · rw [hbefore, Option.any_some, hhandle, bne_self_eq_false] at hother
      cases hother
    · refine ⟨_, hmutation, ?_⟩
      cases hbefore : jar.records[key]? with
      | none =>
        rw [hbefore] at hother
        cases hother
      | some before =>
        rw [isReplacement, getElem?_of_contains.mpr ⟨before, hbefore⟩]
        rfl

theorem Applied.deleted_eq :
    commit.deleted = jar.records.toList.countP fun entry => !jar'.records.contains entry.1 := by
  rw [h.deletions]
  refine countP_toList_congr fun key => ?_
  constructor
  · rintro ⟨mutation, hmutation, hdeletion⟩
    rw [isDeletion, Bool.and_eq_true] at hdeletion
    obtain ⟨before, hbefore⟩ := getElem?_of_contains.mp hdeletion.2
    cases mutation with
    | set parsed => cases hdeletion.1
    | delete =>
      refine ⟨before, hbefore, ?_⟩
      rw [Bool.not_eq_true', ← Bool.not_eq_true, getElem?_of_contains, h.deleted key hmutation]
      simp
  · rintro ⟨before, hbefore, hgone⟩
    have hnone : jar'.records[key]? = none := by
      cases hrecord : jar'.records[key]? with
      | none => rfl
      | some record =>
        rw [getElem?_of_contains.mpr ⟨record, hrecord⟩] at hgone
        cases hgone
    cases hmutation : mutations[key]? with
    | none =>
      have hsame := h.untouched key hmutation
      rw [hnone, hbefore] at hsame
      cases hsame
    | some mutation =>
      cases mutation with
      | set parsed =>
        obtain ⟨record, -, hrecord, -⟩ := h.set key parsed hmutation
        rw [hnone] at hrecord
        cases hrecord
      | delete =>
        refine ⟨_, rfl, ?_⟩
        rw [isDeletion, getElem?_of_contains.mpr ⟨before, hbefore⟩]
        rfl

end

theorem Applied.guarantees (hjar : JarInvariant jar vault) (hvault : Numbered vault)
    (hplanned : Planned parseHttpDate jar vault binding origin requestTarget setCookieValues now normalized mutations)
    (h : Applied binding normalized now mutations jar vault commit jar' vault') :
    CommitGuarantees (Touched parseHttpDate origin requestTarget setCookieValues now)
      ⟨jar, vault⟩ commit ⟨jar', vault'⟩ := by
  have htouched := hplanned.touched_iff
  -- the secret of an untouched record is neither an old nor a new one
  have hkept : ∀ (key : CookieKey) (before : CookieRecord), mutations[key]? = none → jar.records[key]? = some before →
      vault'.entries[before.handle]? = vault.entries[before.handle]? := by
    intro key before hnone hbefore
    refine h.others before.handle ?_ ?_
    · intro key' mutation record hmutation hrecord hsame
      rw [hjar.distinct key' key record before hrecord hbefore hsame, hnone] at hmutation
      cases hmutation
    · intro key' mutation record hmutation hrecord hsame
      rcases h.record_cases hrecord with ⟨hnone', -⟩ | ⟨-, -, hfresh, -⟩
      · rw [hnone'] at hmutation
        cases hmutation
      · exact hfresh (hsame ▸ hjar.issued key before hbefore)
  have hfreshNone : ∀ handle, ¬ Issued vault handle → vault.entries[handle]? = none := by
    intro handle hfresh
    cases hentry : vault.entries[handle]? with
    | none => rfl
    | some entry => exact absurd (hvault.entries handle entry hentry) hfresh
  refine ⟨?_, h.invariant.distinct, ?_, ?_, ?_, ?_, h.inserted_eq, h.replaced_eq hjar, h.deleted_eq, ?_⟩
  · intro key record hkey hrecord
    rcases h.record_cases hrecord with ⟨hnone, -⟩ | ⟨-, -, hfresh, entry, hentry, hkind⟩
    · exact absurd hnone ((htouched key).mp hkey)
    · exact ⟨entry, hentry, hkind, hfreshNone _ hfresh⟩
  · intro key hkey
    have hnone : mutations[key]? = none := not_not.mp fun hne => hkey ((htouched key).mpr hne)
    refine ⟨h.untouched key hnone, ?_⟩
    intro record hrecord
    obtain ⟨before, hbefore, -, hhandle⟩ := exists_of_ageless (h.untouched key hnone) hrecord
    rw [← hhandle]
    exact hkept key before hnone hbefore
  · intro hlive key record hrecord
    rcases h.record_cases hrecord with ⟨hnone, before, hbefore, hhandle⟩ | ⟨-, -, -, entry, hentry, -⟩
    · rw [← hhandle, show _ = _ from hkept key before hnone hbefore]
      exact hlive key before hbefore
    · rw [show _ = _ from hentry]
      exact Option.some_ne_none entry
  · intro key record hkey hrecord
    obtain ⟨mutation, hmutation⟩ := Option.ne_none_iff_exists'.mp ((htouched key).mp hkey)
    exact h.gone key mutation record hmutation hrecord
  · intro handle hnotOld hnotNew
    refine h.others handle ?_ ?_
    · intro key mutation record hmutation hrecord
      exact hnotOld key record ((htouched key).mpr (by rw [hmutation]; exact Option.some_ne_none _)) hrecord
    · intro key mutation record hmutation hrecord
      exact hnotNew key record ((htouched key).mpr (by rw [hmutation]; exact Option.some_ne_none _)) hrecord
  · rw [h.deletions, h.insertions]
    exact h.size

end

/-- **Transactions are atomic**: in every run of a jar and its vault whose secret
numbers last, a transaction fails and leaves everything as it was, or replaces exactly
the records it touches, with their secrets. -/
theorem transaction_guarantees {start now : JarState} {es : List JarEvent} (hfresh : Fresh start)
    (hrun : Run (JarState.step parseHttpDate) start es now) (hroom : ∀ e ∈ es, HasRoom e) :
    ∀ e ∈ es, TransactionGuarantees parseHttpDate e := by
  intro e he
  obtain ⟨k, hk⟩ := List.mem_iff_getElem?.mp he
  have hpre : Reachable e.pre := by
    refine run_reachable hfresh (hrun.before hk) ?_
    intro f hf
    exact hroom f (List.mem_of_mem_take hf)
  have hstep := hrun.step_of_getElem? hk
  have hroomE := hroom e he
  obtain ⟨⟨jar, vault⟩, input, output, post⟩ := e
  dsimp only at hpre hstep ⊢
  cases input with
  | applyResponse binding origin requestTarget setCookieValues now =>
    rcases applyResponse_spec parseHttpDate binding origin requestTarget setCookieValues now hpre.vault hpre.jar
        hroomE with
      ⟨error, jar', vault', happly, hrecords, hgeneration, -, hentries, hleases, -⟩ |
      ⟨commit, jar', vault', normalized, mutations, happly, hplanned, happlied⟩
    · simp only [JarState.step, happly] at hstep
      cases hstep
      refine ⟨fun _ _ => ⟨hrecords, hgeneration, hentries, hleases⟩, ?_⟩
      intro _ _ _ _ _ _ _ houtput
      cases houtput
    · simp only [JarState.step, happly] at hstep
      cases hstep
      constructor
      · intro _ houtput
        cases houtput
      · intro _ _ _ _ _ _ hinput houtput
        cases hinput
        cases houtput
        exact happlied.guarantees hpre.jar hpre.vault hplanned
  | vault call =>
    obtain ⟨_, -, heq⟩ := Option.map_eq_some_iff.mp hstep
    cases heq
    constructor
    · intro _ houtput
      cases houtput
    · intro _ _ _ _ _ _ hinput
      cases hinput
  | seedFromVault | purge =>
    cases hstep
    constructor
    · intro _ houtput
      cases houtput
    · intro _ _ _ _ _ _ hinput
      cases hinput

/-! ## Two runs -/

theorem isOk_new_testJar : (CookieJar.new "jar-1" .conservativeDefault).isOk = true := by decide +kernel

def testJar : CookieJar := unwrap (CookieJar.new "jar-1" .conservativeDefault) isOk_new_testJar

def testBinding : SecretBinding where
  runId := "run-1"
  workerId := "worker-1"
  accountId := "account-1"
  tenantId := "tenant-1"
  roleId := "role-1"
  allowedHosts := Std.ExtTreeSet.ofList ["app.example.com"] compare
  allowedSchemes := Std.ExtTreeSet.ofList ["https"] compare

/-- The fields of a response of `app.example.com`. -/
def testTransaction (fields : List String) : JarCall :=
  .applyResponse testBinding ⟨"app.example.com", "https"⟩ "/login" (fields.map bytes) 100

def testStart : JarState := ⟨testJar, Vault.testVault⟩

theorem fresh_testStart : Fresh testStart :=
  ⟨⟨_, _, eq_ok_unwrap _ isOk_new_testJar⟩, ⟨_, Vault.new_testVault⟩⟩

/-- The counters of a commit: inserted, replaced, deleted. -/
def JarReply.counters : JarReply → Option (ℕ × ℕ × ℕ)
  | .applied (.ok commit) => some (commit.inserted, commit.replaced, commit.deleted)
  | _ => none

/-- Two cookies are set, then one is replaced and one deleted. -/
theorem transaction_guarantees_testTransactions : ∃ es now,
    Fresh testStart ∧ Run (JarState.step fun _ => none) testStart es now ∧ (∀ e ∈ es, HasRoom e) ∧
      es.map (fun e => e.output.counters) = [some (2, 0, 0), some (0, 1, 1)] ∧
      ∀ e ∈ es, TransactionGuarantees (fun _ => none) e := by
  have hcalls : (runCalls (JarState.step fun _ => none) testStart
      [testTransaction ["a=1", "b=2"], testTransaction ["a=3", "b=; Max-Age=0"]]).map (fun (es, _) =>
        (es.map fun e => e.output.counters,
          es.all fun e => decide (e.pre.vault.nextSecretId + e.input.newSecrets ≤ u64Max))) =
      some ([some (2, 0, 0), some (0, 1, 1)], true) := by decide +kernel
  obtain ⟨es, now, hrun, hcomputed⟩ := exists_run_of_map_runCalls hcalls
  obtain ⟨hcounters, hrooms⟩ := Prod.mk.injEq .. ▸ hcomputed
  have hroom : ∀ e ∈ es, HasRoom e := by
    intro e he
    have hdecided := List.all_eq_true.mp hrooms e he
    rwa [decide_eq_true_eq] at hdecided
  exact ⟨es, now, fresh_testStart, hrun, hroom, hcounters, transaction_guarantees fresh_testStart hrun hroom⟩

def JarState.hasDeadRecord (state : JarState) : Bool :=
  (values state.jar.records).any fun record => state.vault.entries[record.handle]?.isNone

/-- **A transaction can commit and leave a record without a secret**: the secret was
revoked in the vault, and the transaction does not touch the record. -/
theorem untouched_record_dead : ∃ es now, Fresh testStart ∧
    Run (JarState.step fun _ => none) testStart es now ∧ ∃ e ∈ es, ∃ commit key record,
      e.output = .applied (.ok commit) ∧ e.post.jar.records[(key : CookieKey)]? = some record ∧
        e.post.vault.entries[record.handle]? = none := by
  have hcalls : (runCalls (JarState.step fun _ => none) testStart
      [testTransaction ["a=1"], .vault (.revokeSecret Vault.testHandle), testTransaction []]).map (fun (es, _) =>
        es.any fun e => e.output.counters.isSome && e.post.hasDeadRecord) = some true := by decide +kernel
  obtain ⟨es, now, hrun, hcomputed⟩ := exists_run_of_map_runCalls hcalls
  obtain ⟨e, he, hcommit⟩ := List.any_eq_true.mp hcomputed
  rw [Bool.and_eq_true] at hcommit
  obtain ⟨commit, houtput⟩ : ∃ commit, e.output = .applied (.ok commit) := by
    unfold JarReply.counters at hcommit
    split at hcommit
    · next commit houtput => exact ⟨commit, houtput⟩
    · cases hcommit.1
  obtain ⟨record, hrecord, hdead⟩ := List.any_eq_true.mp hcommit.2
  obtain ⟨key, hkey⟩ := mem_values.mp hrecord
  exact ⟨es, now, fresh_testStart, hrun, e, he, commit, key, record, houtput, hkey, Option.isNone_iff_eq_none.mp hdead⟩

end BoundSeal.Cookie
