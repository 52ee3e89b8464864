import BoundSeal.Cookie.Jar
import BoundSeal.Rust.MapSum
import BoundSeal.Vault.Handles

/-!
# Transactions of the cookie jar

What `apply_response` and `purge` do to the jar and to the vault.
-/

namespace BoundSeal.Cookie

open Rust Lib
open Vault (InMemorySecretVault SecretBinding SecretEntry SecretHandle LeaseState Issued Numbered Later VaultError)
open Vault.InMemorySecretVault (revokeIn secretIdText)
open Std (ExtTreeMap)

/-! ## Revoking several handles -/

/-- What revoking several secrets makes of a lease. -/
def revokeAllIn (handles : List SecretHandle) (state : LeaseState) : LeaseState :=
  handles.foldl (fun state handle => revokeIn handle state) state

variable {handle : SecretHandle}

theorem revokeIn_of_not_mem {state : LeaseState} (h : handle ∉ state.handles) :
    revokeIn handle state = state := if_neg h

variable {handles : List SecretHandle}

theorem revokeAllIn_of_not_mem {state : LeaseState}
    (h : ∀ handle ∈ handles, handle ∉ state.handles) : revokeAllIn handles state = state := by
  induction handles with
  | nil => rfl
  | cons handle handles ih =>
    obtain ⟨hhead, htail⟩ := List.forall_mem_cons.mp h
    show handles.foldl _ (revokeIn handle state) = state
    rw [revokeIn_of_not_mem hhead]
    exact ih htail

structure Revoked (pre : InMemorySecretVault) (handles : List SecretHandle) (post : InMemorySecretVault) : Prop where
  sameVault : post.vaultId = pre.vaultId
  next : post.nextSecretId = pre.nextSecretId
  gone : ∀ handle ∈ handles, post.entries[handle]? = none
  others : ∀ handle ∉ handles, post.entries[handle]? = pre.entries[handle]?
  leases : ∀ leaseId : String, post.leases[leaseId]? = pre.leases[leaseId]?.map (revokeAllIn handles)

variable {vault post : InMemorySecretVault} {handles : List SecretHandle}

/-- **Stored, distinct handles can all be revoked.** -/
theorem revokeHandles_spec (hnodup : handles.Nodup)
    (hstored : ∀ handle ∈ handles, vault.entries[handle]? ≠ none) :
    ∃ post, revokeHandles handles vault = (.ok (), post) ∧ Revoked vault handles post := by
  induction handles generalizing vault with
  | nil =>
    refine ⟨vault, rfl, rfl, rfl, ?_, fun _ _ => rfl, ?_⟩
    · intro handle hmem
      cases hmem
    · intro leaseId
      cases vault.leases[leaseId]? <;> rfl
  | cons handle handles ih =>
    obtain ⟨hnew, hrest⟩ := List.nodup_cons.mp hnodup
    obtain ⟨hhead, htail⟩ := List.forall_mem_cons.mp hstored
    obtain ⟨mid, hmid⟩ : ∃ mid, vault.revokeSecret handle = .ok mid := by
      simp only [InMemorySecretVault.revokeSecret, do_eq_ok]
      exact ⟨_, hhead, rfl⟩
    obtain ⟨-, hentries, hleases, hnext, -, hvaultId⟩ := Vault.InMemorySecretVault.revokeSecret_eq_ok hmid
    have hkept : ∀ other, handle ≠ other → mid.entries[other]? = vault.entries[other]? := by
      intro other hne
      rw [hentries, getElem?_erase_of_ne _ hne]
    have hstored' : ∀ other ∈ handles, mid.entries[other]? ≠ none := by
      intro other hmem
      rw [hkept other (fun heq => hnew (heq ▸ hmem))]
      exact htail other hmem
    obtain ⟨post, hpost, hrevoked⟩ := ih hrest hstored'
    refine ⟨post, ?_, hrevoked.sameVault.trans hvaultId, hrevoked.next.trans hnext, ?_, ?_, ?_⟩
    · rw [revokeHandles, hmid]
      exact hpost
    · intro other hmem
      rcases List.mem_cons.mp hmem with rfl | hmem
      · rw [hrevoked.others _ hnew, hentries, getElem?_erase_self]
      · exact hrevoked.gone other hmem
    · intro other hmem
      rw [List.mem_cons, not_or] at hmem
      rw [hrevoked.others other hmem.2, hkept other (Ne.symm hmem.1)]
    · intro leaseId
      rw [hrevoked.leases, hleases, ExtTreeMap.getElem?_map, Option.map_map]
      rfl

theorem later_of_revokeHandles (hnumbered : Numbered vault) {result : Except VaultError Unit}
    (h : revokeHandles handles vault = (result, post)) : Later vault post := by
  induction handles generalizing vault with
  | nil =>
    cases h
    exact .refl hnumbered
  | cons handle handles ih =>
    rw [revokeHandles] at h
    cases hrevoke : vault.revokeSecret handle with
    | error e =>
      rw [hrevoke] at h
      cases h
      exact .refl hnumbered
    | ok mid =>
      rw [hrevoke] at h
      have hmid := Vault.later_of_revokeSecret hnumbered hrevoke
      exact hmid.trans (ih hmid.numbered h)

/-! ## Staging -/

/-- A secret stored for a cookie that a transaction sets. -/
structure StagedEntry (binding : SecretBinding) (origin : CookieOrigin) (now : ℤ)
    (parsed : ParsedSetCookie) (handle : SecretHandle) (entry : SecretEntry) : Prop where
  stored : ∃ allowedHosts normalized,
    allowedHostsForCookie binding origin parsed = .ok allowedHosts ∧ Vault.validateSecretInput
      (secretInputOf binding allowedHosts (allowedSchemesForCookie binding parsed) parsed) now = .ok () ∧
    Vault.normalizedBinding
      { binding with allowedHosts, allowedSchemes := allowedSchemesForCookie binding parsed } = .ok normalized ∧
    entry = Vault.InMemorySecretVault.entryOf
      (secretInputOf binding allowedHosts (allowedSchemesForCookie binding parsed) parsed) handle normalized now

def DistinctHandles (records : BTreeMap CookieKey CookieRecord) : Prop :=
  ∀ (key key' : CookieKey) (record record' : CookieRecord), records[key]? = some record →
    records[key']? = some record' → record.handle = record'.handle → key = key'

/-- The staging loop of a transaction on its way from the vault `start`. -/
structure Staging (binding : SecretBinding) (origin : CookieOrigin) (generation : ℕ) (now : ℤ)
    (mutations : BTreeMap CookieKey CookieMutation) (start vault : InMemorySecretVault)
    (staged : BTreeMap CookieKey CookieRecord) : Prop where
  later : Later start vault
  leases : vault.leases = start.leases
  fresh : ∀ (key : CookieKey) (record : CookieRecord), staged[key]? = some record →
    ¬ Issued start record.handle ∧ Issued vault record.handle
  distinct : DistinctHandles staged
  own : ∀ (key : CookieKey) (record : CookieRecord), staged[key]? = some record → ∃ parsed entry,
    mutations[key]? = some (.set parsed) ∧ record = recordOf key record.handle generation parsed ∧
      vault.entries[record.handle]? = some entry ∧ StagedEntry binding origin now parsed record.handle entry
  others : ∀ handle, (∀ (key : CookieKey) (record : CookieRecord), staged[key]? = some record →
    record.handle ≠ handle) →
    vault.entries[handle]? = start.entries[handle]?

variable {records : BTreeMap CookieKey CookieRecord}

theorem mem_handlesOf : handle ∈ handlesOf records ↔ ∃ (key : CookieKey) (record : CookieRecord),
      records[key]? = some record ∧ record.handle = handle := by
  simp only [handlesOf, List.mem_map, mem_values]
  constructor
  · rintro ⟨record, ⟨key, hrecord⟩, rfl⟩
    exact ⟨key, record, hrecord, rfl⟩
  · rintro ⟨key, record, hrecord, rfl⟩
    exact ⟨record, ⟨key, hrecord⟩, rfl⟩

theorem nodup_handlesOf (h : DistinctHandles records) : (handlesOf records).Nodup := by
  have hkeys := List.pairwise_map.mp (nodup_keys_toList records)
  rw [handlesOf, values, List.map_map]
  refine List.pairwise_map.mpr (hkeys.imp_of_mem ?_)
  intro a b ha hb hne heq
  exact hne (h a.1 b.1 a.2 b.2 (ExtTreeMap.mem_toList_iff_getElem?_eq_some.mp ha)
    (ExtTreeMap.mem_toList_iff_getElem?_eq_some.mp hb) heq)

variable {key : CookieKey} {record : CookieRecord}

theorem DistinctHandles.insert (h : DistinctHandles records)
    (hown : ∀ (key' : CookieKey) (record' : CookieRecord), records[key']? = some record' →
      record'.handle = record.handle → key' = key) : DistinctHandles (records.insert key record) := by
  intro key₁ key₂ record₁ record₂ hrecord₁ hrecord₂ heq
  rcases getElem?_insert_eq_some.mp hrecord₁ with ⟨rfl, rfl⟩ | ⟨-, hold₁⟩ <;>
    rcases getElem?_insert_eq_some.mp hrecord₂ with ⟨rfl, rfl⟩ | ⟨-, hold₂⟩
  · rfl
  · exact (hown key₂ record₂ hold₂ heq.symm).symm
  · exact hown key₁ record₁ hold₁ heq
  · exact h key₁ key₂ record₁ record₂ hold₁ hold₂ heq

variable {parsed : ParsedSetCookie}

section

variable {binding : SecretBinding} {origin : CookieOrigin} {generation : ℕ} {now : ℤ}
  {mutations : BTreeMap CookieKey CookieMutation} {start : InMemorySecretVault}
  {staged : BTreeMap CookieKey CookieRecord}

/-- **Rolling back restores the vault**: the handles are new, so no lease has one. -/
theorem Staging.rollback (hstart : Numbered start)
    (h : Staging binding origin generation now mutations start vault staged) (error : CookieJarError) :
    ∃ post, rollbackStaged vault staged error = (error, post) ∧ post.entries = start.entries ∧
      post.leases = start.leases ∧ Later start post := by
  have hstored : ∀ handle ∈ handlesOf staged, vault.entries[handle]? ≠ none := by
    intro handle hmem
    obtain ⟨key, record, hrecord, rfl⟩ := mem_handlesOf.mp hmem
    obtain ⟨-, entry, -, -, hentry, -⟩ := h.own key record hrecord
    rw [hentry]
    exact Option.some_ne_none entry
  have hfresh : ∀ handle ∈ handlesOf staged, ¬ Issued start handle := by
    intro handle hmem
    obtain ⟨key, record, hrecord, rfl⟩ := mem_handlesOf.mp hmem
    exact (h.fresh key record hrecord).1
  obtain ⟨post, hpost, hrevoked⟩ := revokeHandles_spec (nodup_handlesOf h.distinct) hstored
  refine ⟨post, ?_, ?_, ?_, h.later.trans (later_of_revokeHandles h.later.numbered hpost)⟩
  · rw [rollbackStaged, hpost]
  · refine ExtTreeMap.ext_getElem? fun handle => ?_
    by_cases hmem : handle ∈ handlesOf staged
    · rw [hrevoked.gone handle hmem]
      cases hentry : start.entries[handle]? with
      | none => rfl
      | some entry => exact absurd (hstart.entries handle entry hentry) (hfresh handle hmem)
    · rw [hrevoked.others handle hmem]
      refine h.others handle ?_
      intro key record hrecord heq
      exact hmem (mem_handlesOf.mpr ⟨key, record, hrecord, heq⟩)
  · refine ExtTreeMap.ext_getElem? fun leaseId => ?_
    rw [hrevoked.leases, h.leases]
    cases hstate : start.leases[leaseId]? with
    | none => rfl
    | some state =>
      refine congrArg some (revokeAllIn_of_not_mem ?_)
      intro handle hmem hlease
      exact hfresh handle hmem (hstart.leases leaseId state hstate handle hlease)

theorem Staging.insert
    {allowedHosts : BTreeSet String} (h : Staging binding origin generation now mutations start vault staged)
    (hnew : staged[key]? = none) (hset : mutations[key]? = some (.set parsed))
    (hroom : vault.nextSecretId < u64Max) (hhosts : allowedHostsForCookie binding origin parsed = .ok allowedHosts)
    (hinserted : Vault.InMemorySecretVault.Inserted vault
      (secretInputOf binding allowedHosts (allowedSchemesForCookie binding parsed) parsed) now handle post) :
    Staging binding origin generation now mutations start post
      (staged.insert key (recordOf key handle generation parsed)) := by
  obtain ⟨normalized, hnormalized, hentries⟩ := hinserted.entries
  have hlater := hinserted.later h.later.numbered hroom
  have hne : ∀ other, Issued vault other → handle ≠ other := by
    rintro other hissued rfl
    exact hinserted.not_issued hissued
  have hkept : ∀ other, handle ≠ other → post.entries[other]? = vault.entries[other]? := by
    intro other hne
    rw [hentries, getElem?_insert_of_ne _ _ hne]
  refine ⟨h.later.trans hlater, hinserted.leases.trans h.leases, ?_, ?_, ?_, ?_⟩
  · intro key' record hrecord
    rcases getElem?_insert_eq_some.mp hrecord with ⟨-, rfl⟩ | ⟨-, hold⟩
    · refine ⟨fun hissued => hinserted.not_issued (hissued.later h.later), hinserted.issued hroom⟩
    · exact ⟨(h.fresh key' record hold).1, (h.fresh key' record hold).2.later hlater⟩
  · refine h.distinct.insert fun key' record hold heq => ?_
    exact absurd heq.symm (hne _ (h.fresh key' record hold).2)
  · intro key' record hrecord
    rcases getElem?_insert_eq_some.mp hrecord with ⟨rfl, rfl⟩ | ⟨-, hold⟩
    · refine ⟨parsed, _, hset, rfl, ?_, ⟨allowedHosts, normalized, hhosts, hinserted.validated, hnormalized, rfl⟩⟩
      rw [hentries]
      exact getElem?_insert_self _ _ _
    · obtain ⟨parsed', entry, hset', hrecordOf, hentry, hstaged⟩ := h.own key' record hold
      exact ⟨parsed', entry, hset', hrecordOf, (hkept _ (hne _ (h.fresh key' record hold).2)).trans hentry, hstaged⟩
  · intro other hother
    have hnot : handle ≠ other := hother key _ (getElem?_insert_self _ _ _)
    rw [hkept other hnot]
    refine h.others other ?_
    intro key' record hrecord
    refine hother key' record ?_
    rwa [getElem?_insert_of_ne]
    rintro rfl
    rw [hnew] at hrecord
    cases hrecord

/-- **The staging loop** stores every cookie that is set, or restores the vault. -/
theorem stage_spec {rest : List (CookieKey × CookieMutation)} (hstart : Numbered start)
    (h : Staging binding origin generation now mutations start vault staged)
    (hrest : ∀ key mutation, (key, mutation) ∈ rest → mutations[key]? = some mutation)
    (hnodup : (rest.map (·.1)).Nodup) (hnew : ∀ key ∈ rest.map (·.1), staged[key]? = none)
    (hroom : vault.nextSecretId + rest.length ≤ u64Max)
    (hscope : ∀ (key : CookieKey) parsed, mutations[key]? = some (.set parsed) →
      ∃ allowedHosts, allowedHostsForCookie binding origin parsed = .ok allowedHosts) :
    (∃ e post, stage binding origin generation now rest staged vault = (.error e, post) ∧
      post.entries = start.entries ∧ post.leases = start.leases ∧ Later start post) ∨
    ∃ staged' post, stage binding origin generation now rest staged vault = (.ok staged', post) ∧
      Staging binding origin generation now mutations start post staged' ∧
      (∀ (key : CookieKey), staged[key]? ≠ none → staged'[key]? ≠ none) ∧
      ∀ key parsed, (key, CookieMutation.set parsed) ∈ rest → staged'[key]? ≠ none := by
  induction rest generalizing vault staged with
  | nil =>
    refine .inr ⟨staged, vault, rfl, h, fun _ hrecord => hrecord, ?_⟩
    intro key parsed hmem
    cases hmem
  | cons mutation rest ih =>
    obtain ⟨key, mutation⟩ := mutation
    rw [List.map_cons, List.nodup_cons] at hnodup
    rw [List.map_cons, List.forall_mem_cons] at hnew
    rw [List.length_cons] at hroom
    have hrest' := fun key mutation hmem => hrest key mutation (List.mem_cons_of_mem _ hmem)
    cases mutation with
    | delete =>
      rw [stage]
      rcases ih h hrest' hnodup.2 hnew.2 (by omega) with herror | ⟨staged', post, hstage, hok, hkept, hset⟩
      · exact .inl herror
      · refine .inr ⟨staged', post, hstage, hok, hkept, ?_⟩
        intro key' parsed hmem
        rcases List.mem_cons.mp hmem with heq | hmem
        · cases heq
        · exact hset key' parsed hmem
    | set parsed =>
      have hparsed := hrest key (.set parsed) List.mem_cons_self
      obtain ⟨allowedHosts, hhosts⟩ := hscope key parsed hparsed
      rw [stage, hhosts]
      dsimp only
      split_ifs with hempty
      · obtain ⟨post, hrollback, hpost⟩ := h.rollback hstart .cookieScopeEmpty
        rw [hrollback]
        exact .inl ⟨_, post, rfl, hpost⟩
      · cases hinsert : vault.insert
          (secretInputOf binding allowedHosts (allowedSchemesForCookie binding parsed) parsed) now with
        | mk result mid =>
          rcases Vault.InMemorySecretVault.insert_cases hinsert with ⟨e, rfl, rfl⟩ | ⟨handle, rfl, hinserted⟩
          · obtain ⟨post, hrollback, hpost⟩ := h.rollback hstart (.vault e)
            dsimp only
            rw [hrollback]
            exact .inl ⟨_, post, rfl, hpost⟩
          · have hstaging := h.insert hnew.1 hparsed (by omega) hhosts hinserted
            have hnext : mid.nextSecretId ≤ vault.nextSecretId + 1 := by
              rw [hinserted.nextSecretId, saturatingAdd]
              omega
            have hfresh : ∀ key' ∈ rest.map (·.1),
                (staged.insert key (recordOf key handle generation parsed))[key']? = none := by
              intro key' hmem
              rw [getElem?_insert_of_ne]
              · exact hnew.2 key' hmem
              · rintro rfl
                exact hnodup.1 hmem
            rcases ih hstaging hrest' hnodup.2 hfresh (by omega) with
              herror | ⟨staged', post, hstage, hok, hkept, hset⟩
            · exact .inl herror
            · refine .inr ⟨staged', post, hstage, hok, ?_, ?_⟩
              · intro key' hrecord
                exact hkept key' (getElem?_insert_ne_none (.inr hrecord))
              · intro key' parsed' hmem
                rcases List.mem_cons.mp hmem with heq | hmem
                · cases heq
                  exact hkept key (getElem?_insert_ne_none (.inl rfl))
                · exact hset key' parsed' hmem

end

/-! ## Writing the records -/

def isInsertion (records : BTreeMap CookieKey CookieRecord) (mutation : CookieKey × CookieMutation) : Bool :=
  mutation.2.isSet && !records.contains mutation.1

def isReplacement (records : BTreeMap CookieKey CookieRecord) (mutation : CookieKey × CookieMutation) : Bool :=
  mutation.2.isSet && records.contains mutation.1

def isDeletion (records : BTreeMap CookieKey CookieRecord) (mutation : CookieKey × CookieMutation) : Bool :=
  mutation.2.isDelete && records.contains mutation.1

structure Committed (mutations : List (CookieKey × CookieMutation)) (pre post : CommitState) : Prop where
  others : ∀ key ∉ mutations.map (·.1), post.records[key]? = pre.records[key]?
  set : ∀ (key : CookieKey) (parsed : ParsedSetCookie) (record : CookieRecord),
    (key, .set parsed) ∈ mutations → pre.staged[key]? = some record →
      ∃ generation, post.records[key]? = some { record with generation }
  deleted : ∀ key, (key, .delete) ∈ mutations → post.records[key]? = none
  staged : ∀ key ∉ mutations.map (·.1), post.staged[key]? = pre.staged[key]?
  insertions : post.inserted = pre.inserted + mutations.countP (isInsertion pre.records)
  replacements : post.replaced = pre.replaced + mutations.countP (isReplacement pre.records)
  deletions : post.deleted = pre.deleted + mutations.countP (isDeletion pre.records)
  size : post.records.size + mutations.countP (isDeletion pre.records) =
    pre.records.size + mutations.countP (isInsertion pre.records)

section

variable {config : CookieJarConfig} {generation : ℕ} {state next : CommitState} {key : CookieKey}

theorem contains_iff : records.contains key = true ↔ records[key]?.isSome = true := by
  rw [← ExtTreeMap.mem_iff_contains, ExtTreeMap.mem_iff_isSome_getElem?]

theorem size_erase_add (records : BTreeMap CookieKey CookieRecord) (key : CookieKey) :
    (records.erase key).size + (if records.contains key then 1 else 0) = records.size := by
  by_cases hcontains : records.contains key = true
  · obtain ⟨record, hrecord⟩ := Option.isSome_iff_exists.mp (contains_iff.mp hcontains)
    rw [if_pos hcontains, size_erase_of_getElem? hrecord]
  · simp [ExtTreeMap.size_erase, hcontains]

theorem committed_delete (hrecords : next.records = state.records.erase key) (hstaged : next.staged = state.staged)
    (hinserted : next.inserted = state.inserted) (hreplaced : next.replaced = state.replaced)
    (hdeleted : next.deleted = state.deleted + if state.records.contains key then 1 else 0) :
    Committed [(key, .delete)] state next := by
  refine ⟨?_, ?_, ?_, fun _ _ => by rw [hstaged], ?_, ?_, ?_, ?_⟩
  · intro other hother
    rw [hrecords, getElem?_erase_of_ne]
    rintro rfl
    exact hother List.mem_cons_self
  · intro key' parsed record hmem
    cases List.mem_singleton.mp hmem
  · intro key' hmem
    cases List.mem_singleton.mp hmem
    rw [hrecords, getElem?_erase_self]
  · simp [hinserted, isInsertion, CookieMutation.isSet]
  · simp [hreplaced, isReplacement, CookieMutation.isSet]
  · simp [hdeleted, isDeletion, CookieMutation.isDelete, List.countP_singleton]
  · have hsize := size_erase_add state.records key
    simpa [hrecords, isDeletion, isInsertion, CookieMutation.isDelete, CookieMutation.isSet,
      List.countP_singleton] using hsize

theorem committed_set (hrecord : state.staged[key]? = some record)
    (hrecords : next.records = (state.records.erase key).insert key { record with generation })
    (hstaged : next.staged = state.staged.erase key)
    (hinserted : next.inserted = state.inserted + if state.records.contains key then 0 else 1)
    (hreplaced : next.replaced = state.replaced + if state.records.contains key then 1 else 0)
    (hdeleted : next.deleted = state.deleted) : Committed [(key, .set parsed)] state next := by
  have hne : ∀ other ∉ [(key, CookieMutation.set parsed)].map (·.1), key ≠ other := by
    rintro other hother rfl
    exact hother List.mem_cons_self
  refine ⟨?_, ?_, ?_, ?_, ?_, ?_, ?_, ?_⟩
  · intro other hother
    rw [hrecords, getElem?_insert_of_ne _ _ (hne other hother), getElem?_erase_of_ne _ (hne other hother)]
  · intro key' parsed' other hmem hother
    cases List.mem_singleton.mp hmem
    rw [hrecord] at hother
    cases hother
    exact ⟨generation, by rw [hrecords, getElem?_insert_self]⟩
  · intro key' hmem
    cases List.mem_singleton.mp hmem
  · intro other hother
    rw [hstaged, getElem?_erase_of_ne _ (hne other hother)]
  · cases hcontains : state.records.contains key <;>
      simp [hinserted, isInsertion, CookieMutation.isSet, hcontains]
  · simp [hreplaced, isReplacement, CookieMutation.isSet, List.countP_singleton]
  · simp [hdeleted, isDeletion, CookieMutation.isDelete]
  · have hsize := size_erase_add state.records key
    rw [hrecords, size_insert_new _ (getElem?_erase_self _ _), ← hsize]
    cases hcontains : state.records.contains key <;>
      simp [isDeletion, isInsertion, CookieMutation.isDelete, CookieMutation.isSet, hcontains]

variable {mutation : CookieMutation}

theorem commitOne_spec
    (hstaged : ∀ parsed, mutation = .set parsed → ∃ record, state.staged[key]? = some record)
    (hroom : state.inserted < u64Max ∧ state.replaced < u64Max ∧ state.deleted < u64Max) :
    ∃ next, commitOne config generation state key mutation = (.ok (), next) ∧
      Committed [(key, mutation)] state next := by
  have hplus : ∀ n < u64Max, saturatingAdd n 1 = n + 1 := by
    intro n hn
    rw [saturatingAdd]
    omega
  have hcontains : state.records.contains key = state.records[key]?.isSome := by
    rw [Bool.eq_iff_iff, contains_iff]
  cases mutation with
  | delete =>
    rw [commitOne]
    cases hprevious : state.records[key]? with
    | some previous =>
      exact ⟨_, rfl, committed_delete rfl rfl rfl rfl (by simp [hcontains, hprevious, hplus _ hroom.2.2])⟩
    | none => exact ⟨_, rfl, committed_delete rfl rfl rfl rfl (by simp [hcontains, hprevious])⟩
  | set parsed =>
    obtain ⟨record, hrecord⟩ := hstaged parsed rfl
    rw [commitOne]
    dsimp only
    rw [hrecord]
    cases hprevious : state.records[key]? with
    | some previous =>
      refine ⟨_, rfl, committed_set hrecord rfl rfl ?_ ?_ rfl⟩
      · simp [hcontains, hprevious]
      · simp [hcontains, hprevious, hplus _ hroom.2.1]
    | none =>
      refine ⟨_, rfl, committed_set hrecord rfl rfl ?_ ?_ rfl⟩
      · simp [hcontains, hprevious, hplus _ hroom.1]
      · simp [hcontains, hprevious]

variable {mutations : List (CookieKey × CookieMutation)}

theorem Committed.cons
    {mid post : CommitState} (hone : Committed [(key, mutation)] state mid) (hrest : Committed mutations mid post)
    (hnew : key ∉ mutations.map (·.1)) : Committed ((key, mutation) :: mutations) state post := by
  have hkept : ∀ other ∈ mutations.map (·.1), mid.records[other]? = state.records[other]? ∧
      mid.staged[other]? = state.staged[other]? := by
    intro other hmem
    have hother : other ∉ [(key, mutation)].map (·.1) := by
      rw [List.map_singleton, List.mem_singleton]
      rintro rfl
      exact hnew hmem
    exact ⟨hone.others other hother, hone.staged other hother⟩
  -- the later mutations see the records of the start
  have hcontains : ∀ m ∈ mutations, mid.records.contains m.1 = state.records.contains m.1 := by
    intro m hmem
    rw [Bool.eq_iff_iff, contains_iff, contains_iff, (hkept m.1 (List.mem_map_of_mem hmem)).1]
  have hinsertions : mutations.countP (isInsertion mid.records) = mutations.countP (isInsertion state.records) :=
    List.countP_congr fun m hmem => by rw [isInsertion, isInsertion, hcontains m hmem]
  have hreplacements :
      mutations.countP (isReplacement mid.records) = mutations.countP (isReplacement state.records) :=
    List.countP_congr fun m hmem => by rw [isReplacement, isReplacement, hcontains m hmem]
  have hdeletions : mutations.countP (isDeletion mid.records) = mutations.countP (isDeletion state.records) :=
    List.countP_congr fun m hmem => by rw [isDeletion, isDeletion, hcontains m hmem]
  have hsplit : ∀ p : CookieKey × CookieMutation → Bool,
      ((key, mutation) :: mutations).countP p = [(key, mutation)].countP p + mutations.countP p := by
    intro p
    rw [← List.countP_append, List.singleton_append]
  have hnot : ∀ other, other ∉ ((key, mutation) :: mutations).map (·.1) →
      other ∉ [(key, mutation)].map (·.1) ∧ other ∉ mutations.map (·.1) := by
    intro other hother
    rw [List.map_cons, List.mem_cons, not_or] at hother
    rw [List.map_singleton, List.mem_singleton]
    exact hother
  refine ⟨?_, ?_, ?_, ?_, ?_, ?_, ?_, ?_⟩
  · intro other hother
    rw [hrest.others other (hnot other hother).2, hone.others other (hnot other hother).1]
  · intro key' parsed record hmem hrecord
    rcases List.mem_cons.mp hmem with heq | hmem
    · cases heq
      obtain ⟨generation, hset⟩ := hone.set key parsed record List.mem_cons_self hrecord
      exact ⟨generation, by rw [hrest.others key hnew, hset]⟩
    · refine hrest.set key' parsed record hmem ?_
      rw [(hkept key' (List.mem_map_of_mem hmem)).2, hrecord]
  · intro key' hmem
    rcases List.mem_cons.mp hmem with heq | hmem
    · cases heq
      rw [hrest.others key hnew, hone.deleted key List.mem_cons_self]
    · exact hrest.deleted key' hmem
  · intro other hother
    rw [hrest.staged other (hnot other hother).2, hone.staged other (hnot other hother).1]
  · rw [hrest.insertions, hone.insertions, hsplit, hinsertions, Nat.add_assoc]
  · rw [hrest.replacements, hone.replacements, hsplit, hreplacements, Nat.add_assoc]
  · rw [hrest.deletions, hone.deletions, hsplit, hdeletions, Nat.add_assoc]
  · have hsize := hrest.size
    rw [hinsertions, hdeletions] at hsize
    rw [hsplit, hsplit]
    have hsize' := hone.size
    omega

/-- **Writing all mutations** of distinct keys, when the set cookies are staged. -/
theorem commitAll_spec (hnodup : (mutations.map (·.1)).Nodup)
    (hstaged : ∀ key parsed, (key, CookieMutation.set parsed) ∈ mutations → ∃ record, state.staged[key]? = some record)
    (hroom : state.inserted + mutations.length ≤ u64Max ∧
      state.replaced + mutations.length ≤ u64Max ∧ state.deleted + mutations.length ≤ u64Max) :
    ∃ post, commitAll config generation mutations state = (.ok (), post) ∧ Committed mutations state post := by
  induction mutations generalizing state with
  | nil => exact ⟨state, rfl, fun _ _ => rfl, by simp, by simp, fun _ _ => rfl, rfl, rfl, rfl, rfl⟩
  | cons mutation mutations ih =>
    obtain ⟨key, mutation⟩ := mutation
    rw [List.map_cons, List.nodup_cons] at hnodup
    rw [List.length_cons] at hroom
    obtain ⟨mid, hmid, hone⟩ : ∃ mid, commitOne config generation state key mutation =
        (.ok (), mid) ∧ Committed [(key, mutation)] state mid := by
      refine commitOne_spec ?_ (by omega)
      rintro parsed rfl
      exact hstaged key parsed List.mem_cons_self
    have hle : ∀ p : CookieKey × CookieMutation → Bool, [(key, mutation)].countP p ≤ 1 := fun p =>
      List.countP_le_length
    have hinserted := hone.insertions
    have hreplaced := hone.replacements
    have hdeleted := hone.deletions
    have hle₁ := hle (isInsertion state.records)
    have hle₂ := hle (isReplacement state.records)
    have hle₃ := hle (isDeletion state.records)
    have hstaged' : ∀ key parsed, (key, CookieMutation.set parsed) ∈ mutations →
        ∃ record, mid.staged[key]? = some record := by
      intro key' parsed hmem
      obtain ⟨record, hrecord⟩ := hstaged key' parsed (List.mem_cons_of_mem _ hmem)
      refine ⟨record, ?_⟩
      rw [hone.staged key', hrecord]
      rw [List.map_singleton, List.mem_singleton]
      rintro rfl
      exact hnodup.1 (List.mem_map.mpr ⟨_, hmem, rfl⟩)
    obtain ⟨post, hpost, hrest⟩ := ih hnodup.2 hstaged' (by omega)
    refine ⟨post, ?_, hone.cons hrest hnodup.1⟩
    rw [commitAll, hmid]
    exact hpost

end

/-! ## The plan of a transaction -/

structure Planned (parseHttpDate : String → Option ℤ) (jar : CookieJar) (vault : InMemorySecretVault)
    (binding : SecretBinding) (origin : CookieOrigin) (requestTarget : String) (setCookieValues : List Bytes)
    (now : ℤ) (normalized : CookieOrigin) (mutations : BTreeMap CookieKey CookieMutation) : Prop where
  limit : setCookieValues.length ≤ jar.config.maximumSetCookieHeaders
  origin : CookieOrigin.new origin.host origin.scheme = .ok normalized
  host : normalized.host ∈ binding.allowedHosts
  scheme : normalized.scheme ∈ binding.allowedSchemes
  /-- Every mutation comes from a field that was accepted. -/
  parsed : ∀ (key : CookieKey) (mutation : CookieMutation), mutations[key]? = some mutation →
    ∃ header ∈ setCookieValues, ∃ parsed,
      parseSetCookie parseHttpDate header normalized requestTarget now = .ok parsed ∧
        parsed.key = key ∧ mutation = .fromParsed parsed
  covered : ∀ header ∈ setCookieValues, ∃ parsed,
    parseSetCookie parseHttpDate header normalized requestTarget now = .ok parsed ∧ mutations[parsed.key]? ≠ none
  size : mutations.size ≤ setCookieValues.length
  records : jar.prospectiveCount mutations ≤ jar.config.maximumCookieRecords
  /-- The records that are touched have a stored secret. -/
  live : ∀ (key : CookieKey) (mutation : CookieMutation) (record : CookieRecord), mutations[key]? = some mutation →
    jar.records[key]? = some record → vault.entries[record.handle]? ≠ none

section

variable {parseHttpDate : String → Option ℤ} {jar : CookieJar} {binding : SecretBinding}
  {origin normalized : CookieOrigin} {requestTarget : String} {setCookieValues : List Bytes} {now : ℤ}
  {mutations : BTreeMap CookieKey CookieMutation} {supersededHeaders : ℕ}

theorem collectMutations_spec {start : BTreeMap CookieKey CookieMutation × ℕ}
    (h : CookieJar.collectMutations parseHttpDate origin requestTarget now setCookieValues start =
      .ok (mutations, supersededHeaders)) :
    (∀ (key : CookieKey) (mutation : CookieMutation), mutations[key]? = some mutation →
      start.1[key]? = some mutation ∨ ∃ header ∈ setCookieValues, ∃ parsed,
        parseSetCookie parseHttpDate header origin requestTarget now = .ok parsed ∧
          parsed.key = key ∧ mutation = .fromParsed parsed) ∧
    (∀ (key : CookieKey), start.1[key]? ≠ none → mutations[key]? ≠ none) ∧
    (∀ header ∈ setCookieValues, ∃ parsed,
      parseSetCookie parseHttpDate header origin requestTarget now = .ok parsed ∧ mutations[parsed.key]? ≠ none) ∧
    mutations.size ≤ start.1.size + setCookieValues.length := by
  induction setCookieValues generalizing start with
  | nil =>
    cases h
    exact ⟨fun _ _ hmutation => .inl hmutation, fun _ hstart => hstart, by simp, le_rfl⟩
  | cons header headers ih =>
    obtain ⟨before, superseded⟩ := start
    simp only [CookieJar.collectMutations, bind_eq_ok] at h
    obtain ⟨parsed, hparsed, h⟩ := h
    obtain ⟨hrest, hkept, hcovered, hsize⟩ := ih h
    refine ⟨?_, ?_, ?_, ?_⟩
    · intro key mutation hmutation
      rcases hrest key mutation hmutation with hold | ⟨header', hmem, hfound⟩
      · rcases getElem?_insert_eq_some.mp hold with ⟨hkey, rfl⟩ | ⟨-, hold⟩
        · exact .inr ⟨header, List.mem_cons_self, parsed, hparsed, hkey, rfl⟩
        · exact .inl hold
      · exact .inr ⟨header', List.mem_cons_of_mem _ hmem, hfound⟩
    · exact fun key hstart => hkept key (getElem?_insert_ne_none (.inr hstart))
    · rw [List.forall_mem_cons]
      exact ⟨⟨parsed, hparsed, hkept parsed.key (getElem?_insert_ne_none (.inl rfl))⟩, hcovered⟩
    · have hinsert : (before.insert parsed.key (CookieMutation.fromParsed parsed)).size ≤ before.size + 1 :=
        ExtTreeMap.size_insert_le
      rw [List.length_cons]
      dsimp only at hsize ⊢
      omega

theorem plan_spec (h : jar.plan parseHttpDate vault binding origin requestTarget setCookieValues now =
      .ok (normalized, mutations, supersededHeaders)) :
    Planned parseHttpDate jar vault binding origin requestTarget setCookieValues now normalized mutations := by
  simp only [CookieJar.plan, do_eq_ok, Prod.exists, Prod.mk.injEq, not_or, not_not, not_lt, gt_iff_lt] at h
  obtain ⟨hlimit, _, horigin, -, -, ⟨hhost, hscheme⟩, _, _, hmutations, hrecords, hlive, rfl, rfl, rfl⟩ := h
  obtain ⟨hparsed, -, hcovered, hsize⟩ := collectMutations_spec hmutations
  refine ⟨hlimit, horigin, hhost, hscheme, ?_, hcovered, ?_, hrecords, ?_⟩
  · intro key mutation hmutation
    rcases hparsed key mutation hmutation with hempty | hfound
    · rw [ExtTreeMap.getElem?_empty] at hempty
      cases hempty
    · exact hfound
  · simpa using hsize
  · intro key mutation record hmutation hrecord hnone
    have hcheck := forM_eq_ok.mp hlive (key, mutation) (ExtTreeMap.mem_toList_iff_getElem?_eq_some.mpr hmutation)
    simp only [hrecord, InMemorySecretVault.metadata, hnone, map_eq_ok] at hcheck
    obtain ⟨_, hcheck, -⟩ := hcheck
    cases hcheck

variable (h : Planned parseHttpDate jar vault binding origin requestTarget setCookieValues now normalized mutations)
  (hset : mutations[key]? = some (.set parsed))

include h hset

theorem Planned.parsed_set :
    ∃ header ∈ setCookieValues, parseSetCookie parseHttpDate header normalized requestTarget now = .ok parsed ∧
      parsed.key = key ∧ parsed.delete = false := by
  obtain ⟨header, hmem, parsed', hparsed, hkey, hmutation⟩ := h.parsed key _ hset
  unfold CookieMutation.fromParsed at hmutation
  split at hmutation
  · cases hmutation
  · next hdelete =>
    cases hmutation
    exact ⟨header, hmem, hparsed, hkey, by simpa using hdelete⟩

theorem Planned.scope :
    ∃ allowedHosts, allowedHostsForCookie binding normalized parsed = .ok allowedHosts := by
  obtain ⟨header, -, hparsed, -⟩ := h.parsed_set hset
  obtain ⟨attributes, haccepted⟩ := parseSetCookie_spec hparsed
  simp only [allowedHostsForCookie, do_eq_ok]
  refine ⟨_, ?_, rfl⟩
  have hne : ∀ {hosts : BTreeSet String}, normalized.host ∈ hosts → ¬ hosts.isEmpty = true := by
    intro hosts hmem hempty
    rw [Std.ExtTreeSet.isEmpty_iff.mp hempty] at hmem
    exact Std.ExtTreeSet.not_mem_empty hmem
  cases hhostOnly : parsed.hostOnly with
  | true =>
    rw [if_pos rfl]
    exact hne (by simp)
  | false =>
    rw [if_neg Bool.false_ne_true]
    refine hne ?_
    rw [Std.ExtTreeSet.mem_filter]
    exact ⟨h.host, by simpa using (haccepted.domain hhostOnly).2⟩

end

/-! ## The jar and its vault -/

/-- What ties a jar to its vault. The secrets of the records may have been revoked,
but they were given out, to one record each. -/
structure JarInvariant (jar : CookieJar) (vault : InMemorySecretVault) : Prop where
  headerLimit : jar.config.maximumSetCookieHeaders ≤ maxSetCookieHeaders
  issued : ∀ (key : CookieKey) (record : CookieRecord), jar.records[key]? = some record → Issued vault record.handle
  distinct : DistinctHandles jar.records
  /-- A stored secret of a record would be seeded under the record's key. -/
  seeded : ∀ (key key' : CookieKey) (record : CookieRecord) (entry : SecretEntry) (cookie : Vault.CookieMetadata),
    jar.records[key]? = some record → vault.entries[record.handle]? = some entry →
      entry.metadata.delivery = .cookie cookie → CookieJar.seedKey cookie = .ok key' → key' = key

theorem JarInvariant.later {jar : CookieJar} (h : JarInvariant jar vault)
    (hlater : Later vault post) : JarInvariant jar post where
  headerLimit := h.headerLimit
  issued key record hrecord := (h.issued key record hrecord).later hlater
  distinct := h.distinct
  seeded key key' record entry cookie hrecord hentry :=
    h.seeded key key' record entry cookie hrecord
      (hlater.kept record.handle (h.issued key record hrecord) entry hentry)

variable {jar' : CookieJar}

theorem JarInvariant.congr {jar : CookieJar} (h : JarInvariant jar vault) (hconfig : jar'.config = jar.config)
    (hrecords : jar'.records = jar.records) : JarInvariant jar' vault where
  headerLimit := by rw [hconfig]; exact h.headerLimit
  issued := by rw [hrecords]; exact h.issued
  distinct := by rw [hrecords]; exact h.distinct
  seeded := by rw [hrecords]; exact h.seeded

def CookieRecord.ageless (record : CookieRecord) : CookieRecord := { record with generation := 0 }

theorem mem_oldHandles {jar : CookieJar} {mutations : BTreeMap CookieKey CookieMutation} :
    handle ∈ jar.oldHandles mutations ↔ ∃ (key : CookieKey) (mutation : CookieMutation) (record : CookieRecord),
      mutations[key]? = some mutation ∧ jar.records[key]? = some record ∧ record.handle = handle := by
  simp only [CookieJar.oldHandles, List.mem_filterMap, Prod.exists,
    ExtTreeMap.mem_toList_iff_getElem?_eq_some, Option.map_eq_some_iff, exists_and_left]

structure Applied (binding : SecretBinding) (normalized : CookieOrigin) (now : ℤ)
    (mutations : BTreeMap CookieKey CookieMutation) (jar : CookieJar) (vault : InMemorySecretVault)
    (commit : CookieCommit) (jar' : CookieJar) (vault' : InMemorySecretVault) : Prop where
  later : Later vault vault'
  invariant : JarInvariant jar' vault'
  config : jar'.config = jar.config
  untouched : ∀ key : CookieKey, mutations[key]? = none →
    jar'.records[key]?.map CookieRecord.ageless = jar.records[key]?.map CookieRecord.ageless
  deleted : ∀ key : CookieKey, mutations[key]? = some .delete → jar'.records[key]? = none
  set : ∀ (key : CookieKey) (parsed : ParsedSetCookie), mutations[key]? = some (.set parsed) →
    ∃ record entry, jar'.records[key]? = some record ∧
      record.ageless = recordOf key record.handle 0 parsed ∧ ¬ Issued vault record.handle ∧
      vault'.entries[record.handle]? = some entry ∧ StagedEntry binding normalized now parsed record.handle entry
  gone : ∀ (key : CookieKey) (mutation : CookieMutation) (record : CookieRecord), mutations[key]? = some mutation →
    jar.records[key]? = some record → vault'.entries[record.handle]? = none
  others : ∀ handle : SecretHandle,
    (∀ (key : CookieKey) (mutation : CookieMutation) (record : CookieRecord), mutations[key]? = some mutation →
      jar.records[key]? = some record → record.handle ≠ handle) →
    (∀ (key : CookieKey) (mutation : CookieMutation) (record : CookieRecord), mutations[key]? = some mutation →
      jar'.records[key]? = some record → record.handle ≠ handle) →
    vault'.entries[handle]? = vault.entries[handle]?
  insertions : commit.inserted = mutations.toList.countP (isInsertion jar.records)
  replacements : commit.replaced = mutations.toList.countP (isReplacement jar.records)
  deletions : commit.deleted = mutations.toList.countP (isDeletion jar.records)
  size : jar'.records.size + mutations.toList.countP (isDeletion jar.records) =
    jar.records.size + mutations.toList.countP (isInsertion jar.records)
  activeHandles : commit.activeHandles = handlesOf jar'.records

section

variable (jar : CookieJar) (vaultAuditBefore vaultAuditAfter transactionId : String)
  (origin : CookieOrigin) (supersededHeaders : ℕ) (state : CommitState)

theorem finish_records : (∀ key : CookieKey,
      ((jar.finish vaultAuditBefore vaultAuditAfter transactionId origin supersededHeaders state).2.records[key]?).map
        CookieRecord.ageless = state.records[key]?.map CookieRecord.ageless) ∧
    (jar.finish vaultAuditBefore vaultAuditAfter transactionId origin supersededHeaders state).2.records.size =
      state.records.size := by
  obtain ⟨generation, hrecords⟩ : ∃ generation,
      (jar.finish vaultAuditBefore vaultAuditAfter transactionId origin supersededHeaders state).2.records =
        if state.rotationDetected then state.records.map (fun _ record => { record with generation })
        else state.records := ⟨_, rfl⟩
  rw [hrecords]
  cases state.rotationDetected with
  | false => exact ⟨fun _ => rfl, rfl⟩
  | true =>
    rw [if_pos rfl, ExtTreeMap.size_map]
    refine ⟨fun key => ?_, rfl⟩
    rw [ExtTreeMap.getElem?_map, Option.map_map]
    rfl

end

theorem exists_of_ageless {records' : BTreeMap CookieKey CookieRecord}
    (h : records'[key]?.map CookieRecord.ageless = records[key]?.map CookieRecord.ageless)
    (hrecord : records'[key]? = some record) :
    ∃ record', records[key]? = some record' ∧ record'.ageless = record.ageless ∧ record'.handle = record.handle := by
  rw [hrecord, Option.map_some] at h
  obtain ⟨record', hrecord', heq⟩ := Option.map_eq_some_iff.mp h.symm
  exact ⟨record', hrecord', heq, congrArg (·.handle) heq⟩

section

variable {parseHttpDate : String → Option ℤ} {jar : CookieJar} {binding : SecretBinding}
  {origin : CookieOrigin} {requestTarget : String} {setCookieValues : List Bytes} {now : ℤ}

variable {normalized : CookieOrigin}

theorem StagedEntry.seedKey
    {entry : SecretEntry} (h : StagedEntry binding normalized now parsed handle entry)
    (hdomain : ∃ host, normalizeHost host = .ok parsed.domain) {cookie : Vault.CookieMetadata}
    (hcookie : entry.metadata.delivery = .cookie cookie)
    (hkey : CookieJar.seedKey cookie = .ok key) : key = parsed.key := by
  obtain ⟨allowedHosts, _, -, hvalidated, -, rfl⟩ := h.stored
  cases hcookie
  simp only [CookieJar.seedKey, do_eq_ok] at hkey
  obtain ⟨domain, hagain, path, hpath, rfl⟩ := hkey
  simp only [Vault.validateSecretInput, secretInputOf, do_eq_ok, Vault.validateCookie] at hvalidated
  obtain ⟨-, -, _, -, -, -, accepted, hvault, -⟩ := hvalidated
  obtain ⟨host, hhost⟩ := hdomain
  have hsame : domain = parsed.domain := normalizeHost_fixed hhost hvault hagain
  simp only [normalizeCookiePath, do_eq_ok] at hpath
  rw [ParsedSetCookie.key, hsame, ← hpath.2]

theorem applied_of_steps {mutations : BTreeMap CookieKey CookieMutation}
    {mid vault' : InMemorySecretVault} {staged : BTreeMap CookieKey CookieRecord} {state : CommitState}
    {supersededHeaders : ℕ} {vaultAuditBefore vaultAuditAfter transactionId : String}
    {nextTransactionId : ℕ} (hjar : JarInvariant jar vault)
    (hplanned : Planned parseHttpDate jar vault binding origin requestTarget setCookieValues now normalized mutations)
    (hstaging : Staging binding normalized jar.generation now mutations vault mid staged)
    (hset : ∀ (key : CookieKey) parsed, mutations[key]? = some (.set parsed) → staged[key]? ≠ none)
    (hrevoked : Revoked mid (jar.oldHandles mutations) vault') (hlater : Later mid vault')
    (hcommitted : Committed mutations.toList { records := jar.records, staged } state) :
    let finished := CookieJar.finish { jar with nextTransactionId } vaultAuditBefore vaultAuditAfter transactionId
      normalized supersededHeaders state
    Applied binding normalized now mutations jar vault finished.1 finished.2 vault' := by
  intro finished
  have hmem : ∀ {key : CookieKey} {mutation : CookieMutation},
      (key, mutation) ∈ mutations.toList ↔ mutations[key]? = some mutation :=
    ExtTreeMap.mem_toList_iff_getElem?_eq_some
  have hfinal : ∀ key : CookieKey, finished.2.records[key]?.map CookieRecord.ageless =
      state.records[key]?.map CookieRecord.ageless := (finish_records _ _ _ _ _ _ _).1
  have huntouched : ∀ key : CookieKey, mutations[key]? = none →
      finished.2.records[key]?.map CookieRecord.ageless = jar.records[key]?.map CookieRecord.ageless := by
    intro key hnone
    rw [hfinal, hcommitted.others]
    intro hkey
    obtain ⟨⟨_, mutation⟩, hmutation, rfl⟩ := List.mem_map.mp hkey
    rw [hmem.mp hmutation] at hnone
    cases hnone
  have hdeleted : ∀ key : CookieKey, mutations[key]? = some .delete → finished.2.records[key]? = none := by
    intro key hdelete
    have hrecord := hfinal key
    rw [hcommitted.deleted key (hmem.mpr hdelete), Option.map_none] at hrecord
    exact Option.map_eq_none_iff.mp hrecord
  -- a staged secret was not issued before, so it is not one of the old ones
  have hkept : ∀ handle, ¬ Issued vault handle → vault'.entries[handle]? = mid.entries[handle]? := by
    intro handle hfresh
    refine hrevoked.others handle ?_
    rw [mem_oldHandles]
    rintro ⟨key, -, record, -, hrecord, rfl⟩
    exact hfresh (hjar.issued key record hrecord)
  have hwritten : ∀ (key : CookieKey) (parsed : ParsedSetCookie), mutations[key]? = some
      (.set parsed) → ∃ record stagedRecord, finished.2.records[key]? = some record ∧
        staged[key]? = some stagedRecord ∧ record.ageless = stagedRecord.ageless := by
    intro key parsed hparsed
    obtain ⟨stagedRecord, hstaged⟩ := Option.ne_none_iff_exists'.mp (hset key parsed hparsed)
    obtain ⟨generation, hrecord⟩ := hcommitted.set key parsed stagedRecord (hmem.mpr hparsed) hstaged
    have hageless := hfinal key
    rw [hrecord, Option.map_some] at hageless
    obtain ⟨record, hfound, heq⟩ := Option.map_eq_some_iff.mp hageless
    exact ⟨record, stagedRecord, hfound, hstaged, heq⟩
  -- a record is one from before, or one that was staged
  have hcases : ∀ (key : CookieKey) (record : CookieRecord), finished.2.records[key]? = some record →
      (∃ old, jar.records[key]? = some old ∧ old.handle = record.handle) ∨
      ∃ stagedRecord, staged[key]? = some stagedRecord ∧ stagedRecord.handle = record.handle := by
    intro key record hrecord
    cases hmutation : mutations[key]? with
    | none =>
      obtain ⟨old, hfound, -, hhandle⟩ := exists_of_ageless (huntouched key hmutation) hrecord
      exact .inl ⟨old, hfound, hhandle⟩
    | some mutation =>
      cases mutation with
      | delete =>
        rw [hdeleted key hmutation] at hrecord
        cases hrecord
      | set parsed =>
        obtain ⟨record', stagedRecord, hfound, hstaged, heq⟩ := hwritten key parsed hmutation
        rw [hfound] at hrecord
        cases hrecord
        exact .inr ⟨stagedRecord, hstaged, (congrArg (·.handle) heq).symm⟩
  refine ⟨hstaging.later.trans hlater, ⟨hjar.headerLimit, ?_, ?_, ?_⟩, rfl, huntouched, hdeleted, ?_, ?_, ?_,
    hcommitted.insertions.trans (Nat.zero_add _), hcommitted.replacements.trans (Nat.zero_add _),
    hcommitted.deletions.trans (Nat.zero_add _), ?_, rfl⟩
  · intro key record hrecord
    rcases hcases key record hrecord with ⟨old, hfound, hhandle⟩ | ⟨stagedRecord, hstaged, hhandle⟩
    · rw [← hhandle]
      exact ((hjar.issued key old hfound).later hstaging.later).later hlater
    · rw [← hhandle]
      exact (hstaging.fresh key stagedRecord hstaged).2.later hlater
  · intro key₁ key₂ record₁ record₂ hrecord₁ hrecord₂ hsame
    rcases hcases key₁ record₁ hrecord₁ with ⟨old₁, hold₁, hhandle₁⟩ | ⟨staged₁, hstaged₁, hhandle₁⟩ <;>
      rcases hcases key₂ record₂ hrecord₂ with ⟨old₂, hold₂, hhandle₂⟩ | ⟨staged₂, hstaged₂, hhandle₂⟩ <;>
      rw [← hhandle₁, ← hhandle₂] at hsame
    · exact hjar.distinct key₁ key₂ old₁ old₂ hold₁ hold₂ hsame
    · exact absurd (hsame ▸ hjar.issued key₁ old₁ hold₁) (hstaging.fresh key₂ staged₂ hstaged₂).1
    · exact absurd (hsame ▸ hjar.issued key₂ old₂ hold₂) (hstaging.fresh key₁ staged₁ hstaged₁).1
    · exact hstaging.distinct key₁ key₂ staged₁ staged₂ hstaged₁ hstaged₂ hsame
  · intro key key' record entry cookie hrecord hentry hcookie hseed
    rcases hcases key record hrecord with ⟨old, hfound, hhandle⟩ | ⟨stagedRecord, hstaged, hhandle⟩
    · rw [← hhandle] at hentry
      have hbefore := (hstaging.later.trans hlater).kept _ (hjar.issued key old hfound) entry hentry
      exact hjar.seeded key key' old entry cookie hfound hbefore hcookie hseed
    · obtain ⟨parsed, stagedEntry, hmutation, -, hown, hentryOf⟩ := hstaging.own key stagedRecord hstaged
      rw [← hhandle, hkept _ (hstaging.fresh key stagedRecord hstaged).1, hown] at hentry
      cases hentry
      obtain ⟨header, -, hparsed, rfl, -⟩ := hplanned.parsed_set hmutation
      obtain ⟨attributes, haccepted⟩ := parseSetCookie_spec hparsed
      exact hentryOf.seedKey (haccepted.normalDomain (CookieOrigin.normal_of_new hplanned.origin)) hcookie hseed
  · intro key parsed hparsed
    obtain ⟨record, stagedRecord, hfound, hstaged, heq⟩ := hwritten key parsed hparsed
    obtain ⟨parsed', entry, hmutation, hrecordOf, hentry, hentryOf⟩ := hstaging.own key stagedRecord hstaged
    rw [hparsed, Option.some.injEq, CookieMutation.set.injEq] at hmutation
    subst hmutation
    have hhandle : record.handle = stagedRecord.handle := congrArg (·.handle) heq
    have hfresh := (hstaging.fresh key stagedRecord hstaged).1
    refine ⟨record, entry, hfound, ?_, ?_, ?_, ?_⟩
    · rw [heq, hrecordOf, hhandle]
      rfl
    · rwa [hhandle]
    · rw [hhandle, hkept _ hfresh, hentry]
    · rwa [hhandle]
  · intro key mutation record hmutation hrecord
    exact hrevoked.gone _ (mem_oldHandles.mpr ⟨key, mutation, record, hmutation, hrecord, rfl⟩)
  · intro handle hnotOld hnotNew
    rw [hrevoked.others handle, hstaging.others handle]
    · intro key stagedRecord hstaged
      obtain ⟨parsed, -, hmutation, -⟩ := hstaging.own key stagedRecord hstaged
      obtain ⟨record, stagedRecord', hfound, hstaged', heq⟩ := hwritten key parsed hmutation
      rw [hstaged] at hstaged'
      cases hstaged'
      rw [← show record.handle = stagedRecord.handle from congrArg (·.handle) heq]
      exact hnotNew key _ record hmutation hfound
    · rw [mem_oldHandles]
      rintro ⟨key, mutation, record, hmutation, hrecord, hhandle⟩
      exact hnotOld key mutation record hmutation hrecord hhandle
  · rw [show finished.2.records.size = state.records.size from (finish_records _ _ _ _ _ _ _).2]
    exact hcommitted.size

/-- **A transaction fails and nothing has changed, or it does all of its plan.** -/
theorem applyResponse_spec (parseHttpDate : String → Option ℤ) (binding : SecretBinding) (origin : CookieOrigin)
    (requestTarget : String) (setCookieValues : List Bytes) (now : ℤ) (hvault : Numbered vault)
    (hjar : JarInvariant jar vault) (hroom : vault.nextSecretId + setCookieValues.length ≤ u64Max) :
    (∃ e jar' vault', jar.applyResponse parseHttpDate vault binding origin requestTarget setCookieValues now =
        (.error e, jar', vault') ∧ jar'.records = jar.records ∧ jar'.generation = jar.generation ∧
      jar'.config = jar.config ∧ vault'.entries = vault.entries ∧ vault'.leases = vault.leases ∧
      Later vault vault') ∨
    ∃ commit jar' vault' normalized mutations,
      jar.applyResponse parseHttpDate vault binding origin requestTarget setCookieValues now =
        (.ok commit, jar', vault') ∧
      Planned parseHttpDate jar vault binding origin requestTarget setCookieValues now normalized mutations ∧
      Applied binding normalized now mutations jar vault commit jar' vault' := by
  rw [CookieJar.applyResponse]
  cases hplan : jar.plan parseHttpDate vault binding origin requestTarget setCookieValues now with
  | error e => exact .inl ⟨e, jar, vault, rfl, rfl, rfl, rfl, rfl, rfl, .refl hvault⟩
  | ok plan =>
    obtain ⟨normalized, mutations, supersededHeaders⟩ := plan
    have hplanned := plan_spec hplan
    have hlength : mutations.toList.length ≤ setCookieValues.length := by
      rw [ExtTreeMap.length_toList]
      exact hplanned.size
    dsimp only
    have hmem : ∀ {key : CookieKey} {mutation : CookieMutation},
        (key, mutation) ∈ mutations.toList ↔ mutations[key]? = some mutation :=
      ExtTreeMap.mem_toList_iff_getElem?_eq_some
    have hbegin : Staging binding normalized jar.generation now mutations vault vault ∅ := by
      refine ⟨.refl hvault, rfl, ?_, ?_, ?_, fun _ _ => rfl⟩ <;> simp [DistinctHandles]
    rcases stage_spec hvault hbegin (fun _ _ => hmem.mp) (nodup_keys_toList mutations)
        (fun _ _ => ExtTreeMap.getElem?_empty) (by omega) (fun key parsed hset => hplanned.scope hset) with
      ⟨e, mid, hstage, hentries, hleases, hlater⟩ | ⟨staged, mid, hstage, hstaging, -, hset⟩
    · rw [hstage]
      exact .inl ⟨e, _, mid, rfl, rfl, rfl, rfl, hentries, hleases, hlater⟩
    rw [hstage]
    dsimp only
    -- the old secrets were issued before, so none of them is a staged one
    have hnotstaged : ∀ handle, Issued vault handle → ∀ (key : CookieKey) (record : CookieRecord),
        staged[key]? = some record → record.handle ≠ handle := by
      rintro handle hissued key record hrecord rfl
      exact (hstaging.fresh key record hrecord).1 hissued
    have hstored : ∀ handle ∈ jar.oldHandles mutations, mid.entries[handle]? ≠ none := by
      intro handle hhandle
      obtain ⟨key, mutation, record, hmutation, hrecord, rfl⟩ := mem_oldHandles.mp hhandle
      rw [hstaging.others _ (hnotstaged _ (hjar.issued key record hrecord))]
      exact hplanned.live key mutation record hmutation hrecord
    have hnodup : (jar.oldHandles mutations).Nodup := by
      refine List.Pairwise.filterMap _ ?_ (List.pairwise_map.mp (nodup_keys_toList mutations))
      rintro ⟨key, _⟩ ⟨key', _⟩ hne handle hhandle handle' hhandle' rfl
      obtain ⟨record, hrecord, hhandle⟩ := Option.map_eq_some_iff.mp hhandle
      obtain ⟨record', hrecord', hhandle'⟩ := Option.map_eq_some_iff.mp hhandle'
      exact hne (hjar.distinct key key' record record' hrecord hrecord' (hhandle.trans hhandle'.symm))
    obtain ⟨vault', hrevoke, hrevoked⟩ := revokeHandles_spec hnodup hstored
    rw [hrevoke]
    dsimp only
    have hlimit : mutations.toList.length ≤ u64Max := by
      have hle := hplanned.limit.trans hjar.headerLimit
      have hsmall : maxSetCookieHeaders ≤ u64Max := by decide
      omega
    obtain ⟨state, hcommit, hcommitted⟩ : ∃ state, commitAll jar.config jar.generation mutations.toList
        { records := jar.records, staged } = (.ok (), state) ∧
        Committed mutations.toList { records := jar.records, staged } state := by
      refine commitAll_spec (nodup_keys_toList mutations) ?_ ?_
      · intro key parsed hkey
        exact Option.ne_none_iff_exists'.mp (hset key parsed hkey)
      · dsimp only
        omega
    rw [hcommit]
    refine .inr ⟨_, _, vault', normalized, mutations, rfl, hplanned, ?_⟩
    exact applied_of_steps hjar hplanned hstaging (fun key parsed hmutation => hset key parsed (hmem.mpr hmutation))
      hrevoked (later_of_revokeHandles hstaging.later.numbered hrevoke) hcommitted

end

/-! ## New jars, seeding and purging -/

variable {jar : CookieJar}

theorem seedOne_spec {generation : ℕ}
    (h : CookieJar.seedOne vault generation handle = .ok (some record)) :
    record.handle = handle ∧ ∃ entry cookie, vault.entries[handle]? = some entry ∧
      entry.metadata.kind = .cookie ∧ entry.metadata.delivery = .cookie cookie ∧
      CookieJar.seedKey cookie = .ok record.key := by
  simp only [CookieJar.seedOne, bind_eq_ok] at h
  obtain ⟨metadata, hmetadata, h⟩ := h
  obtain ⟨entry, hentry, rfl⟩ : ∃ entry, vault.entries[handle]? = some entry ∧ entry.metadata = metadata := by
    unfold InMemorySecretVault.metadata at hmetadata
    cases hentry : vault.entries[handle]? with
    | none =>
      rw [hentry] at hmetadata
      cases hmetadata
    | some entry =>
      rw [hentry] at hmetadata
      cases hmetadata
      exact ⟨entry, rfl, rfl⟩
  split at h
  · cases h
  next hkind =>
  split at h
  · cases h
  next cookie hdelivery =>
  simp only [do_eq_ok, Option.some.injEq] at h
  obtain ⟨key, hkey, rfl⟩ := h
  exact ⟨rfl, entry, cookie, hentry, not_not.mp hkind, hdelivery, hkey⟩

variable {result : Except CookieJarError Unit}

theorem JarInvariant.seedAll {generation : ℕ} (hvault : Numbered vault) (h : JarInvariant jar vault)
    (hseed : CookieJar.seedAll vault generation handles jar.records = (result, records)) :
    JarInvariant { jar with records } vault := by
  induction handles generalizing jar with
  | nil =>
    cases hseed
    exact h
  | cons handle handles ih =>
    rw [CookieJar.seedAll] at hseed
    split at hseed
    · cases hseed
      exact h
    · exact ih h hseed
    next record hone =>
    obtain ⟨hhandle, entry, cookie, hentry, -, hdelivery, hkey⟩ := seedOne_spec hone
    -- an old record of the same secret has the key the secret is seeded under
    have hown : ∀ (key : CookieKey) (other : CookieRecord), jar.records[key]? = some other →
        other.handle = handle → key = record.key := by
      intro key other hother heq
      exact (h.seeded key record.key other entry cookie hother (heq ▸ hentry) hdelivery hkey).symm
    have hnext : JarInvariant { jar with records := jar.records.insert record.key record } vault := by
      refine ⟨h.headerLimit, ?_, ?_, ?_⟩
      · intro key other hother
        rcases getElem?_insert_eq_some.mp hother with ⟨-, rfl⟩ | ⟨-, hold⟩
        · rw [hhandle]
          exact hvault.entries handle entry hentry
        · exact h.issued key other hold
      · exact h.distinct.insert fun key other hother heq => hown key other hother (heq.trans hhandle)
      · intro key key' other entry' cookie' hother hentry' hdelivery' hkey'
        rcases getElem?_insert_eq_some.mp hother with ⟨rfl, rfl⟩ | ⟨-, hold⟩
        · rw [hhandle, hentry] at hentry'
          cases hentry'
          rw [hdelivery, Vault.SecretDeliveryMetadata.cookie.injEq] at hdelivery'
          subst hdelivery'
          rw [hkey, Except.ok.injEq] at hkey'
          exact hkey'.symm
        · exact h.seeded key key' other entry' cookie' hold hentry' hdelivery' hkey'
    exact (ih hnext hseed :)

theorem JarInvariant.seedFromVault (hvault : Numbered vault) (h : JarInvariant jar vault)
    (hseed : jar.seedFromVault handles vault = (result, jar')) : JarInvariant jar' vault ∧
      jar'.config = jar.config := by
  rw [CookieJar.seedFromVault] at hseed
  split at hseed
  all_goals
    next hall =>
    cases hseed
    exact ⟨h.seedAll hvault hall, rfl⟩

theorem purge_later {reason : String} {result : Except CookieJarError CookieCommit}
    {vault' : InMemorySecretVault} (hvault : Numbered vault)
    (h : jar.purge vault reason = (result, jar', vault')) :
    Later vault vault' ∧ jar'.config = jar.config ∧ (jar'.records = jar.records ∨ jar'.records = ∅) := by
  rw [CookieJar.purge] at h
  split at h
  · cases h
    exact ⟨.refl hvault, rfl, .inl rfl⟩
  dsimp only at h
  split at h
  all_goals
    next hrevoke =>
    cases h
    exact ⟨later_of_revokeHandles hvault hrevoke, rfl, .inr rfl⟩

theorem jarInvariant_empty (hlimit : jar.config.maximumSetCookieHeaders ≤ maxSetCookieHeaders)
    (hempty : jar.records = ∅) : JarInvariant jar vault := by
  refine ⟨hlimit, ?_, ?_, ?_⟩ <;> simp [hempty, DistinctHandles]

theorem jarInvariant_new {jarId : String} {config : CookieJarConfig}
    (h : CookieJar.new jarId config = .ok jar) : JarInvariant jar vault ∧ jar.records = ∅ := by
  simp only [CookieJar.new, CookieJarConfig.validate, do_eq_ok, not_or, gt_iff_lt, not_lt] at h
  obtain ⟨-, _, ⟨⟨-, hlimit⟩, -, _, -, rfl⟩, rfl⟩ := h
  exact ⟨jarInvariant_empty hlimit rfl, rfl⟩

end BoundSeal.Cookie
