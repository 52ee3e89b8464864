import BoundSeal.Vault.Runs

/-!
# Handles of the vault are not reused

Handles are numbered. As long as the numbers have not reached `u64::MAX`, where
the saturating counter stops, a new handle differs from every handle that is or
was stored or leased.
-/

namespace BoundSeal.Vault

open Rust Lib InMemorySecretVault

theorem secretIdText_injective (vaultId : String) : Function.Injective (secretIdText vaultId) := by
  intro m n h
  have hlist := congrArg String.toList h
  simp only [secretIdText, String.toList_append] at hlist
  exact zeroPadded_injective 20 (String.toList_inj.mp (List.append_cancel_left hlist))

/-- The handle has a number used so far. -/
def Issued (vault : InMemorySecretVault) (handle : SecretHandle) : Prop :=
  ∃ n < vault.nextSecretId, handle = secretIdText vault.vaultId n

/-- The next handle is a new one. -/
theorem not_issued_next (vault : InMemorySecretVault) :
    ¬ Issued vault (secretIdText vault.vaultId vault.nextSecretId) := by
  rintro ⟨n, hn, heq⟩
  have hsame := secretIdText_injective vault.vaultId heq
  omega

/-- All that is stored and leased has been given out. -/
structure Numbered (vault : InMemorySecretVault) : Prop where
  entries : ∀ (handle : SecretHandle) (entry : SecretEntry), vault.entries[handle]? = some entry →
    Issued vault handle
  leases : ∀ (leaseId : String) (state : LeaseState), vault.leases[leaseId]? = some state →
    ∀ handle ∈ state.handles, Issued vault handle

/-- `post` is the vault after some calls. -/
structure Later (pre post : InMemorySecretVault) : Prop where
  sameVault : post.vaultId = pre.vaultId
  next : pre.nextSecretId ≤ post.nextSecretId
  numbered : Numbered post
  kept : ∀ handle, Issued pre handle → ∀ entry, post.entries[handle]? = some entry →
    pre.entries[handle]? = some entry

section

variable {pre mid post : InMemorySecretVault} {handle : SecretHandle}

theorem Issued.mono (h : Issued pre handle) (hvaultId : post.vaultId = pre.vaultId)
    (hnext : pre.nextSecretId ≤ post.nextSecretId) : Issued post handle := by
  obtain ⟨n, hn, rfl⟩ := h
  exact ⟨n, by omega, by rw [hvaultId]⟩

theorem Issued.later (h : Issued pre handle) (hlater : Later pre post) : Issued post handle :=
  h.mono hlater.sameVault hlater.next

theorem Later.refl (h : Numbered pre) : Later pre pre where
  sameVault := rfl
  next := le_rfl
  numbered := h
  kept _ _ _ hentry := hentry

theorem Later.trans (h : Later pre mid) (h' : Later mid post) : Later pre post where
  sameVault := h'.sameVault.trans h.sameVault
  next := h.next.trans h'.next
  numbered := h'.numbered
  kept handle hissued entry hentry := h.kept handle hissued entry (h'.kept handle (hissued.later h) entry hentry)

/-- A vault that only loses secrets is a later one. -/
theorem later_of_shrink (h : Numbered pre) (hvaultId : post.vaultId = pre.vaultId)
    (hnext : post.nextSecretId = pre.nextSecretId)
    (hentries : ∀ (handle : SecretHandle) (entry : SecretEntry), post.entries[handle]? = some entry →
      pre.entries[handle]? = some entry)
    (hleases : ∀ (leaseId : String) (state : LeaseState), post.leases[leaseId]? = some state →
      ∀ handle ∈ state.handles, Issued pre handle) : Later pre post where
  sameVault := hvaultId
  next := hnext.ge
  numbered :=
    { entries := fun handle entry hentry =>
        (h.entries handle entry (hentries handle entry hentry)).mono hvaultId hnext.ge
      leases := fun leaseId state hstate handle hmem =>
        (hleases leaseId state hstate handle hmem).mono hvaultId hnext.ge }
  kept handle _ entry hentry := hentries handle entry hentry

variable {now : ℤ} {input : SecretInput}

theorem InMemorySecretVault.Inserted.not_issued (h : Inserted pre input now handle post) :
    ¬ Issued pre handle := by
  rw [h.handle_eq]
  exact not_issued_next pre

theorem InMemorySecretVault.Inserted.issued (h : Inserted pre input now handle post)
    (hroom : pre.nextSecretId < u64Max) : Issued post handle := by
  refine ⟨pre.nextSecretId, ?_, ?_⟩
  · rw [h.nextSecretId, saturatingAdd]
    omega
  · rw [h.vaultId, h.handle_eq]

/-- A secret is stored under a new handle. -/
theorem InMemorySecretVault.Inserted.later (hpre : Numbered pre)
    (h : Inserted pre input now handle post) (hroom : pre.nextSecretId < u64Max) : Later pre post := by
  obtain ⟨binding, -, hentries⟩ := h.entries
  have hnext : pre.nextSecretId ≤ post.nextSecretId := by
    rw [h.nextSecretId, saturatingAdd]
    omega
  refine ⟨h.vaultId, hnext, ⟨?_, ?_⟩, ?_⟩
  · intro other entry hentry
    by_cases heq : handle = other
    · rw [← heq]
      exact h.issued hroom
    · rw [hentries, getElem?_insert_of_ne _ _ heq] at hentry
      exact (hpre.entries other entry hentry).mono h.vaultId hnext
  · intro leaseId state hstate other hmem
    rw [h.leases] at hstate
    exact (hpre.leases leaseId state hstate other hmem).mono h.vaultId hnext
  · intro other hissued entry hentry
    have hne : handle ≠ other := by
      rintro rfl
      exact h.not_issued hissued
    rwa [hentries, getElem?_insert_of_ne _ _ hne] at hentry

theorem later_of_revokeSecret (hpre : Numbered pre) (h : pre.revokeSecret handle = .ok post) : Later pre post := by
  obtain ⟨-, hentries, hleases, hnext, -, hvaultId⟩ := revokeSecret_eq_ok h
  refine later_of_shrink hpre hvaultId hnext ?_ ?_
  · intro other entry hentry
    rw [hentries] at hentry
    exact (getElem?_erase_eq_some.mp hentry).2
  · intro leaseId state' hstate' other hmem
    rw [hleases, Std.ExtTreeMap.getElem?_map] at hstate'
    obtain ⟨state, hstate, rfl⟩ := Option.map_eq_some_iff.mp hstate'
    refine hpre.leases leaseId state hstate other ?_
    unfold revokeIn at hmem
    split at hmem <;> exact hmem

theorem later_of_leased {handles : List SecretHandle} {lease : SecretLease} (hpre : Numbered pre)
    (h : Leased pre handles now lease post) : Later pre post := by
  refine later_of_shrink hpre h.vaultId h.nextSecretId ?_ ?_
  · intro other entry hentry
    rwa [h.entries] at hentry
  · intro leaseId state hstate other hmem
    rw [h.leases] at hstate
    by_cases heq : lease.leaseId = leaseId
    · rw [heq, getElem?_insert_self] at hstate
      cases hstate
      -- the new lease: each handle was looked up
      have hchecked := h.checked other hmem
      simp only [checkLeased, do_eq_ok] at hchecked
      obtain ⟨entry, hentry, -⟩ := hchecked
      exact hpre.entries other entry hentry
    · rw [getElem?_insert_of_ne _ _ heq] at hstate
      exact hpre.leases leaseId state hstate other hmem

/-- A lease is marked and keeps its handles. -/
theorem later_of_marked {leaseId : String} {state state' : LeaseState} (hpre : Numbered pre)
    (hstored : pre.leases[leaseId]? = some state) (hleases : post.leases = pre.leases.insert leaseId state')
    (hhandles : state'.handles = state.handles) (hentries : post.entries = pre.entries)
    (hnext : post.nextSecretId = pre.nextSecretId) (hvaultId : post.vaultId = pre.vaultId) : Later pre post := by
  refine later_of_shrink hpre hvaultId hnext ?_ ?_
  · intro other entry hentry
    rwa [hentries] at hentry
  · intro otherId other hother handle hmem
    rw [hleases] at hother
    rcases getElem?_insert_eq_some.mp hother with ⟨-, rfl⟩ | ⟨-, hother⟩
    · rw [hhandles] at hmem
      exact hpre.leases leaseId state hstored handle hmem
    · exact hpre.leases otherId other hother handle hmem

/-- **Every call leads to a later vault**, while numbers last. -/
theorem later_of_step {call : VaultCall} {reply : VaultReply} (hpre : Numbered pre)
    (hstep : pre.step call = some (reply, post))
    (hroom : ∀ input now, call = .insert input now → pre.nextSecretId < u64Max) : Later pre post := by
  have heffect := effect_of_step hstep
  cases heffect with
  | refused same =>
    dsimp only at same
    rw [same]
    exact .refl hpre
  | inserted h => exact h.later hpre (hroom _ _ rfl)
  | leased h => exact later_of_leased hpre h
  | materialized h =>
    exact later_of_marked hpre h.stored h.leases rfl h.entries h.nextSecretId h.vaultId
  | revokedSecret h => exact later_of_revokeSecret hpre h
  | revokedLease h =>
    obtain ⟨state, hstored, hleases, hentries, hnext, -, hvaultId⟩ := revokeLease_eq_ok h
    exact later_of_marked hpre hstored hleases rfl hentries hnext hvaultId
  | purged =>
    refine later_of_shrink hpre rfl rfl ?_ ?_
    · intro handle entry hentry
      cases hentry
    · intro leaseId state hstate
      cases hstate

end

/-- A new vault has given out nothing. -/
theorem numbered_new {vaultId : String} {vault : InMemorySecretVault}
    (h : InMemorySecretVault.new vaultId = .ok vault) : Numbered vault := by
  obtain ⟨-, -, hleases, hentries, -⟩ := new_eq_ok h
  constructor
  · intro handle entry hentry
    rw [hentries, Std.ExtTreeMap.getElem?_empty] at hentry
    cases hentry
  · intro leaseId state hstate
    rw [hleases, Std.ExtTreeMap.getElem?_empty] at hstate
    cases hstate

end BoundSeal.Vault
