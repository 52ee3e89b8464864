import BoundSeal.Lib.Run
import BoundSeal.Vault.Model

/-!
# Runs of the vault

Any interleaving of `insert`, `lease`, `materialize_http_headers`, `revoke_secret`,
`revoke_lease` and `emergency_purge`, at any clock values, where a lease object may
be presented any number of times and need not be one the vault gave out.

Lease numbers are counted up with a saturating addition. They do not run out: every
lease leaves an audit record, and the vector of the records cannot hold as many as
there are numbers (`leases_le_of_auditFits`).
-/

namespace BoundSeal.Vault

open Rust Lib InMemorySecretVault

/-! ## Calls and events -/

inductive VaultCall where
  | insert (input : SecretInput) (now : ℤ)
  | lease (handles : List SecretHandle) (context : VaultAccessContext) (leaseSeconds now : ℤ)
  | materializeHttpHeaders (lease : SecretLease) (sessionId requestTarget : String) (now : ℤ)
  | revokeSecret (handle : SecretHandle)
  | revokeLease (leaseId : String)
  | emergencyPurge

inductive VaultReply where
  | inserted (result : Except VaultError SecretHandle)
  | leased (result : Except VaultError SecretLease)
  | materialized (result : Except VaultError SecretHeaderLease) (lease : SecretLease)
  | revoked (result : Except VaultError Unit)
  | purged

/-- One call; where only the error is reported the vault is as before. -/
def InMemorySecretVault.step (self : InMemorySecretVault) :
    VaultCall → Option (VaultReply × InMemorySecretVault)
  | .insert input now =>
    let (result, next) := self.insert input now
    some (.inserted result, next)
  | .lease handles context leaseSeconds now =>
    match self.lease handles context leaseSeconds now with
    | .ok (lease, next) => some (.leased (.ok lease), next)
    | .error e => some (.leased (.error e), self)
  | .materializeHttpHeaders lease sessionId requestTarget now =>
    let (result, lease, next) := self.materializeHttpHeaders lease sessionId requestTarget now
    some (.materialized result lease, next)
  | .revokeSecret handle =>
    match self.revokeSecret handle with
    | .ok next => some (.revoked (.ok ()), next)
    | .error e => some (.revoked (.error e), self)
  | .revokeLease leaseId =>
    match self.revokeLease leaseId with
    | .ok next => some (.revoked (.ok ()), next)
    | .error e => some (.revoked (.error e), self)
  | .emergencyPurge => some (.purged, self.emergencyPurge)

abbrev VaultEvent := Event InMemorySecretVault VaultCall VaultReply

def Leases (e : VaultEvent) (handles : List SecretHandle) (lease : SecretLease) : Prop :=
  (∃ context leaseSeconds now, e.input = .lease handles context leaseSeconds now) ∧
    e.output = .leased (.ok lease)

def Materializes (e : VaultEvent) (header : SecretHeaderLease) : Prop :=
  ∃ lease, e.output = .materialized (.ok header) lease

def RevokesSecret (e : VaultEvent) (handle : SecretHandle) : Prop :=
  e.input = .revokeSecret handle ∧ e.output = .revoked (.ok ())

def RevokesLease (e : VaultEvent) (leaseId : String) : Prop :=
  e.input = .revokeLease leaseId ∧ e.output = .revoked (.ok ())

def Purges (e : VaultEvent) : Prop := e.input = .emergencyPurge

def isLease (e : VaultEvent) : Bool :=
  match e.output with
  | .leased (.ok _) => true
  | _ => false

/-- The event revokes neither the lease nor one of the secrets. -/
def Spares (e : VaultEvent) (leaseId : String) (handles : List SecretHandle) : Prop :=
  ¬ RevokesLease e leaseId ∧ ∀ handle ∈ handles, ¬ RevokesSecret e handle

variable {e : VaultEvent}

theorem spares_of_input {leaseId : String} {handles : List SecretHandle}
    (hsecret : ∀ handle, e.input ≠ .revokeSecret handle)
    (hlease : ∀ leaseId, e.input ≠ .revokeLease leaseId) : Spares e leaseId handles := by
  constructor
  · rintro ⟨hinput, -⟩
    exact hlease leaseId hinput
  · rintro handle - ⟨hinput, -⟩
    exact hsecret handle hinput

/-! ## One call -/

inductive Effect : VaultEvent → Prop
  | refused {e : VaultEvent} (same : e.post = e.pre) (noLease : isLease e = false)
      (noHeader : ∀ header, ¬ Materializes e header) (noPurge : ¬ Purges e)
      (spares : ∀ leaseId handles, Spares e leaseId handles) : Effect e
  | inserted {pre post : InMemorySecretVault} {input : SecretInput} {now : ℤ}
      {handle : SecretHandle} (h : Inserted pre input now handle post) :
      Effect ⟨pre, .insert input now, .inserted (.ok handle), post⟩
  | leased {pre post : InMemorySecretVault} {handles : List SecretHandle} {context : VaultAccessContext}
      {leaseSeconds now : ℤ} {lease : SecretLease} (h : Leased pre handles now lease post) :
      Effect ⟨pre, .lease handles context leaseSeconds now, .leased (.ok lease), post⟩
  | materialized {pre post : InMemorySecretVault} {lease lease' : SecretLease}
      {sessionId requestTarget : String} {now : ℤ} {state : LeaseState} {header : SecretHeaderLease}
      (h : Materialized pre lease requestTarget now state header post) :
      Effect ⟨pre, .materializeHttpHeaders lease sessionId requestTarget now,
        .materialized (.ok header) lease', post⟩
  | revokedSecret {pre post : InMemorySecretVault} {handle : SecretHandle}
      (h : pre.revokeSecret handle = .ok post) :
      Effect ⟨pre, .revokeSecret handle, .revoked (.ok ()), post⟩
  | revokedLease {pre post : InMemorySecretVault} {leaseId : String}
      (h : pre.revokeLease leaseId = .ok post) :
      Effect ⟨pre, .revokeLease leaseId, .revoked (.ok ()), post⟩
  | purged {pre : InMemorySecretVault} : Effect ⟨pre, .emergencyPurge, .purged, pre.emergencyPurge⟩

theorem Effect.of_refused (same : e.post = e.pre)
    (hreply : (∃ error, e.output = .inserted (.error error)) ∨ (∃ error, e.output = .leased (.error error)) ∨
      (∃ error lease, e.output = .materialized (.error error) lease) ∨
      ∃ error, e.output = .revoked (.error error))
    (hinput : e.input ≠ .emergencyPurge) : Effect e := by
  refine .refused same ?_ ?_ hinput ?_
  · rcases hreply with ⟨_, h⟩ | ⟨_, h⟩ | ⟨_, _, h⟩ | ⟨_, h⟩ <;> simp [isLease, h]
  · rintro header ⟨lease, hheader⟩
    rcases hreply with ⟨_, h⟩ | ⟨_, h⟩ | ⟨_, _, h⟩ | ⟨_, h⟩ <;> simp [h] at hheader
  · intro leaseId handles
    constructor
    · rintro ⟨-, houtput⟩
      rcases hreply with ⟨_, h⟩ | ⟨_, h⟩ | ⟨_, _, h⟩ | ⟨_, h⟩ <;> simp [h] at houtput
    · rintro handle - ⟨-, houtput⟩
      rcases hreply with ⟨_, h⟩ | ⟨_, h⟩ | ⟨_, _, h⟩ | ⟨_, h⟩ <;> simp [h] at houtput

variable {pre post : InMemorySecretVault} {reply : VaultReply} {call : VaultCall}

/-- **Everything a call can do.** -/
theorem effect_of_step
    (h : pre.step call = some (reply, post)) : Effect ⟨pre, call, reply, post⟩ := by
  cases call with
  | insert input now =>
    cases hinsert : pre.insert input now with
    | mk result next =>
      simp only [step, hinsert] at h
      cases h
      rcases insert_cases hinsert with ⟨e, rfl, rfl⟩ | ⟨handle, rfl, hinserted⟩
      · exact .of_refused rfl (.inl ⟨e, rfl⟩) (by rintro ⟨⟩)
      · exact .inserted hinserted
  | lease handles context leaseSeconds now =>
    simp only [step] at h
    split at h
    · next lease next hlease =>
      cases h
      exact .leased (lease_cases hlease)
    · next e _ =>
      cases h
      exact .of_refused rfl (.inr (.inl ⟨e, rfl⟩)) (by rintro ⟨⟩)
  | materializeHttpHeaders lease sessionId requestTarget now =>
    cases hmaterialize : pre.materializeHttpHeaders lease sessionId requestTarget now with
    | mk result rest =>
      obtain ⟨lease', next⟩ := rest
      simp only [step, hmaterialize] at h
      cases h
      rcases materializeHttpHeaders_cases hmaterialize with ⟨e, rfl, rfl⟩ | ⟨state, header, rfl, hmaterialized⟩
      · exact .of_refused rfl (.inr (.inr (.inl ⟨e, lease', rfl⟩))) (by rintro ⟨⟩)
      · exact .materialized hmaterialized
  | revokeSecret handle =>
    simp only [step] at h
    split at h
    · next vault hrevoke =>
      cases h
      exact .revokedSecret hrevoke
    · next e _ =>
      cases h
      exact .of_refused rfl (.inr (.inr (.inr ⟨e, rfl⟩))) (by rintro ⟨⟩)
  | revokeLease leaseId =>
    simp only [step] at h
    split at h
    · next vault hrevoke =>
      cases h
      exact .revokedLease hrevoke
    · next e _ =>
      cases h
      exact .of_refused rfl (.inr (.inr (.inr ⟨e, rfl⟩))) (by rintro ⟨⟩)
  | emergencyPurge =>
    cases h
    exact .purged

theorem Materializes.spec {header : SecretHeaderLease} (h : Materializes e header)
    (hstep : e.pre.step e.input = some (e.output, e.post)) :
    ∃ lease sessionId requestTarget now state,
      e.input = .materializeHttpHeaders lease sessionId requestTarget now ∧
      Materialized e.pre lease requestTarget now state header e.post := by
  obtain ⟨lease', houtput⟩ := h
  have heffect := effect_of_step hstep
  cases e with
  | mk pre input output post =>
    dsimp only at houtput heffect ⊢
    subst houtput
    cases heffect with
    | refused _ _ noHeader => exact absurd ⟨lease', rfl⟩ (noHeader header)
    | materialized hmaterialized => exact ⟨_, _, _, _, _, rfl, hmaterialized⟩

/-! ## The leases of a run -/

theorem leaseIdText_injective (vaultId : String) : Function.Injective (leaseIdText vaultId) := by
  intro m n h
  have hlist := congrArg String.toList h
  simp only [leaseIdText, String.toList_append] at hlist
  exact zeroPadded_injective 20 (String.toList_inj.mp (List.append_cancel_left hlist))

/-- A stored lease was issued, with these handles and this context, under one of
the numbers used so far; unless it is marked revoked, nothing of it has been
revoked since. -/
structure IssuedIn (es : List VaultEvent) (vaultId leaseId : String) (state : LeaseState) : Prop where
  number : ∃ n ≤ es.countP isLease, leaseId = leaseIdText vaultId n
  history : ∃ earlier issue since lease, es = earlier ++ issue :: since ∧
    Leases issue state.handles lease ∧ lease.leaseId = leaseId ∧ lease.context = state.context ∧
    lease.expiresAtEpochSeconds = state.expiresAtEpochSeconds ∧ (∀ e ∈ since, ¬ Purges e) ∧
    (state.revoked = false → ∀ e ∈ since, Spares e leaseId state.handles)

/-- What holds of a vault after the calls `es`. -/
structure LeaseHistory (vaultId : String) (es : List VaultEvent) (now : InMemorySecretVault) : Prop where
  sameVault : now.vaultId = vaultId
  next : now.nextLeaseId = min (es.countP isLease + 1) u64Max
  issued : ∀ leaseId state, now.leases[leaseId]? = some state → IssuedIn es vaultId leaseId state
  materialized : ∀ e ∈ es, ∀ header, Materializes e header →
    (∃ n ≤ es.countP isLease, header.leaseId = leaseIdText vaultId n) ∧
      ∀ state, now.leases[header.leaseId]? = some state → state.consumed = true

section

variable {vaultId leaseId : String} {es : List VaultEvent} {e : VaultEvent} {state state' : LeaseState}

theorem le_countP_concat (es : List VaultEvent) (e : VaultEvent) :
    es.countP isLease ≤ (es ++ [e]).countP isLease := by
  rw [List.countP_append]
  exact Nat.le_add_right _ _

theorem IssuedIn.concat (h : IssuedIn es vaultId leaseId state)
    (hhandles : state'.handles = state.handles) (hcontext : state'.context = state.context)
    (hexpires : state'.expiresAtEpochSeconds = state.expiresAtEpochSeconds) (hpurge : ¬ Purges e)
    (hspares : state'.revoked = false → state.revoked = false ∧ Spares e leaseId state.handles) :
    IssuedIn (es ++ [e]) vaultId leaseId state' := by
  obtain ⟨⟨n, hn, hid⟩, earlier, issue, since, lease, rfl, hissue, hlease, hleaseContext,
    hleaseExpires, hpurges, hsince⟩ := h
  refine ⟨⟨n, hn.trans (le_countP_concat _ e), hid⟩, earlier, issue, since ++ [e], lease, by simp,
    ?_, hlease, hleaseContext.trans hcontext.symm, hleaseExpires.trans hexpires.symm, ?_, ?_⟩
  · rw [hhandles]
    exact hissue
  · intro f hf
    rcases List.mem_append.mp hf with hold | hnew
    · exact hpurges f hold
    · rwa [List.mem_singleton.mp hnew]
  · intro hrevoked f hf
    obtain ⟨hunrevoked, hlast⟩ := hspares hrevoked
    rw [hhandles]
    rcases List.mem_append.mp hf with hold | hnew
    · exact hsince hunrevoked f hold
    · rwa [List.mem_singleton.mp hnew]

theorem LeaseHistory.concat {now : InMemorySecretVault} (h : LeaseHistory vaultId es now)
    (hvaultId : post.vaultId = now.vaultId) (hlease : isLease e = false)
    (hnext : post.nextLeaseId = now.nextLeaseId)
    (hissued : ∀ leaseId state', post.leases[leaseId]? = some state' → ∃ state,
      now.leases[leaseId]? = some state ∧ state'.handles = state.handles ∧ state'.context = state.context ∧
      state'.expiresAtEpochSeconds = state.expiresAtEpochSeconds ∧ (state.consumed = true → state'.consumed = true) ∧
      ¬ Purges e ∧ (state'.revoked = false → state.revoked = false ∧ Spares e leaseId state.handles))
    (hnew : ∀ header, Materializes e header → ∃ state, now.leases[header.leaseId]? = some state ∧
      ∀ state', post.leases[header.leaseId]? = some state' → state'.consumed = true) :
    LeaseHistory vaultId (es ++ [e]) post := by
  have hcount : (es ++ [e]).countP isLease = es.countP isLease := by
    rw [List.countP_append, List.countP_singleton, hlease]
    rfl
  refine ⟨hvaultId.trans h.sameVault, ?_, ?_, ?_⟩
  · rw [hnext, hcount, h.next]
  · intro leaseId state' hstate'
    obtain ⟨state, hstate, hhandles, hcontext, hexpires, -, hpurge, hspares⟩ := hissued leaseId state' hstate'
    exact (h.issued leaseId state hstate).concat hhandles hcontext hexpires hpurge hspares
  · intro f hf header hheader
    rcases List.mem_append.mp hf with hold | hlast
    · obtain ⟨⟨n, hn, hid⟩, hconsumed⟩ := h.materialized f hold header hheader
      refine ⟨⟨n, hn.trans (le_countP_concat _ e), hid⟩, ?_⟩
      intro state' hstate'
      obtain ⟨state, hstate, -, -, -, hkeeps, -⟩ := hissued _ state' hstate'
      exact hkeeps (hconsumed state hstate)
    · rw [List.mem_singleton.mp hlast] at hheader
      obtain ⟨state, hstate, hconsumed⟩ := hnew header hheader
      obtain ⟨n, hn, hid⟩ := (h.issued _ state hstate).number
      exact ⟨⟨n, hn.trans (le_countP_concat _ e), hid⟩, hconsumed⟩

theorem LeaseHistory.leased {handles : List SecretHandle}
    {context : VaultAccessContext} {leaseSeconds now : ℤ} {lease : SecretLease}
    (h : LeaseHistory vaultId es pre) (hroom : es.countP isLease + 1 ≤ u64Max)
    (hleased : Leased pre handles now lease post) :
    LeaseHistory vaultId
      (es ++ [⟨pre, .lease handles context leaseSeconds now, .leased (.ok lease), post⟩]) post := by
  have hnumber : lease.leaseId = leaseIdText vaultId (es.countP isLease + 1) := by
    rw [hleased.leaseId, h.sameVault, h.next, Nat.min_eq_left hroom]
  have hfresh : ∀ n ≤ es.countP isLease, leaseIdText vaultId n ≠ lease.leaseId := by
    intro n hn heq
    have hsame := leaseIdText_injective vaultId (heq.trans hnumber)
    omega
  have hcount : ∀ e : VaultEvent, isLease e = true →
      (es ++ [e]).countP isLease = es.countP isLease + 1 := by
    intro e he
    rw [List.countP_append, List.countP_singleton, if_pos he]
  refine ⟨hleased.vaultId.trans h.sameVault, ?_, ?_, ?_⟩
  · rw [hleased.nextLeaseId, h.next, hcount _ rfl, saturatingAdd]
    omega
  · intro leaseId state hstate
    rw [hleased.leases] at hstate
    by_cases hid : lease.leaseId = leaseId
    · -- the lease just issued
      subst hid
      rw [getElem?_insert_self] at hstate
      cases hstate
      refine ⟨⟨_, (hcount _ rfl).ge, hnumber⟩, es, _, [], lease, rfl, ⟨⟨_, _, _, rfl⟩, rfl⟩, rfl, rfl, rfl, ?_, ?_⟩
      · intro e he
        cases he
      · intro _ e he
        cases he
    · rw [getElem?_insert_of_ne _ _ hid] at hstate
      refine (h.issued leaseId state hstate).concat rfl rfl rfl (by rintro ⟨⟩) ?_
      intro hrevoked
      exact ⟨hrevoked, spares_of_input (by rintro _ ⟨⟩) (by rintro _ ⟨⟩)⟩
  · intro f hf header hheader
    rcases List.mem_append.mp hf with hold | hlast
    · obtain ⟨⟨n, hn, hid⟩, hconsumed⟩ := h.materialized f hold header hheader
      refine ⟨⟨n, hn.trans (le_countP_concat _ _), hid⟩, ?_⟩
      intro state hstate
      have hne : lease.leaseId ≠ header.leaseId := by
        intro heq
        exact hfresh n hn (hid.symm.trans heq.symm)
      rw [hleased.leases, getElem?_insert_of_ne _ _ hne] at hstate
      exact hconsumed state hstate
    · rw [List.mem_singleton.mp hlast] at hheader
      obtain ⟨lease', houtput⟩ := hheader
      cases houtput

/-- **Every call keeps the history**, as long as lease numbers last. -/
theorem LeaseHistory.step (h : LeaseHistory vaultId es pre)
    (hstep : pre.step call = some (reply, post))
    (hroom : isLease ⟨pre, call, reply, post⟩ = true → es.countP isLease + 1 ≤ u64Max) :
    LeaseHistory vaultId (es ++ [⟨pre, call, reply, post⟩]) post := by
  have heffect := effect_of_step hstep
  cases heffect with
  | refused same noLease noHeader noPurge spares =>
    dsimp only at same
    subst same
    refine h.concat rfl noLease rfl ?_ ?_
    · intro leaseId state hstate
      exact ⟨state, hstate, rfl, rfl, rfl, id, noPurge, fun hrevoked => ⟨hrevoked, spares _ _⟩⟩
    · intro header hheader
      exact absurd hheader (noHeader header)
  | inserted hinserted =>
    refine h.concat hinserted.vaultId rfl hinserted.nextLeaseId ?_ ?_
    · intro leaseId state hstate
      rw [hinserted.leases] at hstate
      exact ⟨state, hstate, rfl, rfl, rfl, id, by rintro ⟨⟩, fun hrevoked =>
        ⟨hrevoked, spares_of_input (by rintro _ ⟨⟩) (by rintro _ ⟨⟩)⟩⟩
    · rintro header ⟨lease, houtput⟩
      cases houtput
  | leased hleased => exact h.leased (hroom rfl) hleased
  | @materialized _ _ lease _ _ _ _ state header hmaterialized =>
    refine h.concat hmaterialized.vaultId rfl hmaterialized.nextLeaseId ?_ ?_
    · intro leaseId state' hstate'
      rw [hmaterialized.leases] at hstate'
      by_cases hid : lease.leaseId = leaseId
      · -- the lease just used keeps all but its mark
        subst hid
        rw [getElem?_insert_self] at hstate'
        cases hstate'
        exact ⟨state, hmaterialized.stored, rfl, rfl, rfl, fun _ => rfl, by rintro ⟨⟩, fun hrevoked =>
          ⟨hrevoked, spares_of_input (by rintro _ ⟨⟩) (by rintro _ ⟨⟩)⟩⟩
      · rw [getElem?_insert_of_ne _ _ hid] at hstate'
        exact ⟨state', hstate', rfl, rfl, rfl, id, by rintro ⟨⟩, fun hrevoked => ⟨hrevoked,
          spares_of_input (by rintro _ ⟨⟩) (by rintro _ ⟨⟩)⟩⟩
    · rintro header' ⟨lease', houtput⟩
      cases houtput
      rw [hmaterialized.leaseId]
      refine ⟨state, hmaterialized.stored, ?_⟩
      intro state' hstate'
      rw [hmaterialized.leases, getElem?_insert_self, Option.some.injEq] at hstate'
      rw [← hstate']
  | @revokedSecret _ _ handle hrevoke =>
    obtain ⟨-, -, hleases, -, hnext, hvaultId⟩ := revokeSecret_eq_ok hrevoke
    refine h.concat hvaultId rfl hnext ?_ ?_
    · intro leaseId state' hstate'
      rw [hleases, Std.ExtTreeMap.getElem?_map] at hstate'
      obtain ⟨state, hstate, rfl⟩ := Option.map_eq_some_iff.mp hstate'
      refine ⟨state, hstate, ?_⟩
      by_cases hmem : handle ∈ state.handles
      · rw [revokeIn, if_pos hmem]
        exact ⟨rfl, rfl, rfl, id, by rintro ⟨⟩, by rintro ⟨⟩⟩
      · rw [revokeIn, if_neg hmem]
        refine ⟨rfl, rfl, rfl, id, by rintro ⟨⟩, fun hrevoked => ⟨hrevoked, by rintro ⟨⟨⟩, -⟩, ?_⟩⟩
        rintro handle' hmem' ⟨hinput, -⟩
        cases hinput
        exact hmem hmem'
    · rintro header ⟨lease, houtput⟩
      cases houtput
  | @revokedLease _ _ revoked hrevoke =>
    obtain ⟨state, hstored, hleases, -, -, hnext, hvaultId⟩ := revokeLease_eq_ok hrevoke
    refine h.concat hvaultId rfl hnext ?_ ?_
    · intro leaseId state' hstate'
      rw [hleases] at hstate'
      by_cases hid : revoked = leaseId
      · subst hid
        rw [getElem?_insert_self] at hstate'
        cases hstate'
        exact ⟨state, hstored, rfl, rfl, rfl, id, by rintro ⟨⟩, by rintro ⟨⟩⟩
      · rw [getElem?_insert_of_ne _ _ hid] at hstate'
        refine ⟨state', hstate', rfl, rfl, rfl, id, by rintro ⟨⟩, fun hrevoked => ⟨hrevoked, ?_, by
          rintro _ - ⟨⟨⟩, -⟩⟩⟩
        rintro ⟨hinput, -⟩
        cases hinput
        exact hid rfl
    · rintro header ⟨lease, houtput⟩
      cases houtput
  | purged =>
    have hempty : ∀ leaseId : String, pre.emergencyPurge.leases[leaseId]? = none := fun leaseId =>
      Std.ExtTreeMap.getElem?_empty
    refine h.concat rfl rfl rfl ?_ ?_
    · intro leaseId state hstate
      rw [hempty] at hstate
      cases hstate
    · rintro header ⟨lease, houtput⟩
      cases houtput

end

/-! ## What a run guarantees -/

/-- What holds of a materialisation after the calls `before`. -/
structure SoundlyMaterialized (before : List VaultEvent) (e : VaultEvent) (header : SecretHeaderLease)
    (lease : SecretLease) (requestTarget : String) (now : ℤ) (state : LeaseState) : Prop where
  stored : e.pre.leases[header.leaseId]? = some state
  unrevoked : state.revoked = false
  unexpired : now < state.expiresAtEpochSeconds
  context : state.context = lease.context
  authority : header.authority = state.context.authority
  scheme : header.scheme = state.context.scheme
  /-- Every contribution to the headers is a stored secret the lease may use now. -/
  headers : ∃ contributions, header.headers = Contribution.headersOf contributions ∧
    ∀ contribution ∈ contributions, contribution = .nothing ∨ ∃ handle ∈ state.handles, ∃ entry,
      e.pre.entries[handle]? = some entry ∧ e.post.entries[handle]? = some entry ∧
        Released entry state.context requestTarget now contribution
  /-- Neither the lease nor one of its secrets was revoked since the lease. -/
  since : ∃ earlier issue since issued, before = earlier ++ issue :: since ∧
    Leases issue state.handles issued ∧ issued.leaseId = header.leaseId ∧ issued.context = state.context ∧
    issued.expiresAtEpochSeconds = state.expiresAtEpochSeconds ∧
    ∀ f ∈ since, ¬ Purges f ∧ Spares f header.leaseId state.handles

structure VaultGuarantees (es : List VaultEvent) : Prop where
  once : ∀ (i j : ℕ) (e f : VaultEvent) (header header' : SecretHeaderLease), es[i]? = some e →
    es[j]? = some f → Materializes e header → Materializes f header' →
    header.leaseId = header'.leaseId → i = j
  sound : ∀ (k : ℕ) (e : VaultEvent) (header : SecretHeaderLease), es[k]? = some e →
    Materializes e header → ∃ lease sessionId requestTarget now state,
      e.input = .materializeHttpHeaders lease sessionId requestTarget now ∧
      SoundlyMaterialized (es.take k) e header lease requestTarget now state

section

variable {vaultId : String} {start now : InMemorySecretVault} {es : List VaultEvent}

theorem new_eq_ok (hnew : InMemorySecretVault.new vaultId = .ok start) :
    start.vaultId = vaultId ∧ start.nextLeaseId = 1 ∧ start.leases = ∅ ∧ start.entries = ∅ ∧
      start.nextSecretId = 1 := by
  simp only [new, do_eq_ok] at hnew
  obtain ⟨-, rfl⟩ := hnew
  exact ⟨rfl, rfl, rfl, rfl, rfl⟩

/-- **The lease history of every run** that stays within the lease numbers. -/
theorem run_leaseHistory (hnew : InMemorySecretVault.new vaultId = .ok start)
    (hrun : Run InMemorySecretVault.step start es now) (hleases : es.countP isLease ≤ u64Max) :
    LeaseHistory vaultId es now := by
  refine Run.invariant
    (fun es now => es.countP isLease ≤ u64Max → LeaseHistory vaultId es now) ?_ ?_ hrun hleases
  · intro _
    obtain ⟨hvaultId, hnext, hempty, -⟩ := new_eq_ok hnew
    refine ⟨hvaultId, hnext, ?_, ?_⟩
    · intro leaseId state hstate
      rw [hempty, Std.ExtTreeMap.getElem?_empty] at hstate
      cases hstate
    · intro e he
      cases he
  · intro es t i o u _ ih hstep hcount
    have hle := (le_countP_concat es ⟨t, i, o, u⟩).trans hcount
    refine (ih hle).step hstep ?_
    intro hlease
    rwa [List.countP_append, List.countP_singleton, if_pos hlease] at hcount

/-! ## Lease numbers do not run out -/

def isizeMax : ℕ := 2 ^ 63 - 1

/-- The size of a `VaultAuditRecord`: a number, eight strings or optional strings, and a
map, of 24 bytes each but the number. -/
def vaultAuditRecordBytes : ℕ := 8 + 9 * 24

/-- The records fit a `Vec`: it never holds more than `isize::MAX` bytes, and the push
that would exceed them panics. -/
def AuditFits (vault : InMemorySecretVault) : Prop :=
  vault.audit.records.length * vaultAuditRecordBytes ≤ isizeMax

instance (vault : InMemorySecretVault) : Decidable (AuditFits vault) := Nat.decLe _ _

/-- A call leaves one record, or none and then it is no lease. -/
theorem audit_of_step (hstep : pre.step call = some (reply, post)) :
    (post.audit = pre.audit ∧ isLease ⟨pre, call, reply, post⟩ = false) ∨
      ∃ event, post.audit = VaultAuditChain.append pre.audit event := by
  cases call with
  | insert input now =>
    rcases hinsert : pre.insert input now with ⟨result, next⟩
    simp only [InMemorySecretVault.step, hinsert] at hstep
    cases hstep
    unfold InMemorySecretVault.insert at hinsert
    split at hinsert
    · cases hinsert
      exact .inl ⟨rfl, rfl⟩
    · dsimp only at hinsert
      split at hinsert
      · cases hinsert
        exact .inl ⟨rfl, rfl⟩
      · cases hinsert
        exact .inr ⟨_, rfl⟩
  | lease handles context leaseSeconds now =>
    simp only [InMemorySecretVault.step] at hstep
    split at hstep
    · next lease next hlease =>
      cases hstep
      simp only [InMemorySecretVault.lease, do_eq_ok] at hlease
      obtain ⟨-, -, _, -, -, hpair⟩ := hlease
      cases hpair
      exact .inr ⟨_, rfl⟩
    · cases hstep
      exact .inl ⟨rfl, rfl⟩
  | materializeHttpHeaders lease sessionId requestTarget now =>
    rcases hmaterialize : pre.materializeHttpHeaders lease sessionId requestTarget now with
      ⟨result, lease', next⟩
    simp only [InMemorySecretVault.step, hmaterialize] at hstep
    cases hstep
    unfold materializeHttpHeaders at hmaterialize
    dsimp only at hmaterialize
    split at hmaterialize
    · cases hmaterialize
      exact .inl ⟨rfl, rfl⟩
    · split at hmaterialize
      · cases hmaterialize
        exact .inl ⟨rfl, rfl⟩
      · cases hmaterialize
        exact .inr ⟨_, rfl⟩
  | revokeSecret handle =>
    simp only [InMemorySecretVault.step] at hstep
    split at hstep
    · next vault hrevoke =>
      cases hstep
      simp only [revokeSecret, do_eq_ok] at hrevoke
      obtain ⟨-, rfl⟩ := hrevoke
      exact .inr ⟨_, rfl⟩
    · cases hstep
      exact .inl ⟨rfl, rfl⟩
  | revokeLease leaseId =>
    simp only [InMemorySecretVault.step] at hstep
    split at hstep
    · next vault hrevoke =>
      cases hstep
      simp only [revokeLease, do_eq_ok] at hrevoke
      obtain ⟨_, -, rfl⟩ := hrevoke
      exact .inr ⟨_, rfl⟩
    · cases hstep
      exact .inl ⟨rfl, rfl⟩
  | emergencyPurge =>
    cases hstep
    exact .inr ⟨_, rfl⟩

/-- Every lease has left a record. -/
theorem leases_le_records (hrun : Run InMemorySecretVault.step start es now) :
    start.audit.records.length + es.countP isLease ≤ now.audit.records.length := by
  induction hrun with
  | nil => exact le_rfl
  | snoc hrun hstep ih =>
    rw [List.countP_append, List.countP_singleton]
    rcases audit_of_step hstep with ⟨hsame, hlease⟩ | ⟨event, hevent⟩
    · rw [hsame, hlease]
      exact ih
    · rw [hevent, VaultAuditChain.append, HashChain.append, List.length_append,
        List.length_singleton]
      split_ifs <;> omega

/-- The lease numbers last as long as the records fit. -/
theorem leases_le_of_auditFits (hrun : Run InMemorySecretVault.step start es now)
    (hfits : AuditFits now) : es.countP isLease ≤ u64Max := by
  have hle := leases_le_records hrun
  unfold AuditFits at hfits
  have hcap : isizeMax < u64Max := by decide
  have hsize : 0 < vaultAuditRecordBytes := by decide
  have hrecords := Nat.le_mul_of_pos_right now.audit.records.length hsize
  omega

/-- **Leases are used once, in time, and for live secrets of their own identity.** -/
theorem vault_guarantees (hnew : InMemorySecretVault.new vaultId = .ok start)
    (hrun : Run InMemorySecretVault.step start es now) (hfits : AuditFits now) :
    VaultGuarantees es := by
  have hleases := leases_le_of_auditFits hrun hfits
  have hhistory : ∀ (k : ℕ) (e : VaultEvent), es[k]? = some e → LeaseHistory vaultId (es.take k) e.pre := by
    intro k e hk
    refine run_leaseHistory hnew (hrun.before hk) (le_trans ?_ hleases)
    exact (List.take_sublist k es).countP_le
  -- a lease that was materialised before is marked consumed, and is refused
  have hdiffer : ∀ (i j : ℕ) (e f : VaultEvent) (header header' : SecretHeaderLease), i < j →
      es[i]? = some e → es[j]? = some f → Materializes e header → Materializes f header' →
      header.leaseId ≠ header'.leaseId := by
    intro i j e f header header' hij hi hj he hf hid
    obtain ⟨lease, _, _, _, state, -, hmaterialized⟩ := hf.spec (hrun.step_of_getElem? hj)
    have hmem : e ∈ es.take j := by
      refine List.mem_of_getElem? (i := i) ?_
      rwa [List.getElem?_take_of_lt hij]
    have hconsumed := ((hhistory j f hj).materialized e hmem header he).2 state
      (by rw [hid, hmaterialized.leaseId]; exact hmaterialized.stored)
    rw [hmaterialized.unconsumed] at hconsumed
    cases hconsumed
  constructor
  · intro i j e f header header' hi hj he hf hid
    rcases Nat.lt_trichotomy i j with hlt | hsame | hgt
    · exact absurd hid (hdiffer i j e f header header' hlt hi hj he hf)
    · exact hsame
    · exact absurd hid.symm (hdiffer j i f e header' header hgt hj hi hf he)
  · intro k e header hk he
    obtain ⟨lease, sessionId, requestTarget, now, state, hinput, hm⟩ := he.spec (hrun.step_of_getElem? hk)
    have hstored : e.pre.leases[header.leaseId]? = some state := by
      rw [hm.leaseId]
      exact hm.stored
    obtain ⟨-, earlier, issue, since, issued, hsplit, hissue, hid, hcontext, hexpires, hpurges, hspares⟩ :=
      (hhistory k e hk).issued _ state hstored
    refine ⟨lease, sessionId, requestTarget, now, state, hinput, hstored, hm.unrevoked, hm.unexpired,
      hm.context, hm.authority, hm.scheme, ?_, earlier, issue, since, issued, hsplit, hissue, hid, hcontext,
      hexpires, fun f hf => ⟨hpurges f hf, hspares hm.unrevoked f hf⟩⟩
    obtain ⟨contributions, hheaders, hreleased⟩ := hm.headers
    refine ⟨contributions, hheaders, ?_⟩
    intro contribution hcontribution
    refine (hreleased contribution hcontribution).imp id ?_
    rintro ⟨handle, hhandle, entry, hentry, hentryReleased⟩
    exact ⟨handle, hhandle, entry, hentry, hm.entries ▸ hentry, hentryReleased⟩

end

/-! ## Secrets on requests -/

/-- The call puts the value of a secret on a request: the lease it uses holds the
secret, and the stored entry contributes to the headers. -/
def PutsOn (e : VaultEvent) (handle : SecretHandle) (context : VaultAccessContext)
    (requestTarget : String) (now : ℤ) : Prop :=
  ∃ lease sessionId state header lease' entry contribution,
    e.input = .materializeHttpHeaders lease sessionId requestTarget now ∧
    e.output = .materialized (.ok header) lease' ∧
    e.pre.leases[lease.leaseId]? = some state ∧ state.context = context ∧ handle ∈ state.handles ∧
    e.pre.entries[handle]? = some entry ∧
    entry.contribution context requestTarget now = .ok contribution ∧ contribution ≠ .nothing

def StoresUnder (e : VaultEvent) (handle : SecretHandle) : Prop := e.output = .inserted (.ok handle)

variable {handle : SecretHandle} {entry : SecretEntry}

theorem entry_of_step (hstep : pre.step call = some (reply, post))
    (hnot : reply ≠ .inserted (.ok handle)) (hentry : post.entries[handle]? = some entry) :
    pre.entries[handle]? = some entry := by
  have heffect := effect_of_step hstep
  cases heffect with
  | refused same =>
    dsimp only at same
    rwa [← same]
  | @inserted _ _ _ _ handle' h =>
    obtain ⟨_, -, hentries⟩ := h.entries
    have hne : handle' ≠ handle := by
      rintro rfl
      exact hnot rfl
    rwa [hentries, getElem?_insert_of_ne _ _ hne] at hentry
  | leased h => rwa [h.entries] at hentry
  | materialized h => rwa [h.entries] at hentry
  | @revokedSecret _ _ handle' h =>
    obtain ⟨-, hentries, -⟩ := revokeSecret_eq_ok h
    rw [hentries] at hentry
    exact (getElem?_erase_eq_some.mp hentry).2
  | revokedLease h =>
    obtain ⟨_, -, -, hentries, -⟩ := revokeLease_eq_ok h
    rwa [hentries] at hentry
  | purged =>
    have hempty : pre.emergencyPurge.entries[handle]? = none := Std.ExtTreeMap.getElem?_empty
    rw [hempty] at hentry
    cases hentry

theorem entry_of_run {start now : InMemorySecretVault} {es : List VaultEvent}
    (hrun : Run InMemorySecretVault.step start es now) (hsince : ∀ e ∈ es, ¬ StoresUnder e handle)
    (hentry : now.entries[handle]? = some entry) : start.entries[handle]? = some entry := by
  induction hrun with
  | nil => exact hentry
  | snoc hrun hstep ih =>
    refine ih (fun e he => hsince e (List.mem_append_left _ he)) ?_
    exact entry_of_step hstep (hsince _ (List.mem_append_right _ List.mem_cons_self)) hentry

/-! ## A run -/

/-- A bearer token for one host. -/
def testSecret : SecretInput where
  kind := .bearerToken
  value := bytes "token"
  binding :=
    { runId := "run-1"
      workerId := "worker-1"
      accountId := "account-1"
      tenantId := "tenant-1"
      roleId := "role-1"
      allowedHosts := Std.ExtTreeSet.ofList ["app.example.com"] compare
      allowedSchemes := Std.ExtTreeSet.ofList ["https"] compare }
  delivery := .header "Authorization" (bytes "Bearer ")
  expiresAtEpochSeconds := none

def testVault : InMemorySecretVault := ⟨"vault-1", ∅, ∅, 1, 1, .new "vault-1"⟩

def testHandle : SecretHandle := secretIdText "vault-1" 1

def testContext : VaultAccessContext where
  runId := "run-1"
  workerId := "worker-1"
  accountId := "account-1"
  tenantId := "tenant-1"
  roleId := "role-1"
  authority := "app.example.com"
  scheme := "https"

theorem new_testVault : InMemorySecretVault.new "vault-1" = .ok testVault := by
  have hid : validateIdentifier "vault-1" "vault_id" = .ok () := by decide +kernel
  simp only [new, hid]
  rfl

/-- The test secret is leased for a minute, and the lease is used. -/
def useCalls (context : VaultAccessContext) : List VaultCall :=
  [.lease [testHandle] context 60 0,
    .materializeHttpHeaders ⟨leaseIdText "vault-1" 1, context, 60, false⟩ "session-1" "/" 1]

/-- A check of `PutsOn` for the test handle. -/
def putsOnCheck (context : VaultAccessContext) (e : VaultEvent) : Bool :=
  match e.input, e.output with
  | .materializeHttpHeaders lease _ requestTarget now, .materialized (.ok _) _ =>
    requestTarget = "/" && now = 1 &&
      e.pre.leases[lease.leaseId]?.any (fun state => state.context = context && testHandle ∈ state.handles) &&
      e.pre.entries[testHandle]?.any fun entry =>
        (entry.contribution context "/" 1).toOption.any (· ≠ .nothing)
  | _, _ => false

theorem putsOn_of_check {context : VaultAccessContext} (h : putsOnCheck context e = true) :
    (∃ header, Materializes e header) ∧ PutsOn e testHandle context "/" 1 := by
  unfold putsOnCheck at h
  split at h
  · next lease sessionId requestTarget now header lease' hinput houtput =>
    simp only [Bool.and_eq_true, decide_eq_true_eq, Option.any_eq_true] at h
    obtain ⟨⟨⟨rfl, rfl⟩, state, hstate, hcontext, hhandle⟩, entry, hentry, contribution, hcontribution, hput⟩ := h
    have hok : entry.contribution context "/" 1 = .ok contribution := by
      cases hresult : entry.contribution context "/" 1 with
      | error _ => simp [hresult, Except.toOption] at hcontribution
      | ok _ => simpa [hresult, Except.toOption] using hcontribution
    exact ⟨⟨header, lease', houtput⟩, lease, sessionId, state, header, lease', entry, contribution,
      hinput, houtput, hstate, hcontext, hhandle, hentry, hok, hput⟩
  · cases h

/-- Storing the secret, leasing it and using the lease is a run in the scope of the
guarantees. -/
theorem vault_guarantees_testVault :
    InMemorySecretVault.new "vault-1" = .ok testVault ∧ ∃ es now header,
      Run InMemorySecretVault.step testVault es now ∧ AuditFits now ∧
      (∃ e ∈ es, Materializes e header) ∧ VaultGuarantees es := by
  have hcalls : (runCalls InMemorySecretVault.step testVault (.insert testSecret 0 :: useCalls testContext)).map
      (fun r => (r.1.any (putsOnCheck testContext), decide (AuditFits r.2))) = some (true, true) := by decide +kernel
  obtain ⟨es, now, hrun, hchecked⟩ := exists_run_of_map_runCalls hcalls
  obtain ⟨hany, hfits⟩ := Prod.mk.inj hchecked
  obtain ⟨e, he, hputs⟩ := List.any_eq_true.mp hany
  obtain ⟨⟨header, hheader⟩, -⟩ := putsOn_of_check hputs
  exact ⟨new_testVault, es, now, header, hrun, of_decide_eq_true hfits, ⟨e, he, hheader⟩,
    vault_guarantees new_testVault hrun (of_decide_eq_true hfits)⟩

end BoundSeal.Vault
