import BoundSeal.Lib.Hierarchy
import BoundSeal.Policy.Model

/-!
# Narrowing never broadens

`Narrows child parent` collects what it means for one compiled policy to grant no
more than another: every request it allows the other allows, and none of its
limits is looser.

The host part is the delicate one. `narrow` edits the policy as written and
compiles it again, so a child's hosts are normalised twice; `allowsHost` compares
normalised names by suffix. Exclusions are only added, and subdomains only switched off.
-/

namespace BoundSeal.Policy

open Rust Lib
open Std (ExtTreeSet)

/-! ## Normalised hosts -/

theorem normalizeDnsHost_eq_ok {host fieldName n : String} (h : normalizeDnsHost host fieldName = .ok n) :
    n = normalizeHost host ∧ ∀ label ∈ splitChar '.' n, isDnsLabel label = true := by
  simp only [normalizeDnsHost, do_eq_ok] at h
  obtain ⟨-, hlabels, rfl⟩ := h
  refine ⟨rfl, fun label hl => ?_⟩
  by_contra hbad
  exact hlabels ⟨label, hl, hbad⟩

variable {n : String}

theorem trim_of_labels (h : ∀ label ∈ splitChar '.' n, isDnsLabel label = true) :
    trimEndMatches '.' (trim n) = n := by
  have hchar : ∀ c ∈ n.toList, isWhitespace c = false := by
    intro c hc
    rcases mem_part_of_mem '.' hc with rfl | ⟨label, hl, hcl⟩
    · decide
    · have hlabel := h label hl
      simp only [isDnsLabel, Bool.and_eq_true, List.all_eq_true, Bool.or_eq_true, beq_iff_eq] at hlabel
      rcases hlabel.2 c hcl with halnum | rfl
      · exact isWhitespace_of_isAlphanum halnum
      · decide
  have hlast : n.toList.getLast? ≠ some '.' := by
    intro hdot
    have hempty := h "" (empty_mem_splitChar hdot)
    revert hempty
    decide
  rw [trim_eq_self hchar, trimEndMatches_eq_self hlast]

/-- **A normalised host is a fixed point of normalisation.** -/
theorem normalizeHost_of_normalizeDnsHost {host fieldName n : String}
    (h : normalizeDnsHost host fieldName = .ok n) : normalizeHost n = n := by
  obtain ⟨hn, hlabels⟩ := normalizeDnsHost_eq_ok h
  rw [normalizeHost, trim_of_labels hlabels, hn, normalizeHost, toAsciiLowercase_idem]

section

variable {hosts normalized : BTreeSet String} {fieldName : String}

theorem mem_normalizeHostSet (h : normalizeHostSet hosts fieldName = .ok normalized) :
    n ∈ normalized ↔ ∃ host ∈ hosts, n = normalizeHost host := by
  rw [mem_collectSet h]
  constructor
  · rintro ⟨host, hmem, hn⟩
    exact ⟨host, hmem, (normalizeDnsHost_eq_ok hn).1⟩
  · rintro ⟨host, hmem, rfl⟩
    -- the set was collected, so this member normalised to something
    obtain ⟨n, hn⟩ := collectSet_defined h hmem
    exact ⟨host, hmem, (normalizeDnsHost_eq_ok hn).1 ▸ hn⟩

theorem normalizeHost_of_mem (h : normalizeHostSet hosts fieldName = .ok normalized)
    (hn : n ∈ normalized) : normalizeHost n = n := by
  obtain ⟨host, -, hok⟩ := (mem_collectSet h).mp hn
  exact normalizeHost_of_normalizeDnsHost hok

end

/-! ## Matching -/

/-- `host` covers `candidate`: it is the host, or a subdomain where these count. -/
def Covers (allowSubdomains : Bool) (host candidate : String) : Prop :=
  candidate = host ∨ (allowSubdomains = true ∧ IsUnder 0x2e (bytes host) (bytes candidate))

theorem matchesHostSet_iff {candidate : String} {hosts : BTreeSet String} {allowSubdomains : Bool} :
    matchesHostSet candidate hosts allowSubdomains = true ↔
      ∃ host ∈ hosts, Covers allowSubdomains host candidate := by
  simp only [matchesHostSet, List.any_eq_true, ExtTreeSet.mem_toList, Bool.or_eq_true, beq_iff_eq,
    Bool.and_eq_true, decide_eq_true_eq, List.isSuffixOf_iff_suffix, Covers, isUnder_iff, gt_iff_lt]
  refine exists_congr fun host => and_congr_right fun _ => ?_
  constructor
  · rintro (rfl | ⟨⟨⟨hsub, hlen⟩, hsuffix⟩, hdot⟩)
    · exact .inl rfl
    · exact .inr ⟨hsub, .inr ⟨hlen, hsuffix, hdot⟩⟩
  · rintro (rfl | ⟨hsub, heq | ⟨hlen, hsuffix, hdot⟩⟩)
    · exact .inl rfl
    · exact .inl (bytes_injective heq)
    · exact .inr ⟨⟨⟨hsub, hlen⟩, hsuffix⟩, hdot⟩

theorem covers_mono {sub sub' : Bool} (h : sub = true → sub' = true) {host candidate : String}
    (hc : Covers sub host candidate) : Covers sub' host candidate := by
  rcases hc with rfl | ⟨hsub, hunder⟩
  · exact .inl rfl
  · exact .inr ⟨h hsub, hunder⟩

/-- To be a host or below it is transitive. -/
theorem covers_trans {sub : Bool} {a b c : String} (hab : Covers sub a b) (hbc : Covers sub b c) :
    Covers sub a c := by
  rcases hab with rfl | ⟨hsub, hab⟩
  · exact hbc
  · rcases hbc with rfl | ⟨-, hbc⟩
    · exact .inr ⟨hsub, hab⟩
    · exact .inr ⟨hsub, hab.trans hbc⟩

theorem allowsHost_iff (policy : CompiledPolicy) (candidate : String) :
    policy.allowsHost candidate = true ↔
      (¬ ∃ host ∈ policy.excludeHosts, Covers true host (normalizeHost candidate)) ∧
      ∃ host ∈ policy.includeHosts,
        Covers policy.inner.scope.allowSubdomains host (normalizeHost candidate) := by
  rw [CompiledPolicy.allowsHost, ← matchesHostSet_iff, ← matchesHostSet_iff]
  split <;> simp [*]

theorem allowsRequest_iff (policy : CompiledPolicy) (url : Url) (method : String) :
    policy.allowsRequest url method = true ↔
      url.username = "" ∧ url.password = none ∧ ∃ host, url.hostStr = some host ∧
        url.scheme ∈ policy.allowedSchemes ∧ toAsciiUppercase method ∈ policy.allowedMethods ∧
        policy.allowsHost host = true := by
  unfold CompiledPolicy.allowsRequest
  split
  · next hcred =>
    refine iff_of_false (by simp) ?_
    rintro ⟨huser, hpass, -⟩
    simp [huser, hpass] at hcred
  · next hcred =>
    simp only [not_or, not_not, Option.isSome_iff_ne_none, ne_eq] at hcred
    cases hhost : url.hostStr with
    | none => simp
    | some host => simp [hcred, and_assoc]

/-! ## What each part of a narrowing keeps -/

theorem narrowFlag_le {message : String} {parent value : Bool} {child : Option Bool}
    (h : CompiledPolicy.narrowFlag message parent child = .ok value) : value = true → parent = true := by
  cases child with
  | none =>
    cases h
    exact id
  | some v =>
    simp only [CompiledPolicy.narrowFlag, do_eq_ok] at h
    obtain ⟨hkeep, rfl⟩ := h
    intro hv
    by_contra hp
    exact hkeep ⟨hv, Bool.eq_false_iff.mpr hp⟩

theorem narrowBound_le {zero exceeds : String} {parent value : ℕ} {child : Option ℕ}
    (h : CompiledPolicy.narrowBound zero exceeds parent child = .ok value) : value ≤ parent := by
  cases child with
  | none =>
    cases h
    exact le_rfl
  | some v =>
    simp only [CompiledPolicy.narrowBound, do_eq_ok] at h
    obtain ⟨-, hle, rfl⟩ := h
    exact not_lt.mp hle

theorem narrowExpiry_le {now parent value : DateTime} {child : Option DateTime}
    (h : CompiledPolicy.narrowExpiry now parent child = .ok value) : value ≤ parent := by
  cases child with
  | none =>
    cases h
    exact le_rfl
  | some v =>
    simp only [CompiledPolicy.narrowExpiry, do_eq_ok] at h
    obtain ⟨-, hle, rfl⟩ := h
    exact not_lt.mp hle

theorem isFinite_of_requireFinitePositive {field : String} {value : Float} {u : Unit}
    (h : requireFinitePositive field value = .ok u) : value.isFinite = true := by
  rw [requireFinitePositive, failIf_eq_ok] at h
  by_contra hnot
  exact h (.inl hnot)

theorem narrowRate_le {parent value : Float} {child : Option Float} (hparent : parent.isFinite = true)
    (h : CompiledPolicy.narrowRate parent child = .ok value) : value ≤ parent := by
  cases child with
  | none =>
    cases h
    exact float_le_refl hparent
  | some v =>
    simp only [CompiledPolicy.narrowRate, do_eq_ok] at h
    obtain ⟨hfinite, hle, rfl⟩ := h
    exact float_le_of_not_lt (isFinite_of_requireFinitePositive hfinite) hparent hle

theorem isFinite_maximumRequestsPerSecond (policy : CompiledPolicy) :
    policy.maximumRequestsPerSecond.isFinite = true := by
  obtain ⟨now, h⟩ := policy.validated
  simp only [validateTopLevel, do_eq_ok] at h
  obtain ⟨-, -, -, -, -, -, -, -, -, hrate, -⟩ := h
  exact isFinite_of_requireFinitePositive hrate

section

variable {empty fieldName : String} {normalize : String → Except PolicyError String}
  {raw parent names normalized : BTreeSet String} {child : Option (BTreeSet String)}

theorem mem_normalizeNames (h : normalizeNames empty normalize names = .ok normalized) :
    n ∈ normalized ↔ ∃ name ∈ names, normalize name = .ok n := by
  simp only [normalizeNames, do_eq_ok] at h
  exact mem_collectSet h.2

theorem requireSubset_subset {u : Unit} (h : requireSubset fieldName names parent = .ok u)
    (hn : n ∈ names) : n ∈ parent := by
  unfold requireSubset at h
  split at h
  · cases h
  · next hfind =>
    rw [List.find?_eq_none] at hfind
    have hmem := hfind n (ExtTreeSet.mem_toList.mpr hn)
    simpa using hmem

theorem narrowNames_subset (hidem : ∀ a b, normalize a = .ok b → normalize b = .ok b)
    (hparent : normalizeNames empty normalize raw = .ok parent)
    (hnarrow : CompiledPolicy.narrowNames fieldName (normalizeNames empty normalize) raw parent child =
      .ok names)
    (hcompiled : normalizeNames empty normalize names = .ok normalized)
    (hn : n ∈ normalized) : n ∈ parent := by
  cases child with
  | none =>
    cases hnarrow
    rw [hparent] at hcompiled
    cases hcompiled
    exact hn
  | some supplied =>
    simp only [CompiledPolicy.narrowNames, do_eq_ok] at hnarrow
    obtain ⟨once, honce, hsubset, rfl⟩ := hnarrow
    obtain ⟨m, hm, hmn⟩ := (mem_normalizeNames hcompiled).mp hn
    obtain ⟨a, -, ham⟩ := (mem_normalizeNames honce).mp hm
    -- `m` was normalised already, so normalising it again changes nothing
    have hnm : m = n := by simpa [hidem a m ham] using hmn
    exact hnm ▸ requireSubset_subset hsubset hm

end

theorem normalizeScheme_idem (a b : String) (h : normalizeScheme a = .ok b) :
    normalizeScheme b = .ok b := by
  simp only [normalizeScheme, do_eq_ok] at h
  obtain ⟨hb, rfl⟩ := h
  rcases not_and_or.mp hb with hb | hb <;> rw [not_not.mp hb] <;> decide +kernel

theorem normalizeMethod_idem (a b : String) (h : normalizeMethod a = .ok b) :
    normalizeMethod b = .ok b := by
  simp only [normalizeMethod, do_eq_ok, not_not] at h
  obtain ⟨hb, rfl⟩ := h
  have hall : ∀ m ∈ allowedMethodNames, normalizeMethod m = .ok m := by decide +kernel
  exact hall _ hb

/-! ## One step -/

theorem compile_inner {policy : TargetPolicy} {now : DateTime} {compiled : CompiledPolicy}
    (h : policy.compile now = .ok compiled) : compiled.inner = policy := by
  unfold TargetPolicy.compile at h
  split at h
  · cases h
  split at h
  · cases h
  split at h
  · cases h
  split at h
  · cases h
  split at h
  · cases h
  split at h
  · cases h
  · cases h
    rfl

/-- `child` grants no more than `parent`. -/
structure Narrows (child parent : CompiledPolicy) : Prop where
  request : ∀ url method, child.allowsRequest url method = true →
    parent.allowsRequest url method = true
  rate : child.maximumRequestsPerSecond ≤ parent.maximumRequestsPerSecond
  concurrency : child.maximumConcurrency ≤ parent.maximumConcurrency
  total : child.maximumTotalRequests ≤ parent.maximumTotalRequests
  expiry : child.authorizationExpiresAt ≤ parent.authorizationExpiresAt
  activeTesting : child.activeTestingEnabled = true → parent.activeTestingEnabled = true
  oobCallbacks : child.oobCallbacksEnabled = true → parent.oobCallbacksEnabled = true

theorem Narrows.refl (policy : CompiledPolicy) : Narrows policy policy where
  request _ _ h := h
  rate := float_le_refl (isFinite_maximumRequestsPerSecond policy)
  concurrency := le_rfl
  total := le_rfl
  expiry := le_rfl
  activeTesting h := h
  oobCallbacks h := h

theorem Narrows.trans {a b c : CompiledPolicy} (hab : Narrows a b) (hbc : Narrows b c) :
    Narrows a c where
  request url method h := hbc.request url method (hab.request url method h)
  rate := float_le_trans hab.rate hbc.rate
  concurrency := hab.concurrency.trans hbc.concurrency
  total := hab.total.trans hbc.total
  expiry := hab.expiry.trans hbc.expiry
  activeTesting h := hbc.activeTesting (hab.activeTesting h)
  oobCallbacks h := hbc.oobCallbacks (hab.oobCallbacks h)

section

variable {parent compiled : CompiledPolicy} {child : ChildPolicy} {host : String}

theorem covers_of_mem_includeHosts
    (hnarrow : parent.narrowIncludeHosts child = .ok compiled.inner.scope.includeHosts)
    (hhost : host ∈ compiled.includeHosts) :
    ∃ up ∈ parent.includeHosts, Covers parent.inner.scope.allowSubdomains up host := by
  unfold CompiledPolicy.narrowIncludeHosts at hnarrow
  split at hnarrow
  · -- the child leaves its hosts out: it has the parent's
    have hsame := compiled.includeHosts_eq
    rw [← Except.ok.inj hnarrow, parent.includeHosts_eq] at hsame
    exact ⟨host, Except.ok.inj hsame ▸ hhost, .inl rfl⟩
  · next supplied _ =>
    simp only [do_eq_ok] at hnarrow
    obtain ⟨-, once, honce, hfind⟩ := hnarrow
    split at hfind
    · cases hfind
    · next hall =>
      rw [Except.ok.inj hfind] at hall honce
      obtain ⟨a, ha, hnorm⟩ := (mem_normalizeHostSet compiled.includeHosts_eq).mp hhost
      have hfixed : host = a := by rw [hnorm, normalizeHost_of_mem honce ha]
      subst hfixed
      rw [List.find?_eq_none] at hall
      have hallowed : parent.allowsHost host = true := by
        simpa using hall host (ExtTreeSet.mem_toList.mpr ha)
      obtain ⟨-, up, hup, hcovers⟩ := (allowsHost_iff parent host).mp hallowed
      exact ⟨up, hup, hnorm ▸ hcovers⟩

theorem mem_excludeHosts_of_parent
    (hnarrow : parent.narrowExcludeHosts child = .ok compiled.inner.scope.excludeHosts)
    (hhost : host ∈ parent.excludeHosts) : host ∈ compiled.excludeHosts := by
  obtain ⟨raw, hraw, rfl⟩ := (mem_normalizeHostSet parent.excludeHosts_eq).mp hhost
  refine (mem_normalizeHostSet compiled.excludeHosts_eq).mpr ⟨raw, ?_, rfl⟩
  unfold CompiledPolicy.narrowExcludeHosts at hnarrow
  split at hnarrow
  · exact Except.ok.inj hnarrow ▸ hraw
  · simp only [do_eq_ok] at hnarrow
    obtain ⟨exclusions, -, hunion⟩ := hnarrow
    rw [← hunion]
    exact ExtTreeSet.mem_union_of_left hraw

theorem allowsHost_of_narrow
    (hinclude : parent.narrowIncludeHosts child = .ok compiled.inner.scope.includeHosts)
    (hexclude : parent.narrowExcludeHosts child = .ok compiled.inner.scope.excludeHosts)
    (hsub : compiled.inner.scope.allowSubdomains = true → parent.inner.scope.allowSubdomains = true)
    (h : compiled.allowsHost host = true) : parent.allowsHost host = true := by
  rw [allowsHost_iff] at h ⊢
  obtain ⟨hnot, mid, hmid, hcovers⟩ := h
  constructor
  · rintro ⟨excluded, hmem, hcov⟩
    exact hnot ⟨excluded, mem_excludeHosts_of_parent hexclude hmem, hcov⟩
  · obtain ⟨up, hup, hup'⟩ := covers_of_mem_includeHosts hinclude hmid
    exact ⟨up, hup, covers_trans hup' (covers_mono hsub hcovers)⟩

/-- **One step of narrowing grants no more.** -/
theorem narrow_narrows {now : DateTime} (h : parent.narrow child now = .ok compiled) :
    Narrows compiled parent := by
  simp only [CompiledPolicy.narrow, bind_eq_ok] at h
  obtain ⟨includeHosts, hinclude, excludeHosts, hexclude, schemes, hschemes, methods, hmethods,
    subdomains, hsub, active, hactive, oob, hoob, rate, hrate, concurrency, hconcurrency,
    total, htotal, expiresAt, hexpires, hcompile⟩ := h
  have hinner := compile_inner hcompile
  have hscope := congrArg TargetPolicy.scope hinner
  have hauto := congrArg TargetPolicy.automation hinner
  have hauth := congrArg TargetPolicy.authorization hinner
  refine ⟨fun url method hreq => ?_, ?_, ?_, ?_, ?_, ?_, ?_⟩
  · rw [allowsRequest_iff] at hreq ⊢
    obtain ⟨huser, hpass, host, hhost, hscheme, hmethod, hallow⟩ := hreq
    refine ⟨huser, hpass, host, hhost, ?_, ?_, ?_⟩
    · have hcompiled := compiled.allowedSchemes_eq
      rw [hscope] at hcompiled
      exact narrowNames_subset normalizeScheme_idem parent.allowedSchemes_eq hschemes hcompiled hscheme
    · have hcompiled := compiled.allowedMethods_eq
      rw [hscope] at hcompiled
      exact narrowNames_subset normalizeMethod_idem parent.allowedMethods_eq hmethods hcompiled hmethod
    · have hinclude' : parent.narrowIncludeHosts child = .ok compiled.inner.scope.includeHosts := by
        rw [hscope, hinclude]
      have hexclude' : parent.narrowExcludeHosts child = .ok compiled.inner.scope.excludeHosts := by
        rw [hscope, hexclude]
      refine allowsHost_of_narrow hinclude' hexclude' ?_ hallow
      rw [hscope]
      exact narrowFlag_le hsub
  · rw [CompiledPolicy.maximumRequestsPerSecond, hauto]
    exact narrowRate_le (isFinite_maximumRequestsPerSecond parent) hrate
  · rw [CompiledPolicy.maximumConcurrency, hauto]
    exact narrowBound_le hconcurrency
  · rw [CompiledPolicy.maximumTotalRequests, hauto]
    exact narrowBound_le htotal
  · rw [CompiledPolicy.authorizationExpiresAt, hauth]
    exact narrowExpiry_le hexpires
  · rw [CompiledPolicy.activeTestingEnabled, hauto]
    exact narrowFlag_le hactive
  · rw [CompiledPolicy.oobCallbacksEnabled, hauto]
    exact narrowFlag_le hoob

end

/-! ## Chains -/

/-- **Narrowing never broadens**: a chain of child policies of any length, each
accepted at its own time, ends in a policy that allows no request the first does
not allow and has no looser limit. -/
theorem narrowAll_narrows (parent : CompiledPolicy) (children : List (ChildPolicy × DateTime))
    (compiled : CompiledPolicy) (h : parent.narrowAll children = .ok compiled) :
    Narrows compiled parent := by
  induction children generalizing parent with
  | nil =>
    rw [CompiledPolicy.narrowAll, List.foldlM_nil, pure_eq_ok] at h
    exact h ▸ Narrows.refl parent
  | cons step children ih =>
    rw [CompiledPolicy.narrowAll, List.foldlM_cons, bind_eq_ok] at h
    obtain ⟨mid, hmid, hrest⟩ := h
    exact (ih mid hrest).trans (narrow_narrows hmid)

/-- A chain of two accepted children of the test policy, the second with a host
written in upper case with a trailing dot. -/
def validChildren : List (ChildPolicy × DateTime) :=
  [({ includeHosts := some (ExtTreeSet.ofList ["api.app.example.com"] compare)
      maxRequestsPerSecond := some 0.5
      expiresAt := some 3 }, 1),
   ({ includeHosts := some (ExtTreeSet.ofList ["V1.API.app.example.com."] compare)
      allowSubdomains := some false
      maxTotalRequests := some 100 }, 2)]

def validNarrowed : CompiledPolicy :=
  unwrap (validCompiled.narrowAll validChildren) (by decide +kernel)

theorem narrowAll_validNarrowed : validCompiled.narrowAll validChildren = .ok validNarrowed := by
  exact eq_ok_unwrap _ _

theorem narrowAll_validChildren : validCompiled.narrowAll validChildren = .ok validNarrowed ∧
      Narrows validNarrowed validCompiled := by
  refine ⟨narrowAll_validNarrowed, ?_⟩
  exact narrowAll_narrows validCompiled validChildren validNarrowed narrowAll_validNarrowed

end BoundSeal.Policy
