import BoundSeal.Analyzers.Correlation
import Mathlib.Data.Set.Card

/-!
# Correlation does not depend on the order and loses nothing

A correlator that has accepted a list of observations is determined by the set of
them and their number.
-/

namespace BoundSeal.Analyzers

open Rust Lib RootCauseCorrelator
open Std (ExtTreeMap ExtTreeSet)

/-- What `correlate` is called with. -/
structure Observation where
  finding : Finding
  evidence : CorrelationEvidence

namespace Observation

/-- What the identifier of the root cause is the digest of. -/
def rootMaterial (o : Observation) : Json := .texts (o.evidence.rootCauseMaterial o.finding.ruleId)

def findingMaterial (o : Observation) : Json := Serde.toJson o.finding

def root (o : Observation) : String := hashJson o.rootMaterial

def binding (o : Observation) : FindingBinding := ⟨o.root, hashJson o.findingMaterial⟩

/-- An observation that passes the checks on its fields. -/
structure Valid (o : Observation) : Prop where
  finding : validateCorrelationFinding o.finding = .ok ()
  evidence : o.evidence.validate = .ok ()
  rule : validateRuleId o.finding.ruleId = .ok ()

end Observation

/-- SHA-256 tells the serialised material of the observations apart. -/
structure CollisionFree (S : Set Observation) : Prop where
  root : ∀ o ∈ S, ∀ o' ∈ S, hashJson o.rootMaterial = hashJson o'.rootMaterial →
    o.rootMaterial.toVec = o'.rootMaterial.toVec
  finding : ∀ o ∈ S, ∀ o' ∈ S, hashJson o.findingMaterial = hashJson o'.findingMaterial →
    o.findingMaterial.toVec = o'.findingMaterial.toVec

/-! ## Sizes -/

section

variable {κ ν : Type} [Ord κ] [Std.TransOrd κ] [Std.LawfulEqOrd κ]

theorem size_eq_ncard {m : BTreeMap κ ν} {T : Set κ} (h : ∀ k, k ∈ m ↔ k ∈ T) : m.size = T.ncard ∧ T.Finite := by
  classical
  have hT : T = ↑m.keys.toFinset := by
    ext k
    simp [← h]
  rw [hT, Set.ncard_coe_finset, List.toFinset_card_of_nodup ExtTreeMap.nodup_keys, ExtTreeMap.length_keys]
  exact ⟨rfl, Finset.finite_toSet _⟩

theorem size_eq_ncard_set {s : BTreeSet κ} {T : Set κ} (h : ∀ k, k ∈ s ↔ k ∈ T) : s.size = T.ncard ∧ T.Finite := by
  classical
  have hnodup : s.toList.Nodup := by
    refine ExtTreeSet.distinct_toList.imp ?_
    rintro a b hne rfl
    exact hne Std.ReflOrd.compare_self
  have hT : T = ↑s.toList.toFinset := by
    ext k
    simp [← h]
  rw [hT, Set.ncard_coe_finset, List.toFinset_card_of_nodup hnodup, ExtTreeSet.length_toList]
  exact ⟨rfl, Finset.finite_toSet _⟩

end

/-! ## Clusters -/

/-- The cluster of a set of observations with one root cause. -/
structure Collects (M : Set Observation) (c : RootCauseCluster) : Prop where
  nonempty : M.Nonempty
  root : ∀ o ∈ M, c.rootCauseId = o.root
  rule : ∀ o ∈ M, c.ruleId = o.finding.ruleId
  evidence : ∀ o ∈ M, (⟨c.policySnapshotSha256, c.normalizationVersion, c.componentSha256,
    c.normalizedEvidenceSha256, c.responseShapeSha256⟩ : CorrelationEvidence) = o.evidence
  title : IsLeast ((·.finding.title) '' M) c.title
  severity : IsGreatest ((·.finding.severity) '' M) c.highestSeverity
  confidence : IsLeast ((·.finding.confidence) '' M) c.minimumConfidence
  ids : ∀ id, id ∈ c.findingIds ↔ id ∈ (·.finding.findingId) '' M
  endpoints : ∀ id, id ∈ c.affectedEndpointSha256 ↔ id ∈ (·.finding.endpointSha256) '' M
  evidences : ∀ id, id ∈ c.evidenceSha256 ↔ id ∈ (·.finding.evidenceSha256) '' M

namespace Collects

variable {M : Set Observation} {c c' : RootCauseCluster} {o : Observation}

theorem unique (h : Collects M c) (h' : Collects M c') : c = c' := by
  obtain ⟨o, ho⟩ := h.nonempty
  have hevidence := (h.evidence o ho).trans (h'.evidence o ho).symm
  simp only [CorrelationEvidence.mk.injEq] at hevidence
  obtain ⟨hpolicy, hversion, hcomponent, hnormalized, hshape⟩ := hevidence
  have hroot := (h.root o ho).trans (h'.root o ho).symm
  have hrule := (h.rule o ho).trans (h'.rule o ho).symm
  have htitle := h.title.unique h'.title
  have hseverity := h.severity.unique h'.severity
  have hconfidence := h.confidence.unique h'.confidence
  have hids : c.findingIds = c'.findingIds :=
    ExtTreeSet.ext_mem fun id => (h.ids id).trans (h'.ids id).symm
  have hendpoints : c.affectedEndpointSha256 = c'.affectedEndpointSha256 :=
    ExtTreeSet.ext_mem fun id => (h.endpoints id).trans (h'.endpoints id).symm
  have hevidences : c.evidenceSha256 = c'.evidenceSha256 :=
    ExtTreeSet.ext_mem fun id => (h.evidences id).trans (h'.evidences id).symm
  cases c
  cases c'
  simp_all

theorem mem_insert_image {s : BTreeSet String} {f : Observation → String} (h : ∀ id, id ∈ s ↔
    id ∈ f '' M) (id : String) : id ∈ s.insert (f o) ↔ id ∈ f '' insert o M := by
  rw [Set.image_insert_eq, Set.mem_insert_iff, ← h, ExtTreeSet.mem_insert,
    Std.LawfulEqOrd.compare_eq_iff_eq, eq_comm (a := f o)]

theorem joined (h : Collects M c) (hsame : ∀ o' ∈ M, o'.root = o.root ∧ o'.finding.ruleId = o.finding.ruleId ∧
    o'.evidence = o.evidence) : Collects (insert o M) (joined o.finding c) := by
  obtain ⟨witness, hwitness⟩ := h.nonempty
  obtain ⟨hroot, hrule, hevidence⟩ := hsame witness hwitness
  exact {
    nonempty := Set.insert_nonempty _ _
    root := by
      rintro o' (rfl | ho')
      · exact (h.root witness hwitness).trans hroot
      · exact h.root o' ho'
    rule := by
      rintro o' (rfl | ho')
      · exact (h.rule witness hwitness).trans hrule
      · exact h.rule o' ho'
    evidence := by
      rintro o' (rfl | ho')
      · exact (h.evidence witness hwitness).trans hevidence
      · exact h.evidence o' ho'
    title := by
      have hmin := h.title.insert o.finding.title
      rw [min_def_lt] at hmin
      rw [Set.image_insert_eq]
      exact hmin
    severity := by
      rw [Set.image_insert_eq]
      have hmax := h.severity.insert o.finding.severity
      rw [max_comm] at hmax
      exact hmax
    confidence := by
      rw [Set.image_insert_eq]
      have hmin := h.confidence.insert o.finding.confidence
      rw [min_comm] at hmin
      exact hmin
    ids := mem_insert_image h.ids
    endpoints := mem_insert_image h.endpoints
    evidences := mem_insert_image h.evidences }

theorem opened (o : Observation) : Collects {o} (RootCauseCorrelator.opened o.finding o.evidence o.root) where
  nonempty := Set.singleton_nonempty o
  root := by
    rintro _ rfl
    rfl
  rule := by
    rintro _ rfl
    rfl
  evidence := by
    rintro _ rfl
    rfl
  title := by
    rw [Set.image_singleton]
    exact isLeast_singleton
  severity := by
    rw [Set.image_singleton]
    exact isGreatest_singleton
  confidence := by
    rw [Set.image_singleton]
    exact isLeast_singleton
  ids id := by simp [RootCauseCorrelator.opened, eq_comm (b := id)]
  endpoints id := by simp [RootCauseCorrelator.opened, eq_comm (b := id)]
  evidences id := by simp [RootCauseCorrelator.opened, eq_comm (b := id)]

end Collects

/-! ## Digests -/

variable {T : Set Observation}

namespace CollisionFree

variable {S : Set Observation} {o o' : Observation}

theorem mono (h : CollisionFree T) (hsub : S ⊆ T) : CollisionFree S :=
  ⟨fun o ho o' ho' => h.root o (hsub ho) o' (hsub ho'), fun o ho o' ho' => h.finding o (hsub ho) o' (hsub ho')⟩

theorem texts_injective {l l' : List String} (h : (Json.texts l).toVec = (Json.texts l').toVec) : l = l' := by
  have hread : ∀ l : List String, (Json.fromSlice (Json.texts l).toVec).bind (Json.asList Json.asText) = some l := by
    intro l
    rw [Json.fromSlice_toVec, Option.bind_some, Json.texts, Json.asList_normalize]
    intro s
    rw [Json.normalize_text]
    rfl
  have hl := hread l
  rw [h, hread l'] at hl
  exact (Option.some.inj hl).symm

theorem of_root (h : CollisionFree S) (ho : o ∈ S) (ho' : o' ∈ S) (hroot : o.root = o'.root) :
    o.finding.ruleId = o'.finding.ruleId ∧ o.evidence = o'.evidence := by
  have hmaterial := texts_injective (h.root o ho o' ho' hroot)
  simp only [CorrelationEvidence.rootCauseMaterial, List.cons.injEq, and_true] at hmaterial
  obtain ⟨hrule, hpolicy, hversion, hcomponent, hnormalized, hshape⟩ := hmaterial
  refine ⟨hrule, ?_⟩
  cases h₁ : o.evidence
  cases h₂ : o'.evidence
  simp_all

theorem of_binding (h : CollisionFree S) (ho : o ∈ S) (ho' : o' ∈ S) (hbinding : o.binding = o'.binding) : o = o' := by
  simp only [Observation.binding, FindingBinding.mk.injEq] at hbinding
  have hfinding : o.finding = o'.finding :=
    compactBytes_injective (h.finding o ho o' ho' hbinding.2)
  have hevidence := (h.of_root ho ho' hbinding.1).2
  cases o
  cases o'
  simp_all

end CollisionFree

/-! ## One observation -/

/-- What `correlate` does with a valid observation that it accepts. -/
inductive Outcome (s : RootCauseCorrelator) (o : Observation) : CorrelationDisposition × RootCauseCorrelator → Prop
  | duplicate (known : s.findingBindings[o.finding.findingId]? = some o.binding) :
    Outcome s o (.exactDuplicate,
      { s with exactDuplicateObservations := saturatingAdd s.exactDuplicateObservations 1 })
  | joined {c : RootCauseCluster} (new : s.findingBindings[o.finding.findingId]? = none)
    (total : s.totalMembers < s.limits.maximumTotalMembers) (lookup : s.clusters[o.root]? = some c)
    (members : c.findingIds.size < s.limits.maximumMembersPerCluster)
    (endpoints : o.finding.endpointSha256 ∉ c.affectedEndpointSha256 →
      c.affectedEndpointSha256.size < s.limits.maximumEndpointsPerCluster) :
    Outcome s o (if !c.affectedEndpointSha256.contains o.finding.endpointSha256 then .additionalAffectedEndpoint
        else .additionalFindingSameEndpoint,
      s.bound o.finding.findingId o.binding (RootCauseCorrelator.joined o.finding c))
  | opened (new : s.findingBindings[o.finding.findingId]? = none)
    (total : s.totalMembers < s.limits.maximumTotalMembers) (lookup : s.clusters[o.root]? = none)
    (clusters : s.clusters.size < s.limits.maximumClusters) :
    Outcome s o (.newRootCause,
      s.bound o.finding.findingId o.binding (RootCauseCorrelator.opened o.finding o.evidence o.root))

namespace RootCauseCorrelator

variable {s s' : RootCauseCorrelator} {o : Observation} {S : Set Observation}

theorem correlate_eq_ok {r : CorrelationDisposition × RootCauseCorrelator} :
    s.correlate o.finding o.evidence = .ok r ↔ o.Valid ∧ Outcome s o r := by
  have hroot : ∀ {id}, o.evidence.rootCauseId o.finding.ruleId = .ok id ↔
      o.evidence.validate = .ok () ∧ validateRuleId o.finding.ruleId = .ok () ∧ o.root = id := by
    intro id
    simp only [CorrelationEvidence.rootCauseId, do_eq_ok]
    rfl
  simp only [correlate, do_eq_ok, hroot]
  constructor
  · rintro ⟨hfinding, hevidence, _, ⟨-, hrule, rfl⟩, h⟩
    refine ⟨⟨hfinding, hevidence, hrule⟩, ?_⟩
    cases hknown : s.findingBindings[o.finding.findingId]? with
    | some b =>
      rw [hknown] at h
      dsimp only at h
      split at h
      · next hsame =>
        rw [pure_eq_ok] at h
        subst h
        refine .duplicate (hknown.trans ?_)
        obtain ⟨hsame, hdigest⟩ := hsame
        cases b
        simp_all [Observation.binding, Observation.findingMaterial]
      · cases h
    | none =>
      rw [hknown] at h
      simp only [do_eq_ok, ge_iff_le, not_le] at h
      obtain ⟨htotal, h⟩ := h
      cases hlookup : s.clusters[o.root]? with
      | some c =>
        rw [hlookup] at h
        simp only [join, do_eq_ok, ge_iff_le, not_le, not_and] at h
        obtain ⟨hmembers, hendpoints, rfl⟩ := h
        refine .joined hknown htotal hlookup hmembers fun hnew => hendpoints ?_
        rwa [Bool.not_eq_true', ← Bool.not_eq_true, ← ExtTreeSet.mem_iff_contains]
      | none =>
        rw [hlookup] at h
        simp only [do_eq_ok, not_le] at h
        obtain ⟨hclusters, rfl⟩ := h
        exact .opened hknown htotal hlookup hclusters
  · rintro ⟨hvalid, h⟩
    refine ⟨hvalid.finding, hvalid.evidence, _, ⟨hvalid.evidence, hvalid.rule, rfl⟩, ?_⟩
    cases h with
    | duplicate known =>
      rw [known]
      exact if_pos ⟨rfl, rfl⟩
    | joined new total lookup members endpoints =>
      rw [new, lookup]
      simp only [join, do_eq_ok, ge_iff_le, not_le, not_and]
      refine ⟨total, members, fun hnew => endpoints ?_, rfl⟩
      rwa [Bool.not_eq_true', ← Bool.not_eq_true, ← ExtTreeSet.mem_iff_contains] at hnew
    | opened new total lookup clusters =>
      rw [new, lookup]
      simp only [do_eq_ok, ge_iff_le, not_le]
      exact ⟨total, clusters, rfl⟩

/-! ## The correlator of a set of observations -/

def causedBy (S : Set Observation) (root : String) : Set Observation := {o ∈ S | o.root = root}

theorem causedBy_insert_self (o : Observation) (S : Set Observation) :
    causedBy (insert o S) o.root = insert o (causedBy S o.root) := by
  ext o'
  simp only [causedBy, Set.mem_ofPred_eq, Set.mem_insert_iff]
  constructor
  · rintro ⟨rfl | ho', hroot⟩
    · exact .inl rfl
    · exact .inr ⟨ho', hroot⟩
  · rintro (rfl | ⟨ho', hroot⟩)
    · exact ⟨.inl rfl, rfl⟩
    · exact ⟨.inr ho', hroot⟩

variable {root : String}

theorem causedBy_insert_of_ne (h : o.root ≠ root) (S : Set Observation) :
    causedBy (insert o S) root = causedBy S root := by
  ext o'
  simp only [causedBy, Set.mem_ofPred_eq, Set.mem_insert_iff]
  constructor
  · rintro ⟨rfl | ho', hroot⟩
    · exact absurd hroot h
    · exact ⟨ho', hroot⟩
  · rintro ⟨ho', hroot⟩
    exact ⟨.inr ho', hroot⟩

/-- The cluster of a root cause, if it has observations. -/
def Clustered (M : Set Observation) : Option RootCauseCluster → Prop
  | none => M = ∅
  | some c => Collects M c

theorem Clustered.unique {M : Set Observation} {c c' : Option RootCauseCluster} (h : Clustered M c)
    (h' : Clustered M c') : c = c' := by
  cases c with
  | none =>
    cases c' with
    | none => rfl
    | some c' => exact absurd h h'.nonempty.ne_empty
  | some c =>
    cases c' with
    | none => exact absurd h' h.nonempty.ne_empty
    | some c' => rw [Collects.unique h h']

/-- The correlator has the bindings and the clusters of the observations. -/
structure Summary (S : Set Observation) (s : RootCauseCorrelator) : Prop where
  bindings : ∀ (id : String) b, s.findingBindings[id]? = some b ↔ ∃ o ∈ S, o.finding.findingId = id ∧ o.binding = b
  clusters : ∀ root : String, Clustered (causedBy S root) s.clusters[root]?
  total : s.totalMembers = s.findingBindings.size

variable {c : RootCauseCluster} {d : CorrelationDisposition}

namespace Summary

variable (h : Summary S s)

include h

/-- A correlator is determined by its observations, but for its limits and the number of duplicates.
-/
theorem unique (h' : Summary S s') : s.findingBindings = s'.findingBindings ∧
    s.clusters = s'.clusters ∧ s.totalMembers = s'.totalMembers := by
  have hbindings : s.findingBindings = s'.findingBindings :=
    ExtTreeMap.ext_getElem? fun id => Option.ext fun b => (h.bindings id b).trans (h'.bindings id b).symm
  refine ⟨hbindings, ExtTreeMap.ext_getElem? fun root => (h.clusters root).unique (h'.clusters root), ?_⟩
  rw [h.total, h'.total, hbindings]

theorem known (ho : o ∈ S) : s.findingBindings[o.finding.findingId]? = some o.binding :=
  (h.bindings _ _).mpr ⟨o, ho, rfl, rfl⟩

theorem not_mem_of_new (hnew : s.findingBindings[o.finding.findingId]? = none) :
    o.finding.findingId ∉ (·.finding.findingId) '' S := by
  rintro ⟨o', ho', hid⟩
  dsimp only at hid
  have hknown := h.known ho'
  rw [hid, hnew] at hknown
  cases hknown

theorem bound (hnew : s.findingBindings[o.finding.findingId]? = none)
    (hroom : s.totalMembers < maxTotalCorrelationMembers) (hc : Collects (insert o (causedBy S o.root)) c) :
    Summary (insert o S) (s.bound o.finding.findingId o.binding c) where
  bindings id b := by
    show (s.findingBindings.insert _ _)[id]? = some b ↔ _
    by_cases hid : o.finding.findingId = id
    · subst hid
      rw [getElem?_insert_self]
      constructor
      · rintro ⟨rfl⟩
        exact ⟨o, .inl rfl, rfl, rfl⟩
      · rintro ⟨o', rfl | ho', hid, rfl⟩
        · rfl
        · exact absurd ⟨o', ho', hid⟩ (h.not_mem_of_new hnew)
    · rw [getElem?_insert_of_ne _ _ hid, h.bindings]
      constructor
      · rintro ⟨o', ho', hsame⟩
        exact ⟨o', .inr ho', hsame⟩
      · rintro ⟨o', rfl | ho', hsame⟩
        · exact absurd hsame.1 hid
        · exact ⟨o', ho', hsame⟩
  clusters root := by
    show Clustered _ (s.clusters.insert o.root c)[root]?
    by_cases hroot : o.root = root
    · subst hroot
      rw [getElem?_insert_self, causedBy_insert_self]
      exact hc
    · rw [getElem?_insert_of_ne _ _ hroot, causedBy_insert_of_ne hroot]
      exact h.clusters root
  total := by
    show saturatingAdd s.totalMembers 1 = (s.findingBindings.insert _ _).size
    rw [size_insert_new _ hnew, ← h.total]
    exact saturatingAdd_eq_add (by unfold maxTotalCorrelationMembers at hroom; unfold u64Max; omega)

/-- **One accepted observation.** -/
theorem step (hcf : CollisionFree (insert o S)) (hlimit : s.limits.maximumTotalMembers ≤
    maxTotalCorrelationMembers) (hok : Outcome s o (d, s')) : Summary (insert o S) s' := by
  cases hok with
  | duplicate known =>
    -- by its binding the observation is one of those before
    obtain ⟨o', ho', -, hbinding⟩ := (h.bindings _ _).mp known
    obtain rfl := hcf.of_binding (.inr ho') (.inl rfl) hbinding
    rw [Set.insert_eq_of_mem ho']
    exact ⟨h.bindings, h.clusters, h.total⟩
  | joined new total lookup members endpoints =>
    have hc := h.clusters o.root
    rw [lookup] at hc
    refine h.bound new (total.trans_le hlimit) (Collects.joined hc ?_)
    rintro o' ⟨ho', hroot⟩
    exact ⟨hroot, hcf.of_root (.inr ho') (.inl rfl) hroot⟩
  | opened new total lookup clusters =>
    have hempty := h.clusters o.root
    rw [lookup] at hempty
    refine h.bound new (total.trans_le hlimit) ?_
    rw [show causedBy S o.root = ∅ from hempty, insert_empty_eq]
    exact Collects.opened o

end Summary

/-! ## Acceptance -/

/-- What all observations together must satisfy. `Summary.accepts` and `Within.admissible`
say that a correlator accepts the observations one by one exactly if they are admissible
together. -/
structure Admissible (limits : CorrelationLimits) (S : Set Observation) : Prop where
  valid : ∀ o ∈ S, o.Valid
  consistent : ∀ o ∈ S, ∀ o' ∈ S, o.finding.findingId = o'.finding.findingId → o.binding = o'.binding
  total : ((·.finding.findingId) '' S).ncard ≤ limits.maximumTotalMembers
  members : ∀ root, ((·.finding.findingId) '' causedBy S root).ncard ≤ limits.maximumMembersPerCluster
  endpoints : ∀ root, ((·.finding.endpointSha256) '' causedBy S root).ncard ≤ limits.maximumEndpointsPerCluster
  clusters : (Observation.root '' S).ncard ≤ limits.maximumClusters

structure Within (s : RootCauseCorrelator) : Prop where
  total : s.totalMembers ≤ s.limits.maximumTotalMembers
  members : ∀ (root : String) c, s.clusters[root]? = some c → c.findingIds.size ≤ s.limits.maximumMembersPerCluster
  endpoints : ∀ (root : String) c, s.clusters[root]? = some c →
    c.affectedEndpointSha256.size ≤ s.limits.maximumEndpointsPerCluster
  clusters : s.clusters.size ≤ s.limits.maximumClusters

namespace Summary

section

variable (h : Summary S s)

include h

theorem mem_bindings (id : String) : id ∈ s.findingBindings ↔ id ∈ (·.finding.findingId) '' S := by
  rw [ExtTreeMap.mem_iff_isSome_getElem?, Option.isSome_iff_exists]
  constructor
  · rintro ⟨b, hb⟩
    obtain ⟨o, ho, hid, -⟩ := (h.bindings id b).mp hb
    exact ⟨o, ho, hid⟩
  · rintro ⟨o, ho, rfl⟩
    exact ⟨o.binding, h.known ho⟩

theorem mem_clusters (root : String) : root ∈ s.clusters ↔ root ∈ Observation.root '' S := by
  rw [ExtTreeMap.mem_iff_isSome_getElem?]
  have hclustered := h.clusters root
  constructor
  · intro hsome
    obtain ⟨c, hc⟩ := Option.isSome_iff_exists.mp hsome
    rw [hc] at hclustered
    obtain ⟨o, ho, hroot⟩ := hclustered.nonempty
    exact ⟨o, ho, hroot⟩
  · rintro ⟨o, ho, hroot⟩
    by_contra hnone
    rw [Option.not_isSome_iff_eq_none.mp hnone] at hclustered
    exact Set.notMem_empty o (hclustered ▸ ⟨ho, hroot⟩)

theorem collects (hc : s.clusters[root]? = some c) : Collects (causedBy S root) c := by
  have hclustered := h.clusters root
  rwa [hc] at hclustered

theorem ncard_le {f : Observation → String} {bound : ℕ} (root : String)
    (hbound : ∀ c, s.clusters[root]? = some c → (f '' causedBy S root).ncard ≤ bound) :
    (f '' causedBy S root).ncard ≤ bound := by
  have hclustered := h.clusters root
  cases hc : s.clusters[root]? with
  | none =>
    rw [hc] at hclustered
    rw [show causedBy S root = ∅ from hclustered, Set.image_empty, Set.ncard_empty]
    exact Nat.zero_le _
  | some c => exact hbound c hc

theorem admissible (hwithin : Within s) (hvalid : ∀ o ∈ S, o.Valid) : Admissible s.limits S where
  valid := hvalid
  consistent o ho o' ho' hid := by
    have hknown := h.known ho
    rw [hid, h.known ho'] at hknown
    exact (Option.some.inj hknown).symm
  total := by
    rw [← (size_eq_ncard h.mem_bindings).1, ← h.total]
    exact hwithin.total
  members root := h.ncard_le root fun c hc => by
    rw [← (size_eq_ncard_set (h.collects hc).ids).1]
    exact hwithin.members root c hc
  endpoints root := h.ncard_le root fun c hc => by
    rw [← (size_eq_ncard_set (h.collects hc).endpoints).1]
    exact hwithin.endpoints root c hc
  clusters := by
    rw [← (size_eq_ncard h.mem_clusters).1]
    exact hwithin.clusters

end

/-- A part that misses an element is smaller. -/
theorem ncard_image_lt {f : Observation → String} {S T : Set Observation} (hT : T.Finite)
    (hsub : S ⊆ T) (ho : o ∈ T) (hnew : f o ∉ f '' S) : (f '' S).ncard < (f '' T).ncard :=
  Set.ncard_lt_ncard ⟨Set.image_mono hsub, fun hle => hnew (hle ⟨o, ho, rfl⟩)⟩ (hT.image f)

theorem causedBy_mono {S T : Set Observation} (h : S ⊆ T) (root : String) :
    causedBy S root ⊆ causedBy T root := fun _ ho => ⟨h ho.1, ho.2⟩

/-- **An observation is accepted** if it is admissible together with those before it, and possibly
with others that are still to come. -/
theorem accepts (h : Summary S s) (hT : Admissible s.limits T) (hfinite : T.Finite)
    (hsub : S ⊆ T) (ho : o ∈ T) : ∃ d s', Outcome s o (d, s') := by
  have hmembers := causedBy_mono hsub o.root
  have hfinite' : (causedBy T o.root).Finite := hfinite.subset fun _ h => h.1
  cases hknown : s.findingBindings[o.finding.findingId]? with
  | some b =>
    obtain ⟨o', ho', hid, rfl⟩ := (h.bindings _ _).mp hknown
    rw [hT.consistent o' (hsub ho') o ho hid] at hknown
    exact ⟨_, _, .duplicate hknown⟩
  | none =>
    have hnew := h.not_mem_of_new hknown
    have htotal : s.totalMembers < s.limits.maximumTotalMembers := by
      rw [h.total, (size_eq_ncard h.mem_bindings).1]
      exact (ncard_image_lt hfinite hsub ho hnew).trans_le hT.total
    cases hlookup : s.clusters[o.root]? with
    | none =>
      refine ⟨_, _, .opened hknown htotal hlookup ?_⟩
      rw [(size_eq_ncard h.mem_clusters).1]
      refine (ncard_image_lt hfinite hsub ho ?_).trans_le hT.clusters
      rw [← h.mem_clusters, ExtTreeMap.mem_iff_isSome_getElem?, hlookup]
      exact Bool.false_ne_true
    | some c =>
      have hc := h.collects hlookup
      refine ⟨_, _, .joined hknown htotal hlookup ?_ fun hendpoint => ?_⟩
      · rw [(size_eq_ncard_set hc.ids).1]
        refine (ncard_image_lt hfinite' hmembers ⟨ho, rfl⟩ fun hmem => hnew ?_).trans_le (hT.members o.root)
        obtain ⟨o', ho', hid⟩ := hmem
        exact ⟨o', ho'.1, hid⟩
      · rw [hc.endpoints] at hendpoint
        rw [(size_eq_ncard_set hc.endpoints).1]
        exact (ncard_image_lt hfinite' hmembers ⟨ho, rfl⟩ hendpoint).trans_le (hT.endpoints o.root)

end Summary

theorem Within.step (h : Within s) (hlimits : s.limits.validate = .ok ())
    (hok : Outcome s o (d, s')) : Within s' ∧ s'.limits = s.limits := by
  simp only [CorrelationLimits.validate, failIf_eq_ok, not_or, not_lt] at hlimits
  obtain ⟨-, -, hmembers, -, hendpoints, -⟩ := hlimits
  have hbound : ∀ c : RootCauseCluster, s.totalMembers < s.limits.maximumTotalMembers →
      c.findingIds.size ≤ s.limits.maximumMembersPerCluster →
      c.affectedEndpointSha256.size ≤ s.limits.maximumEndpointsPerCluster →
      (s.clusters.insert o.root c).size ≤ s.limits.maximumClusters →
      Within (s.bound o.finding.findingId o.binding c) := by
    intro c htotal hids haffected hclusters
    refine ⟨?_, fun root c' hc' => ?_, fun root c' hc' => ?_, hclusters⟩
    · show saturatingAdd s.totalMembers 1 ≤ s.limits.maximumTotalMembers
      unfold saturatingAdd
      omega
    · have hc' : (s.clusters.insert o.root c)[root]? = some c' := hc'
      rcases getElem?_insert_eq_some.mp hc' with ⟨-, rfl⟩ | ⟨-, hold⟩
      · exact hids
      · exact h.members root c' hold
    · have hc' : (s.clusters.insert o.root c)[root]? = some c' := hc'
      rcases getElem?_insert_eq_some.mp hc' with ⟨-, rfl⟩ | ⟨-, hold⟩
      · exact haffected
      · exact h.endpoints root c' hold
  cases hok with
  | duplicate known => exact ⟨⟨h.total, h.members, h.endpoints, h.clusters⟩, rfl⟩
  | joined new total lookup members endpoints =>
    refine ⟨hbound _ total ?_ ?_ ?_, rfl⟩
    · exact ExtTreeSet.size_insert_le.trans members
    · show (ExtTreeSet.insert _ _).size ≤ _
      rw [ExtTreeSet.size_insert]
      split
      · exact h.endpoints _ _ lookup
      · next hnew =>
        exact endpoints (by rwa [ExtTreeSet.mem_iff_contains])
    · have hmem : o.root ∈ s.clusters := by
        rw [ExtTreeMap.mem_iff_isSome_getElem?, lookup]
        rfl
      rw [ExtTreeMap.size_insert, if_pos (ExtTreeMap.mem_iff_contains.mp hmem)]
      exact h.clusters
  | opened new total lookup clusters =>
    have hone : ∀ id : String, ((∅ : BTreeSet String).insert id).size = 1 := fun id =>
      size_insert_new_set ExtTreeSet.not_mem_empty
    refine ⟨hbound _ total ((hone _).trans_le (by omega)) ((hone _).trans_le (by omega)) ?_, rfl⟩
    rw [size_insert_new _ lookup]
    omega

/-! ## Lists of observations -/

/-- The observations one after the other, until one is refused. -/
def correlateAll (s : RootCauseCorrelator) (observations : List Observation) :
    Except CorrelationError RootCauseCorrelator :=
  observations.foldlM (fun s o => (·.2) <$> s.correlate o.finding o.evidence) s

theorem correlateAll_cons_eq_ok {l : List Observation} :
    s.correlateAll (o :: l) = .ok s' ↔ ∃ d t, (o.Valid ∧ Outcome s o (d, t)) ∧ t.correlateAll l = .ok s' := by
  have hmap : ∀ t, (·.2) <$> s.correlate o.finding o.evidence = .ok t ↔
      ∃ d, s.correlate o.finding o.evidence = .ok (d, t) := by
    intro t
    cases s.correlate o.finding o.evidence with
    | error e => exact ⟨fun h => (nomatch h), fun ⟨_, h⟩ => (nomatch h)⟩
    | ok r =>
      constructor
      · rintro ⟨rfl⟩
        exact ⟨r.1, rfl⟩
      · rintro ⟨d, ⟨rfl⟩⟩
        rfl
  rw [correlateAll, List.foldlM_cons, bind_eq_ok]
  simp only [hmap, correlate_eq_ok]
  constructor
  · rintro ⟨t, ⟨d, hd⟩, hrest⟩
    exact ⟨d, t, hd, hrest⟩
  · rintro ⟨d, t, hd, hrest⟩
    exact ⟨t, ⟨d, hd⟩, hrest⟩

/-- The correlator has accepted `n` observations, which are those of `S`. -/
structure Accepted (limits : CorrelationLimits) (S : Set Observation) (n : ℕ) (s : RootCauseCorrelator) : Prop where
  limits : s.limits = limits
  summary : Summary S s
  within : Within s
  valid : ∀ o ∈ S, o.Valid
  known : s.findingBindings.size ≤ n
  duplicates : s.exactDuplicateObservations = min (n - s.findingBindings.size) u64Max

variable {limits : CorrelationLimits} {n : ℕ} {l l' : List Observation}

theorem accepted_new (h : new limits = .ok s) : Accepted limits ∅ 0 s := by
  simp only [new, do_eq_ok] at h
  obtain ⟨-, rfl⟩ := h
  exact {
    limits := rfl
    summary := ⟨by simp, fun root => by simp [Clustered, causedBy], rfl⟩
    within := ⟨Nat.zero_le _, by simp, by simp, Nat.zero_le _⟩
    valid := by simp
    known := Nat.le_refl _
    duplicates := rfl }

theorem Accepted.step (h : Accepted limits S n s) (hlimits : limits.validate = .ok ())
    (hcf : CollisionFree (insert o S)) (hvalid : o.Valid) (hok : Outcome s o (d, s')) :
    Accepted limits (insert o S) (n + 1) s' := by
  have hlimits' := hlimits
  simp only [CorrelationLimits.validate, failIf_eq_ok, not_or, not_lt] at hlimits'
  obtain ⟨hwithin, hsame⟩ := h.within.step (h.limits ▸ hlimits) hok
  refine ⟨hsame.trans h.limits, h.summary.step hcf (h.limits ▸ hlimits'.2.2.2.2.2.2.2.1) hok, hwithin, ?_, ?_, ?_⟩
  · rintro o' (rfl | ho')
    · exact hvalid
    · exact h.valid o' ho'
  -- a new finding adds one to both numbers, a duplicate to the observations only
  · have hknown := h.known
    cases hok with
    | duplicate known => exact hknown.trans (Nat.le_succ n)
    | joined new | opened new =>
      show (s.findingBindings.insert _ _).size ≤ n + 1
      rw [size_insert_new _ new]
      omega
  · have hknown := h.known
    have hduplicates := h.duplicates
    cases hok with
    | duplicate known =>
      show saturatingAdd s.exactDuplicateObservations 1 = min (n + 1 - s.findingBindings.size) u64Max
      rw [hduplicates, saturatingAdd_min, Nat.sub_add_comm hknown]
    | joined new | opened new =>
      show s.exactDuplicateObservations = min (n + 1 - (s.findingBindings.insert _ _).size) u64Max
      rw [size_insert_new _ new, Nat.add_sub_add_right, hduplicates]

def observed (l : List Observation) : Set Observation := {o | o ∈ l}

/-- **A run** of accepted observations. -/
theorem Accepted.run (h : Accepted limits S n s) (hlimits : limits.validate = .ok ())
    (hcf : CollisionFree (S ∪ observed l)) (hok : s.correlateAll l = .ok s') :
    Accepted limits (S ∪ observed l) (n + l.length) s' := by
  induction l generalizing S n s with
  | nil =>
    obtain rfl := pure_eq_ok.mp hok
    have hnil : observed [] = ∅ := by simp [observed]
    rw [hnil, Set.union_empty]
    exact h
  | cons o l ih =>
    obtain ⟨d, t, ⟨hvalid, houtcome⟩, hrest⟩ := correlateAll_cons_eq_ok.mp hok
    have hcons : S ∪ observed (o :: l) = insert o S ∪ observed l := by
      ext o'
      simp [observed, or_assoc, or_left_comm]
    rw [hcons] at hcf ⊢
    rw [List.length_cons, ← Nat.add_assoc, Nat.add_right_comm]
    exact ih (h.step hlimits (hcf.mono Set.subset_union_left) hvalid houtcome) hcf hrest

theorem Accepted.accepts (h : Accepted limits S n s) (hlimits : limits.validate = .ok ())
    (hcf : CollisionFree T) (hT : Admissible limits T) (hfinite : T.Finite) (hS : S ⊆ T)
    (hl : observed l ⊆ T) : ∃ s', s.correlateAll l = .ok s' := by
  induction l generalizing S n s with
  | nil => exact ⟨s, rfl⟩
  | cons o l ih =>
    have ho : o ∈ T := hl List.mem_cons_self
    obtain ⟨d, t, houtcome⟩ := h.summary.accepts (h.limits ▸ hT) hfinite hS ho
    have hS' : insert o S ⊆ T := Set.insert_subset ho hS
    obtain ⟨s', hrest⟩ := ih (h.step hlimits (hcf.mono hS') (hT.valid o ho) houtcome) hS'
      fun o' ho' => hl (List.mem_cons_of_mem o ho')
    exact ⟨s', correlateAll_cons_eq_ok.mpr ⟨d, t, ⟨hT.valid o ho, houtcome⟩, hrest⟩⟩

theorem Accepted.unique (h : Accepted limits S n s) (h' : Accepted limits S n s') : s = s' := by
  obtain ⟨hbindings, hclusters, htotal⟩ := h.summary.unique h'.summary
  have hlimits := h.limits.trans h'.limits.symm
  have hduplicates := h.duplicates
  rw [hbindings, ← h'.duplicates] at hduplicates
  cases s
  cases s'
  simp_all

/-- The clusters are a partition of the findings of the observations, and each has the smallest
title, the highest severity and the lowest confidence of its findings. -/
structure LossFree (l : List Observation) (s : RootCauseCorrelator) : Prop where
  covered : ∀ o ∈ l, ∃ c ∈ s.exportClusters, o.finding.findingId ∈ c.findingIds
  observed : ∀ c ∈ s.exportClusters, ∀ id ∈ c.findingIds, ∃ o ∈ l, o.finding.findingId = id
  nonempty : ∀ c ∈ s.exportClusters, ∃ id, id ∈ c.findingIds
  disjoint : ∀ c ∈ s.exportClusters, ∀ c' ∈ s.exportClusters, ∀ id ∈ c.findingIds, id ∈ c'.findingIds → c = c'
  total : s.totalMembers = (l.map (·.finding.findingId)).toFinset.card
  title : ∀ c ∈ s.exportClusters, IsLeast {t | ∃ o ∈ l, o.finding.findingId ∈ c.findingIds ∧
    o.finding.title = t} c.title
  severity : ∀ c ∈ s.exportClusters,
    IsGreatest {v | ∃ o ∈ l, o.finding.findingId ∈ c.findingIds ∧ o.finding.severity = v} c.highestSeverity
  confidence : ∀ c ∈ s.exportClusters,
    IsLeast {v | ∃ o ∈ l, o.finding.findingId ∈ c.findingIds ∧ o.finding.confidence = v} c.minimumConfidence

theorem mem_exportClusters : c ∈ s.exportClusters ↔ ∃ root : String, s.clusters[root]? = some c :=
  mem_values

theorem Summary.mem_ids (h : Summary S s) (hc : s.clusters[root]? = some c)
    (ho : o ∈ S) : o.finding.findingId ∈ c.findingIds ↔ o ∈ causedBy S root := by
  rw [(h.collects hc).ids]
  constructor
  · rintro ⟨o', ⟨ho', hroot⟩, hid⟩
    dsimp only at hid
    have hknown := h.known ho
    rw [← hid, h.known ho'] at hknown
    have hsame : o'.root = o.root := congrArg FindingBinding.rootCauseId (Option.some.inj hknown)
    exact ⟨ho, hsame ▸ hroot⟩
  · intro hmem
    exact ⟨o, hmem, rfl⟩

theorem Accepted.lossFree (h : Accepted limits (observed l) n s) : LossFree l s := by
  have hsummary := h.summary
  have himage : ∀ {α : Type} (f : Observation → α) {root : String} {c : RootCauseCluster},
      s.clusters[root]? = some c →
      {v | ∃ o ∈ l, o.finding.findingId ∈ c.findingIds ∧ f o = v} = f '' causedBy (observed l) root := by
    intro α f root c hc
    ext v
    constructor
    · rintro ⟨o, ho, hid, rfl⟩
      exact ⟨o, (hsummary.mem_ids hc ho).mp hid, rfl⟩
    · rintro ⟨o, ho, rfl⟩
      exact ⟨o, ho.1, (hsummary.mem_ids hc ho.1).mpr ho, rfl⟩
  exact {
    covered := fun o ho => by
      obtain ⟨c, hc⟩ := Option.isSome_iff_exists.mp
        (ExtTreeMap.mem_iff_isSome_getElem?.mp ((hsummary.mem_clusters o.root).mpr ⟨o, ho, rfl⟩))
      exact ⟨c, mem_exportClusters.mpr ⟨_, hc⟩, (hsummary.mem_ids hc ho).mpr ⟨ho, rfl⟩⟩
    observed := fun c hc id hid => by
      obtain ⟨root, hc⟩ := mem_exportClusters.mp hc
      obtain ⟨o, ho, rfl⟩ := ((hsummary.collects hc).ids id).mp hid
      exact ⟨o, ho.1, rfl⟩
    nonempty := fun c hc => by
      obtain ⟨root, hc⟩ := mem_exportClusters.mp hc
      obtain ⟨o, ho⟩ := (hsummary.collects hc).nonempty
      exact ⟨_, ((hsummary.collects hc).ids _).mpr ⟨o, ho, rfl⟩⟩
    disjoint := fun c hc c' hc' id hid hid' => by
      obtain ⟨root, hc⟩ := mem_exportClusters.mp hc
      obtain ⟨root', hc'⟩ := mem_exportClusters.mp hc'
      obtain ⟨o, ho, rfl⟩ := ((hsummary.collects hc).ids id).mp hid
      have hroot := ((hsummary.mem_ids hc' ho.1).mp hid').2
      rw [← hroot, ho.2, hc] at hc'
      exact Option.some.inj hc'
    total := by
      have himage : (fun o : Observation => o.finding.findingId) '' observed l =
          ↑(l.map (·.finding.findingId)).toFinset := by
        ext id
        simp [observed]
      rw [hsummary.total, (size_eq_ncard hsummary.mem_bindings).1, himage, Set.ncard_coe_finset]
    title := fun c hc => by
      obtain ⟨root, hc⟩ := mem_exportClusters.mp hc
      rw [himage (·.finding.title) hc]
      exact (hsummary.collects hc).title
    severity := fun c hc => by
      obtain ⟨root, hc⟩ := mem_exportClusters.mp hc
      rw [himage (·.finding.severity) hc]
      exact (hsummary.collects hc).severity
    confidence := fun c hc => by
      obtain ⟨root, hc⟩ := mem_exportClusters.mp hc
      rw [himage (·.finding.confidence) hc]
      exact (hsummary.collects hc).confidence }

/-- A list of observations that a fresh correlator accepts is accepted in every order, with the same
clusters and the same receipt, and nothing is lost. -/
theorem correlation_order_free {s₀ : RootCauseCorrelator} (hnew : new limits = .ok s₀)
    (hcf : CollisionFree (observed l)) (hok : s₀.correlateAll l = .ok s) :
    LossFree l s ∧ ∀ l', l.Perm l' → ∃ s', s₀.correlateAll l' = .ok s' ∧
      s'.exportClusters = s.exportClusters ∧ s'.receipt = s.receipt := by
  have hlimits : limits.validate = .ok () := by
    simp only [new, do_eq_ok] at hnew
    exact hnew.1
  have hfresh := accepted_new hnew
  have haccepted := hfresh.run hlimits (by rwa [Set.empty_union]) hok
  rw [Set.empty_union] at haccepted
  refine ⟨haccepted.lossFree, fun l' hperm => ?_⟩
  have hsame : observed l' = observed l := by
    ext o
    exact hperm.mem_iff.symm
  have hadmissible := haccepted.summary.admissible haccepted.within haccepted.valid
  rw [haccepted.limits] at hadmissible
  obtain ⟨s', hok'⟩ := hfresh.accepts hlimits hcf hadmissible l.finite_toSet (Set.empty_subset _) hsame.subset
  have haccepted' := hfresh.run hlimits (by rwa [Set.empty_union, hsame]) hok'
  rw [Set.empty_union, hsame, ← hperm.length_eq] at haccepted'
  refine ⟨s', hok', ?_⟩
  rw [haccepted'.unique haccepted]
  exact ⟨rfl, rfl⟩

def exampleObservation : Observation where
  finding := {
    findingId := digestOf '1'
    ruleId := "rule"
    title := "a"
    severity := .low
    confidence := .high
    origin := "o"
    endpointSha256 := digestOf '3'
    evidenceSha256 := digestOf '4'
    summary := "s"
    metadata := ∅ }
  evidence := {
    policySnapshotSha256 := digestOf '5'
    normalizationVersion := "1"
    componentSha256 := digestOf '6'
    normalizedEvidenceSha256 := digestOf '7'
    responseShapeSha256 := digestOf '8' }

/-- Another finding of the same root cause. -/
def relatedObservation : Observation :=
  { exampleObservation with finding := { exampleObservation.finding with findingId := digestOf '2' } }

def exampleObservations : List Observation := [exampleObservation, relatedObservation, exampleObservation]

def exampleCorrelator : RootCauseCorrelator := unwrap (new ⟨1, 2, 1, 2⟩) (by decide +kernel)

theorem collisionFree_exampleObservations : CollisionFree (observed exampleObservations) := by
  have hmem : ∀ o ∈ observed exampleObservations, o = exampleObservation ∨ o = relatedObservation := by
    intro o ho
    have hlist : o ∈ exampleObservations := ho
    simp only [exampleObservations, List.mem_cons, List.not_mem_nil, or_false] at hlist
    tauto
  have hne : hashJson exampleObservation.findingMaterial ≠ hashJson relatedObservation.findingMaterial := by
    decide +kernel
  refine ⟨fun o ho o' ho' _ => ?_, fun o ho o' ho' hhash => ?_⟩
  · rcases hmem o ho with rfl | rfl <;> rcases hmem o' ho' with rfl | rfl <;> rfl
  · rcases hmem o ho with rfl | rfl <;> rcases hmem o' ho' with rfl | rfl
    · rfl
    · exact absurd hhash hne
    · exact absurd hhash.symm hne
    · rfl

/-- Two findings of one cluster, the first of them twice. -/
theorem correlation_order_free_example : ∃ s, exampleCorrelator.correlateAll exampleObservations = .ok s ∧
    s.clusters.size = 1 ∧ s.totalMembers = 2 ∧ s.exactDuplicateObservations = 1 ∧ LossFree exampleObservations s ∧
    ∀ l', exampleObservations.Perm l' → ∃ s', exampleCorrelator.correlateAll l' = .ok s' ∧
      s'.exportClusters = s.exportClusters ∧ s'.receipt = s.receipt := by
  have hcalls : (exampleCorrelator.correlateAll exampleObservations).map (fun s =>
      (s.clusters.size, s.totalMembers, s.exactDuplicateObservations)) = .ok (1, 2, 1) := by decide +kernel
  cases hok : exampleCorrelator.correlateAll exampleObservations with
  | error e =>
    rw [hok] at hcalls
    cases hcalls
  | ok s =>
    rw [hok] at hcalls
    obtain ⟨hclusters, hcounts⟩ := Prod.mk.inj (Except.ok.inj hcalls)
    obtain ⟨hmembers, hduplicates⟩ := Prod.mk.inj hcounts
    obtain ⟨hloss, horder⟩ := correlation_order_free (eq_ok_unwrap _ _) collisionFree_exampleObservations hok
    exact ⟨s, rfl, hclusters, hmembers, hduplicates, hloss, horder⟩
end RootCauseCorrelator

end BoundSeal.Analyzers
