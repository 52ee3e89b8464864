import BoundSeal.Analyzers.Scheduler

/-!
# The scheduler over whole runs

A method takes an item out of the queue or out of the table of leases and puts
its pair somewhere else a few statements later; between the two the item is in
the method's hands. `Inv held owed s` says so: `held` are the pairs in hand, and
`owed` the items in hand whose reservations are still outstanding. Between calls
both are empty.
-/

namespace BoundSeal.Analyzers

open Rust Lib
open Method (after wp wp_bind wp_check_bind wp_get wp_modify wp_mono)

namespace AdaptiveRuleScheduler

/-! ## The invariant -/

def leasesOn (s : AdaptiveRuleScheduler) (p : PairKey) : ℕ :=
  sumValues (fun state : LeaseState => here (state.item.pair = p)) s.inFlight

def occurrences (s : AdaptiveRuleScheduler) (p : PairKey) : ℕ :=
  here (p ∈ s.queued) + s.leasesOn p + here (p ∈ s.completedPairs) + here (p ∈ s.failedPairs) +
    here (p ∈ s.expiredPairs)

/-- The sum of an estimate over the queued and the leased items. -/
def reserved (s : AdaptiveRuleScheduler) (estimate : AuthorizedWorkItem → ℕ) : ℕ :=
  sumValues estimate s.queued + sumValues (fun state : LeaseState => estimate state.item) s.inFlight

/-- An item that passed the checks of `enqueue`, with the metrics of the rules known by then. -/
structure Accepted (metrics : BTreeMap String RuleMetrics) (item : AuthorizedWorkItem) : Prop where
  requests : item.estimatedRequests ≤ maxItemCost
  mutations : item.estimatedMutations ≤ maxItemCost
  rule : item.pair.ruleId ∈ metrics

/-- The invariant, with pairs and reservations in hand. -/
structure Inv (held : List PairKey) (owed : List AuthorizedWorkItem) (s : AdaptiveRuleScheduler) : Prop where
  limits : s.limits.maximumKnownPairs ≤ maxSchedulerPairs
  places : ∀ p, s.occurrences p + (held.map fun q => here (q = p)).sum = here (p ∈ s.knownPairs)
  requests : s.outstandingRequestReservations =
    s.reserved (·.estimatedRequests) + (owed.map (·.estimatedRequests)).sum
  mutations : s.outstandingMutationReservations =
    s.reserved (·.estimatedMutations) + (owed.map (·.estimatedMutations)).sum
  requestLimit : s.outstandingRequestReservations ≤ s.limits.maximumOutstandingRequestReservations
  mutationLimit : s.outstandingMutationReservations ≤ s.limits.maximumOutstandingMutationReservations
  keys : ∀ (p : PairKey) item, s.queued[p]? = some item → item.pair = p
  queuedItems : ∀ (p : PairKey) item, s.queued[p]? = some item → Accepted s.metrics item
  leasedItems : ∀ (id : String) state, s.inFlight[id]? = some state → Accepted s.metrics state.item
  owedItems : ∀ item ∈ owed, Accepted s.metrics item
  authorized : ∀ (id : String) state, s.inFlight[id]? = some state →
    state.expiresAtEpochSeconds ≤ state.item.authorizationExpiresAtEpochSeconds
  rules : ∀ rule : String, rule ∈ s.profiles → rule ∈ s.metrics
  size : s.queued.size + s.inFlight.size + owed.length ≤ s.knownPairs.size
  known : s.knownPairs.size ≤ s.limits.maximumKnownPairs
  sequence : s.nextLeaseSequence + s.queued.size ≤ 1 + s.knownPairs.size
  ids : ∀ (id : String) state, s.inFlight[id]? = some state →
    ∃ n digest, n < s.nextLeaseSequence ∧ id = leaseIdText "lease-" n digest

variable {s s' : AdaptiveRuleScheduler}

theorem inv_new {limits : SchedulerLimits} (h : new limits = .ok s) : Inv [] [] s := by
  simp only [new, SchedulerLimits.validate, do_eq_ok, not_or, not_lt] at h
  obtain ⟨⟨-, -, -, hpairs, -⟩, rfl⟩ := h
  exact {
    limits := hpairs
    places := fun p => rfl
    requests := rfl
    mutations := rfl
    requestLimit := Nat.zero_le _
    mutationLimit := Nat.zero_le _
    keys := by simp
    queuedItems := by simp
    leasedItems := by simp
    owedItems := by simp
    authorized := by simp
    rules := by simp
    size := Nat.le_refl _
    known := Nat.zero_le _
    sequence := Nat.le_refl _
    ids := by simp }

section Moves

variable {s : AdaptiveRuleScheduler} {held : List PairKey} {owed : List AuthorizedWorkItem}

variable {p : PairKey}

/-- A pair in hand is nowhere else. -/
theorem Inv.occurrences_held (h : Inv (p :: held) owed s) : s.occurrences p = 0 := by
  have hplaces := h.places p
  rw [List.map_cons, List.sum_cons, here_of rfl] at hplaces
  have := here_le_one (p ∈ s.knownPairs)
  omega

variable {item : AuthorizedWorkItem}

theorem owed_cons {outstanding before rest : ℕ} {estimate : AuthorizedWorkItem → ℕ}
    (h : outstanding = before + (owed.map estimate).sum) (hsum : before = rest + estimate item) :
    outstanding = rest + ((item :: owed).map estimate).sum := by
  rw [h, hsum, List.map_cons, List.sum_cons, Nat.add_assoc]

theorem Inv.takeQueued (h : Inv held owed s) {pair : PairKey}
    (hitem : s.queued[pair]? = some item) : Inv (item.pair :: held) (item :: owed) (eraseQueued pair s) := by
  have hsum : ∀ estimate : AuthorizedWorkItem → ℕ,
      s.reserved estimate = (eraseQueued pair s).reserved estimate + estimate item := by
    intro estimate
    have herase := sumValues_erase estimate hitem
    simp only [reserved, eraseQueued]
    omega
  have hsize := size_erase_of_getElem? hitem
  have hsub : ∀ {p : PairKey} {i : AuthorizedWorkItem}, (s.queued.erase pair)[p]? = some i → s.queued[p]? = some i :=
    fun hp => (getElem?_erase_eq_some.mp hp).2
  refine { h with
    places := fun p => ?_
    requests := owed_cons h.requests (hsum _)
    mutations := owed_cons h.mutations (hsum _)
    keys := fun p i hp => h.keys p i (hsub hp)
    queuedItems := fun p i hp => h.queuedItems p i (hsub hp)
    owedItems := List.forall_mem_cons.mpr ⟨h.queuedItems pair item hitem, h.owedItems⟩
    size := ?_
    sequence := ?_ }
  · have hplaces := h.places p
    have hhere := here_mem_erase hitem p
    rw [List.map_cons, List.sum_cons, h.keys pair item hitem]
    unfold occurrences leasesOn at hplaces ⊢
    unfold eraseQueued
    dsimp only
    omega
  · have := h.size
    show (s.queued.erase pair).size + s.inFlight.size + (owed.length + 1) ≤ s.knownPairs.size
    omega
  · have := h.sequence
    show s.nextLeaseSequence + (s.queued.erase pair).size ≤ 1 + s.knownPairs.size
    omega

theorem Inv.takeLease (h : Inv held owed s) {leaseId : String} {state : LeaseState}
    (hstate : s.inFlight[leaseId]? = some state) :
    Inv (state.item.pair :: held) (state.item :: owed) (eraseLease leaseId s) := by
  have hsum : ∀ estimate : AuthorizedWorkItem → ℕ,
      s.reserved estimate = (eraseLease leaseId s).reserved estimate + estimate state.item := by
    intro estimate
    have herase := sumValues_erase (fun state : LeaseState => estimate state.item) hstate
    simp only [reserved, eraseLease]
    omega
  have hsize := size_erase_of_getElem? hstate
  have hsub : ∀ {id : String} {st : LeaseState}, (s.inFlight.erase leaseId)[id]? = some st →
      s.inFlight[id]? = some st :=
    fun hid => (getElem?_erase_eq_some.mp hid).2
  refine { h with
    places := fun p => ?_
    requests := owed_cons h.requests (hsum _)
    mutations := owed_cons h.mutations (hsum _)
    leasedItems := fun id st hid => h.leasedItems id st (hsub hid)
    owedItems := List.forall_mem_cons.mpr ⟨h.leasedItems leaseId state hstate, h.owedItems⟩
    authorized := fun id st hid => h.authorized id st (hsub hid)
    size := ?_
    ids := fun id st hid => h.ids id st (hsub hid) }
  · have hplaces := h.places p
    have herase := sumValues_erase (fun state : LeaseState => here (state.item.pair = p)) hstate
    rw [List.map_cons, List.sum_cons]
    unfold occurrences leasesOn at hplaces ⊢
    unfold eraseLease
    dsimp only
    omega
  · have := h.size
    show s.queued.size + (s.inFlight.erase leaseId).size + (owed.length + 1) ≤ s.knownPairs.size
    omega

theorem Inv.release (h : Inv held (item :: owed) s) :
    Inv held owed (releaseReservations item s) := by
  have hrequests := h.requests
  have hmutations := h.mutations
  rw [List.map_cons, List.sum_cons] at hrequests hmutations
  refine { h with
    requests := ?_
    mutations := ?_
    requestLimit := le_trans (Nat.sub_le _ _) h.requestLimit
    mutationLimit := le_trans (Nat.sub_le _ _) h.mutationLimit
    owedItems := fun i hi => h.owedItems i (List.mem_cons_of_mem _ hi)
    size := ?_ }
  · show s.outstandingRequestReservations - item.estimatedRequests = s.reserved _ + _
    omega
  · show s.outstandingMutationReservations - item.estimatedMutations = s.reserved _ + _
    omega
  · have := h.size
    rw [List.length_cons] at this
    show s.queued.size + s.inFlight.size + owed.length ≤ s.knownPairs.size
    omega

section

variable (h : Inv (p :: held) owed s)

include h

theorem Inv.settle {completed expired : BTreeSet PairKey}
    {failed : BTreeMap PairKey WorkFailureReason}
    (hone : ∀ q, here (q ∈ completed) + here (q ∈ failed) + here (q ∈ expired) =
      here (q ∈ s.completedPairs) + here (q ∈ s.failedPairs) + here (q ∈ s.expiredPairs) + here (p = q)) :
    Inv held owed { s with completedPairs := completed, failedPairs := failed, expiredPairs := expired } := by
  refine { h with places := fun q => ?_ }
  have hplaces := h.places q
  have hq := hone q
  rw [List.map_cons, List.sum_cons] at hplaces
  unfold occurrences leasesOn at hplaces ⊢
  dsimp only
  omega

theorem Inv.not_mem_final : p ∉ s.completedPairs ∧ p ∉ s.failedPairs ∧ p ∉ s.expiredPairs := by
  have hzero := h.occurrences_held
  unfold occurrences at hzero
  exact ⟨not_of_here_eq_zero (by omega), not_of_here_eq_zero (by omega), not_of_here_eq_zero (by omega)⟩

theorem Inv.insertExpired : Inv held owed (insertExpired p s) :=
  h.settle fun q => by
    rw [here_mem_insert_new_set h.not_mem_final.2.2 q]
    omega

theorem Inv.insertCompleted : Inv held owed (insertCompleted p s) :=
  h.settle fun q => by
    rw [here_mem_insert_new_set h.not_mem_final.1 q]
    omega

theorem Inv.insertFailed (reason : WorkFailureReason) : Inv held owed (insertFailed p reason s) :=
  h.settle fun q => by
    rw [here_mem_insert_new reason (Std.ExtTreeMap.getElem?_eq_none h.not_mem_final.2.1) q]
    omega

end

theorem Inv.fresh_id (h : Inv held owed s) (digest : String) :
    s.inFlight[leaseIdText "lease-" s.nextLeaseSequence digest]? = none := by
  cases hstate : s.inFlight[leaseIdText "lease-" s.nextLeaseSequence digest]? with
  | none => rfl
  | some state =>
    obtain ⟨n, digest', hlt, heq⟩ := h.ids _ _ hstate
    have hsequence : s.nextLeaseSequence ≤ u64Max := by
      have hlimits : s.limits.maximumKnownPairs ≤ 10000000 := h.limits
      have := h.sequence
      have := h.known
      unfold u64Max
      omega
    have := leaseIdText_injective hsequence (by omega) heq
    omega

theorem Inv.insertLease (h : Inv (item.pair :: held) (item :: owed) s)
    (hslack : s.nextLeaseSequence + s.queued.size < 1 + s.knownPairs.size) {score : RuleScore}
    {expires : ℤ} (hexpires : expires ≤ item.authorizationExpiresAtEpochSeconds) (digest : String) :
    Inv held owed (AdaptiveRuleScheduler.insertLease (leaseIdText "lease-" s.nextLeaseSequence digest)
      ⟨item, score, expires⟩ s) := by
  have hfresh := h.fresh_id digest
  generalize hid : leaseIdText "lease-" s.nextLeaseSequence digest = leaseId at hfresh ⊢
  have hsequence : saturatingAdd s.nextLeaseSequence 1 = s.nextLeaseSequence + 1 := by
    have hlimits : s.limits.maximumKnownPairs ≤ 10000000 := h.limits
    have := h.known
    exact saturatingAdd_eq_add (by unfold u64Max; omega)
  have hsum : ∀ estimate : AuthorizedWorkItem → ℕ,
      (AdaptiveRuleScheduler.insertLease leaseId ⟨item, score, expires⟩ s).reserved estimate =
        s.reserved estimate + estimate item := by
    intro estimate
    have hinsert := sumValues_insert_new (fun state : LeaseState => estimate state.item) ⟨item, score, expires⟩ hfresh
    simp only [reserved, AdaptiveRuleScheduler.insertLease, hinsert]
    omega
  have hrequests := h.requests
  have hmutations := h.mutations
  rw [List.map_cons, List.sum_cons] at hrequests hmutations
  refine { h with
    places := fun p => ?_
    requests := ?_
    mutations := ?_
    leasedItems := fun id st hst => ?_
    owedItems := fun i hi => h.owedItems i (List.mem_cons_of_mem _ hi)
    authorized := fun id st hst => ?_
    size := ?_
    sequence := ?_
    ids := fun id st hst => ?_ }
  · have hplaces := h.places p
    have hinsert := sumValues_insert_new (fun state : LeaseState => here (state.item.pair = p))
      ⟨item, score, expires⟩ hfresh
    rw [List.map_cons, List.sum_cons] at hplaces
    unfold occurrences leasesOn at hplaces ⊢
    unfold AdaptiveRuleScheduler.insertLease
    dsimp only at hinsert ⊢
    omega
  · show s.outstandingRequestReservations = _
    rw [hsum]
    omega
  · show s.outstandingMutationReservations = _
    rw [hsum]
    omega
  · rcases getElem?_insert_eq_some.mp hst with ⟨-, rfl⟩ | ⟨-, hold⟩
    · exact h.owedItems item List.mem_cons_self
    · exact h.leasedItems id st hold
  · rcases getElem?_insert_eq_some.mp hst with ⟨-, rfl⟩ | ⟨-, hold⟩
    · exact hexpires
    · exact h.authorized id st hold
  · have := h.size
    rw [List.length_cons] at this
    show s.queued.size + (s.inFlight.insert leaseId _).size + owed.length ≤ s.knownPairs.size
    rw [size_insert_new _ hfresh]
    omega
  · show saturatingAdd s.nextLeaseSequence 1 + s.queued.size ≤ 1 + s.knownPairs.size
    omega
  · show ∃ n digest, n < saturatingAdd s.nextLeaseSequence 1 ∧ _
    rcases getElem?_insert_eq_some.mp hst with ⟨rfl, -⟩ | ⟨-, hold⟩
    · exact ⟨s.nextLeaseSequence, digest, by omega, hid.symm⟩
    · obtain ⟨n, digest', hlt, heq⟩ := h.ids id st hold
      exact ⟨n, digest', by omega, heq⟩

end Moves

/-! ## Adding rules and items -/

theorem Inv.reserved_le (h : Inv [] [] s) {estimate : AuthorizedWorkItem → ℕ}
    (hestimate : ∀ item, Accepted s.metrics item → estimate item ≤ maxItemCost) :
    s.reserved estimate ≤ s.knownPairs.size * maxItemCost := by
  have hqueued : sumValues estimate s.queued ≤ s.queued.size * maxItemCost :=
    sumValues_le_mul fun p item hitem => hestimate item (h.queuedItems p item hitem)
  have hleased : sumValues (fun state : LeaseState => estimate state.item) s.inFlight ≤ s.inFlight.size * maxItemCost :=
    sumValues_le_mul fun id state hstate => hestimate state.item (h.leasedItems id state hstate)
  calc s.reserved estimate ≤ s.queued.size * maxItemCost + s.inFlight.size * maxItemCost :=
    Nat.add_le_add hqueued hleased
    _ = (s.queued.size + s.inFlight.size) * maxItemCost := (Nat.add_mul _ _ _).symm
    _ ≤ s.knownPairs.size * maxItemCost := Nat.mul_le_mul_right _ h.size

/-- What `enqueue` has checked when it writes. -/
structure Enqueueable (s : AdaptiveRuleScheduler) (item : AuthorizedWorkItem) : Prop where
  requests : item.estimatedRequests ≤ maxItemCost
  mutations : item.estimatedMutations ≤ maxItemCost
  rule : item.pair.ruleId ∈ s.profiles
  new : item.pair ∉ s.knownPairs
  known : s.knownPairs.size < s.limits.maximumKnownPairs
  requestLimit : saturatingAdd s.outstandingRequestReservations item.estimatedRequests ≤
    s.limits.maximumOutstandingRequestReservations
  mutationLimit : saturatingAdd s.outstandingMutationReservations item.estimatedMutations ≤
    s.limits.maximumOutstandingMutationReservations

theorem enqueueable {item : AuthorizedWorkItem} {now : ℤ} (hvalid : item.validate = .ok ())
    (hcheck : preflightItem item now s = .ok ()) : s.Enqueueable item := by
  simp only [AuthorizedWorkItem.validate, do_eq_ok, not_or, not_lt] at hvalid
  simp only [preflightItem, do_eq_ok, not_not, not_or, not_lt, not_le] at hcheck
  obtain ⟨-, -, -, hrequests, hmutations, -⟩ := hvalid
  obtain ⟨hrule, -, hnew, ⟨hknown, -⟩, hrequestLimit, hmutationLimit⟩ := hcheck
  exact ⟨hrequests, hmutations, hrule, hnew, hknown, hrequestLimit, hmutationLimit⟩

theorem Inv.insertItem (h : Inv [] [] s) {item : AuthorizedWorkItem} (hitem : s.Enqueueable item) :
    Inv [] [] (insertItem item s) := by
  have hplace : s.occurrences item.pair = 0 := by
    have := h.places item.pair
    rw [here_of_not hitem.new] at this
    omega
  have hqueued : s.queued[item.pair]? = none :=
    Std.ExtTreeMap.getElem?_eq_none (not_of_here_eq_zero (by unfold occurrences at hplace; omega))
  have hlimits : s.limits.maximumKnownPairs ≤ 10000000 := h.limits
  have hknown := hitem.known
  have haccepted : Accepted s.metrics item := ⟨hitem.requests, hitem.mutations, h.rules _ hitem.rule⟩
  -- neither counter saturates: ten million items of at most 10^12 fit a `u64`
  have hexact : ∀ {estimate : AuthorizedWorkItem → ℕ} {outstanding : ℕ},
      (∀ i, Accepted s.metrics i → estimate i ≤ maxItemCost) → outstanding = s.reserved estimate + 0 →
      saturatingAdd outstanding (estimate item) = outstanding + estimate item := by
    intro estimate outstanding hestimate hout
    have hle := h.reserved_le hestimate
    have hi : estimate item ≤ 1000000000000 := hestimate item haccepted
    have hcost : maxItemCost = 1000000000000 := rfl
    rw [hcost] at hle
    exact saturatingAdd_eq_add (by unfold u64Max; omega)
  have hrequests := hexact (fun i hi => hi.requests) h.requests
  have hmutations := hexact (fun i hi => hi.mutations) h.mutations
  have hsum : ∀ estimate : AuthorizedWorkItem → ℕ,
      (AdaptiveRuleScheduler.insertItem item s).reserved estimate = s.reserved estimate + estimate item := by
    intro estimate
    have hinsert := sumValues_insert_new estimate item hqueued
    simp only [reserved, AdaptiveRuleScheduler.insertItem, hinsert]
    omega
  have hsizes := size_insert_new item hqueued
  have hpairs := size_insert_new_set hitem.new
  refine { h with
    places := fun p => ?_
    requests := ?_
    mutations := ?_
    requestLimit := hitem.requestLimit
    mutationLimit := hitem.mutationLimit
    keys := fun p i hi => ?_
    queuedItems := fun p i hi => ?_
    size := ?_
    known := ?_
    sequence := ?_ }
  · have hplaces := h.places p
    have hhere := here_mem_insert_new item hqueued p
    have hset := here_mem_insert_new_set hitem.new p
    unfold occurrences leasesOn at hplaces ⊢
    unfold AdaptiveRuleScheduler.insertItem
    dsimp only
    omega
  · show saturatingAdd s.outstandingRequestReservations item.estimatedRequests = _
    rw [hsum, hrequests, h.requests]
    rfl
  · show saturatingAdd s.outstandingMutationReservations item.estimatedMutations = _
    rw [hsum, hmutations, h.mutations]
    rfl
  · rcases getElem?_insert_eq_some.mp hi with ⟨rfl, rfl⟩ | ⟨-, hold⟩
    · rfl
    · exact h.keys p i hold
  · rcases getElem?_insert_eq_some.mp hi with ⟨-, rfl⟩ | ⟨-, hold⟩
    · exact haccepted
    · exact h.queuedItems p i hold
  · have := h.size
    show (s.queued.insert item.pair item).size + s.inFlight.size + 0 ≤ (s.knownPairs.insert item.pair).size
    simp only [List.length_nil] at this
    omega
  · show (s.knownPairs.insert item.pair).size ≤ s.limits.maximumKnownPairs
    omega
  · have := h.sequence
    show s.nextLeaseSequence + (s.queued.insert item.pair item).size ≤ 1 + (s.knownPairs.insert item.pair).size
    omega

theorem Inv.setMetrics {held : List PairKey} {owed : List AuthorizedWorkItem} (h : Inv held owed s) (rule : String)
    (metrics : RuleMetrics) : Inv held owed { s with metrics := s.metrics.insert rule metrics } := by
  have hmore : ∀ item, Accepted s.metrics item → Accepted (s.metrics.insert rule metrics) item := fun item hitem =>
    ⟨hitem.requests, hitem.mutations, Std.ExtTreeMap.mem_insert.mpr (.inr hitem.rule)⟩
  exact { h with
    queuedItems := fun p item hitem => hmore item (h.queuedItems p item hitem)
    leasedItems := fun id state hstate => hmore _ (h.leasedItems id state hstate)
    owedItems := fun item hitem => hmore item (h.owedItems item hitem)
    rules := fun r hr => Std.ExtTreeMap.mem_insert.mpr (.inr (h.rules r hr)) }

theorem Inv.insertRule (h : Inv [] [] s) (profile : RuleProfile) : Inv [] [] (insertRule profile s) := by
  have hmetrics := h.setMetrics profile.ruleId {}
  refine { hmetrics with rules := fun rule hrule => ?_ }
  rcases Std.ExtTreeMap.mem_insert.mp hrule with hsame | hold
  · exact Std.ExtTreeMap.mem_insert.mpr (.inl hsame)
  · exact Std.ExtTreeMap.mem_insert.mpr (.inr (h.rules rule hold))

/-! ## The calls -/

/-- No pair is new, and nothing is queued that was not. -/
structure Shrinks (s s' : AdaptiveRuleScheduler) : Prop where
  known : s'.knownPairs = s.knownPairs
  queued : ∀ p ∈ s'.queued, p ∈ s.queued

theorem Shrinks.refl (s : AdaptiveRuleScheduler) : Shrinks s s := ⟨rfl, fun _ h => h⟩

theorem Shrinks.trans {t u : AdaptiveRuleScheduler} (h : Shrinks s t) (h' : Shrinks t u) : Shrinks s u :=
  ⟨h'.known.trans h.known, fun p hp => h.queued p (h'.queued p hp)⟩

theorem shrinks_eraseQueued (s : AdaptiveRuleScheduler) (pair : PairKey) : Shrinks s (eraseQueued pair s) :=
  ⟨rfl, fun _ h => Std.ExtTreeMap.mem_of_mem_erase h⟩

/-- The state a method leaves: nothing in hand. -/
structure Settled (s s' : AdaptiveRuleScheduler) : Prop where
  inv : Inv [] [] s'
  shrinks : Shrinks s s'

theorem Settled.refl (h : Inv [] [] s) : Settled s s := ⟨h, .refl s⟩

theorem settled_expirePair (h : Inv [] [] s) (pair : PairKey) : Settled s (expirePair s pair) := by
  unfold expirePair
  split
  · next item hitem =>
    have hpair := h.keys pair item hitem
    subst hpair
    exact ⟨(h.takeQueued hitem).release.insertExpired, ⟨rfl, fun _ hp => Std.ExtTreeMap.mem_of_mem_erase hp⟩⟩
  · exact .refl h

theorem settled_expireLease (h : Inv [] [] s) (leaseId : String) : Settled s (expireLease s leaseId) := by
  unfold expireLease
  split
  · next state hstate => exact ⟨(h.takeLease hstate).release.insertExpired, ⟨rfl, fun _ hp => hp⟩⟩
  · exact .refl h

/-- A loop of such steps. -/
theorem settled_foldl {α : Type} {f : AdaptiveRuleScheduler → α → AdaptiveRuleScheduler}
    (hf : ∀ s a, Inv [] [] s → Settled s (f s a)) (l : List α) (h : Inv [] [] s) : Settled s (l.foldl f s) := by
  induction l generalizing s with
  | nil => exact .refl h
  | cons a l ih =>
    have hstep := hf s a h
    have hrest := ih hstep.inv
    exact ⟨hrest.inv, hstep.shrinks.trans hrest.shrinks⟩

theorem settled_expireAuthorizations (h : Inv [] [] s) (now : ℤ) :
    Settled s (expireAuthorizations now s) := settled_foldl (fun _ pair hs => settled_expirePair hs pair) _ h

theorem settled_expireLeases (h : Inv [] [] s) (now : ℤ) :
    Settled s (expireLeases now s) := settled_foldl (fun _ leaseId hs => settled_expireLease hs leaseId) _ h

theorem wp_takeQueued (s : AdaptiveRuleScheduler) (pair : PairKey) :
    wp (takeQueued pair) (fun r s' => (∃ e, r = .error e ∧ s' = s) ∨
      ∃ item, r = .ok item ∧ s.queued[pair]? = some item ∧ s' = eraseQueued pair s) s := by
  refine wp_check_bind (fun e _ => .inl ⟨e, rfl, rfl⟩) fun item hitem => ?_
  exact .inr ⟨item, rfl, okOr_eq_ok.mp hitem, rfl⟩

theorem wp_takeLease (s : AdaptiveRuleScheduler) (leaseId : String) :
    wp (takeLease leaseId) (fun r s' => (∃ e, r = .error e ∧ s' = s) ∨
      ∃ state, r = .ok state ∧ s.inFlight[leaseId]? = some state ∧ s' = eraseLease leaseId s) s := by
  refine wp_check_bind (fun e _ => .inl ⟨e, rfl, rfl⟩) fun state hstate => ?_
  exact .inr ⟨state, rfl, okOr_eq_ok.mp hstate, rfl⟩

section

variable (h : Inv [] [] s)

include h

theorem wp_leaseNext (now : ℤ) :
    wp (leaseNext now) (fun r s' => Settled s s' ∧ ∀ lease, r = .ok lease → lease.pair ∈ s.queued) s := by
  refine wp_check_bind (fun e _ => ⟨.refl h, fun _ hr => nomatch hr⟩) fun _ _ => ?_
  rw [wp_bind, wp_modify, after, wp_bind, wp_modify, after]
  have hfirst := settled_expireAuthorizations h now
  have hsecond := settled_expireLeases hfirst.inv now
  have hsettled : Settled s (expireLeases now (expireAuthorizations now s)) :=
    ⟨hsecond.inv, hfirst.shrinks.trans hsecond.shrinks⟩
  generalize expireLeases now (expireAuthorizations now s) = t at hsettled
  have hshrinks := hsettled.shrinks
  refine wp_check_bind (fun e _ => ⟨hsettled, fun _ hr => nomatch hr⟩) fun _ _ => ?_
  refine wp_check_bind (fun e _ => ⟨hsettled, fun _ hr => nomatch hr⟩) fun ranked _ => ?_
  refine wp_check_bind (fun e _ => ⟨hsettled, fun _ hr => nomatch hr⟩) fun selected _ => ?_
  rw [wp_bind]
  refine wp_mono (wp_takeQueued t selected.pair) ?_
  rintro r t' (⟨e, rfl, rfl⟩ | ⟨item, rfl, hitem, rfl⟩)
  · exact ⟨hsettled, fun _ hr => nomatch hr⟩
  have hpair := hsettled.inv.keys _ _ hitem
  have hqueued : item.pair ∈ t.queued := by
    rw [hpair, Std.ExtTreeMap.mem_iff_isSome_getElem?, hitem]
    rfl
  have htaken := hsettled.inv.takeQueued hitem
  have herased := hshrinks.trans (shrinks_eraseQueued t selected.pair)
  rw [after, wp_bind, wp_get, after]
  split
  · -- the authorization has run out in the meantime
    exact ⟨⟨htaken.release.insertExpired, ⟨herased.known, herased.queued⟩⟩, fun _ hr => nomatch hr⟩
  · have hslack : (eraseQueued selected.pair t).nextLeaseSequence + (eraseQueued selected.pair t).queued.size <
        1 + (eraseQueued selected.pair t).knownPairs.size := by
      have hsequence := hsettled.inv.sequence
      have hsize := size_erase_of_getElem? hitem
      show t.nextLeaseSequence + (t.queued.erase selected.pair).size < 1 + t.knownPairs.size
      omega
    refine ⟨⟨htaken.insertLease hslack (min_le_left _ _) _, ⟨herased.known, herased.queued⟩⟩, ?_⟩
    intro lease hlease
    cases hlease
    exact hshrinks.queued _ hqueued

theorem wp_completeLease (leaseId : String) (observation : RuleObservation) (now : ℤ) :
    wp (completeLease leaseId observation now) (fun _ s' => Settled s s') s := by
  refine wp_check_bind (fun e _ => .refl h) fun _ _ => ?_
  refine wp_check_bind (fun e _ => .refl h) fun _ _ => ?_
  rw [wp_bind]
  refine wp_mono (wp_takeLease s leaseId) ?_
  rintro r s' (⟨e, rfl, rfl⟩ | ⟨state, rfl, hstate, rfl⟩)
  · exact .refl h
  have htaken := h.takeLease hstate
  rw [after]
  split
  · exact ⟨htaken.release.insertExpired, ⟨rfl, fun _ hp => hp⟩⟩
  · rw [wp_bind, wp_modify, after, wp_bind, applyObservation]
    -- the rule of an accepted item has metrics, so nothing fails between the two halves
    refine wp_check_bind (fun e he => ?_) fun metrics _ => ?_
    · have hrule := (h.leasedItems leaseId state hstate).rule
      rw [Std.ExtTreeMap.mem_iff_isSome_getElem?, Option.isSome_iff_exists] at hrule
      obtain ⟨metrics, hmetrics⟩ := hrule
      rw [show (releaseReservations state.item (eraseLease leaseId s)).metrics = s.metrics from rfl, hmetrics] at he
      cases he
    · exact ⟨(htaken.release.setMetrics _ _).insertCompleted, ⟨rfl, fun _ hp => hp⟩⟩

theorem wp_failLease (leaseId : String) (reason : WorkFailureReason) (now : ℤ) :
    wp (failLease leaseId reason now) (fun _ s' => Settled s s') s := by
  refine wp_check_bind (fun e _ => .refl h) fun _ _ => ?_
  rw [wp_bind]
  refine wp_mono (wp_takeLease s leaseId) ?_
  rintro r s' (⟨e, rfl, rfl⟩ | ⟨state, rfl, hstate, rfl⟩)
  · exact .refl h
  have htaken := h.takeLease hstate
  rw [after, wp_bind, wp_modify, after]
  split
  · exact ⟨htaken.release.insertExpired, ⟨rfl, fun _ hp => hp⟩⟩
  · exact ⟨htaken.release.insertFailed reason, ⟨rfl, fun _ hp => hp⟩⟩

theorem Inv.stop (reason : RunStopReason) :
    Inv [] [] { s with stopReason := some reason } := { h with }

end

/-- No known pair is queued again. -/
structure Onward (s s' : AdaptiveRuleScheduler) : Prop where
  known : ∀ p ∈ s.knownPairs, p ∈ s'.knownPairs
  queued : ∀ p ∈ s'.queued, p ∈ s.queued ∨ p ∉ s.knownPairs

theorem Shrinks.onward (h : Shrinks s s') : Onward s s' :=
  ⟨fun p hp => by rwa [h.known], fun p hp => .inl (h.queued p hp)⟩

/-- What every call keeps. -/
structure Kept (s : AdaptiveRuleScheduler) (r : Except SchedulerError SchedulerReply)
    (s' : AdaptiveRuleScheduler) : Prop where
  inv : Inv [] [] s'
  onward : Onward s s'
  leased : ∀ lease, r = .ok (.leased lease) → lease.pair ∈ s.queued

variable {r : Except SchedulerError SchedulerReply}

/-- Every call keeps the invariant and goes onward. -/
theorem Settled.kept (h : Settled s s')
    (hleased : ∀ lease, r = .ok (.leased lease) → lease.pair ∈ s.queued) : Kept s r s' :=
  ⟨h.inv, h.shrinks.onward, hleased⟩

theorem kept_of_settled {α : Type} {p : SchedulerMethod α} {reply : α → SchedulerReply}
    (hreply : ∀ a lease, reply a ≠ .leased lease) (h : wp p (fun _ s' => Settled s s') s) :
    wp (p >>= fun a => pure (reply a)) (Kept s) s := by
  rw [wp_bind]
  refine wp_mono h ?_
  rintro (e | a) s' hs'
  · exact hs'.kept fun _ hr => nomatch hr
  · exact hs'.kept fun lease hr => absurd (Except.ok.inj hr) (hreply a lease)

section

variable (h : Inv [] [] s)

include h

theorem wp_enqueue (item : AuthorizedWorkItem) (now : ℤ) :
    wp (enqueue item now) (fun _ s' => Inv [] [] s' ∧ Onward s s') s := by
  refine wp_check_bind (fun e _ => ⟨h, (Shrinks.refl s).onward⟩) fun _ _ => ?_
  refine wp_check_bind (fun e _ => ⟨h, (Shrinks.refl s).onward⟩) fun _ hvalid => ?_
  refine wp_check_bind (fun e _ => ⟨h, (Shrinks.refl s).onward⟩) fun _ hcheck => ?_
  have hitem := enqueueable hvalid hcheck
  refine ⟨h.insertItem hitem, fun p hp => Std.ExtTreeSet.mem_insert.mpr (.inr hp), fun p hp => ?_⟩
  rcases Std.ExtTreeMap.mem_insert.mp hp with hsame | hold
  · rw [← Std.LawfulEqOrd.eq_of_compare hsame]
    exact .inr hitem.new
  · exact .inl hold

theorem wp_registerRule (profile : RuleProfile) :
    wp (registerRule profile) (fun _ s' => Settled s s') s := by
  refine wp_check_bind (fun e _ => .refl h) fun _ _ => ?_
  refine wp_check_bind (fun e _ => .refl h) fun _ _ => ?_
  rw [wp_bind, wp_get, after]
  split
  · split
    · exact .refl h
    · exact .refl h
  · refine wp_check_bind (fun e _ => .refl h) fun _ _ => ?_
    exact ⟨h.insertRule profile, ⟨rfl, fun _ hp => hp⟩⟩

/-- Every call keeps the invariant, and no known pair comes back into the queue. -/
theorem kept (call : SchedulerCall) : wp call.method (Kept s) s := by
  cases call with
  | registerRule profile => exact kept_of_settled (fun _ _ hr => nomatch hr) (wp_registerRule h profile)
  | enqueue item now =>
    rw [SchedulerCall.method, wp_bind]
    refine wp_mono (wp_enqueue h item now) ?_
    rintro (e | _) s' ⟨hinv, honward⟩ <;> exact ⟨hinv, honward, fun _ hr => nomatch hr⟩
  | rankingSnapshot now =>
    refine kept_of_settled (fun _ _ hr => nomatch hr) ?_
    exact Settled.refl h
  | leaseNext now =>
    rw [SchedulerCall.method, wp_bind]
    refine wp_mono (wp_leaseNext h now) ?_
    rintro (e | lease) s' ⟨hsettled, hqueued⟩
    · exact hsettled.kept fun _ hr => nomatch hr
    · refine hsettled.kept fun lease' hr => ?_
      cases hr
      exact hqueued lease rfl
  | completeLease leaseId observation now =>
    exact kept_of_settled (fun _ _ hr => nomatch hr) (wp_completeLease h leaseId observation now)
  | failLease leaseId reason now =>
    exact kept_of_settled (fun _ _ hr => nomatch hr) (wp_failLease h leaseId reason now)
  | expireAuthorizations now => exact (settled_expireAuthorizations h now).kept fun _ hr => nomatch hr
  | expireLeases now => exact (settled_expireLeases h now).kept fun _ hr => nomatch hr
  | applyRunStop reason =>
    refine kept_of_settled (fun _ _ hr => nomatch hr) ?_
    refine wp_check_bind (fun e _ => .refl h) fun _ _ => ?_
    exact ⟨h.stop reason, ⟨rfl, fun _ hp => hp⟩⟩
  | metrics | receipt => exact (Settled.refl h).kept fun _ hr => nomatch hr

theorem kept_of_step {call : SchedulerCall} (hstep : step s call = some (r, s')) : Kept s r s' := by
  have hkept : Kept s (call.method s).1 (call.method s).2 := kept h call
  rwa [Option.some.inj hstep] at hkept

end

/-! ## Runs -/

variable {es : List (Event AdaptiveRuleScheduler SchedulerCall (Except SchedulerError SchedulerReply))}

theorem inv_of_run {limits : SchedulerLimits} {s₀ : AdaptiveRuleScheduler}
    (hnew : new limits = .ok s₀) (hrun : Run step s₀ es s) : Inv [] [] s :=
  hrun.invariant (fun _ s => Inv [] [] s) (inv_new hnew) fun _ _ _ _ _ _ h hstep => (kept_of_step h hstep).inv

theorem gone_of_run (h : Inv [] [] s)
    (hrun : Run step s es s') {p : PairKey} (hknown : p ∈ s.knownPairs) (hgone : p ∉ s.queued) :
    Inv [] [] s' ∧ p ∈ s'.knownPairs ∧ p ∉ s'.queued := by
  refine hrun.invariant (fun _ s => Inv [] [] s ∧ p ∈ s.knownPairs ∧ p ∉ s.queued) ⟨h, hknown, hgone⟩ ?_
  rintro es t call r u - ⟨hinv, hknown, hgone⟩ hstep
  have hkept := kept_of_step hinv hstep
  refine ⟨hkept.inv, hkept.onward.known p hknown, fun hqueued => ?_⟩
  rcases hkept.onward.queued p hqueued with hold | hnew
  · exact hgone hold
  · exact hnew hknown

/-- The accounts of a scheduler: each known pair is in one place and every other pair in none, the
reservations are those of the queued and the leased items and within the limits, and no lease
outlives the authorization of its item. -/
structure Accounts (s : AdaptiveRuleScheduler) : Prop where
  places : ∀ p, s.occurrences p = here (p ∈ s.knownPairs)
  requests : s.outstandingRequestReservations = s.reserved (·.estimatedRequests)
  mutations : s.outstandingMutationReservations = s.reserved (·.estimatedMutations)
  requestLimit : s.outstandingRequestReservations ≤ s.limits.maximumOutstandingRequestReservations
  mutationLimit : s.outstandingMutationReservations ≤ s.limits.maximumOutstandingMutationReservations
  authorized : ∀ (id : String) state, s.inFlight[id]? = some state →
    state.expiresAtEpochSeconds ≤ state.item.authorizationExpiresAtEpochSeconds

def leaseOf : Except SchedulerError SchedulerReply → Option ScheduleLease
  | .ok (.leased lease) => some lease
  | _ => none

/-- **The scheduler's accounts** hold in every reachable state, and a pair that has left the
queue is never leased again. -/
theorem scheduler_accounts {limits : SchedulerLimits} {s₀ s : AdaptiveRuleScheduler}
    {es : List (Event AdaptiveRuleScheduler SchedulerCall (Except SchedulerError SchedulerReply))}
    (hnew : new limits = .ok s₀) (hrun : Run step s₀ es s) :
    Accounts s ∧ ∀ fs s', Run step s fs s' → ∀ p ∈ s.knownPairs, p ∉ s.queued →
      ∀ f ∈ fs, ∀ lease, leaseOf f.output = some lease → lease.pair ≠ p := by
  have h := inv_of_run hnew hrun
  refine ⟨⟨fun p => h.places p, h.requests, h.mutations, h.requestLimit, h.mutationLimit, h.authorized⟩, ?_⟩
  rintro fs s' hrest p hknown hgone f hf lease hlease rfl
  obtain ⟨k, hk⟩ := List.getElem?_of_mem hf
  obtain ⟨hinv, -, hnot⟩ := gone_of_run h (hrest.before hk) hknown hgone
  have hkept := kept_of_step hinv (hrest.step_of_getElem? hk)
  refine hnot (hkept.leased lease ?_)
  unfold leaseOf at hlease
  split at hlease
  · next lease' heq =>
    cases hlease
    exact heq
  · cases hlease

def exampleScheduler : AdaptiveRuleScheduler :=
  unwrap (new ⟨4, 16, 8, 2, 100, 100, 60⟩) (by decide +kernel)

def exampleItem : AuthorizedWorkItem where
  pair := ⟨digestOf '1', "rule"⟩
  planSha256 := digestOf 'a'
  capabilitySha256 := digestOf 'b'
  authorizationSha256 := digestOf 'c'
  authorizationExpiresAtEpochSeconds := 1000
  estimatedRequests := 3
  estimatedMutations := 1
  estimatedCostUnits := 5
  itemPriorityWeight := 1

/-- A rule, an item, and a lease on it: its reservation is kept, and it is never leased again. -/
theorem scheduler_accounts_example : ∃ es s, Run step exampleScheduler es s ∧
    s.inFlight.size = 1 ∧ s.outstandingRequestReservations = 3 ∧ Accounts s ∧
    ∀ fs s', Run step s fs s' → ∀ f ∈ fs, ∀ lease, leaseOf f.output = some lease → lease.pair ≠ exampleItem.pair := by
  have hcalls : (runCalls step exampleScheduler
      [.registerRule ⟨"rule", 1, 1, 1, 1⟩, .enqueue exampleItem 10, .leaseNext 20]).map
        (fun run => ((run.2.inFlight.size, run.2.outstandingRequestReservations),
          decide (exampleItem.pair ∈ run.2.knownPairs), decide (exampleItem.pair ∉ run.2.queued))) =
            some ((1, 3), true, true) := by
    decide +kernel
  obtain ⟨es, s, hrun, hobserved⟩ := exists_run_of_map_runCalls hcalls
  simp only [Prod.mk.injEq, decide_eq_true_eq] at hobserved
  obtain ⟨⟨hleases, hrequests⟩, hknown, hgone⟩ := hobserved
  obtain ⟨haccounts, honce⟩ := scheduler_accounts (eq_ok_unwrap _ _) hrun
  exact ⟨es, s, hrun, hleases, hrequests, haccounts, fun fs s' hrest => honce fs s' hrest _ hknown hgone⟩

/-! ## Scores -/

def scoreNumerator (profile : RuleProfile) (item : AuthorizedWorkItem) (score : RuleScore) : ℕ :=
  [profile.severityWeight, profile.confidenceWeight, profile.basePriorityWeight, item.itemPriorityWeight,
    score.explorationNumerator, schedulerScoreScale].foldl saturatingMulU128 score.usefulRewardUnits

/-- What a score divides by, before it is made at least one. -/
def scoreDenominator (score : RuleScore) : ℕ :=
  [max score.accountedCostUnits 1, score.explorationDenominator].foldl saturatingMulU128 score.penaltyUnits

theorem fixedPointScore_le {profile : RuleProfile} {metrics metrics' : RuleMetrics}
    {item item' : AuthorizedWorkItem} (hchecks : metrics.completedChecks = metrics'.completedChecks)
    (hpriority : item.itemPriorityWeight = item'.itemPriorityWeight)
    (hreward : (scoreOf profile metrics item).usefulRewardUnits ≤ (scoreOf profile metrics' item').usefulRewardUnits)
    (hpenalty : (scoreOf profile metrics' item').penaltyUnits ≤ (scoreOf profile metrics item).penaltyUnits)
    (hcost : (scoreOf profile metrics' item').accountedCostUnits ≤ (scoreOf profile metrics item).accountedCostUnits) :
    (scoreOf profile metrics item).fixedPointScore ≤ (scoreOf profile metrics' item').fixedPointScore := by
  have hmul : ∀ {a a' b b' : ℕ}, a ≤ a' → b ≤ b' → saturatingMulU128 a b ≤ saturatingMulU128 a' b' := fun ha hb =>
    min_le_min_right _ (Nat.mul_le_mul ha hb)
  have hnumerator : scoreNumerator profile item (scoreOf profile metrics item) ≤
      scoreNumerator profile item' (scoreOf profile metrics' item') := by
    have hexploration : (scoreOf profile metrics item).explorationNumerator =
        (scoreOf profile metrics' item').explorationNumerator := congrArg (saturatingAdd · 4) hchecks
    rw [scoreNumerator, scoreNumerator, hpriority, hexploration]
    exact List.foldl_monotone (fun b _ _ h => hmul h (le_refl b)) _ hreward
  have hdenominator : scoreDenominator (scoreOf profile metrics' item') ≤
      scoreDenominator (scoreOf profile metrics item) :=
    hmul (hmul hpenalty (max_le_max_right 1 hcost)) (congrArg (saturatingAdd · 1) hchecks).ge
  exact min_le_min_right _ (Nat.div_le_div hnumerator (max_le_max_right 1 hdenominator) (by omega))

/-- **Scores are monotone**, whatever the counters: a validated finding never lowers a score, and
a rejected or a duplicate finding, a higher cost so far and a higher estimate never raise it. The
division is not by zero. -/
theorem score_monotone (profile : RuleProfile) (metrics : RuleMetrics) (item : AuthorizedWorkItem) (n : ℕ) :
    let score := fun metrics item => (scoreOf profile metrics item).fixedPointScore
    (metrics.validatedFindings ≤ n → score metrics item ≤ score { metrics with validatedFindings := n } item) ∧
    (metrics.rejectedFindings ≤ n → score { metrics with rejectedFindings := n } item ≤ score metrics item) ∧
    (metrics.duplicateFindings ≤ n → score { metrics with duplicateFindings := n } item ≤ score metrics item) ∧
    (metrics.costUnits ≤ n → score { metrics with costUnits := n } item ≤ score metrics item) ∧
    (item.estimatedCostUnits ≤ n → score metrics { item with estimatedCostUnits := n } ≤ score metrics item) ∧
    score metrics item = min (scoreNumerator profile item (scoreOf profile metrics item) /
      max (scoreDenominator (scoreOf profile metrics item)) 1) u64Max ∧
    0 < scoreDenominator (scoreOf profile metrics item) := by
  refine ⟨fun h => ?_, fun h => ?_, fun h => ?_, fun h => ?_, fun h => ?_, rfl, ?_⟩
  · -- each finding that moves to the validated ones gains four units and loses two
    refine fixedPointScore_le rfl rfl ?_ (le_refl _) (le_refl _)
    simp only [scoreOf, saturatingAdd, saturatingMul]
    omega
  · refine fixedPointScore_le rfl rfl ?_ ?_ (le_refl _) <;> simp only [scoreOf, saturatingAdd, saturatingMul] <;> omega
  · refine fixedPointScore_le rfl rfl (le_refl _) ?_ (le_refl _)
    simp only [scoreOf, saturatingAdd]
    omega
  · refine fixedPointScore_le rfl rfl (le_refl _) (le_refl _) ?_
    simp only [scoreOf, saturatingAdd]
    omega
  · refine fixedPointScore_le rfl rfl (le_refl _) (le_refl _) ?_
    simp only [scoreOf, saturatingAdd]
    omega
  · have hmul : ∀ {a b : ℕ}, 0 < a → 0 < b → 0 < saturatingMulU128 a b := fun ha hb =>
      lt_min (Nat.mul_pos ha hb) (by decide)
    have hadd : ∀ {a : ℕ} (b : ℕ), 0 < a → 0 < saturatingAdd a b := fun b ha =>
      lt_min (Nat.add_pos_left ha b) (by decide)
    have hchecks : 0 < saturatingAdd metrics.completedChecks 1 := lt_min (Nat.succ_pos _) (by decide)
    exact hmul (hmul (hadd _ (hadd _ Nat.one_pos)) (lt_max_of_lt_right Nat.one_pos)) hchecks

theorem score_monotone_example :
    let score := fun metrics item => (scoreOf ⟨"rule", 1, 1, 1, 1⟩ metrics item).fixedPointScore
    score {} exampleItem ≤ score { validatedFindings := 6 } exampleItem ∧
      score { rejectedFindings := 6 } exampleItem ≤ score {} exampleItem ∧
      score { duplicateFindings := 6 } exampleItem ≤ score {} exampleItem ∧
      score { costUnits := 6 } exampleItem ≤ score {} exampleItem ∧
      score {} { exampleItem with estimatedCostUnits := 6 } ≤ score {} exampleItem := by
  obtain ⟨hvalidated, hrejected, hduplicate, hcost, hestimate, -⟩ := score_monotone ⟨"rule", 1, 1,
    1, 1⟩ {} exampleItem 6
  exact ⟨hvalidated (by decide), hrejected (by decide), hduplicate (by decide), hcost (by decide),
    hestimate (by decide)⟩

end AdaptiveRuleScheduler

end BoundSeal.Analyzers
