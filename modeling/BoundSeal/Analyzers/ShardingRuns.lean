import BoundSeal.Analyzers.Sharding

/-!
# The coordinator over whole runs

Work moves between five collections of a shard while its reservation is kept in
two ledgers. Between two statements of a method an item may be in the method's
hands; `emergency_stop` even holds the whole queue of a shard.
-/

namespace BoundSeal.Analyzers

open Rust Lib
open Method (after wp wp_bind wp_check wp_check_bind wp_foldlM_keeps wp_forM wp_get wp_modify wp_mono)

/-! ## Resources -/

namespace ShardResources

theorem checkedAdd_eq {a b bound : ShardResources} (h : a + b ≤ bound)
    (hbound : ∀ i, bound i ≤ maxResourceUnits) : a.checkedAdd b = a + b := by
  funext i
  have hle : a i + b i ≤ bound i := h i
  have hi : bound i ≤ 1000000000000000 := hbound i
  exact saturatingAdd_eq_add (by unfold u64Max; omega)

theorem add_le_of_not_exceeds {used reserved more budget : ShardResources}
    (hbudget : ∀ i, budget i ≤ maxResourceUnits)
    (h : ((used.checkedAdd reserved).checkedAdd more).exceeds budget = false) : used + (reserved + more) ≤ budget := by
  intro i
  rw [exceeds, decide_eq_false_iff_not, not_exists] at h
  have hi : budget i ≤ 1000000000000000 := hbudget i
  have hle : saturatingAdd (saturatingAdd (used i) (reserved i)) (more i) ≤ budget i := not_lt.mp (h i)
  show used i + (reserved i + more i) ≤ budget i
  unfold saturatingAdd u64Max at hle
  omega

variable {used reserved reservation usage budget : ShardResources}

theorem settled_le (husage : usage ≤ reservation) (hreserved : reservation ≤ reserved)
    (h : used + reserved ≤ budget) : used + usage + (reserved - reservation) ≤ budget := by
  refine le_trans ?_ h
  rw [add_assoc]
  exact add_le_add_right ((add_le_add_left husage _).trans_eq (add_tsub_cancel_of_le hreserved)) used

theorem sub_add_eq_add_sub {reserved' : ShardResources} (h : reservation ≤ reserved) (h' : reservation ≤ reserved') :
    reserved - reservation + reserved' = reserved + (reserved' - reservation) :=
  (tsub_add_eq_add_tsub h).trans (add_tsub_assoc_of_le h' reserved)

end ShardResources

/-! ## One shard -/

namespace ShardState

/-- The number of collections of the shard a pair is in, leases counted one by one. -/
def occurrences (shard : ShardState) (p : PairKey) : ℕ :=
  here (p ∈ shard.queued) + sumValues (fun state : ShardLeaseState => here (state.item.work.pair = p)) shard.inFlight +
    here (p ∈ shard.completedPairs) + here (p ∈ shard.failedPairs) + here (p ∈ shard.expiredPairs)

/-- The sum of the reservations of the queued and the leased items. -/
def reservations (shard : ShardState) : ShardResources :=
  sumValues (fun item : ShardedWorkItem => item.resourceReservation) shard.queued +
    sumValues (fun state : ShardLeaseState => state.item.resourceReservation) shard.inFlight

end ShardState

def handPairs (hand : List ShardedWorkItem) (p : PairKey) : ℕ := (hand.map fun item => here (item.work.pair = p)).sum

def handReserved (hand : List ShardedWorkItem) : ShardResources := (hand.map (·.resourceReservation)).sum

@[simp] theorem handPairs_cons (item : ShardedWorkItem) (hand : List ShardedWorkItem)
    (p : PairKey) : handPairs (item :: hand) p = here (item.work.pair = p) + handPairs hand p := rfl

@[simp] theorem handReserved_cons (item : ShardedWorkItem) (hand : List ShardedWorkItem) :
    handReserved (item :: hand) = item.resourceReservation + handReserved hand := rfl

theorem handPairs_append (hand hand' : List ShardedWorkItem) (p : PairKey) :
    handPairs (hand ++ hand') p = handPairs hand p + handPairs hand' p := by
  simp [handPairs]

theorem handReserved_append (hand hand' : List ShardedWorkItem) :
    handReserved (hand ++ hand') = handReserved hand + handReserved hand' := by
  simp [handReserved]

/-- Shard `k` is in order when the items of `hand` have been taken out of it. -/
structure ShardOk (limits : ShardLimits) (next : ℕ) (owners : BTreeMap PairKey ℕ) (k : ℕ)
    (hand : List ShardedWorkItem) (shard : ShardState) : Prop where
  places : ∀ p : PairKey, shard.occurrences p + handPairs hand p = here (owners[p]? = some k)
  reserved : shard.reservedResources = shard.reservations + handReserved hand
  budget : shard.usedResources + shard.reservedResources ≤ limits.perShardResourceBudget
  inFlight : shard.inFlight.size ≤ limits.maximumInFlightPerShard
  keys : ∀ (p : PairKey) item, shard.queued[p]? = some item → item.work.pair = p
  ids : ∀ (id : String) state, shard.inFlight[id]? = some state →
    ∃ n digest, n < next ∧ id = leaseIdText "shard-lease-" n digest

namespace ShardOk

variable {limits : ShardLimits} {next k : ℕ} {owners : BTreeMap PairKey ℕ}
  {hand : List ShardedWorkItem} {shard : ShardState} {item : ShardedWorkItem}

section

variable (h : ShardOk limits next owners k (item :: hand) shard)

include h

theorem occurrences_hand : shard.occurrences item.work.pair = 0 := by
  have hplaces := h.places item.work.pair
  rw [handPairs_cons, here_of rfl] at hplaces
  have := here_le_one (owners[item.work.pair]? = some k)
  omega

theorem not_mem_final : item.work.pair ∉ shard.completedPairs ∧ item.work.pair ∉ shard.failedPairs ∧
      item.work.pair ∉ shard.expiredPairs := by
  have hzero := h.occurrences_hand
  unfold ShardState.occurrences at hzero
  exact ⟨not_of_here_eq_zero (by omega), not_of_here_eq_zero (by omega), not_of_here_eq_zero (by omega)⟩

theorem reservation_le : item.resourceReservation ≤ shard.reservedResources := by
  rw [h.reserved, handReserved_cons]
  exact le_add_left le_self_add

end

section

variable (h : ShardOk limits next owners k hand shard)

include h

/-- An item taken from the queue is in hand. -/
theorem takeQueued {pair : PairKey} (hitem : shard.queued[pair]? = some item) :
    ShardOk limits next owners k (item :: hand) { shard with queued := shard.queued.erase pair } := by
  refine { h with
    places := fun p => ?_
    reserved := ?_
    keys := fun p i hi => ?_ }
  · have hplaces := h.places p
    have hhere := here_mem_erase hitem p
    rw [handPairs_cons, h.keys pair item hitem]
    unfold ShardState.occurrences at hplaces ⊢
    dsimp only
    omega
  · have herase := sumValues_erase (fun i : ShardedWorkItem => i.resourceReservation) hitem
    show shard.reservedResources = _
    rw [h.reserved, handReserved_cons, ShardState.reservations, ShardState.reservations, ← herase]
    dsimp only
    ac_rfl
  · exact h.keys p i (getElem?_erase_eq_some.mp hi).2

/-- An item whose lease is taken back is in hand. -/
theorem takeLease {leaseId : String} {state : ShardLeaseState}
    (hstate : shard.inFlight[leaseId]? = some state) :
    ShardOk limits next owners k (state.item :: hand) { shard with inFlight := shard.inFlight.erase leaseId } := by
  refine { h with
    places := fun p => ?_
    reserved := ?_
    inFlight := ?_
    ids := fun id st hst => ?_ }
  · have hplaces := h.places p
    have herase := sumValues_erase (fun st : ShardLeaseState => here (st.item.work.pair = p)) hstate
    rw [handPairs_cons]
    unfold ShardState.occurrences at hplaces ⊢
    dsimp only at herase ⊢
    omega
  · have herase := sumValues_erase (fun st : ShardLeaseState => st.item.resourceReservation) hstate
    show shard.reservedResources = _
    rw [h.reserved, handReserved_cons, ShardState.reservations, ShardState.reservations, ← herase]
    dsimp only
    ac_rfl
  · have := h.inFlight
    have hsize := size_erase_of_getElem? hstate
    dsimp only
    omega
  · exact h.ids id st (getElem?_erase_eq_some.mp hst).2

theorem takeQueue :
    ShardOk limits next owners k (values shard.queued ++ hand) { shard with queued := ∅ } := by
  have hpairs : ∀ p, handPairs (values shard.queued) p = here (p ∈ shard.queued) := by
    intro p
    have hcongr : handPairs (values shard.queued) p = (shard.queued.toList.map fun e => here (e.1 = p)).sum := by
      rw [handPairs, values, List.map_map]
      refine congrArg List.sum (List.map_congr_left ?_)
      rintro ⟨q, i⟩ hmem
      rw [Function.comp_apply, h.keys q i (Std.ExtTreeMap.mem_toList_iff_getElem?_eq_some.mp hmem)]
    have hcount : (shard.queued.toList.map fun e => here (e.1 = p)).sum =
        (shard.queued.toList.map (·.1)).count p := by
      induction shard.queued.toList with
      | nil => rfl
      | cons e l ih =>
        rw [List.map_cons, List.sum_cons, List.map_cons, List.count_cons, ih, Nat.add_comm, here]
        simp
    rw [hcongr, hcount, (nodup_keys_toList shard.queued).count, here]
    refine if_congr ?_ rfl rfl
    rw [Std.ExtTreeMap.map_fst_toList_eq_keys, Std.ExtTreeMap.mem_keys]
  refine { h with
    places := fun p => ?_
    reserved := ?_
    keys := by simp }
  · have hplaces := h.places p
    have hempty : here (p ∈ (∅ : BTreeMap PairKey ShardedWorkItem)) = 0 := here_of_not (by simp)
    rw [handPairs_append, hpairs]
    unfold ShardState.occurrences at hplaces ⊢
    dsimp only
    omega
  · have hvalues : handReserved (values shard.queued) =
        sumValues (fun i : ShardedWorkItem => i.resourceReservation) shard.queued := by
      rw [handReserved, values, List.map_map]
      rfl
    show shard.reservedResources = _
    rw [h.reserved, handReserved_append, hvalues, ShardState.reservations, ShardState.reservations]
    dsimp only
    rw [sumValues_empty, zero_add]
    ac_rfl

theorem takeLeases :
    ShardOk limits next owners k ((values shard.inFlight).map (·.item) ++ hand) { shard with inFlight := ∅ } := by
  refine { h with
    places := fun p => ?_
    reserved := ?_
    inFlight := Nat.zero_le _
    ids := by simp }
  · have hplaces := h.places p
    have hvalues : handPairs ((values shard.inFlight).map (·.item)) p =
        sumValues (fun st : ShardLeaseState => here (st.item.work.pair = p)) shard.inFlight := by
      rw [handPairs, values, List.map_map, List.map_map]
      rfl
    rw [handPairs_append, hvalues]
    unfold ShardState.occurrences at hplaces ⊢
    dsimp only
    rw [sumValues_empty]
    omega
  · have hvalues : handReserved ((values shard.inFlight).map (·.item)) =
        sumValues (fun st : ShardLeaseState => st.item.resourceReservation) shard.inFlight := by
      rw [handReserved, values, List.map_map, List.map_map]
      rfl
    show shard.reservedResources = _
    rw [h.reserved, handReserved_append, hvalues, ShardState.reservations, ShardState.reservations]
    dsimp only
    rw [sumValues_empty, add_zero]
    ac_rfl

end

/-- The item in hand gets its one final place. -/
theorem settle (h : ShardOk limits next owners k (item :: hand) shard) {usage : ShardResources}
    (husage : usage ≤ item.resourceReservation) (completed failed expired : BTreeSet PairKey) (accepted duplicates : ℕ)
    (hone : ∀ q, here (q ∈ completed) + here (q ∈ failed) + here (q ∈ expired) =
      here (q ∈ shard.completedPairs) + here (q ∈ shard.failedPairs) +
        here (q ∈ shard.expiredPairs) + here (item.work.pair = q)) :
    ShardOk limits next owners k hand { shard with
      completedPairs := completed
      failedPairs := failed
      expiredPairs := expired
      reservedResources := shard.reservedResources - item.resourceReservation
      usedResources := shard.usedResources + usage
      acceptedUniqueFindings := accepted
      duplicateFindings := duplicates } := by
  refine { h with
    places := fun q => ?_
    reserved := ?_
    budget := ShardResources.settled_le husage h.reservation_le h.budget }
  · have hplaces := h.places q
    have hq := hone q
    rw [handPairs_cons] at hplaces
    unfold ShardState.occurrences at hplaces ⊢
    dsimp only
    omega
  · show shard.reservedResources - item.resourceReservation = shard.reservations + handReserved hand
    rw [h.reserved, handReserved_cons, add_left_comm, add_tsub_cancel_left]

theorem fresh_id (h : ShardOk limits next owners k hand shard) (hnext : next ≤ u64Max)
    (digest : String) : shard.inFlight[leaseIdText "shard-lease-" next digest]? = none := by
  cases hstate : shard.inFlight[leaseIdText "shard-lease-" next digest]? with
  | none => rfl
  | some state =>
    obtain ⟨n, digest', hlt, heq⟩ := h.ids _ _ hstate
    have := leaseIdText_injective hnext (by omega) heq
    omega

theorem mono_next (h : ShardOk limits next owners k hand shard) : ShardOk limits (next + 1) owners k hand shard := by
  refine { h with ids := fun id state hstate => ?_ }
  obtain ⟨n, digest, hlt, heq⟩ := h.ids id state hstate
  exact ⟨n, digest, by omega, heq⟩

/-- The item in hand is leased under a new number. -/
theorem insertLease (h : ShardOk limits next owners k (item :: hand) shard) (hnext : next ≤ u64Max)
    (hroom : shard.inFlight.size < limits.maximumInFlightPerShard) (digest : String) (expires : ℤ) :
    ShardOk limits (next + 1) owners k hand { shard with
      inFlight := shard.inFlight.insert (leaseIdText "shard-lease-" next digest) ⟨item, expires⟩ } := by
  have hfresh := h.fresh_id hnext digest
  refine { h.mono_next with
    places := fun p => ?_
    reserved := ?_
    inFlight := ?_
    ids := fun id state hstate => ?_ }
  · have hplaces := h.places p
    have hinsert := sumValues_insert_new (fun st : ShardLeaseState => here (st.item.work.pair = p))
      ⟨item, expires⟩ hfresh
    rw [handPairs_cons] at hplaces
    unfold ShardState.occurrences at hplaces ⊢
    dsimp only at hinsert ⊢
    omega
  · have hinsert := sumValues_insert_new (fun st : ShardLeaseState => st.item.resourceReservation)
      ⟨item, expires⟩ hfresh
    show shard.reservedResources = _
    rw [h.reserved, handReserved_cons, ShardState.reservations, ShardState.reservations]
    dsimp only
    rw [hinsert]
    ac_rfl
  · dsimp only
    rw [size_insert_new _ hfresh]
    omega
  · rcases getElem?_insert_eq_some.mp hstate with ⟨hsame, -⟩ | ⟨-, hold⟩
    · exact ⟨next, digest, by omega, hsame.symm⟩
    · exact h.mono_next.ids id state hold

end ShardOk

/-! ## The coordinator -/

namespace DeterministicShardCoordinator

/-- The items in hand that were taken out of shard `k`. -/
def handIn (target : ℕ) (hand : List ShardedWorkItem) (k : ℕ) : List ShardedWorkItem := if k = target then hand else []

theorem handIn_nil (target k : ℕ) : handIn target [] k = [] := by
  unfold handIn
  split <;> rfl

/-- All shards are in order, with `hand` taken out of shard `target`, and the global ledgers are
sums. -/
structure Inv (target : ℕ) (hand : List ShardedWorkItem) (c : DeterministicShardCoordinator) : Prop where
  globalLimit : ∀ i, c.limits.globalResourceBudget i ≤ maxResourceUnits
  shardLimit : ∀ i, c.limits.perShardResourceBudget i ≤ maxResourceUnits
  pairLimit : c.limits.maximumGlobalPairs ≤ maxShardedPairs
  shards : ∀ k : ℕ, k ∈ c.shards ↔ k < c.limits.shardCount
  each : ∀ (k : ℕ) shard, c.shards[k]? = some shard →
    ShardOk c.limits c.nextLeaseSequence c.pairOwners k (handIn target hand k) shard
  owners : ∀ (p : PairKey) k, c.pairOwners[p]? = some k → k < c.limits.shardCount
  globalReserved : c.globalReservedResources = sumValues (fun shard : ShardState => shard.reservedResources) c.shards
  globalUsed : c.globalUsedResources = sumValues (fun shard : ShardState => shard.usedResources) c.shards
  globalBudget : c.globalUsedResources + c.globalReservedResources ≤ c.limits.globalResourceBudget
  pairs : c.pairOwners.size ≤ c.limits.maximumGlobalPairs
  sequence : c.nextLeaseSequence +
    sumValues (fun shard : ShardState => shard.queued.size) c.shards ≤ 1 + c.pairOwners.size

theorem getElem?_newShards {n k : ℕ} {shard : ShardState}
    (h : (Std.ExtTreeMap.ofList ((List.range n).map fun shardId => (shardId, ({} : ShardState))) compare)[k]? =
      some shard) : shard = {} := by
  have hdistinct : ((List.range n).map fun shardId => (shardId, ({} : ShardState))).Pairwise
      fun a b => ¬ compare a.1 b.1 = .eq := by
    refine List.pairwise_map.mpr (List.nodup_range.imp ?_)
    intro a b hne heq
    exact hne (Std.LawfulEqOrd.eq_of_compare heq)
  by_cases hk : k < n
  · have hmem : (k, ({} : ShardState)) ∈ (List.range n).map fun shardId => (shardId, ({} : ShardState)) :=
      List.mem_map.mpr ⟨k, List.mem_range.mpr hk, rfl⟩
    rw [Std.ExtTreeMap.getElem?_ofList_of_mem Std.ReflOrd.compare_self hdistinct hmem] at h
    exact (Option.some.inj h).symm
  · rw [Std.ExtTreeMap.getElem?_ofList_of_contains_eq_false] at h
    · cases h
    · simpa [Function.comp_def] using hk

variable {c : DeterministicShardCoordinator}

theorem inv_new {limits : ShardLimits} {run : String} (h : new limits run = .ok c) : Inv 0 [] c := by
  simp only [new, ShardLimits.validate, ShardResources.validate, validateShardSha256, do_eq_ok,
    not_or, not_exists, not_lt] at h
  obtain ⟨⟨hglobal, hshard, -, -, -, hpairs, -⟩, -, rfl⟩ := h
  exact {
    globalLimit := hglobal
    shardLimit := hshard
    pairLimit := hpairs
    shards := fun k => by simp [Std.ExtTreeMap.mem_ofList, Function.comp_def]
    each := fun k shard hk => by
      rw [getElem?_newShards hk]
      rw [handIn_nil]
      exact {
        places := fun p => rfl
        reserved := rfl
        budget := fun _ => Nat.zero_le _
        inFlight := Nat.zero_le _
        keys := by simp
        ids := by simp }
    owners := by simp
    globalReserved := (sumValues_eq_zero fun k shard hk => by rw [getElem?_newShards hk]; rfl).symm
    globalUsed := (sumValues_eq_zero fun k shard hk => by rw [getElem?_newShards hk]; rfl).symm
    globalBudget := fun _ => Nat.zero_le _
    pairs := Nat.zero_le _
    sequence := by
      rw [sumValues_eq_zero fun k shard hk => by rw [getElem?_newShards hk]; rfl]
      exact Nat.le_refl _ }

section Steps

variable {c : DeterministicShardCoordinator} {k : ℕ} {hand : List ShardedWorkItem}
  {shard : ShardState} {item : ShardedWorkItem}

/-- With nothing in hand, the shard it is not in does not matter. -/
theorem Inv.retarget (h : Inv k [] c) (k' : ℕ) : Inv k' [] c := by
  refine { h with each := fun j shard hj => ?_ }
  have heach := h.each j shard hj
  rwa [handIn_nil] at heach ⊢

section

variable (h : Inv k hand c)

include h

theorem Inv.target (hk : c.shards[k]? = some shard) :
    ShardOk c.limits c.nextLeaseSequence c.pairOwners k hand shard := by
  have heach := h.each k shard hk
  rwa [handIn, if_pos rfl] at heach

theorem Inv.other {j : ℕ} {other : ShardState} (hj : c.shards[j]? = some other) (hne : k ≠ j)
    (hand' : List ShardedWorkItem) :
    ShardOk c.limits c.nextLeaseSequence c.pairOwners j (handIn k hand' j) other := by
  have heach := h.each j other hj
  rw [handIn, if_neg hne.symm] at heach ⊢
  exact heach

theorem Inv.shards_insert (hk : c.shards[k]? = some shard) (shard' : ShardState) (j : ℕ) :
    j ∈ c.shards.insert k shard' ↔ j < c.limits.shardCount := by
  rw [Std.ExtTreeMap.mem_insert, Std.LawfulEqOrd.compare_eq_iff_eq, h.shards j]
  constructor
  · rintro (rfl | hlt)
    · exact (h.shards _).mp (mem_of_getElem? hk)
    · exact hlt
  · exact .inr

variable {hand' : List ShardedWorkItem}

/-- One shard changes, and the global ledger with it. -/
theorem Inv.update (hk : c.shards[k]? = some shard) {shard' : ShardState} {reserved used : ShardResources}
    (hshard : ShardOk c.limits c.nextLeaseSequence c.pairOwners k hand' shard')
    (hreserved : reserved + shard.reservedResources = c.globalReservedResources + shard'.reservedResources)
    (hused : used + shard.usedResources = c.globalUsedResources + shard'.usedResources)
    (hbudget : used + reserved ≤ c.limits.globalResourceBudget)
    (hqueued : shard'.queued.size ≤ shard.queued.size) :
    Inv k hand' { c with
      shards := c.shards.insert k shard'
      globalReservedResources := reserved
      globalUsedResources := used } := by
  refine { h with
    shards := fun j => ?_
    each := fun j other hj => ?_
    globalReserved := eq_sumValues_insert h.globalReserved hk hreserved
    globalUsed := eq_sumValues_insert h.globalUsed hk hused
    globalBudget := hbudget
    sequence := ?_ }
  · exact h.shards_insert hk shard' j
  · rcases getElem?_insert_eq_some.mp hj with ⟨rfl, rfl⟩ | ⟨hne, hj⟩
    · rw [handIn, if_pos rfl]
      exact hshard
    · exact h.other hj hne hand'
  · have hsequence := h.sequence
    have hreplace := sumValues_insert_replace (fun shard : ShardState => shard.queued.size) shard' hk
    dsimp only at hreplace ⊢
    omega

theorem Inv.putShard (hk : c.shards[k]? = some shard) {shard' : ShardState}
    (hshard : ShardOk c.limits c.nextLeaseSequence c.pairOwners k hand' shard')
    (hreserved : shard'.reservedResources = shard.reservedResources)
    (hused : shard'.usedResources = shard.usedResources)
    (hqueued : shard'.queued.size ≤ shard.queued.size) : Inv k hand' (putShard k shard' c) :=
  h.update hk hshard (by rw [hreserved]) (by rw [hused]) h.globalBudget hqueued

end

theorem Inv.reservation_le (h : Inv k (item :: hand) c) (hk : c.shards[k]? = some shard) :
    item.resourceReservation ≤ c.globalReservedResources := by
  refine le_trans (h.target hk).reservation_le ?_
  rw [h.globalReserved]
  exact le_sumValues (fun shard : ShardState => shard.reservedResources) hk

/-! ## Statements of the methods -/

variable {post : Except ShardingError Unit → DeterministicShardCoordinator → Prop}
    {put : PairKey → ShardState → ShardState}

theorem wp_updateShard {f : ShardState → ShardState} (hk : c.shards[k]? = some shard) :
    wp (updateShard k f) post c ↔ post (.ok ()) (putShard k (f shard) c) := by
  rw [updateShard, wp_bind, wp_check, shardOf, hk]
  exact Iff.rfl

theorem getElem?_putShard (c : DeterministicShardCoordinator) (k : ℕ) (shard : ShardState) :
    (putShard k shard c).shards[k]? = some shard := getElem?_insert_self _ _ _

theorem putShard_putShard (c : DeterministicShardCoordinator) (k : ℕ) (shard shard' : ShardState) :
    putShard k shard' (putShard k shard c) = putShard k shard' c := by
  show { c with shards := (c.shards.insert k shard).insert k shard' } = _
  rw [insert_insert_self]
  rfl

/-- An item whose reservation was given back and whose pair was put into a final place. -/
def retired (k : ℕ) (shard : ShardState) (item : ShardedWorkItem) (put : PairKey → ShardState →
    ShardState) (c : DeterministicShardCoordinator) : DeterministicShardCoordinator :=
  putShard k (put item.work.pair (releaseShard item.resourceReservation shard))
    (releaseGlobal item.resourceReservation c)

theorem wp_releaseReservation {reservation : ShardResources} (hk : c.shards[k]? = some shard) :
    wp (releaseReservation k reservation) post c ↔
      post (.ok ()) (putShard k (releaseShard reservation shard) (releaseGlobal reservation c)) := by
  rw [releaseReservation, wp_bind, wp_modify, after,
    wp_updateShard (show (releaseGlobal reservation c).shards[k]? = some shard from hk)]

theorem wp_retire (hk : c.shards[k]? = some shard) :
    wp (retire k item put) post c ↔ post (.ok ()) (retired k shard item put c) := by
  rw [retire, wp_bind, wp_releaseReservation hk, after, wp_updateShard (getElem?_putShard _ _ _),
    putShard_putShard]
  exact Iff.rfl

structure Final (put : PairKey → ShardState → ShardState) : Prop where
  reserved : ∀ p shard, (put p shard).reservedResources = shard.reservedResources
  used : ∀ p shard, (put p shard).usedResources = shard.usedResources
  queued : ∀ p shard, (put p shard).queued = shard.queued
  inFlight : ∀ p shard, (put p shard).inFlight = shard.inFlight
  ok : ∀ {limits next owners k item hand shard}, ShardOk limits next owners k (item :: hand) shard →
    ShardOk limits next owners k hand (put item.work.pair (releaseShard item.resourceReservation shard))

theorem final_insertExpired : Final insertExpired where
  reserved _ _ := rfl
  used _ _ := rfl
  queued _ _ := rfl
  inFlight _ _ := rfl
  ok {_ _ _ _ item _ shard} h := by
    refine h.settle zero_le shard.completedPairs shard.failedPairs (shard.expiredPairs.insert item.work.pair)
      shard.acceptedUniqueFindings shard.duplicateFindings fun q => ?_
    rw [here_mem_insert_new_set h.not_mem_final.2.2 q]
    omega

theorem final_insertFailed : Final insertFailed where
  reserved _ _ := rfl
  used _ _ := rfl
  queued _ _ := rfl
  inFlight _ _ := rfl
  ok {_ _ _ _ item _ shard} h := by
    refine h.settle zero_le shard.completedPairs (shard.failedPairs.insert item.work.pair) shard.expiredPairs
      shard.acceptedUniqueFindings shard.duplicateFindings fun q => ?_
    rw [here_mem_insert_new_set h.not_mem_final.2.1 q]
    omega

/-- An item that fails or expires gives its reservation back. -/
theorem Inv.retired (h : Inv k (item :: hand) c) (hk : c.shards[k]? = some shard)
    (hput : Final put) : Inv k hand (retired k shard item put c) := by
  refine h.update hk (hput.ok (h.target hk)) ?_ ?_ ?_ ?_
  · rw [hput.reserved]
    exact ShardResources.sub_add_eq_add_sub (h.reservation_le hk) (h.target hk).reservation_le
  · rw [hput.used]
    rfl
  · exact (add_le_add_right tsub_le_self _).trans h.globalBudget
  · rw [hput.queued]
    exact Nat.le_refl _

theorem wp_retire_fail {α : Type} {e : ShardingError} (h : Inv k [item] c)
    (hk : c.shards[k]? = some shard) (hput : Final put) :
    wp (retire k item put >>= fun _ => (Method.fail e : Method _ _ α)) (fun _ c' => Inv 0 [] c') c := by
  rw [wp_bind, wp_retire hk]
  exact (h.retired hk hput).retarget 0

theorem wp_shardOf {α : Type} {g : ShardState → ShardingMethod α}
    {post : Except ShardingError α → DeterministicShardCoordinator → Prop} {j : ℕ}
    (herror : ∀ e, post (.error e) c) (hok : ∀ shard, c.shards[j]? = some shard →
    wp (g shard) post c) : wp (Method.check (shardOf j) >>= g) post c :=
  wp_check_bind (fun e _ => herror e) fun shard hshard => hok shard (okOr_eq_ok.mp hshard)

theorem wp_takeQueued (h : Inv k [] c) (pair : PairKey) : wp (takeQueued k pair) (fun r c' =>
      (∃ e, r = .error e ∧ c' = c) ∨
      ∃ item shard, r = .ok item ∧ c.shards[k]? = some shard ∧ item.work.pair = pair ∧
        c'.shards[k]? = some { shard with queued := shard.queued.erase pair } ∧ c'.limits = c.limits ∧
        Inv k [item] c' ∧
        c'.nextLeaseSequence + sumValues (fun shard : ShardState => shard.queued.size) c'.shards <
          1 + c'.pairOwners.size) c := by
  refine wp_shardOf (fun e => .inl ⟨e, rfl, rfl⟩) fun shard hk => ?_
  refine wp_check_bind (fun e _ => .inl ⟨e, rfl, rfl⟩) fun item hitem => ?_
  have hitem : shard.queued[pair]? = some item := okOr_eq_ok.mp hitem
  have hok := h.target hk
  have hsize := size_erase_of_getElem? hitem
  refine .inr ⟨item, shard, rfl, hk, hok.keys pair item hitem, getElem?_putShard _ _ _, rfl, ?_, ?_⟩
  · exact h.putShard hk (hok.takeQueued hitem) rfl rfl (by dsimp only; omega)
  · have hsequence := h.sequence
    have hreplace := sumValues_insert_replace (fun shard : ShardState => shard.queued.size)
      { shard with queued := shard.queued.erase pair } hk
    show c.nextLeaseSequence + sumValues _ (c.shards.insert k _) < 1 + c.pairOwners.size
    dsimp only at hreplace
    omega

theorem wp_takeLease (h : Inv k [] c) (leaseId : String) : wp (takeLease k leaseId) (fun r c' =>
      (∃ e, r = .error e ∧ c' = c) ∨
      ∃ state shard, r = .ok state ∧ c'.shards[k]? = some shard ∧ Inv k [state.item] c') c := by
  refine wp_shardOf (fun e => .inl ⟨e, rfl, rfl⟩) fun shard hk => ?_
  refine wp_check_bind (fun e _ => .inl ⟨e, rfl, rfl⟩) fun state hstate => ?_
  have hstate : shard.inFlight[leaseId]? = some state := okOr_eq_ok.mp hstate
  refine .inr ⟨state, _, rfl, getElem?_putShard _ _ _, ?_⟩
  exact h.putShard hk ((h.target hk).takeLease hstate) rfl rfl (Nat.le_refl _)

/-! ## The methods -/

theorem wp_expireQueued (h : Inv k [] c) (count : ℕ) (pair : PairKey) :
    wp (expireQueued k count pair) (fun _ c' => Inv k [] c') c := by
  rw [expireQueued, wp_bind]
  refine wp_mono (wp_takeQueued h pair) ?_
  rintro r c' (⟨e, rfl, rfl⟩ | ⟨item, shard, rfl, -, rfl, hk, -, hinv, -⟩)
  · exact h
  -- the key of an item is its pair, so this is the general way to retire it
  rw [after, wp_bind, wp_releaseReservation hk, after, wp_bind,
    wp_updateShard (getElem?_putShard _ _ _), putShard_putShard]
  exact hinv.retired hk final_insertExpired

theorem wp_expireLease (h : Inv k [] c) (count : ℕ) (leaseId : String) :
    wp (expireLease k count leaseId) (fun _ c' => Inv k [] c') c := by
  rw [expireLease, wp_bind]
  refine wp_mono (wp_takeLease h leaseId) ?_
  rintro r c' (⟨e, rfl, rfl⟩ | ⟨state, shard, rfl, hk, hinv⟩)
  · exact h
  rw [after, wp_bind, wp_retire hk]
  exact hinv.retired hk final_insertExpired

/-- Expiry keeps the invariant, shard by shard. -/
theorem wp_expireShard (h : Inv k [] c) (now : ℤ) (count : ℕ) :
    wp (expireShard now count k) (fun _ c' => Inv k [] c') c := by
  refine wp_shardOf (fun _ => h) fun shard _ => ?_
  rw [wp_bind]
  refine wp_mono (wp_foldlM_keeps (fun pair n t ht => wp_expireQueued ht n pair) h) ?_
  rintro (e | n) t ht
  · exact ht
  rw [after]
  refine wp_shardOf (fun _ => ht) fun shard _ => ?_
  exact wp_foldlM_keeps (fun leaseId n t ht => wp_expireLease ht n leaseId) ht

theorem wp_expire (h : Inv 0 [] c) (now : ℤ) : wp (expire now) (fun _ c' => Inv 0 [] c') c := by
  rw [expire, wp_bind, wp_get, after]
  refine wp_foldlM_keeps (fun j n t ht => ?_) h
  exact wp_mono (wp_expireShard (ht.retarget j) now n) fun _ _ h => h.retarget 0

/-- The lease numbers last for all pairs. -/
theorem Inv.issueLease (h : Inv k [item] c) (hk : c.shards[k]? = some shard)
    (hroom : shard.inFlight.size < c.limits.maximumInFlightPerShard)
    (hslack : c.nextLeaseSequence + sumValues (fun shard : ShardState => shard.queued.size) c.shards <
      1 + c.pairOwners.size) (digest : String) (expires : ℤ) :
    Inv k [] (DeterministicShardCoordinator.putShard k
      (insertLease (leaseIdText "shard-lease-" c.nextLeaseSequence digest) ⟨item, expires⟩ shard)
      { c with nextLeaseSequence := saturatingAdd c.nextLeaseSequence 1 }) := by
  have hnext : c.nextLeaseSequence + 1 ≤ u64Max := by
    have hlimit : c.limits.maximumGlobalPairs ≤ 100000000 := h.pairLimit
    have := h.pairs
    unfold u64Max
    omega
  rw [saturatingAdd_eq_add hnext]
  -- first the next number, which every shard can take, then the lease in its shard
  have hnumber : Inv k [item] { c with nextLeaseSequence := c.nextLeaseSequence + 1 } := by
    refine { h with
      each := fun j other hj => (h.each j other hj).mono_next
      sequence := ?_ }
    dsimp only
    omega
  exact hnumber.putShard hk ((h.target hk).insertLease (by omega) hroom digest expires) rfl rfl (Nat.le_refl _)

theorem wp_leaseNext (h : Inv 0 [] c) (now : ℤ) :
    wp (leaseNext k now) (fun _ c' => Inv 0 [] c') c := by
  refine wp_check_bind (fun _ _ => h) fun _ _ => ?_
  rw [wp_bind]
  refine wp_mono (wp_expire h now) ?_
  rintro (e | n) t ht
  · exact ht
  rw [after]
  refine wp_check_bind (fun _ _ => ht) fun pair hpair => ?_
  simp only [nextPair, shardOf, do_eq_ok, not_le] at hpair
  obtain ⟨shard, hk, hroom, -⟩ := hpair
  rw [wp_bind]
  refine wp_mono (wp_takeQueued (ht.retarget k) pair) ?_
  rintro r t' (⟨e, rfl, rfl⟩ | ⟨item, shard', rfl, hk', -, hk'', hlimits, hinv, hslack⟩)
  · exact ht
  obtain rfl := Option.some.inj (hk.symm.trans hk')
  rw [after, wp_bind, wp_get, after]
  split
  · exact wp_retire_fail hinv hk'' final_insertExpired
  · rw [issueLease, wp_bind, wp_get, after, wp_bind, wp_modify, after,
      wp_bind]
    refine (wp_updateShard (by exact hk'')).mpr ?_
    rw [← hlimits] at hroom
    exact (hinv.issueLease hk'' hroom hslack _ _).retarget 0

theorem recordFindings_eq (ids : List String) (c : DeterministicShardCoordinator) :
    ∃ found duplicates, (recordFindings ids c).1 =
      { c with globalFindingIds := found, globalDuplicateFindings := duplicates } := by
  have hall : ∀ acc : DeterministicShardCoordinator × ℕ × ℕ, ∃ found duplicates,
      (ids.foldl recordFinding acc).1 =
        { acc.1 with globalFindingIds := found, globalDuplicateFindings := duplicates } := by
    induction ids with
    | nil => exact fun acc => ⟨acc.1.globalFindingIds, acc.1.globalDuplicateFindings, rfl⟩
    | cons id ids ih =>
      rintro ⟨c, accepted, duplicates⟩
      obtain ⟨found, total, heq⟩ := ih (recordFinding (c, accepted, duplicates) id)
      refine ⟨found, total, ?_⟩
      rw [List.foldl_cons, heq]
      unfold recordFinding
      dsimp only
      split <;> rfl
  exact hall (c, 0, 0)

theorem Inv.findings (h : Inv k hand c) (found : BTreeSet String) (duplicates : ℕ) :
    Inv k hand { c with globalFindingIds := found, globalDuplicateFindings := duplicates } := { h with }

/-- A completed item uses part of its reservation. -/
theorem Inv.complete (h : Inv k (item :: hand) c) (hk : c.shards[k]? = some shard)
    {usage : ShardResources} (husage : usage ≤ item.resourceReservation) (accepted duplicates : ℕ) :
    Inv k hand { c with
      shards := c.shards.insert k (completeItem usage accepted duplicates item.work.pair
        (releaseShard item.resourceReservation shard))
      globalReservedResources := c.globalReservedResources.checkedSub item.resourceReservation
      globalUsedResources := c.globalUsedResources.checkedAdd usage } := by
  have hok := h.target hk
  have hbudget := ShardResources.settled_le husage (h.reservation_le hk) h.globalBudget
  have hshardUsed : shard.usedResources.checkedAdd usage = shard.usedResources + usage :=
    ShardResources.checkedAdd_eq (le_self_add.trans (ShardResources.settled_le husage hok.reservation_le hok.budget))
      h.shardLimit
  have hglobalUsed : c.globalUsedResources.checkedAdd usage = c.globalUsedResources + usage :=
    ShardResources.checkedAdd_eq (le_self_add.trans hbudget) h.globalLimit
  rw [hglobalUsed]
  refine h.update hk ?_ (ShardResources.sub_add_eq_add_sub
    (h.reservation_le hk) hok.reservation_le) ?_ hbudget (Nat.le_refl _)
  · have hsettle := hok.settle husage (shard.completedPairs.insert item.work.pair) shard.failedPairs shard.expiredPairs
      (saturatingAdd shard.acceptedUniqueFindings accepted) (saturatingAdd shard.duplicateFindings duplicates)
      fun q => by
        rw [here_mem_insert_new_set hok.not_mem_final.1 q]
        omega
    rw [← hshardUsed] at hsettle
    exact hsettle
  · show c.globalUsedResources + usage + shard.usedResources = c.globalUsedResources +
      shard.usedResources.checkedAdd usage
    rw [hshardUsed, add_assoc, add_comm usage]

theorem wp_recordResult (h : Inv k [item] c) (hk : c.shards[k]? = some shard)
    {result : ShardExecutionResult} (husage : result.usage ≤ item.resourceReservation) :
    wp (recordResult k item result) (fun _ c' => Inv k [] c') c := by
  rw [recordResult, wp_bind, wp_releaseReservation hk, after, wp_bind, wp_modify,
    after, wp_bind, wp_get, after, wp_bind, wp_modify, after]
  generalize hcounts : (recordFindings result.findingIds.toList _).2 = counts
  obtain ⟨found, total, heq⟩ := recordFindings_eq result.findingIds.toList (useGlobal result.usage
    (putShard k (releaseShard item.resourceReservation shard) (releaseGlobal item.resourceReservation c)))
  rw [heq]
  have hk' := getElem?_putShard (releaseGlobal item.resourceReservation c) k
    (releaseShard item.resourceReservation shard)
  refine (wp_updateShard (by exact hk')).mpr ?_
  have hinsert := congrArg DeterministicShardCoordinator.shards (putShard_putShard
    (releaseGlobal item.resourceReservation c) k (releaseShard item.resourceReservation shard)
    (completeItem result.usage counts.1 counts.2 item.work.pair (releaseShard item.resourceReservation shard)))
  have hdone := (h.complete hk husage counts.1 counts.2).findings found total
  simp only [putShard, useGlobal, releaseGlobal] at hinsert ⊢
  rw [hinsert]
  exact hdone

theorem wp_completeLease (h : Inv 0 [] c) (leaseId : String) (result : ShardExecutionResult)
    (now : ℤ) : wp (completeLease k leaseId result now) (fun _ c' => Inv 0 [] c') c := by
  refine wp_check_bind (fun _ _ => h) fun _ _ => ?_
  refine wp_check_bind (fun _ _ => h) fun _ _ => ?_
  rw [wp_bind]
  refine wp_mono (wp_takeLease (h.retarget k) leaseId) ?_
  rintro r t (⟨e, rfl, rfl⟩ | ⟨state, shard, rfl, hk, hinv⟩)
  · exact h
  rw [after]
  split
  · exact wp_retire_fail hinv hk final_insertExpired
  · split
    · exact wp_retire_fail hinv hk final_insertFailed
    · next hwithin =>
      rw [Bool.not_eq_false, ShardResources.within, decide_eq_true_iff] at hwithin
      exact wp_mono (wp_recordResult hinv hk hwithin) fun _ _ h => h.retarget 0

theorem wp_failLease (h : Inv 0 [] c) (leaseId : String) (now : ℤ) :
    wp (failLease k leaseId now) (fun _ c' => Inv 0 [] c') c := by
  refine wp_check_bind (fun _ _ => h) fun _ _ => ?_
  rw [wp_bind]
  refine wp_mono (wp_takeLease (h.retarget k) leaseId) ?_
  rintro r t (⟨e, rfl, rfl⟩ | ⟨state, shard, rfl, hk, hinv⟩)
  · exact h
  rw [after]
  split
  · exact wp_retire_fail hinv hk final_insertExpired
  · exact (wp_retire hk).mpr ((hinv.retired hk final_insertFailed).retarget 0)

/-! ## Enqueueing -/

/-- What `enqueue` has checked when it writes. -/
structure Enqueueable (c : DeterministicShardCoordinator) (shard : ShardState) (item : ShardedWorkItem) : Prop where
  new : item.work.pair ∉ c.pairOwners
  pairs : c.pairOwners.size < c.limits.maximumGlobalPairs
  globalBudget : c.globalUsedResources + (c.globalReservedResources + item.resourceReservation) ≤
    c.limits.globalResourceBudget
  shardBudget : shard.usedResources + (shard.reservedResources + item.resourceReservation) ≤
    c.limits.perShardResourceBudget

variable {owners : BTreeMap PairKey ℕ}

theorem getElem?_pairOwners_insert {pair : PairKey} (hnew : pair ∉ owners) (k : ℕ)
    (p : PairKey) (j : ℕ) :
    here ((owners.insert pair k)[p]? = some j) = here (owners[p]? = some j) + here (pair = p ∧ k = j) := by
  by_cases hsame : pair = p
  · subst hsame
    rw [getElem?_insert_self, Std.ExtTreeMap.getElem?_eq_none hnew,
      here_of_not (p := none = some j) (by simp), Nat.zero_add, here, here]
    refine if_congr ?_ rfl rfl
    simp
  · rw [getElem?_insert_of_ne _ _ hsame, here_of_not (p := pair = p ∧ k = j) (fun h => hsame h.1), Nat.add_zero]

theorem shardOk_other {limits : ShardLimits} {next j : ℕ} {pair : PairKey}
    (h : ShardOk limits next owners j hand shard) (hnew : pair ∉ owners) (hne : k ≠ j) :
    ShardOk limits next (owners.insert pair k) j hand shard := by
  refine { h with places := fun p => ?_ }
  rw [h.places p, getElem?_pairOwners_insert hnew, here_of_not (p := pair = p ∧ k = j) fun hp => hne hp.2, Nat.add_zero]

theorem shardOk_queueItem {limits : ShardLimits} {next : ℕ}
    (h : ShardOk limits next owners k hand shard) (hnew : item.work.pair ∉ owners)
    (hlocal : shard.reservedResources.checkedAdd item.resourceReservation =
      shard.reservedResources + item.resourceReservation)
    (hbudget : shard.usedResources + (shard.reservedResources + item.resourceReservation) ≤
      limits.perShardResourceBudget) :
    ShardOk limits next (owners.insert item.work.pair k) k hand (queueItem item shard) ∧
      (queueItem item shard).queued.size = shard.queued.size + 1 := by
  have hfree : shard.queued[item.work.pair]? = none := by
    have hplaces := h.places item.work.pair
    rw [Std.ExtTreeMap.getElem?_eq_none hnew, here_of_not (by simp)] at hplaces
    unfold ShardState.occurrences at hplaces
    exact Std.ExtTreeMap.getElem?_eq_none (not_of_here_eq_zero (by omega))
  unfold queueItem
  rw [hlocal]
  refine ⟨{ h with
    places := fun p => ?_
    reserved := ?_
    budget := hbudget
    keys := fun p i hi => ?_ }, size_insert_new item hfree⟩
  · have hplaces := h.places p
    have hhere := here_mem_insert_new item hfree p
    have hone := getElem?_pairOwners_insert hnew k p k
    have hboth : here (item.work.pair = p ∧ k = k) = here (item.work.pair = p) := if_congr (by simp) rfl rfl
    unfold ShardState.occurrences at hplaces ⊢
    dsimp only
    omega
  · rw [h.reserved, ShardState.reservations, ShardState.reservations, sumValues_insert_new _ item hfree]
    ac_rfl
  · rcases getElem?_insert_eq_some.mp hi with ⟨hpair, rfl⟩ | ⟨-, hold⟩
    · exact hpair
    · exact h.keys p i hold

/-- An item that passed the checks gets its owner and its reservations. -/
theorem Inv.enqueue (h : Inv 0 [] c) (hk : c.shards[k]? = some shard) (hitem : c.Enqueueable shard item) :
    Inv 0 [] (DeterministicShardCoordinator.putShard k (queueItem item shard) (bindItem item k c)) := by
  have hglobal : c.globalReservedResources.checkedAdd item.resourceReservation =
      c.globalReservedResources + item.resourceReservation :=
    ShardResources.checkedAdd_eq (le_trans le_add_self hitem.globalBudget) h.globalLimit
  have hlocal : shard.reservedResources.checkedAdd item.resourceReservation =
      shard.reservedResources + item.resourceReservation :=
    ShardResources.checkedAdd_eq (le_trans le_add_self hitem.shardBudget) h.shardLimit
  obtain ⟨hok, hqueued⟩ := shardOk_queueItem ((h.retarget k).target hk) hitem.new hlocal hitem.shardBudget
  have howners := size_insert_new k (Std.ExtTreeMap.getElem?_eq_none hitem.new)
  unfold bindItem
  rw [hglobal]
  refine { h with
    shards := fun j => (h.retarget k).shards_insert hk _ j
    each := fun j other hj => ?_
    owners := fun p j hj => ?_
    globalReserved := eq_sumValues_insert h.globalReserved hk ?_
    globalUsed := eq_sumValues_insert h.globalUsed hk rfl
    globalBudget := hitem.globalBudget
    pairs := howners.trans_le hitem.pairs
    sequence := ?_ }
  · rw [handIn_nil]
    rcases getElem?_insert_eq_some.mp hj with ⟨rfl, rfl⟩ | ⟨hne, hj⟩
    · exact hok
    · exact shardOk_other ((h.retarget j).target hj) hitem.new hne
  · rcases getElem?_insert_eq_some.mp hj with ⟨-, rfl⟩ | ⟨-, hold⟩
    · exact (h.shards k).mp (mem_of_getElem? hk)
    · exact h.owners p j hold
  · rw [queueItem, hlocal]
    dsimp only [DeterministicShardCoordinator.putShard]
    ac_rfl
  · have hsequence := h.sequence
    have hreplace := sumValues_insert_replace (fun shard : ShardState => shard.queued.size) (queueItem item shard) hk
    dsimp only [DeterministicShardCoordinator.putShard] at hreplace ⊢
    omega

theorem enqueueable (h : Inv 0 [] c) {now : ℤ} (hpair : preflightPair item now c = .ok ())
    (hbudgets : preflightBudgets item shard c = .ok ()) : c.Enqueueable shard item := by
  simp only [preflightPair, do_eq_ok, not_le] at hpair
  simp only [preflightBudgets, do_eq_ok, Bool.not_eq_true] at hbudgets
  obtain ⟨-, hnew, hsize⟩ := hpair
  obtain ⟨-, hglobal, hshard⟩ := hbudgets
  exact ⟨hnew, hsize, ShardResources.add_le_of_not_exceeds h.globalLimit hglobal,
    ShardResources.add_le_of_not_exceeds h.shardLimit hshard⟩

theorem wp_enqueue (h : Inv 0 [] c) (item : ShardedWorkItem) (now : ℤ) :
    wp (enqueue item now) (fun _ c' => Inv 0 [] c') c := by
  refine wp_check_bind (fun _ _ => h) fun _ _ => ?_
  refine wp_check_bind (fun _ _ => h) fun _ _ => ?_
  refine wp_check_bind (fun _ _ => h) fun _ hpair => ?_
  refine wp_check_bind (fun _ _ => h) fun assignment _ => ?_
  refine wp_check_bind (fun _ _ => h) fun _ _ => ?_
  refine wp_shardOf (fun _ => h) fun shard hk => ?_
  refine wp_check_bind (fun _ _ => h) fun _ hbudgets => ?_
  rw [wp_bind, wp_modify, after, wp_bind]
  refine (wp_updateShard (by exact hk)).mpr ?_
  exact h.enqueue hk (enqueueable h hpair hbudgets)

/-! ## The emergency stop -/

/-- What has become of a shard: its work has failed. -/
structure Drained (shard shard' : ShardState) : Prop where
  queued : shard'.queued = ∅
  inFlight : shard'.inFlight = ∅
  failedQueued : ∀ p ∈ shard.queued, p ∈ shard'.failedPairs
  failedLeased : ∀ (id : String) state, shard.inFlight[id]? = some state → state.item.work.pair ∈ shard'.failedPairs

/-- Only shard `k` may have changed, besides the ledgers. -/
structure Elsewhere (k : ℕ) (c c' : DeterministicShardCoordinator) : Prop where
  limits : c'.limits = c.limits
  shards : ∀ j, j ≠ k → c'.shards[j]? = c.shards[j]?

theorem Elsewhere.trans {c c' c'' : DeterministicShardCoordinator} (h : Elsewhere k c c')
    (h' : Elsewhere k c' c'') : Elsewhere k c c'' :=
  ⟨h'.limits.trans h.limits, fun j hj => (h'.shards j hj).trans (h.shards j hj)⟩

section

variable (c : DeterministicShardCoordinator) (k : ℕ) (shard : ShardState)

theorem elsewhere_putShard : Elsewhere k c (putShard k shard c) :=
  ⟨rfl, fun _ hj => getElem?_insert_of_ne _ _ hj.symm⟩

theorem elsewhere_retired (item : ShardedWorkItem)
    (put : PairKey → ShardState → ShardState) : Elsewhere k c (retired k shard item put c) :=
  ⟨rfl, fun _ hj => getElem?_insert_of_ne _ _ hj.symm⟩

end

/-- The loop that fails the items in hand. -/
theorem wp_failAll {items : List ShardedWorkItem} (h : Inv k items c) (hk : c.shards[k]? = some shard) :
    wp (items.forM fun item => retire k item insertFailed) (fun r c' => r = .ok () ∧ Inv k [] c' ∧
      Elsewhere k c c' ∧ ∃ shard', c'.shards[k]? = some shard' ∧ shard'.queued = shard.queued ∧
        shard'.inFlight = shard.inFlight ∧ (∀ p ∈ shard.failedPairs, p ∈ shard'.failedPairs) ∧
        ∀ item ∈ items, item.work.pair ∈ shard'.failedPairs) c := by
  have hloop := wp_forM (f := fun item => retire k item insertFailed)
    (I := fun rest t => Inv k rest t ∧ Elsewhere k c t ∧ ∃ shard', t.shards[k]? = some shard' ∧
      shard'.queued = shard.queued ∧ shard'.inFlight = shard.inFlight ∧
      (∀ p ∈ shard.failedPairs, p ∈ shard'.failedPairs) ∧
      ∀ item ∈ items, item ∈ rest ∨ item.work.pair ∈ shard'.failedPairs) ?_
    (l := items) ⟨h, ⟨rfl, fun _ _ => rfl⟩, shard, hk, rfl, rfl, fun _ hp => hp, fun _ hi => .inl hi⟩
  · refine wp_mono hloop ?_
    rintro r t ⟨rfl, hinv, helse, shard', hk', hqueued, hleases, hfailed, hall⟩
    refine ⟨rfl, hinv, helse, shard', hk', hqueued, hleases, hfailed, fun item hitem => ?_⟩
    exact (hall item hitem).resolve_left List.not_mem_nil
  · rintro item rest t ⟨hinv, helse, shard', hk', hqueued, hleases, hfailed, hall⟩
    refine (wp_retire hk').mpr ⟨rfl, hinv.retired hk' final_insertFailed,
      helse.trans (elsewhere_retired _ _ _ _ _), _, getElem?_putShard _ _ _, hqueued, hleases,
      fun p hp => Std.ExtTreeSet.mem_insert.mpr (.inr (hfailed p hp)), fun other hother => ?_⟩
    rcases hall other hother with hrest | hdone
    · rcases List.mem_cons.mp hrest with rfl | hrest
      · exact .inr Std.ExtTreeSet.mem_insert_self
      · exact .inl hrest
    · exact .inr (Std.ExtTreeSet.mem_insert.mpr (.inr hdone))

theorem wp_takeQueue {post : Except ShardingError (BTreeMap PairKey ShardedWorkItem) →
    DeterministicShardCoordinator → Prop}
    (hk : c.shards[k]? = some shard) :
    wp (takeQueue k) post c ↔ post (.ok shard.queued) (putShard k { shard with queued := ∅ } c) := by
  rw [takeQueue, wp_bind, wp_check, shardOf, hk]
  exact Iff.rfl

theorem wp_takeLeases {post : Except ShardingError (BTreeMap String ShardLeaseState) →
    DeterministicShardCoordinator → Prop}
    (hk : c.shards[k]? = some shard) :
    wp (takeLeases k) post c ↔ post (.ok shard.inFlight) (putShard k { shard with inFlight := ∅ } c) := by
  rw [takeLeases, wp_bind, wp_check, shardOf, hk]
  exact Iff.rfl

/-- A stop empties the shard and touches no other. -/
theorem wp_drainShard (h : Inv k [] c) (hk : c.shards[k]? = some shard) :
    wp (drainShard k) (fun r c' => r = .ok () ∧ Inv k [] c' ∧ Elsewhere k c c' ∧
      ∃ shard', c'.shards[k]? = some shard' ∧ Drained shard shard') c := by
  have hqueue := (h.target hk).takeQueue
  rw [List.append_nil] at hqueue
  have hinv := h.putShard hk hqueue rfl rfl (Nat.zero_le _)
  rw [drainShard, wp_bind, wp_takeQueue hk, after, wp_bind]
  refine wp_mono (wp_failAll hinv (getElem?_putShard _ _ _)) ?_
  rintro r t ⟨rfl, hinv₁, helse₁, shard₁, hk₁, hqueued₁, hleases₁, -, hfailed₁⟩
  have hleases := (hinv₁.target hk₁).takeLeases
  rw [List.append_nil] at hleases
  have hinv₂ := hinv₁.putShard hk₁ hleases rfl rfl (Nat.le_refl _)
  rw [after, wp_bind, wp_takeLeases hk₁, after]
  have hmap : ((values shard₁.inFlight).forM fun state => retire k state.item insertFailed) =
      ((values shard₁.inFlight).map (·.item)).forM fun item => retire k item insertFailed := by
    induction values shard₁.inFlight with
    | nil => rfl
    | cons state rest ih =>
      show (retire k state.item insertFailed >>= fun _ => rest.forM _) = _
      rw [ih]
      rfl
  rw [hmap]
  refine wp_mono (wp_failAll hinv₂ (getElem?_putShard _ _ _)) ?_
  rintro r u ⟨rfl, hinv₃, helse₃, shard₃, hk₃, hqueued₃, hleases₃, hkept₃, hfailed₃⟩
  refine ⟨rfl, hinv₃, ((elsewhere_putShard _ _ _).trans helse₁).trans ((elsewhere_putShard _ _ _).trans helse₃),
    shard₃, hk₃, ?_⟩
  exact {
    queued := hqueued₃.trans hqueued₁
    inFlight := hleases₃
    failedQueued := fun p hp => by
      obtain ⟨item, hitem⟩ := exists_getElem?_of_mem hp
      have hfailed := hfailed₁ item (mem_values.mpr ⟨p, hitem⟩)
      rw [(h.target hk).keys p item hitem] at hfailed
      exact hkept₃ p hfailed
    failedLeased := fun id state hstate => by
      refine hfailed₃ state.item (List.mem_map.mpr ⟨state, ?_, rfl⟩)
      rw [hleases₁]
      exact mem_values.mpr ⟨id, hstate⟩ }

theorem wp_drainAll (h : Inv 0 [] c) :
    wp ((List.range c.limits.shardCount).forM drainShard) (fun r c' => r = .ok () ∧ Inv 0 [] c' ∧
      c'.limits = c.limits ∧ ∀ (j : ℕ) shard, c.shards[j]? = some shard →
        ∃ shard', c'.shards[j]? = some shard' ∧ Drained shard shard') c := by
  have hloop := wp_forM (f := drainShard)
    (I := fun rest t => Inv 0 [] t ∧ t.limits = c.limits ∧ rest.Nodup ∧
      (∀ j ∈ rest, t.shards[j]? = c.shards[j]?) ∧ (∀ j ∈ rest, j < c.limits.shardCount) ∧
      ∀ (j : ℕ) shard, c.shards[j]? = some shard → j ∉ rest → ∃ shard', t.shards[j]? = some shard' ∧
        Drained shard shard')
    ?_ (l := List.range c.limits.shardCount) (s := c)
    ⟨h, rfl, List.nodup_range, fun _ _ => rfl, fun j hj => List.mem_range.mp hj, fun j shard hj hnot => ?_⟩
  · refine wp_mono hloop ?_
    rintro r t ⟨rfl, hinv, hlimits, -, -, -, hdrained⟩
    exact ⟨rfl, hinv, hlimits, fun j shard hj => hdrained j shard hj List.not_mem_nil⟩
  · rintro j rest t ⟨hinv, hlimits, hnodup, hsame, hrange, hdrained⟩
    obtain ⟨hnotin, hnodup⟩ := List.nodup_cons.mp hnodup
    obtain ⟨shard, hj⟩ := exists_getElem?_of_mem ((h.shards j).mpr (hrange j List.mem_cons_self))
    have hjt := (hsame j List.mem_cons_self).trans hj
    refine wp_mono (wp_drainShard (hinv.retarget j) hjt) ?_
    rintro r u ⟨rfl, hinv', helse, shard', hju, hdone⟩
    refine ⟨rfl, hinv'.retarget 0, helse.limits.trans hlimits, hnodup, fun i hi => ?_,
      fun i hi => hrange i (List.mem_cons_of_mem _ hi), fun i other hi hnot => ?_⟩
    · have hne : i ≠ j := by
        rintro rfl
        exact hnotin hi
      rw [helse.shards i hne]
      exact hsame i (List.mem_cons_of_mem _ hi)
    · by_cases hij : i = j
      · subst hij
        obtain rfl := Option.some.inj (hj.symm.trans hi)
        exact ⟨shard', hju, hdone⟩
      · obtain ⟨other', hother, hdrain⟩ := hdrained i other hi (fun hmem => (List.mem_cons.mp hmem).elim hij hnot)
        exact ⟨other', (helse.shards i hij).trans hother, hdrain⟩
  · exact absurd (List.mem_range.mpr ((h.shards j).mp (mem_of_getElem? hj))) hnot

theorem Inv.stop (h : Inv 0 [] c) (reason : RunStopReason) : Inv 0 [] { c with stopReason := some reason } := { h with }

theorem wp_emergencyStop (h : Inv 0 [] c) : wp emergencyStop (fun _ c' => Inv 0 [] c') c := by
  refine wp_check_bind (fun _ _ => h) fun _ _ => ?_
  rw [wp_bind, wp_get, after, wp_bind]
  refine wp_mono (wp_drainAll h) ?_
  rintro r t ⟨rfl, hinv, -⟩
  exact hinv.stop _

/-- **Every call keeps the invariant.** -/
theorem Inv.step (h : Inv 0 [] c) {call : ShardingCall} {r : Except ShardingError ShardingReply}
    {c' : DeterministicShardCoordinator} (hstep : step c call = some (r, c')) : Inv 0 [] c' := by
  -- a reply is built after the method, and changes nothing
  have hreply : ∀ {α : Type} {p : ShardingMethod α} {f : α → ShardingReply},
      wp p (fun _ t => Inv 0 [] t) c → wp (p >>= fun a => pure (f a)) (fun _ t => Inv 0 [] t) c := by
    intro α p f hp
    rw [wp_bind]
    refine wp_mono hp ?_
    rintro (e | a) t ht
    · exact ht
    · exact ht
  have hall : wp call.method (fun _ t => Inv 0 [] t) c := by
    cases call with
    | enqueue item now => exact hreply (wp_enqueue h item now)
    | leaseNext shardId now => exact hreply (wp_leaseNext h now)
    | completeLease shardId leaseId result now => exact hreply (wp_completeLease h leaseId result now)
    | failLease shardId leaseId now => exact hreply (wp_failLease h leaseId now)
    | expire now => exact hreply (wp_expire h now)
    | applyRunStop reason => exact hreply (wp_check_bind (fun _ _ => h) fun _ _ => h.stop reason)
    | emergencyStop => exact hreply (wp_emergencyStop h)
  have hcall : call.method c = (r, c') := Option.some.inj hstep
  rw [wp, hcall] at hall
  exact hall

end Steps

/-! ## Runs -/

/-- The invariant holds in every run. -/
theorem inv_of_run {limits : ShardLimits} {run : String} {c₀ : DeterministicShardCoordinator}
    {es : List (Event DeterministicShardCoordinator ShardingCall (Except ShardingError ShardingReply))}
    (hnew : new limits run = .ok c₀) (hrun : Run step c₀ es c) : Inv 0 [] c :=
  hrun.invariant (fun _ c => Inv 0 [] c) (inv_new hnew) fun _ _ _ _ _ _ h hstep => h.step hstep

/-- The accounts of a coordinator: an owned pair is in one collection of its owner's shard and in no
collection of another shard, and the two ledgers agree and stay within their budgets. -/
structure Accounts (c : DeterministicShardCoordinator) : Prop where
  owned : ∀ (p : PairKey) owner, c.pairOwners[p]? = some owner → ∃ shard,
    c.shards[owner]? = some shard ∧ shard.occurrences p = 1
  elsewhere : ∀ (p : PairKey) (k : ℕ) shard, c.shards[k]? = some shard → c.pairOwners[p]? ≠ some k →
    shard.occurrences p = 0
  reserved : ∀ (k : ℕ) shard, c.shards[k]? = some shard → shard.reservedResources = shard.reservations
  globalReserved : c.globalReservedResources = sumValues (fun shard : ShardState => shard.reservedResources) c.shards
  globalUsed : c.globalUsedResources = sumValues (fun shard : ShardState => shard.usedResources) c.shards
  globalBudget : c.globalUsedResources + c.globalReservedResources ≤ c.limits.globalResourceBudget
  shardBudget : ∀ (k : ℕ) shard, c.shards[k]? = some shard →
    shard.usedResources + shard.reservedResources ≤ c.limits.perShardResourceBudget
  inFlight : ∀ (k : ℕ) shard, c.shards[k]? = some shard → shard.inFlight.size ≤ c.limits.maximumInFlightPerShard

/-- **The coordinator's accounts** hold in every reachable state. -/
theorem coordinator_accounts {limits : ShardLimits} {run : String} {c₀ c : DeterministicShardCoordinator}
    {es : List (Event DeterministicShardCoordinator ShardingCall (Except ShardingError ShardingReply))}
    (hnew : new limits run = .ok c₀) (hrun : Run step c₀ es c) : Accounts c := by
  have h := inv_of_run hnew hrun
  have heach : ∀ {k : ℕ} {shard : ShardState}, c.shards[k]? = some shard →
      ShardOk c.limits c.nextLeaseSequence c.pairOwners k [] shard := fun {k} {_} hk => (h.retarget k).target hk
  exact {
    owned := fun p owner howner => by
      obtain ⟨shard, hk⟩ := exists_getElem?_of_mem ((h.shards owner).mpr (h.owners p owner howner))
      have hplaces := (heach hk).places p
      rw [here_of howner] at hplaces
      exact ⟨shard, hk, hplaces⟩
    elsewhere := fun p k shard hk hnot => by
      have hplaces := (heach hk).places p
      rw [here_of_not hnot] at hplaces
      exact hplaces
    reserved := fun k shard hk => by
      rw [(heach hk).reserved]
      exact add_zero _
    globalReserved := h.globalReserved
    globalUsed := h.globalUsed
    globalBudget := h.globalBudget
    shardBudget := fun k shard hk => (heach hk).budget
    inFlight := fun k shard hk => (heach hk).inFlight }

def exampleCoordinator : DeterministicShardCoordinator :=
  unwrap (new ⟨1, 4, 4, 2, 60, fun _ => 100, fun _ => 100⟩ (digestOf '0')) (by decide +kernel)

def exampleShardedItem : ShardedWorkItem where
  originSha256 := digestOf '1'
  sessionPartitionSha256 := digestOf '2'
  credentialPartitionSha256 := digestOf '3'
  work := {
    pair := ⟨digestOf '4', "rule"⟩
    planSha256 := digestOf 'a'
    capabilitySha256 := digestOf 'b'
    authorizationSha256 := digestOf 'c'
    authorizationExpiresAtEpochSeconds := 1000
    estimatedRequests := 3
    estimatedMutations := 1
    estimatedCostUnits := 5
    itemPriorityWeight := 1 }
  resourceReservation := fun _ => 5

/-- An item and a lease on it. -/
def exampleShardingCalls : List ShardingCall := [.enqueue exampleShardedItem 10, .leaseNext 0 20]

theorem coordinator_accounts_example : ∃ es c, Run step exampleCoordinator es c ∧
    c.shards[0]?.map (·.inFlight.size) = some 1 ∧ Accounts c := by
  have hcalls : (runCalls step exampleCoordinator exampleShardingCalls).map
      (fun run => run.2.shards[0]?.map (·.inFlight.size)) = some (some 1) := by
    decide +kernel
  obtain ⟨es, c, hrun, hobserved⟩ := exists_run_of_map_runCalls hcalls
  exact ⟨es, c, hrun, hobserved, coordinator_accounts (eq_ok_unwrap _ _) hrun⟩

/-- An emergency stop that takes effect: nothing is queued or leased any more, nothing is reserved,
what was queued or leased has failed, and the reason is recorded. -/
def StopTakesEffect (c : DeterministicShardCoordinator) : Prop :=
  ∃ c', emergencyStop c = (.ok (), c') ∧
    (∀ (k : ℕ) shard', c'.shards[k]? = some shard' →
      shard'.queued = ∅ ∧ shard'.inFlight = ∅ ∧ shard'.reservedResources = 0) ∧
    c'.globalReservedResources = 0 ∧
    (∀ (k : ℕ) shard, c.shards[k]? = some shard → ∃ shard', c'.shards[k]? = some shard' ∧ Drained shard shard') ∧
    c'.stopReason = some .emergencyStop

theorem stopTakesEffect_of_running (h : Inv 0 [] c) (hrunning : c.stopReason = none) : StopTakesEffect c := by
  have hwp : wp emergencyStop (fun r c' => r = .ok () ∧ Inv 0 [] c' ∧ c'.limits = c.limits ∧
      (∀ (j : ℕ) shard, c.shards[j]? = some shard → ∃ shard', c'.shards[j]? = some shard' ∧ Drained shard shard') ∧
      c'.stopReason = some .emergencyStop) c := by
    refine wp_check_bind (fun e he => ?_) fun _ _ => ?_
    · rw [ensureRunning, hrunning] at he
      cases he
    · rw [wp_bind, wp_get, after, wp_bind]
      refine wp_mono (wp_drainAll h) ?_
      rintro r t ⟨rfl, hinv, hlimits, hdrained⟩
      exact ⟨rfl, hinv.stop _, hlimits, hdrained, rfl⟩
  obtain ⟨hresult, hinv, hlimits, hdrained, hreason⟩ := hwp
  generalize hafter : (emergencyStop c).2 = c' at hinv hlimits hdrained hreason
  have hempty : ∀ (k : ℕ) shard', c'.shards[k]? = some shard' →
      shard'.queued = ∅ ∧ shard'.inFlight = ∅ ∧ shard'.reservedResources = 0 := by
    intro k shard' hk'
    have hmem : k ∈ c.shards := by
      rw [h.shards k, ← hlimits, ← hinv.shards k]
      exact mem_of_getElem? hk'
    obtain ⟨shard, hk⟩ := exists_getElem?_of_mem hmem
    obtain ⟨drained, hdrainedk, hdone⟩ := hdrained k shard hk
    obtain rfl := Option.some.inj (hk'.symm.trans hdrainedk)
    refine ⟨hdone.queued, hdone.inFlight, ?_⟩
    rw [((hinv.retarget k).target hk').reserved, ShardState.reservations, hdone.queued, hdone.inFlight]
    rfl
  refine ⟨c', Prod.ext hresult hafter, hempty, ?_, hdrained, hreason⟩
  rw [hinv.globalReserved]
  exact sumValues_eq_zero fun k shard' hk' => (hempty k shard' hk').2.2

/-- A second stop changes nothing. -/
theorem emergencyStop_of_stopped {reason : RunStopReason} (hstopped : c.stopReason = some reason) :
    emergencyStop c = (.error (.runStopped reason), c) := by
  have hwp : wp emergencyStop (fun r c' => (r, c') = (.error (.runStopped reason), c)) c := by
    refine wp_check_bind (fun e he => ?_) fun _ hok => ?_
    · rw [ensureRunning, hstopped] at he
      rw [← Except.error.inj he]
    · rw [ensureRunning, hstopped] at hok
      cases hok
  exact hwp

/-- **The emergency stop** takes effect in a reachable state exactly when no stop is recorded yet.
-/
theorem emergencyStop_iff {limits : ShardLimits} {run : String} {c₀ c : DeterministicShardCoordinator}
    {es : List (Event DeterministicShardCoordinator ShardingCall (Except ShardingError ShardingReply))}
    (hnew : new limits run = .ok c₀) (hrun : Run step c₀ es c) : StopTakesEffect c ↔ c.stopReason = none := by
  constructor
  · rintro ⟨c', hstop, -⟩
    cases hreason : c.stopReason with
    | none => rfl
    | some reason =>
      rw [emergencyStop_of_stopped hreason] at hstop
      cases hstop
  · exact stopTakesEffect_of_running (inv_of_run hnew hrun)

theorem emergencyStop_iff_example : ∃ es c, Run step exampleCoordinator es c ∧
    c.shards[0]?.map (·.inFlight.size) = some 1 ∧ StopTakesEffect c := by
  have hcalls : (runCalls step exampleCoordinator exampleShardingCalls).map
      (fun run => (run.2.stopReason, run.2.shards[0]?.map (·.inFlight.size))) = some (none, some 1) := by
    decide +kernel
  obtain ⟨es, c, hrun, hobserved⟩ := exists_run_of_map_runCalls hcalls
  obtain ⟨hreason, hleases⟩ := Prod.mk.inj hobserved
  exact ⟨es, c, hrun, hleases, (emergencyStop_iff (eq_ok_unwrap _ _) hrun).mpr hreason⟩

/-- After another stop, with a lease outstanding, the emergency stop is refused. -/
theorem emergencyStop_refused_example : ∃ limits run c₀ es c, new limits run = .ok c₀ ∧ Run step c₀ es c ∧
    c.stopReason = some .cancelled ∧ c.shards[0]?.map (·.inFlight.size) = some 1 ∧ ¬ StopTakesEffect c := by
  have hcalls : (runCalls step exampleCoordinator (exampleShardingCalls ++ [.applyRunStop .cancelled])).map
      (fun run => (run.2.stopReason, run.2.shards[0]?.map (·.inFlight.size))) = some (some .cancelled, some 1) := by
    decide +kernel
  obtain ⟨es, c, hrun, hobserved⟩ := exists_run_of_map_runCalls hcalls
  obtain ⟨hreason, hleases⟩ := Prod.mk.inj hobserved
  refine ⟨_, _, exampleCoordinator, es, c, eq_ok_unwrap _ _, hrun, hreason, hleases, ?_⟩
  rintro ⟨c', hstop, -⟩
  rw [emergencyStop_of_stopped hreason] at hstop
  cases hstop

end DeterministicShardCoordinator

end BoundSeal.Analyzers
