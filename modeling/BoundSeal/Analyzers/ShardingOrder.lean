import BoundSeal.Analyzers.ShardingRuns

/-!
# Sharded admission does not depend on the order

`enqueue` looks at what has been enqueued before: the owners, the bindings of the
origins, the number of pairs and the reservations, globally and in the shard. All
of these only grow, and two items leave the same coordinator in either order.
-/

namespace BoundSeal.Analyzers

open Rust Lib
open Std (ExtTreeMap)

namespace ShardResources

theorem checkedAdd_right_comm (r a b : ShardResources) :
    (r.checkedAdd a).checkedAdd b = (r.checkedAdd b).checkedAdd a := by
  funext i
  simp only [checkedAdd, saturatingAdd]
  omega

theorem exceeds_eq_false {r budget : ShardResources} : r.exceeds budget = false ↔ ∀ i, r i ≤ budget i := by
  rw [exceeds, decide_eq_false_iff_not, not_exists]
  exact forall_congr' fun i => not_lt

variable {used reserved a b budget : ShardResources}
  (h : ((used.checkedAdd (reserved.checkedAdd a)).checkedAdd b).exceeds budget = false)

include h

/-- A test that lets an amount through after another one has let it through before. -/
theorem not_exceeds_before : ((used.checkedAdd reserved).checkedAdd b).exceeds budget = false := by
  rw [exceeds_eq_false] at h ⊢
  intro i
  have hi := h i
  simp only [checkedAdd, saturatingAdd] at hi ⊢
  omega

/-- A test after another amount sees both of them. -/
theorem not_exceeds_swap :
    ((used.checkedAdd (reserved.checkedAdd b)).checkedAdd a).exceeds budget = false := by
  rw [exceeds_eq_false] at h ⊢
  intro i
  have hi := h i
  simp only [checkedAdd, saturatingAdd] at hi ⊢
  omega

end ShardResources

namespace DeterministicShardCoordinator

def bindingOf (item : ShardedWorkItem) (shardId : ℕ) : OriginBinding :=
  ⟨shardId, item.sessionPartitionSha256, item.credentialPartitionSha256⟩

/-- Everything `enqueue` checks. -/
structure Fits (now : ℤ) (item : ShardedWorkItem) (assignment : ShardAssignment)
    (shard : ShardState) (c : DeterministicShardCoordinator) : Prop where
  running : c.ensureRunning = .ok ()
  valid : item.validate = .ok ()
  unexpired : now < item.work.authorizationExpiresAtEpochSeconds
  new : item.work.pair ∉ c.pairOwners
  pairs : c.pairOwners.size < c.limits.maximumGlobalPairs
  assigned : c.assignmentForOrigin item.originSha256 item.work.pair = .ok assignment
  origin : ∀ binding, c.originBindings[item.originSha256]? = some binding →
    binding = bindingOf item assignment.shardId
  lookup : c.shards[assignment.shardId]? = some shard
  room : knownInShard shard < c.limits.maximumPairsPerShard
  globalBudget : ((c.globalUsedResources.checkedAdd c.globalReservedResources).checkedAdd
    item.resourceReservation).exceeds c.limits.globalResourceBudget = false
  shardBudget : ((shard.usedResources.checkedAdd shard.reservedResources).checkedAdd
    item.resourceReservation).exceeds c.limits.perShardResourceBudget = false

/-- The coordinator after an item has been enqueued. -/
def admitted (item : ShardedWorkItem) (k : ℕ) (shard : ShardState)
    (c : DeterministicShardCoordinator) : DeterministicShardCoordinator :=
  putShard k (queueItem item shard) (bindItem item k c)

variable {item : ShardedWorkItem} {c : DeterministicShardCoordinator}

theorem conflicts_eq_false {k : ℕ} {binding : OriginBinding} :
    conflicts item k binding = false ↔ binding = bindingOf item k := by
  obtain ⟨shardId, session, credential⟩ := binding
  simp [conflicts, bindingOf, and_assoc]

theorem preflightOrigin_eq_ok {k : ℕ} : preflightOrigin item k c = .ok () ↔
      ∀ binding, c.originBindings[item.originSha256]? = some binding → binding = bindingOf item k := by
  rw [preflightOrigin, failIf_eq_ok, Bool.not_eq_true]
  cases c.originBindings[item.originSha256]? with
  | none => simp
  | some binding => simp [conflicts_eq_false]

theorem enqueue_eq_ok {now : ℤ} {assignment : ShardAssignment}
    {c' : DeterministicShardCoordinator} : enqueue item now c = (.ok assignment, c') ↔
      ∃ shard, Fits now item assignment shard c ∧ c' = admitted item assignment.shardId shard c := by
  have hupdate : ∀ {shard : ShardState} {t u : DeterministicShardCoordinator} {v : Unit},
      c.shards[assignment.shardId]? = some shard → t = bindItem item assignment.shardId c →
      (updateShard assignment.shardId (queueItem item) t = (.ok v, u) ↔
        u = admitted item assignment.shardId shard c) := by
    rintro shard t u v hshard rfl
    have hk : (bindItem item assignment.shardId c).shards[assignment.shardId]? = some shard := hshard
    rw [updateShard, Method.bind_eq_ok]
    simp only [Method.check_eq_ok, shardOf, okOr_eq_ok, hk, Method.modify_eq_ok]
    constructor
    · rintro ⟨_, _, ⟨⟨rfl⟩, rfl⟩, rfl⟩
      rfl
    · rintro rfl
      exact ⟨shard, _, ⟨rfl, rfl⟩, rfl⟩
  rw [enqueue]
  simp only [Method.ofExcept, Method.bind_eq_ok, Method.check_eq_ok, Method.modify_eq_ok, Method.pure_eq_ok]
  constructor
  · rintro ⟨_, _, ⟨hrunning, rfl⟩, _, _, ⟨hvalid, rfl⟩, _, _, ⟨hpair, rfl⟩, a, _, ⟨hassigned, rfl⟩, _, _,
      ⟨horigin, rfl⟩, shard, _, ⟨hshard, rfl⟩, _, _, ⟨hbudgets, rfl⟩, _, t, ht, _, u, hu, rfl, rfl⟩
    rw [shardOf, okOr_eq_ok] at hshard
    simp only [preflightPair, do_eq_ok, not_le] at hpair
    simp only [preflightBudgets, do_eq_ok, Bool.not_eq_true, not_le] at hbudgets
    obtain ⟨hunexpired, hnew, hpairs⟩ := hpair
    obtain ⟨hroom, hglobal, hlocal⟩ := hbudgets
    exact ⟨shard, ⟨hrunning, hvalid, hunexpired, hnew, hpairs, hassigned,
      preflightOrigin_eq_ok.mp horigin, hshard, hroom, hglobal, hlocal⟩, (hupdate hshard ht).mp hu⟩
  · rintro ⟨shard, h, rfl⟩
    have hpair : preflightPair item now c = .ok () := by
      simp only [preflightPair, do_eq_ok, not_le]
      exact ⟨h.unexpired, h.new, h.pairs⟩
    have hbudgets : preflightBudgets item shard c = .ok () := by
      simp only [preflightBudgets, do_eq_ok, Bool.not_eq_true, not_le]
      exact ⟨h.room, h.globalBudget, h.shardBudget⟩
    exact ⟨(), c, ⟨h.running, rfl⟩, (), c, ⟨h.valid, rfl⟩, (), c, ⟨hpair, rfl⟩, assignment, c, ⟨h.assigned, rfl⟩, (), c,
      ⟨preflightOrigin_eq_ok.mpr h.origin, rfl⟩, shard, c, ⟨by rw [shardOf, h.lookup]; rfl, rfl⟩,
      (), c, ⟨hbudgets, rfl⟩,
      (), _, rfl, (), _, (hupdate h.lookup rfl).mpr rfl, rfl, rfl⟩

def QueuesOwned (c : DeterministicShardCoordinator) : Prop :=
  ∀ (k : ℕ) shard, c.shards[k]? = some shard → ∀ pair : PairKey, pair ∈ shard.queued → pair ∈ c.pairOwners

theorem QueuesOwned.admitted {k : ℕ} {shard : ShardState} (h : QueuesOwned c) (hshard : c.shards[k]? = some shard) :
    QueuesOwned (DeterministicShardCoordinator.admitted item k shard c) := by
  intro j shard' hj pair hpair
  refine ExtTreeMap.mem_insert.mpr ?_
  by_cases hsame : k = j
  · subst hsame
    obtain rfl := Option.some.inj ((getElem?_insert_self _ _ _).symm.trans hj)
    rcases ExtTreeMap.mem_insert.mp hpair with hnew | hold
    · exact .inl hnew
    · exact .inr (h k shard hshard pair hold)
  · exact .inr (h j shard' ((getElem?_insert_of_ne _ _ hsame).symm.trans hj) pair hpair)

/-! ## Two items -/

section Swap

variable {now : ℤ} {a b : ShardedWorkItem} {x y : ShardAssignment} {s s' : ShardState}
  {c : DeterministicShardCoordinator}

theorem insertIfNew_comm (m : BTreeMap String OriginBinding) {k k' : String} {v v' : OriginBinding}
    (h : k = k' → k ∉ m → v = v') : (m.insertIfNew k v).insertIfNew k' v' = (m.insertIfNew k' v').insertIfNew k v := by
  refine ExtTreeMap.ext_getElem? fun j => ?_
  simp only [ExtTreeMap.getElem?_insertIfNew, ExtTreeMap.mem_insertIfNew, Std.LawfulEqOrd.compare_eq_iff_eq]
  by_cases hj : k = j
  · subst hj
    by_cases hj' : k' = k
    · subst hj'
      by_cases hm : k' ∈ m
      · simp [hm]
      · simp [hm, h rfl hm]
    · by_cases hm : k ∈ m
      · simp [hj', hm, Ne.symm hj']
      · simp [hj', hm, Ne.symm hj']
  · by_cases hj' : k' = j
    · subst hj'
      simp [hj]
    · simp [hj, hj']

theorem queueItem_comm (h : a.work.pair ≠ b.work.pair) (shard : ShardState) :
    queueItem b (queueItem a shard) = queueItem a (queueItem b shard) := by
  simp only [queueItem, ShardResources.checkedAdd_right_comm shard.reservedResources a.resourceReservation,
    insert_comm_of_ne shard.queued h]

theorem knownInShard_queueItem (shard : ShardState) (item : ShardedWorkItem) :
    knownInShard shard ≤ knownInShard (queueItem item shard) := by
  have hsize : shard.queued.size ≤ (shard.queued.insert item.work.pair item).size := ExtTreeMap.size_le_size_insert
  unfold knownInShard queueItem
  dsimp only
  omega

theorem knownInShard_queueItem_new {shard : ShardState} {item : ShardedWorkItem} (h : item.work.pair ∉ shard.queued) :
    knownInShard (queueItem item shard) = knownInShard shard + 1 := by
  have hsize := size_insert_new item (ExtTreeMap.getElem?_eq_none h)
  unfold knownInShard queueItem
  dsimp only
  omega

theorem pair_ne_of_fits (hb : Fits now b y s' (admitted a x.shardId s c)) : a.work.pair ≠ b.work.pair := by
  intro heq
  refine hb.new ?_
  rw [← heq]
  exact ExtTreeMap.mem_insert_self

theorem queued_of_same (hb : Fits now b y s' (admitted a x.shardId s c))
    (hsame : x.shardId = y.shardId) : s' = queueItem a s := by
  have hlookup := hb.lookup
  rw [← hsame] at hlookup
  exact (Option.some.inj ((getElem?_insert_self _ _ _).symm.trans hlookup)).symm

/-- The shard of an item before another one was enqueued. -/
def shardBefore (k : ℕ) (s : ShardState) (k' : ℕ) (s' : ShardState) : ShardState := if k = k' then s else s'

theorem Fits.first (ha : Fits now a x s c) (hb : Fits now b y s' (admitted a x.shardId s c)) :
    Fits now b y (shardBefore x.shardId s y.shardId s') c := by
  have hpairs := hb.pairs
  have hsize : c.pairOwners.size ≤ (c.pairOwners.insert a.work.pair x.shardId).size :=
    ExtTreeMap.size_le_size_insert
  have hshard : c.shards[y.shardId]? = some (shardBefore x.shardId s y.shardId s') ∧
      knownInShard (shardBefore x.shardId s y.shardId s') ≤ knownInShard s' ∧
      (((shardBefore x.shardId s y.shardId s').usedResources.checkedAdd
        (shardBefore x.shardId s y.shardId s').reservedResources).checkedAdd
          b.resourceReservation).exceeds c.limits.perShardResourceBudget = false := by
    unfold shardBefore
    by_cases hsame : x.shardId = y.shardId
    · rw [if_pos hsame]
      have hs' := queued_of_same hb hsame
      refine ⟨hsame ▸ ha.lookup, ?_, ?_⟩
      · rw [hs']
        exact knownInShard_queueItem s a
      · have hbudget := hb.shardBudget
        rw [hs'] at hbudget
        exact ShardResources.not_exceeds_before hbudget
    · rw [if_neg hsame]
      exact ⟨(getElem?_insert_of_ne _ _ hsame).symm.trans hb.lookup, Nat.le_refl _, hb.shardBudget⟩
  exact {
    running := ha.running
    valid := hb.valid
    unexpired := hb.unexpired
    new := fun hmem => hb.new (ExtTreeMap.mem_insert.mpr (.inr hmem))
    pairs := lt_of_le_of_lt hsize hpairs
    assigned := hb.assigned
    origin := fun binding hbinding => by
      refine hb.origin binding ?_
      show (c.originBindings.insertIfNew _ _)[b.originSha256]? = some binding
      have hmem : b.originSha256 ∈ c.originBindings := by
        rw [ExtTreeMap.mem_iff_isSome_getElem?, hbinding]
        rfl
      rw [ExtTreeMap.getElem?_insertIfNew, if_neg, hbinding]
      rintro ⟨hcmp, hnot⟩
      rw [Std.LawfulEqOrd.eq_of_compare hcmp] at hnot
      exact hnot hmem
    lookup := hshard.1
    room := lt_of_le_of_lt hshard.2.1 hb.room
    globalBudget := ShardResources.not_exceeds_before hb.globalBudget
    shardBudget := hshard.2.2 }

theorem binding_eq (hb : Fits now b y s' (admitted a x.shardId s c))
    (horigin : a.originSha256 = b.originSha256) (hnew : a.originSha256 ∉ c.originBindings) :
    bindingOf a x.shardId = bindingOf b y.shardId := by
  refine hb.origin _ ?_
  show (c.originBindings.insertIfNew _ _)[b.originSha256]? = _
  rw [ExtTreeMap.getElem?_insertIfNew, if_pos]
  · rfl
  · rw [horigin]
    exact ⟨Std.ReflOrd.compare_self, horigin ▸ hnew⟩

theorem Fits.second (howned : QueuesOwned c) (ha : Fits now a x s c) (hb : Fits now b y s' (admitted a x.shardId s c)) :
    Fits now a x (if x.shardId = y.shardId then queueItem b s else s)
      (admitted b y.shardId (shardBefore x.shardId s y.shardId s') c) := by
  have hne := pair_ne_of_fits hb
  have hpairs : (c.pairOwners.insert a.work.pair x.shardId).size < c.limits.maximumGlobalPairs := hb.pairs
  rw [size_insert_new _ (ExtTreeMap.getElem?_eq_none ha.new)] at hpairs
  have hbfree := (ha.first hb).new
  have hshard : (admitted b y.shardId (shardBefore x.shardId s y.shardId s') c).shards[x.shardId]? =
      some (if x.shardId = y.shardId then queueItem b s else s) ∧
      knownInShard (if x.shardId = y.shardId then queueItem b s else s) < c.limits.maximumPairsPerShard ∧
      (((if x.shardId = y.shardId then queueItem b s else s).usedResources.checkedAdd
        (if x.shardId = y.shardId then queueItem b s else s).reservedResources).checkedAdd
          a.resourceReservation).exceeds c.limits.perShardResourceBudget = false := by
    by_cases hsame : x.shardId = y.shardId
    · have hs' := queued_of_same hb hsame
      rw [if_pos hsame, shardBefore, if_pos hsame, hsame]
      refine ⟨getElem?_insert_self _ _ _, ?_, ?_⟩
      · have hroom := hb.room
        rw [hs'] at hroom
        -- neither pair has an owner yet, so either item makes the queue one longer
        rw [knownInShard_queueItem_new fun hmem => hbfree (howned _ _ ha.lookup _ hmem)]
        rwa [knownInShard_queueItem_new fun hmem => ha.new (howned _ _ ha.lookup _ hmem)] at hroom
      · have hbudget := hb.shardBudget
        rw [hs'] at hbudget
        exact ShardResources.not_exceeds_swap hbudget
    · rw [if_neg hsame]
      exact ⟨(getElem?_insert_of_ne _ _ (Ne.symm hsame)).trans ha.lookup, ha.room, ha.shardBudget⟩
  exact {
    running := ha.running
    valid := ha.valid
    unexpired := ha.unexpired
    new := fun hmem => by
      rcases ExtTreeMap.mem_insert.mp hmem with hcmp | hold
      · exact hne (Std.LawfulEqOrd.eq_of_compare hcmp).symm
      · exact ha.new hold
    pairs := by
      show (c.pairOwners.insert b.work.pair y.shardId).size < c.limits.maximumGlobalPairs
      rw [size_insert_new _ (ExtTreeMap.getElem?_eq_none hbfree)]
      exact hpairs
    assigned := ha.assigned
    origin := fun binding hbinding => by
      have hbinding : (c.originBindings.insertIfNew b.originSha256 (bindingOf b y.shardId))[a.originSha256]? =
        some binding := hbinding
      rw [ExtTreeMap.getElem?_insertIfNew] at hbinding
      split at hbinding
      · next hcond =>
        have horigin := Std.LawfulEqOrd.eq_of_compare hcond.1
        rw [← Option.some.inj hbinding]
        exact (binding_eq hb horigin.symm (horigin ▸ hcond.2)).symm
      · exact ha.origin binding hbinding
    lookup := hshard.1
    room := hshard.2.1
    globalBudget := ShardResources.not_exceeds_swap hb.globalBudget
    shardBudget := hshard.2.2 }

/-- Either order leaves the same coordinator. -/
theorem admitted_comm (hb : Fits now b y s' (admitted a x.shardId s c)) :
    admitted a x.shardId (if x.shardId = y.shardId then queueItem b s else s)
        (admitted b y.shardId (shardBefore x.shardId s y.shardId s') c) =
      admitted b y.shardId s' (admitted a x.shardId s c) := by
  have hne := pair_ne_of_fits hb
  have hbindings := insertIfNew_comm c.originBindings (binding_eq hb)
  have hreserved := ShardResources.checkedAdd_right_comm c.globalReservedResources a.resourceReservation
    b.resourceReservation
  have hshards : (c.shards.insert y.shardId (queueItem b (shardBefore x.shardId s y.shardId s'))).insert x.shardId
      (queueItem a (if x.shardId = y.shardId then queueItem b s else s)) =
      (c.shards.insert x.shardId (queueItem a s)).insert y.shardId (queueItem b s') := by
    unfold shardBefore
    by_cases hsame : x.shardId = y.shardId
    · have hs' := queued_of_same hb hsame
      rw [if_pos hsame, if_pos hsame, hs', ← hsame, insert_insert_self, insert_insert_self, queueItem_comm hne]
    · rw [if_neg hsame, if_neg hsame, insert_comm_of_ne _ hsame]
  unfold bindingOf at hbindings
  unfold admitted putShard bindItem
  dsimp only
  rw [hshards, hbindings, hreserved, insert_comm_of_ne _ hne]

/-- Two items that fit one after the other can be enqueued in the other order. -/
theorem enqueue_swap {t u : DeterministicShardCoordinator} (howned : QueuesOwned c) (ha : enqueue a now c = (.ok x, t))
    (hb : enqueue b now t = (.ok y, u)) : ∃ t', enqueue b now c = (.ok y, t') ∧ enqueue a now t' = (.ok x, u) := by
  obtain ⟨s, hfits, rfl⟩ := enqueue_eq_ok.mp ha
  obtain ⟨s', hfits', rfl⟩ := enqueue_eq_ok.mp hb
  refine ⟨_, enqueue_eq_ok.mpr ⟨_, hfits.first hfits', rfl⟩, enqueue_eq_ok.mpr ⟨_, hfits.second howned hfits', ?_⟩⟩
  exact (admitted_comm hfits').symm

end Swap

/-! ## Lists of items -/

/-- The items are enqueued one after the other at one time, until one is refused. -/
def enqueueAll (items : List ShardedWorkItem) (now : ℤ) :
    ShardingMethod (List ShardAssignment) := items.mapM (enqueue · now)

theorem queuesOwned_new {limits : ShardLimits} {run : String} (hnew : new limits run = .ok c) : QueuesOwned c := by
  simp only [new, do_eq_ok] at hnew
  obtain ⟨_, -, _, -, rfl⟩ := hnew
  intro k shard hshard pair hpair
  rw [getElem?_newShards hshard] at hpair
  exact absurd hpair ExtTreeMap.not_mem_empty

/-- A list of items that a fresh coordinator accepts in one order is accepted in every order: each
item gets the assignment it got before, and the coordinator, and with it the receipt, is the same.
-/
theorem enqueueAll_perm {limits : ShardLimits} {run : String} {c c' : DeterministicShardCoordinator}
    (hnew : new limits run = .ok c) {items items' : List ShardedWorkItem} (hperm : items.Perm items') {now : ℤ}
    {assignments : List ShardAssignment} (h : enqueueAll items now c = (.ok assignments, c')) :
    ∃ assignments' c'', enqueueAll items' now c = (.ok assignments', c'') ∧
      (items.zip assignments).Perm (items'.zip assignments') ∧ c''.receipt = c'.receipt := by
  have hkeeps : ∀ {item c t x}, QueuesOwned c → enqueue item now c = (.ok x, t) → QueuesOwned t := by
    intro item c t x howned hok
    obtain ⟨_, hfits, rfl⟩ := enqueue_eq_ok.mp hok
    exact howned.admitted hfits.lookup
  obtain ⟨assignments', hrun, hzip⟩ := Method.mapM_perm (I := QueuesOwned)
    (f := fun item => enqueue item now) hkeeps enqueue_swap hperm (queuesOwned_new hnew) h
  exact ⟨assignments', c', hrun, hzip, rfl⟩

/-- Another item of the origin of `exampleShardedItem`. -/
def exampleSecondItem : ShardedWorkItem :=
  { exampleShardedItem with work := { exampleShardedItem.work with pair := ⟨digestOf '5', "rule"⟩ } }

theorem enqueueAll_perm_example : ∃ x y c assignments c',
    enqueueAll [exampleShardedItem, exampleSecondItem] 10 exampleCoordinator = (.ok [x, y], c) ∧
    enqueueAll [exampleSecondItem, exampleShardedItem] 10 exampleCoordinator =
    (.ok assignments, c') ∧ [(exampleShardedItem, x), (exampleSecondItem, y)].Perm
      ([exampleSecondItem, exampleShardedItem].zip assignments) ∧
    c'.receipt = c.receipt := by
  have haccepted : (enqueueAll [exampleShardedItem,
      exampleSecondItem] 10 exampleCoordinator).1.toOption.map (·.length) = some 2 := by
    decide +kernel
  generalize hrun : enqueueAll [exampleShardedItem, exampleSecondItem] 10 exampleCoordinator = result at haccepted
  obtain ⟨_ | assignments, c⟩ := result
  · cases haccepted
  · obtain ⟨x, y, rfl⟩ := List.length_eq_two.mp (Option.some.inj haccepted)
    obtain ⟨assignments', c', hrun', hzip, hreceipt⟩ := enqueueAll_perm (eq_ok_unwrap _ _) (.swap _ _ _) hrun
    exact ⟨x, y, c, assignments', c', rfl, hrun', hzip, hreceipt⟩

end DeterministicShardCoordinator

end BoundSeal.Analyzers
