import Mathlib

/-!
# Hash chains

An append-only log in which every record carries the hash of the one before it.
The event type and the hash of (sequence number, previous hash, event) are
parameters, and so is the anchor the first record points back to.
-/

namespace BoundSeal.Lib

/-- One record of a chain. -/
structure Record (ε : Type) where
  sequence : ℕ
  previousHash : String
  event : ε
  recordHash : String

/-- What a record's hash is taken of. -/
def Record.material {ε : Type} (record : Record ε) : ℕ × String × ε :=
  (record.sequence, record.previousHash, record.event)

/-- A log with the hash of its last record. -/
structure HashChain (ε : Type) where
  records : List (Record ε)
  tailHash : String

/-- What verification can find wrong. -/
inductive ChainError where
  | sequenceMismatch (recordIndex : ℕ)
  | previousHashMismatch (recordIndex : ℕ)
  | recordHashMismatch (recordIndex : ℕ)
  | tailHashMismatch
  deriving DecidableEq, Repr

namespace HashChain

variable {ε : Type} (hash : ℕ → String → ε → String)

/-- The empty chain on an anchor. -/
def start (genesis : String) : HashChain ε := ⟨[], genesis⟩

/-- Append an event. -/
def append (chain : HashChain ε) (event : ε) : HashChain ε :=
  let sequence := chain.records.length + 1
  let recordHash := hash sequence chain.tailHash event
  ⟨chain.records ++ [⟨sequence, chain.tailHash, event, recordHash⟩], recordHash⟩

/-- Recompute the records from position `index` on; the value is the hash the
last of them must leave. -/
def verifyFrom : ℕ → String → List (Record ε) → Except ChainError String
  | _, expectedPrevious, [] => .ok expectedPrevious
  | index, expectedPrevious, record :: records =>
    if record.sequence ≠ index + 1 then .error (.sequenceMismatch index)
    else if record.previousHash ≠ expectedPrevious then .error (.previousHashMismatch index)
    else
      let expectedHash := hash record.sequence record.previousHash record.event
      if record.recordHash ≠ expectedHash then .error (.recordHashMismatch index)
      else verifyFrom (index + 1) expectedHash records

/-- Recompute the whole chain. -/
def verify (genesis : String) (chain : HashChain ε) : Except ChainError Unit :=
  match verifyFrom hash 0 genesis chain.records with
  | .error e => .error e
  | .ok expectedPrevious =>
    if chain.tailHash ≠ expectedPrevious then .error .tailHashMismatch else .ok ()

variable {index : ℕ} {previous last : String} {records : List (Record ε)}

/-- A run of records that verifies can be followed by a fitting record. -/
theorem verifyFrom_concat (event : ε) (h : verifyFrom hash index previous records = .ok last) :
    let sequence := index + records.length + 1
    verifyFrom hash index previous
      (records ++ [⟨sequence, last, event, hash sequence last event⟩]) =
        .ok (hash sequence last event) := by
  induction records generalizing index previous with
  | nil =>
    cases h
    simp [verifyFrom]
  | cons record records ih =>
    simp only [verifyFrom] at h
    split_ifs at h with hseq hprev hhash
    have hnext := ih h
    rw [show index + 1 + records.length + 1 = index + (record :: records).length + 1 by
      simp only [List.length_cons]; omega] at hnext
    simpa only [List.cons_append, verifyFrom, hseq, hprev, hhash, if_false] using hnext

theorem verify_start (genesis : String) :
    (start genesis : HashChain ε).verify hash genesis = .ok () := by
  simp [verify, start, verifyFrom]

/-- **Appending keeps a chain that verifies verifying.** -/
theorem verify_append {genesis : String} {chain : HashChain ε} (event : ε)
    (h : chain.verify hash genesis = .ok ()) :
    (chain.append hash event).verify hash genesis = .ok () := by
  unfold verify at h
  split at h
  · cases h
  · next last hlast =>
    split_ifs at h with htail
    have htail : chain.tailHash = last := not_not.mp htail
    have hnext := verifyFrom_concat hash event hlast
    simp only [Nat.zero_add] at hnext
    simp only [verify, append, htail, hnext, ne_eq, not_true_eq_false, if_false]

/-! ## What the last hash determines -/

/-- No two of the records have different materials with one hash. -/
def CollisionFree (records : List (Record ε)) : Prop :=
  ∀ r ∈ records, ∀ r' ∈ records,
    hash r.sequence r.previousHash r.event = hash r'.sequence r'.previousHash r'.event → r.material = r'.material

variable {hash}

/-- What verification says about the first record. -/
theorem verifyFrom_cons_eq_ok {record : Record ε} :
    verifyFrom hash index previous (record :: records) = .ok last ↔
      record.sequence = index + 1 ∧ record.previousHash = previous ∧
        record.recordHash = hash record.sequence record.previousHash record.event ∧
        verifyFrom hash (index + 1) (hash record.sequence record.previousHash record.event) records = .ok last := by
  constructor
  · intro h
    simp only [verifyFrom] at h
    split_ifs at h with hseq hprev hhash
    exact ⟨not_not.mp hseq, not_not.mp hprev, not_not.mp hhash, h⟩
  · rintro ⟨hseq, hprev, hhash, hrest⟩
    rw [verifyFrom, if_neg (not_not.mpr hseq), if_neg (not_not.mpr hprev)]
    exact (if_neg (not_not.mpr hhash)).trans hrest

theorem verify_eq_ok {genesis : String} {chain : HashChain ε} :
    chain.verify hash genesis = .ok () ↔ verifyFrom hash 0 genesis chain.records = .ok chain.tailHash := by
  unfold verify
  split
  · next heq =>
    rw [heq]
    simp
  · next last heq =>
    rw [heq]
    by_cases htail : chain.tailHash = last
    · simp [htail]
    · simp [htail, Ne.symm htail]

/-- Records of one length that end in one hash are the same, and so is the hash they start from. -/
theorem verifyFrom_injective {previous previous' last : String} {records records' : List (Record ε)}
    (hfree : CollisionFree hash (records ++ records')) (hlength : records.length = records'.length)
    (h : verifyFrom hash index previous records = .ok last)
    (h' : verifyFrom hash index previous' records' = .ok last) : records = records' ∧ previous = previous' := by
  induction records generalizing index previous previous' records' with
  | nil =>
    obtain rfl := List.eq_nil_of_length_eq_zero hlength.symm
    exact ⟨rfl, Except.ok.inj (h.trans h'.symm)⟩
  | cons record records ih =>
    obtain _ | ⟨record', records'⟩ := records'
    · cases hlength
    obtain ⟨-, hprev, hhash, hrest⟩ := verifyFrom_cons_eq_ok.mp h
    obtain ⟨-, hprev', hhash', hrest'⟩ := verifyFrom_cons_eq_ok.mp h'
    have hsub : ∀ r ∈ records ++ records', r ∈ record :: records ++ record' :: records' := by
      intro r hr
      rcases List.mem_append.mp hr with hr | hr
      · exact List.mem_append_left _ (List.mem_cons_of_mem _ hr)
      · exact List.mem_append_right _ (List.mem_cons_of_mem _ hr)
    -- the rest is the same, and starts from one hash; so the two first records are of one material
    obtain ⟨rfl, hsame⟩ := ih (fun r hr r' hr' => hfree r (hsub r hr) r' (hsub r' hr'))
      (Nat.succ.inj hlength) hrest hrest'
    have hmaterial := hfree record (by simp) record' (by simp) hsame
    obtain ⟨hseq, hprevious, hevent⟩ : record.sequence = record'.sequence ∧ record.previousHash = record'.previousHash ∧
        record.event = record'.event := by simpa [Record.material] using hmaterial
    refine ⟨?_, by rw [← hprev, ← hprev', hprevious]⟩
    obtain ⟨sequence, previousHash, event, recordHash⟩ := record
    obtain ⟨sequence', previousHash', event', recordHash'⟩ := record'
    simp only at hseq hprevious hevent hhash hhash'
    subst hseq hprevious hevent
    rw [hhash, hhash']

/-- The last hash is that of the last record, which has the number of the records. -/
theorem verifyFrom_concat_eq_ok {record : Record ε}
    (h : verifyFrom hash index previous (records ++ [record]) = .ok last) :
    record.sequence = index + records.length + 1 ∧
      last = hash record.sequence record.previousHash record.event := by
  induction records generalizing index previous with
  | nil =>
    obtain ⟨hseq, -, -, hlast⟩ := verifyFrom_cons_eq_ok.mp h
    exact ⟨hseq, (Except.ok.inj hlast).symm⟩
  | cons first records ih =>
    obtain ⟨-, -, -, hrest⟩ := verifyFrom_cons_eq_ok.mp h
    obtain ⟨hseq, hlast⟩ := ih hrest
    refine ⟨?_, hlast⟩
    rw [hseq, List.length_cons]
    omega

variable {genesis : String} {chain chain' : HashChain ε}

variable (hfree : CollisionFree hash (chain.records ++ chain'.records)) (h : chain.verify hash genesis = .ok ())
  (h' : chain'.verify hash genesis = .ok ()) (htail : chain.tailHash = chain'.tailHash)

include hfree h h' htail

/-- **The tail hash determines the records**, of chains of one length. -/
theorem records_eq_of_length (hlength : chain.records.length = chain'.records.length) :
    chain.records = chain'.records := by
  rw [verify_eq_ok] at h h'
  exact (verifyFrom_injective hfree hlength h (by rw [htail]; exact h')).1

/-- **The tail hash determines the records**, unless it is the anchor's. -/
theorem records_eq_of_tail (hne : chain.tailHash ≠ genesis) : chain.records = chain'.records := by
  have hnonempty : ∀ {c : HashChain ε}, c.verify hash genesis = .ok () → c.tailHash ≠ genesis →
      ∃ records record, c.records = records ++ [record] := by
    intro c hc hne
    rcases List.eq_nil_or_concat c.records with hnil | ⟨records, record, hconcat⟩
    · rw [verify_eq_ok, hnil] at hc
      exact absurd (Except.ok.inj hc).symm hne
    · exact ⟨records, record, by simpa using hconcat⟩
  obtain ⟨records, record, hrecords⟩ := hnonempty h hne
  obtain ⟨records', record', hrecords'⟩ := hnonempty h' (htail ▸ hne)
  refine records_eq_of_length hfree h h' htail ?_
  rw [verify_eq_ok, hrecords] at h
  rw [verify_eq_ok, hrecords'] at h'
  obtain ⟨hseq, hlast⟩ := verifyFrom_concat_eq_ok h
  obtain ⟨hseq', hlast'⟩ := verifyFrom_concat_eq_ok h'
  -- the two last records have one hash, hence one number
  have hmaterial := hfree record (by simp [hrecords]) record' (by simp [hrecords'])
    (hlast.symm.trans (htail.trans hlast'))
  have hnumber : record.sequence = record'.sequence := congrArg Prod.fst hmaterial
  rw [hrecords, hrecords', List.length_append, List.length_append, List.length_singleton, List.length_singleton]
  omega

end HashChain

end BoundSeal.Lib
