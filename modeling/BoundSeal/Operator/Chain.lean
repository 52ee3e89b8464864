import BoundSeal.Operator.State

/-!
# The checkpoint chain

What a state directory is, said without files: a list of checkpoints. `Holds
directory chain` says that the files of the directory are those of the chain, one
for each checkpoint under its number, and `Accepted store chain` says that every
checkpoint passes the checks of `recover` against the one before it.
-/

namespace BoundSeal.Operator

open Rust Lib

/-! ## The entries of a directory -/

section Entries

variable {directory : Directory} {entries : BTreeMap ℕ String}

/-- What `checkpoint_entries` accepts. -/
def IsCheckpointFile (name : String) (node : Node) (sequence : ℕ) : Prop :=
  node ≠ .other ∧ isTemporary name = false ∧ parseNumbered "checkpoint-" ".json" name = some sequence

variable {accepted : BTreeMap ℕ String}

theorem checkpointEntry_eq_ok {next : BTreeMap ℕ String} {entry : String × Node} :
    checkpointEntry accepted entry = .ok next ↔
      ∃ sequence, IsCheckpointFile entry.1 entry.2 sequence ∧ sequence ∉ accepted ∧
        accepted.insert sequence entry.1 = next := by
  simp only [checkpointEntry, do_eq_ok, parseCheckpointFileName, IsCheckpointFile, Bool.not_eq_true]
  constructor
  · rintro ⟨hnode, htemp, sequence, hparse, hfresh, hnext⟩
    exact ⟨sequence, ⟨hnode, htemp, hparse⟩, hfresh, hnext⟩
  · rintro ⟨sequence, ⟨hnode, htemp, hparse⟩, hfresh, hnext⟩
    exact ⟨hnode, htemp, sequence, hparse, hfresh, hnext⟩

theorem getElem?_insert_file {file : String × Node} {sequence : ℕ} (hfile : IsCheckpointFile file.1 file.2 sequence)
    (hfresh : sequence ∉ accepted) (k : ℕ) (name : String) : (accepted.insert sequence file.1)[k]? = some name ↔
      accepted[k]? = some name ∨ file.1 = name ∧ IsCheckpointFile name file.2 k := by
  by_cases hk : sequence = k
  · subst hk
    have hnone : accepted[sequence]? = none := by simpa using hfresh
    rw [getElem?_insert_self, hnone, Option.some.injEq]
    constructor
    · rintro rfl
      exact .inr ⟨rfl, hfile⟩
    · rintro (h | ⟨h, -⟩)
      · cases h
      · exact h
  · rw [getElem?_insert_of_ne _ _ hk]
    refine ⟨.inl, ?_⟩
    rintro (h | ⟨rfl, hother⟩)
    · exact h
    · exact absurd (Option.some.inj (hfile.2.2.symm.trans hother.2.2)) hk

variable {files : List (String × Node)}

theorem foldlM_checkpointEntry {next : BTreeMap ℕ String}
    (h : files.foldlM checkpointEntry accepted = .ok next) :
    (∀ file ∈ files, ∃ sequence, IsCheckpointFile file.1 file.2 sequence) ∧
      ∀ sequence name, next[sequence]? = some name ↔ accepted[sequence]? = some name ∨
        ∃ node, (name, node) ∈ files ∧ IsCheckpointFile name node sequence := by
  induction files generalizing accepted with
  | nil =>
    rw [List.foldlM_nil, pure_eq_ok] at h
    subst h
    simp
  | cons file files ih =>
    rw [List.foldlM_cons, bind_eq_ok] at h
    obtain ⟨middle, hmiddle, hnext⟩ := h
    obtain ⟨sequence, hfile, hfresh, rfl⟩ := checkpointEntry_eq_ok.mp hmiddle
    obtain ⟨hall, hiff⟩ := ih hnext
    refine ⟨?_, ?_⟩
    · intro f hf
      rcases List.mem_cons.mp hf with rfl | hf
      · exact ⟨sequence, hfile⟩
      · exact hall f hf
    · intro k name
      rw [hiff, or_congr_left (getElem?_insert_file hfile hfresh k name), or_assoc]
      refine or_congr_right ?_
      constructor
      · rintro (⟨rfl, hk⟩ | ⟨node, hmem, hk⟩)
        · exact ⟨file.2, List.mem_cons_self, hk⟩
        · exact ⟨node, List.mem_cons_of_mem _ hmem, hk⟩
      · rintro ⟨node, hmem, hk⟩
        rcases List.mem_cons.mp hmem with rfl | hmem
        · exact .inl ⟨rfl, hk⟩
        · exact .inr ⟨node, hmem, hk⟩

theorem exists_foldlM_checkpointEntry
    (hfiles : ∀ file ∈ files, ∃ sequence, IsCheckpointFile file.1 file.2 sequence) (hnodup : (files.map (·.1)).Nodup)
    (hfresh : ∀ file ∈ files, ∀ sequence, IsCheckpointFile file.1 file.2 sequence →
    sequence ∉ accepted) : ∃ next, files.foldlM checkpointEntry accepted = .ok next := by
  induction files generalizing accepted with
  | nil => exact ⟨accepted, rfl⟩
  | cons file files ih =>
    obtain ⟨sequence, hfile⟩ := hfiles file List.mem_cons_self
    have hentry : checkpointEntry accepted file = .ok (accepted.insert sequence file.1) :=
      checkpointEntry_eq_ok.mpr ⟨sequence, hfile, hfresh file List.mem_cons_self sequence hfile, rfl⟩
    rw [List.map_cons, List.nodup_cons] at hnodup
    have hrest : ∀ f ∈ files, ∀ k, IsCheckpointFile f.1 f.2 k → k ∉ accepted.insert sequence file.1 := by
      intro f hf k hk hmem
      by_cases hsame : sequence = k
      · -- two files of one number have one name
        subst hsame
        have hname : f.1 = file.1 := by
          rw [(parseNumbered_eq_some.mp hk.2.2).2, (parseNumbered_eq_some.mp hfile.2.2).2]
        exact hnodup.1 (hname ▸ List.mem_map_of_mem hf)
      · rw [Std.ExtTreeMap.mem_iff_isSome_getElem?, getElem?_insert_of_ne _ _ hsame,
          ← Std.ExtTreeMap.mem_iff_isSome_getElem?] at hmem
        exact hfresh f (List.mem_cons_of_mem _ hf) k hk hmem
    obtain ⟨next, hnext⟩ := ih (fun f hf => hfiles f (List.mem_cons_of_mem _ hf)) hnodup.2 hrest
    exact ⟨next, by rw [List.foldlM_cons, bind_eq_ok]; exact ⟨_, hentry, hnext⟩⟩

theorem exists_checkpointEntries
    (hall : ∀ name node, directory[name]? = some node → ∃ sequence, IsCheckpointFile name node sequence) :
    ∃ entries, checkpointEntries directory = .ok entries :=
  exists_foldlM_checkpointEntry
    (fun _ hfile => hall _ _ (Std.ExtTreeMap.mem_toList_iff_getElem?_eq_some.mp hfile))
    (nodup_keys_toList directory) (fun _ _ _ _ => by simp)

/-- **The entries of a directory** of checkpoint files are the names under their numbers. -/
theorem checkpointEntries_eq_ok : checkpointEntries directory = .ok entries ↔
      (∀ name node, directory[name]? = some node → ∃ sequence, IsCheckpointFile name node sequence) ∧
        ∀ sequence name, entries[sequence]? = some name ↔
          ∃ node, directory[name]? = some node ∧ IsCheckpointFile name node sequence := by
  have hmem : ∀ name node, (name, node) ∈ directory.toList ↔ directory[name]? = some node :=
    fun name node => Std.ExtTreeMap.mem_toList_iff_getElem?_eq_some
  constructor
  · intro h
    obtain ⟨hall, hiff⟩ := foldlM_checkpointEntry h
    refine ⟨fun name node hnode => hall (name, node) ((hmem name node).mpr hnode), fun sequence name => ?_⟩
    rw [hiff]
    simp [hmem]
  · rintro ⟨hall, hiff⟩
    obtain ⟨next, hnext⟩ := exists_checkpointEntries hall
    rw [hnext]
    congr 1
    refine Std.ExtTreeMap.ext_getElem? fun sequence => ?_
    refine Option.ext fun name => ?_
    rw [(foldlM_checkpointEntry hnext).2, hiff]
    simp [hmem]

end Entries

/-! ## Chains -/

def fileSize (checkpoint : OperatorCheckpoint) : ℕ := (canonicalBytes checkpoint).length

def chainBytes (chain : List OperatorCheckpoint) : ℕ := (chain.map fileSize).sum

@[simp] theorem chainBytes_nil : chainBytes [] = 0 := rfl

@[simp] theorem chainBytes_cons (checkpoint : OperatorCheckpoint) (chain : List OperatorCheckpoint) :
    chainBytes (checkpoint :: chain) = fileSize checkpoint + chainBytes chain := by
  simp [chainBytes]

theorem chainBytes_append (chain more : List OperatorCheckpoint) :
    chainBytes (chain ++ more) = chainBytes chain + chainBytes more := by
  simp [chainBytes]

/-- The file of a name in the directory of a chain. -/
def chainFile (chain : List OperatorCheckpoint) (name : String) : Option Node := do
  let sequence ← parseNumbered "checkpoint-" ".json" name
  let checkpoint ← chain[sequence]?
  some (.file (canonicalBytes checkpoint))

/-- The directory has the files of the chain and nothing else. -/
def Holds (directory : Directory) (chain : List OperatorCheckpoint) : Prop :=
  ∀ name, directory[name]? = chainFile chain name

theorem parse_checkpointFileName {sequence : ℕ} (h : sequence ≤ u64Max) :
    parseNumbered "checkpoint-" ".json" (checkpointFileName sequence) = some sequence :=
  parseNumbered_eq_some.mpr ⟨h, rfl⟩

theorem isTemporary_checkpointFileName (sequence : ℕ) : isTemporary (checkpointFileName sequence) = false := by
  have hcons : (checkpointFileName sequence).toList =
      'c' :: ("heckpoint-".toList ++ (zeroPadded 20 sequence).toList ++ ".json".toList) := by
    simp [checkpointFileName, numberedName, String.toList_append]
  exact isTemporary_eq_false hcons (by decide)

variable {checkpoint : OperatorCheckpoint}

theorem readCheckpoint_eq_ok {content : Bytes} :
    readCheckpoint content = .ok checkpoint ↔ content = canonicalBytes checkpoint := by
  rw [← readCanonical_eq_ok, readCheckpoint]
  cases (readCanonical content : Except Unreadable OperatorCheckpoint) <;> simp [Except.mapError]

theorem getLast?_cons_or {α : Type} (a : α) (l : List α) (previous : Option α) :
    (a :: l).getLast?.or previous = l.getLast?.or (some a) := by
  cases h : l.getLast? <;> simp [List.getLast?_cons, h]

namespace OperatorStateStore

variable (store : OperatorStateStore)

/-- Every checkpoint of the chain passes the checks of `recover`. -/
def AcceptedFrom : ℕ → Option OperatorCheckpoint → ℕ → List OperatorCheckpoint → Prop
  | _, _, _, [] => True
  | sequence, previous, stateFileBytes, checkpoint :: chain =>
    store.checkCheckpoint previous sequence (stateFileBytes + fileSize checkpoint) checkpoint = .ok () ∧
      AcceptedFrom (sequence + 1) (some checkpoint) (stateFileBytes + fileSize checkpoint) chain

/-- The chain passes the checks of `recover`. -/
def Accepted (chain : List OperatorCheckpoint) : Prop := store.AcceptedFrom 0 none 0 chain

variable {store}

variable {sequence stateFileBytes : ℕ} {previous : Option OperatorCheckpoint} {chain : List OperatorCheckpoint}
    {next checkpoint : OperatorCheckpoint} {directory : Directory} {disk : StateDisk} {nowEpochSeconds : ℤ}
    {plan : UnifiedOperatorPlan} {update : CheckpointUpdate}

theorem acceptedFrom_concat : store.AcceptedFrom sequence previous stateFileBytes
      (chain ++ [next]) ↔ store.AcceptedFrom sequence previous stateFileBytes chain ∧
        store.checkCheckpoint (chain.getLast?.or previous) (sequence + chain.length)
          (stateFileBytes + chainBytes chain + fileSize next) next = .ok () := by
  induction chain generalizing sequence previous stateFileBytes with
  | nil => simp [AcceptedFrom]
  | cons checkpoint chain ih =>
    rw [List.cons_append, AcceptedFrom, AcceptedFrom, ih, getLast?_cons_or, and_assoc,
      List.length_cons, chainBytes_cons]
    have hlength : sequence + 1 + chain.length = sequence + (chain.length + 1) := by omega
    have hbytes : stateFileBytes + fileSize checkpoint + chainBytes chain + fileSize next =
        stateFileBytes + (fileSize checkpoint + chainBytes chain) + fileSize next := by omega
    rw [hlength, hbytes]

/-- A chain is accepted one checkpoint at a time. -/
theorem accepted_concat : store.Accepted (chain ++ [next]) ↔ store.Accepted chain ∧
      store.checkCheckpoint chain.getLast? chain.length (chainBytes chain + fileSize next) next = .ok () := by
  rw [Accepted, acceptedFrom_concat, Option.or_none, Nat.zero_add, Nat.zero_add]
  rfl

theorem checkCheckpoint_eq_ok : store.checkCheckpoint previous sequence stateFileBytes checkpoint = .ok () ↔
      checkpoint.sequence = sequence ∧ checkpoint.validateStatic store.plan = .ok () ∧
        checkpoint.identity.activationCertificateSha256 = store.activationCertificateSha256 ∧
        validateFollowing previous checkpoint store.plan = .ok () ∧
        checkpoint.counters.evidenceBytes + stateFileBytes ≤ u64Max ∧
        checkpoint.counters.evidenceBytes + stateFileBytes ≤ store.plan.maximumWorkspaceBytes := by
  simp only [checkCheckpoint, do_eq_ok, checkedAdd_eq_some, not_not, not_lt, and_assoc, exists_and_left, exists_eq_left]

/-- The loop of `recover` reads a chain that is accepted as it is read. -/
theorem recoverLoop_eq_ok {entries : List (ℕ × String)} {last : Option OperatorCheckpoint} {total : ℕ} :
    store.recoverLoop directory sequence previous stateFileBytes entries = .ok (last, total) ↔
      ∃ chain, entries.map (·.1) = List.range' sequence chain.length ∧
        List.Forall₂ (fun entry checkpoint => directory.read entry.2 = some (canonicalBytes checkpoint)) entries chain ∧
        store.AcceptedFrom sequence previous stateFileBytes chain ∧
        chain.getLast?.or previous = last ∧ stateFileBytes + chainBytes chain = total := by
  induction entries generalizing sequence previous stateFileBytes with
  | nil =>
    rw [recoverLoop, pure_eq_ok, Prod.mk.injEq]
    constructor
    · rintro ⟨rfl, rfl⟩
      exact ⟨[], rfl, .nil, trivial, rfl, rfl⟩
    · rintro ⟨chain, -, hfiles, -, rfl, rfl⟩
      cases hfiles
      exact ⟨rfl, rfl⟩
  | cons entry entries ih =>
    obtain ⟨number, path⟩ := entry
    simp only [recoverLoop, do_eq_ok, checkedAdd_eq_some, not_not, readCheckpoint_eq_ok, ih]
    constructor
    · rintro ⟨rfl, content, hread, bytes, ⟨-, rfl⟩, checkpoint, rfl, hcheck, chain, hnumbers,
        hfiles, haccepted, hlast, htotal⟩
      refine ⟨checkpoint :: chain, ?_, .cons hread hfiles, ⟨hcheck, haccepted⟩, ?_, ?_⟩
      · rw [List.map_cons, hnumbers, List.length_cons, List.range'_succ]
      · rw [← hlast]
        exact getLast?_cons_or checkpoint chain previous
      · rw [← htotal, chainBytes_cons, ← Nat.add_assoc]
        rfl
    · rintro ⟨chain, hnumbers, hfiles, haccepted, hlast, htotal⟩
      cases hfiles with
      | @cons _ checkpoint _ chain hread hfiles =>
        rw [List.map_cons, List.length_cons, List.range'_succ, List.cons.injEq] at hnumbers
        have hbound := (checkCheckpoint_eq_ok.mp haccepted.1).2.2.2.2.1
        refine ⟨hnumbers.1, canonicalBytes checkpoint, hread, _, ⟨?_, rfl⟩, checkpoint, rfl, ?_,
          chain, hnumbers.2, hfiles, haccepted.2, ?_, ?_⟩
        · exact le_trans (Nat.le_add_left _ _) hbound
        · rw [show number = sequence from hnumbers.1]
          exact haccepted.1
        · rw [← hlast]
          exact (getLast?_cons_or checkpoint chain previous).symm
        · rw [← htotal, chainBytes_cons, ← Nat.add_assoc]
          rfl

/-! ## What `recover` accepts -/

theorem length_le_chainBytes (chain : List OperatorCheckpoint) : chain.length ≤ chainBytes chain := by
  induction chain with
  | nil => exact Nat.le_refl 0
  | cons checkpoint chain ih =>
    have hpos : 0 < fileSize checkpoint := List.length_pos_of_ne_nil (canonicalBytes_ne_nil checkpoint)
    rw [List.length_cons, chainBytes_cons]
    omega

/-- The files of an accepted chain can be counted. -/
theorem chainBytes_le_of_accepted (h : store.Accepted chain) : chainBytes chain ≤ u64Max := by
  induction chain using List.reverseRecOn with
  | nil => exact Nat.zero_le _
  | append_singleton chain checkpoint ih =>
    have hbound := (checkCheckpoint_eq_ok.mp (accepted_concat.mp h).2).2.2.2.2.1
    rw [chainBytes_append, chainBytes_cons, chainBytes_nil, Nat.add_zero]
    exact le_trans (Nat.le_add_left _ _) hbound

theorem length_le_of_accepted (h : store.Accepted chain) : chain.length ≤ u64Max :=
  (length_le_chainBytes chain).trans (chainBytes_le_of_accepted h)

section

variable (h : Holds directory chain)

include h

theorem isCheckpointFile_of_holds {name : String} {node : Node}
    (hnode : directory[name]? = some node) :
    ∃ sequence checkpoint, IsCheckpointFile name node sequence ∧
      chain[sequence]? = some checkpoint ∧ node = .file (canonicalBytes checkpoint) := by
  rw [h, chainFile] at hnode
  simp only [Option.bind_eq_bind, Option.bind_eq_some_iff, Option.some.injEq] at hnode
  obtain ⟨sequence, hparse, checkpoint, hget, rfl⟩ := hnode
  refine ⟨sequence, checkpoint, ⟨by simp, ?_, hparse⟩, hget, rfl⟩
  rw [(parseNumbered_eq_some.mp hparse).2]
  exact isTemporary_checkpointFileName sequence

theorem getElem?_checkpointFileName (hmax : sequence ≤ u64Max) :
    directory[checkpointFileName sequence]? =
      (chain[sequence]?).map fun checkpoint => Node.file (canonicalBytes checkpoint) := by
  rw [h, chainFile, parse_checkpointFileName hmax, Option.bind_eq_bind, Option.bind_some]
  cases chain[sequence]? <;> rfl

theorem exists_entries_of_holds (hlength : chain.length ≤ u64Max) :
    ∃ entries, checkpointEntries directory = .ok entries ∧
      entries.toList = (List.range chain.length).map fun k => (k, checkpointFileName k) := by
  have hall : ∀ name node, directory[name]? = some node → ∃ sequence, IsCheckpointFile name node sequence := by
    intro name node hnode
    obtain ⟨sequence, -, hfile, -⟩ := isCheckpointFile_of_holds h hnode
    exact ⟨sequence, hfile⟩
  obtain ⟨entries, hentries⟩ := exists_checkpointEntries hall
  refine ⟨entries, hentries, toList_eq_range fun k name => ?_⟩
  rw [(checkpointEntries_eq_ok.mp hentries).2]
  constructor
  · rintro ⟨node, hnode, hfile⟩
    obtain ⟨sequence, checkpoint, hfile', hget, -⟩ := isCheckpointFile_of_holds h hnode
    have hsame : sequence = k := Option.some.inj (hfile'.2.2.symm.trans hfile.2.2)
    subst hsame
    exact ⟨(List.getElem?_eq_some_iff.mp hget).1, (parseNumbered_eq_some.mp hfile.2.2).2.symm⟩
  · rintro ⟨hk, rfl⟩
    have hmax : k ≤ u64Max := by omega
    refine ⟨.file (canonicalBytes chain[k]), ?_, by simp, isTemporary_checkpointFileName k,
      parse_checkpointFileName hmax⟩
    rw [getElem?_checkpointFileName h hmax, List.getElem?_eq_getElem hk]
    rfl

end

variable {content : Bytes}

theorem read_eq_some {name : String} :
    directory.read name = some content ↔ directory[name]? = some (.file content) := by
  unfold Directory.read
  cases h : directory[name]? with
  | none => simp
  | some node => cases node <;> simp

/-- Numbered entries without a gap are the files of a chain. -/
theorem holds_of_entries {entries : BTreeMap ℕ String} (hentries : checkpointEntries directory = .ok entries)
    (hnumbers : entries.toList.map (·.1) = List.range' 0 chain.length)
    (hfiles : List.Forall₂ (fun entry checkpoint => directory.read entry.2 = some (canonicalBytes checkpoint))
      entries.toList chain) : Holds directory chain := by
  obtain ⟨hall, hiff⟩ := checkpointEntries_eq_ok.mp hentries
  have hlength : entries.toList.length = chain.length := hfiles.length_eq
  have hnumber : ∀ i (hi : i < entries.toList.length), (entries.toList[i]).1 = i := by
    intro i hi
    have hmap : (entries.toList.map (·.1))[i]? = some (entries.toList[i]).1 := by
      rw [List.getElem?_map, List.getElem?_eq_getElem hi]
      rfl
    rw [hnumbers, List.getElem?_range' (by omega)] at hmap
    simpa using hmap.symm
  -- the file of the entry at a position is the checkpoint there
  have hcontent : ∀ k path, (k, path) ∈ entries.toList → ∃ checkpoint, chain[k]? = some checkpoint ∧
      directory[path]? = some (.file (canonicalBytes checkpoint)) := by
    intro k path hmem
    obtain ⟨i, hi, hget⟩ := List.getElem_of_mem hmem
    have hik : i = k := by rw [← hnumber i hi, hget]
    subst hik
    have hfile := (List.forall₂_iff_get.mp hfiles).2 i hi (by omega)
    rw [List.get_eq_getElem, List.get_eq_getElem, hget] at hfile
    exact ⟨chain[i], List.getElem?_eq_getElem (by omega), read_eq_some.mp hfile⟩
  intro name
  cases hnode : directory[name]? with
  | some node =>
    obtain ⟨sequence, hfile⟩ := hall name node hnode
    have hmem : (sequence, name) ∈ entries.toList :=
      Std.ExtTreeMap.mem_toList_iff_getElem?_eq_some.mpr ((hiff sequence name).mpr ⟨node, hnode, hfile⟩)
    obtain ⟨checkpoint, hget, hsame⟩ := hcontent sequence name hmem
    rw [hnode] at hsame
    simp [chainFile, hfile.2.2, hget, hsame]
  | none =>
    cases hparse : parseNumbered "checkpoint-" ".json" name with
    | none => simp [chainFile, hparse]
    | some k =>
      cases hget : chain[k]? with
      | none => simp [chainFile, hparse, hget]
      | some checkpoint =>
        -- the entry of number `k` has this very name, so its file is there
        have hk : k < entries.toList.length := by
          rw [hlength]
          exact (List.getElem?_eq_some_iff.mp hget).1
        have hmem : (k, (entries.toList[k]).2) ∈ entries.toList := by
          have hpair : (k, (entries.toList[k]).2) = entries.toList[k] := Prod.ext (hnumber k hk).symm rfl
          rw [hpair]
          exact List.getElem_mem hk
        obtain ⟨node, hpath, hfile⟩ := (hiff k _).mp (Std.ExtTreeMap.mem_toList_iff_getElem?_eq_some.mp hmem)
        have hname : (entries.toList[k]).2 = name := by
          rw [(parseNumbered_eq_some.mp hfile.2.2).2, (parseNumbered_eq_some.mp hparse).2]
        rw [hname, hnode] at hpath
        cases hpath

def recovered (store : OperatorStateStore) (chain : List OperatorCheckpoint)
    (latest : OperatorCheckpoint) (nowEpochSeconds : ℤ) : RecoveredOperatorState where
  latest := latest
  checkpointCount := latest.sequence + 1
  stateFileBytes := chainBytes chain
  continuationAllowed := store.continuationAllowed latest nowEpochSeconds

variable {r : RecoveredOperatorState}

/-- **What `recover` accepts**: the directories that hold an accepted chain, of
which it returns the last checkpoint. -/
theorem recover_eq_ok : store.recover disk nowEpochSeconds = .ok r ↔
      verifyPlanDigest store.plan = .ok () ∧ disk.markerIsFile = true ∧
        ∃ chain latest, Holds disk.directory chain ∧ store.Accepted chain ∧
          chain.getLast? = some latest ∧ store.recovered chain latest nowEpochSeconds = r := by
  simp only [recover, do_eq_ok, not_not, Prod.exists]
  refine and_congr_right fun _ => and_congr_right fun _ => ?_
  constructor
  · rintro ⟨entries, hentries, -, last, total, hloop, latest, rfl, rfl⟩
    obtain ⟨chain, hnumbers, hfiles, haccepted, hlast, htotal⟩ := recoverLoop_eq_ok.mp hloop
    rw [Option.or_none] at hlast
    refine ⟨chain, latest, holds_of_entries hentries hnumbers hfiles, haccepted, hlast, ?_⟩
    rw [recovered, ← htotal, Nat.zero_add]
  · rintro ⟨chain, latest, hholds, haccepted, hlast, rfl⟩
    obtain ⟨entries, hentries, hlist⟩ := exists_entries_of_holds hholds (length_le_of_accepted haccepted)
    refine ⟨entries, hentries, ?_, some latest, chainBytes chain, ?_, latest, rfl, rfl⟩
    · intro hempty
      have hnil : entries.toList = [] := by
        rw [Std.ExtTreeMap.isEmpty_iff.mp hempty]
        rfl
      rw [hlist, List.map_eq_nil_iff, List.range_eq_nil, List.length_eq_zero_iff] at hnil
      rw [hnil] at hlast
      cases hlast
    · refine recoverLoop_eq_ok.mpr ⟨chain, ?_, ?_, haccepted, by rw [hlast, Option.some_or], Nat.zero_add _⟩
      · rw [hlist, List.map_map, List.range_eq_range']
        exact List.map_id _
      · rw [hlist, List.forall₂_iff_get]
        refine ⟨by simp, fun i hi hi' => ?_⟩
        have hmax : i ≤ u64Max := by
          have := length_le_of_accepted haccepted
          omega
        rw [read_eq_some, List.get_eq_getElem, List.get_eq_getElem, List.getElem_map,
          List.getElem_range, getElem?_checkpointFileName hholds hmax, List.getElem?_eq_getElem hi']
        rfl

/-- The clock decides only whether the run may continue. -/
theorem recover_at (h : store.recover disk nowEpochSeconds = .ok r) (later : ℤ) :
    store.recover disk later =
      .ok { r with continuationAllowed := store.continuationAllowed r.latest later } := by
  obtain ⟨hplan, hmarker, chain, latest, hholds, haccepted, hlast, rfl⟩ := recover_eq_ok.mp h
  exact recover_eq_ok.mpr ⟨hplan, hmarker, chain, latest, hholds, haccepted, hlast, rfl⟩

/-! ## What `append` writes -/

/-- The checkpoint an update puts after the latest one. -/
def sealedCheckpoint (previous : OperatorCheckpoint) (update : CheckpointUpdate)
    (nowEpochSeconds : ℤ) : OperatorCheckpoint :=
  { nextCheckpoint previous update nowEpochSeconds with
    checkpointSha256 := (nextCheckpoint previous update nowEpochSeconds).calculateSha256 }

theorem validateStatic_eq_ok : checkpoint.validateStatic plan = .ok () ↔
      checkpoint.version = operatorCheckpointVersion ∧ checkpoint.identity.validate plan = .ok () ∧
        checkpoint.counters.validateAgainstPlan plan = .ok () ∧ 0 < checkpoint.createdAtEpochSeconds ∧
        validateStopReason checkpoint.stopReason checkpoint.status = .ok () ∧
        checkpoint.validateLink = .ok () ∧ isLowerHexSha256 checkpoint.checkpointSha256 = true ∧
        checkpoint.checkpointSha256 = checkpoint.calculateSha256 := by
  simp only [OperatorCheckpoint.validateStatic, do_eq_ok, not_not, not_le]

theorem validateTransition_eq_ok {previous : OperatorCheckpoint} : validateTransition previous next plan = .ok () ↔
      (next.sequence = previous.sequence + 1 ∧ next.previousCheckpointSha256 = some previous.checkpointSha256) ∧
        next.identity = previous.identity ∧ previous.createdAtEpochSeconds ≤ next.createdAtEpochSeconds ∧
        next.counters.validateAgainstPlan plan = .ok () ∧
        next.counters.validateMonotonic previous.counters = .ok () ∧
        next.counters.requestsCompleted - previous.counters.requestsCompleted ≤ plan.checkpointIntervalRequests ∧
        transitionAllowed previous.status next.status = true ∧
        (next.status.permitsContinuation = true ∨ next.counters = previous.counters) ∧
        validateStopReason next.stopReason next.status = .ok () := by
  simp only [validateTransition, do_eq_ok, not_not, not_lt, not_or, not_and_or, Bool.not_eq_true,
    Bool.not_eq_false, ne_eq]

theorem validateStatic_sealedCheckpoint {previous : OperatorCheckpoint}
    (hprevious : previous.validateStatic plan = .ok ())
    (htransition : validateTransition previous (nextCheckpoint previous update nowEpochSeconds) plan = .ok ()) :
    (sealedCheckpoint previous update nowEpochSeconds).validateStatic plan = .ok () := by
  obtain ⟨-, hidentity, -, hcreated, -, -, hsha, -⟩ := validateStatic_eq_ok.mp hprevious
  obtain ⟨-, -, htime, hcounters, -, -, -, -, hreason⟩ := validateTransition_eq_ok.mp htransition
  refine validateStatic_eq_ok.mpr ⟨rfl, hidentity, hcounters, lt_of_lt_of_le hcreated htime,
    hreason, ?_, isLowerHexSha256_hashSerializable _, rfl⟩
  have hsequence : (sealedCheckpoint previous update nowEpochSeconds).sequence ≠ 0 := Nat.succ_ne_zero _
  rw [OperatorCheckpoint.validateLink, if_neg hsequence]
  simp [sealedCheckpoint, nextCheckpoint, okOr, hsha]

variable {latest : OperatorCheckpoint}

/-- The last checkpoint carries the length of its chain. -/
theorem last_of_accepted (h : store.Accepted chain) (hlast : chain.getLast? = some latest) :
    latest.sequence + 1 = chain.length ∧ latest.validateStatic store.plan = .ok () ∧
      latest.identity.activationCertificateSha256 = store.activationCertificateSha256 := by
  obtain ⟨init, rfl⟩ := List.getLast?_eq_some_iff.mp hlast
  obtain ⟨hsequence, hstatic, hcertificate, -⟩ := checkCheckpoint_eq_ok.mp (accepted_concat.mp h).2
  exact ⟨by rw [hsequence, List.length_append, List.length_singleton], hstatic, hcertificate⟩

theorem prepareAppend_eq_ok :
    store.prepareAppend disk update nowEpochSeconds = .ok (checkpoint, content) ↔
    ∃ r, store.recover disk nowEpochSeconds = .ok r ∧ ¬ r.latest.status.isTerminal ∧
      store.checkContinuation update r.latest nowEpochSeconds = .ok () ∧
      validateTransition r.latest (nextCheckpoint r.latest update nowEpochSeconds) store.plan = .ok () ∧
      checkpoint = sealedCheckpoint r.latest update nowEpochSeconds ∧ content = canonicalBytes checkpoint ∧
      update.counters.evidenceBytes + r.stateFileBytes + content.length ≤ u64Max ∧
      update.counters.evidenceBytes + r.stateFileBytes + content.length ≤ store.plan.maximumWorkspaceBytes := by
  simp only [prepareAppend, do_eq_ok, Option.bind_eq_some_iff, checkedAdd_eq_some, Prod.mk.injEq, not_lt]
  constructor
  · rintro ⟨r, hr, hterminal, htime, htransition, accounted, ⟨subtotal, ⟨-, rfl⟩, hbound, rfl⟩, hbudget, rfl, rfl⟩
    exact ⟨r, hr, hterminal, htime, htransition, rfl, rfl, hbound, hbudget⟩
  · rintro ⟨r, hr, hterminal, htime, htransition, rfl, rfl, hbound, hbudget⟩
    have hsubtotal : update.counters.evidenceBytes + r.stateFileBytes ≤ u64Max := by omega
    exact ⟨r, hr, hterminal, htime, htransition, _, ⟨_, ⟨hsubtotal, rfl⟩, hbound, rfl⟩, hbudget, rfl, rfl⟩

/-- The next file extends the chain of the directory. -/
theorem holds_insert (h : Holds directory chain) (hlength : chain.length ≤ u64Max) (next : OperatorCheckpoint) :
    Holds (directory.insert (checkpointFileName chain.length) (.file (canonicalBytes next))) (chain ++ [next]) := by
  intro name
  by_cases hname : checkpointFileName chain.length = name
  · subst hname
    rw [getElem?_insert_self, chainFile, parse_checkpointFileName hlength, Option.bind_eq_bind,
      Option.bind_some, List.getElem?_concat_length]
    rfl
  · rw [getElem?_insert_of_ne _ _ hname, h, chainFile, chainFile]
    cases hparse : parseNumbered "checkpoint-" ".json" name with
    | none => rfl
    | some k =>
      have hk : k ≠ chain.length := by
        rintro rfl
        exact hname (parseNumbered_eq_some.mp hparse).2.symm
      rw [Option.bind_eq_bind, Option.bind_some, Option.bind_eq_bind, Option.bind_some, List.getElem?_append]
      by_cases hlt : k < chain.length
      · rw [if_pos hlt]
      · rw [if_neg hlt, List.getElem?_eq_none (by omega), List.getElem?_eq_none (by simp; omega)]

/-- What `append` is about to write continues the accepted chain. -/
theorem accepted_of_prepareAppend (haccepted : store.Accepted chain)
    (hlast : chain.getLast? = some latest)
    (hrecover : store.recover disk nowEpochSeconds = .ok (store.recovered chain latest nowEpochSeconds))
    (h : store.prepareAppend disk update nowEpochSeconds = .ok (checkpoint, content)) :
    content = canonicalBytes checkpoint ∧ checkpoint = sealedCheckpoint latest update nowEpochSeconds ∧
      checkpoint.sequence = chain.length ∧ ¬ latest.status.isTerminal ∧ store.Accepted (chain ++ [checkpoint]) := by
  obtain ⟨r, hr, hterminal, -, htransition, rfl, rfl, hbound, hbudget⟩ := prepareAppend_eq_ok.mp h
  have hsame : store.recovered chain latest nowEpochSeconds = r := Except.ok.inj (hrecover.symm.trans hr)
  subst hsame
  obtain ⟨hsequence, hstatic, hcertificate⟩ := last_of_accepted haccepted hlast
  refine ⟨rfl, rfl, hsequence, hterminal, accepted_concat.mpr ⟨haccepted, checkCheckpoint_eq_ok.mpr ?_⟩⟩
  refine ⟨hsequence, validateStatic_sealedCheckpoint hstatic htransition, hcertificate, ?_, ?_, ?_⟩
  · rw [hlast]
    exact htransition
  · rw [← Nat.add_assoc]
    exact hbound
  · rw [← Nat.add_assoc]
    exact hbudget

/-- **`append`** either fails its checks and leaves the disk as it was, or it leaves
the directory of the chain with one more checkpoint. -/
theorem wp_append (hplan : verifyPlanDigest store.plan = .ok ())
    (hmarker : disk.markerIsFile = true) (hholds : Holds disk.directory chain) (haccepted : store.Accepted chain)
    (hlast : chain.getLast? = some latest) : Proc.wp (store.append update nowEpochSeconds)
      (fun t => t.markerIsFile = true)
      (fun r t => (∃ e, r = .error e ∧ t = disk ∧ store.prepareAppend disk update nowEpochSeconds = .error e) ∨
        ∃ next, next = sealedCheckpoint latest update nowEpochSeconds ∧ ¬ latest.status.isTerminal ∧
          store.Accepted (chain ++ [next]) ∧ r = .ok (store.recovered (chain ++ [next]) next nowEpochSeconds) ∧
          checkpointFileName chain.length ∉ disk.directory ∧
          t = { disk with
            directory := disk.directory.insert (checkpointFileName chain.length) (.file (canonicalBytes next)) })
      disk := by
  have hrecover : store.recover disk nowEpochSeconds = .ok (store.recovered chain latest nowEpochSeconds) :=
    recover_eq_ok.mpr ⟨hplan, hmarker, chain, latest, hholds, haccepted, hlast, rfl⟩
  have hlength := length_le_of_accepted haccepted
  rw [append, Proc.wp_bind, Proc.wp_get, Proc.after, Proc.wp_bind, Proc.wp_ofExcept]
  cases hprepare : store.prepareAppend (id disk) update nowEpochSeconds with
  | error e => exact .inl ⟨e, rfl, rfl, hprepare⟩
  | ok prepared =>
    obtain ⟨checkpoint, content⟩ := prepared
    obtain ⟨rfl, rfl, hsequence, hterminal, haccepted'⟩ :=
      accepted_of_prepareAppend haccepted hlast hrecover hprepare
    rw [Proc.after, Proc.wp_bind, publishCheckpoint, Proc.wp_onPart, hsequence]
    refine Proc.wp_mono (Directory.wp_publish (temporaryName_ne (isTemporary_checkpointFileName _) _ _))
      (fun _ _ => hmarker) fun r t hpublished => ?_
    cases hpublished with
    | taken _ hmem =>
      -- the chain ends before this number
      rw [Directory.mem_iff_ne_none, getElem?_checkpointFileName hholds hlength,
        List.getElem?_eq_none (Nat.le_refl _)] at hmem
      exact absurd rfl hmem
    | blocked hmem _ =>
      -- a directory of checkpoint files has no temporary file
      obtain ⟨node, hnode⟩ := Option.ne_none_iff_exists'.mp (Directory.mem_iff_ne_none.mp hmem)
      obtain ⟨-, -, ⟨-, htemp, -⟩, -⟩ := isCheckpointFile_of_holds hholds hnode
      exact absurd rfl (temporaryName_ne htemp _ _)
    | done _ hfree =>
      rw [Proc.after, Proc.wp_bind, Proc.wp_get, Proc.after, Proc.wp_ofExcept]
      refine .inr ⟨_, rfl, hterminal, haccepted', ?_, hfree, rfl⟩
      exact recover_eq_ok.mpr ⟨hplan, hmarker, _, _, holds_insert hholds hlength _, haccepted',
        List.getLast?_concat, rfl⟩

/-! ## The laws of accepted chains -/

/-- What one checkpoint of an accepted chain says about the next. -/
structure Precedes (plan : UnifiedOperatorPlan) (previous next : OperatorCheckpoint) : Prop where
  requests : previous.counters.requestsCompleted ≤ next.counters.requestsCompleted
  responses : previous.counters.totalResponseBytes ≤ next.counters.totalResponseBytes
  depth : previous.counters.maximumDepthObserved ≤ next.counters.maximumDepthObserved
  evidence : previous.counters.evidenceBytes ≤ next.counters.evidenceBytes
  time : previous.createdAtEpochSeconds ≤ next.createdAtEpochSeconds
  interval : next.counters.requestsCompleted ≤ previous.counters.requestsCompleted + plan.checkpointIntervalRequests
  unfinished : previous.status.isTerminal = false

theorem precedes_of_validateTransition {previous : OperatorCheckpoint}
    (h : validateTransition previous next plan = .ok ()) : Precedes plan previous next := by
  obtain ⟨-, -, htime, -, hmonotonic, hinterval, hallowed, -, -⟩ := validateTransition_eq_ok.mp h
  simp only [OperatorCounters.validateMonotonic, failIf_eq_ok, not_or, not_lt] at hmonotonic
  obtain ⟨hrequests, hresponses, hdepth, hevidence⟩ := hmonotonic
  refine ⟨hrequests, hresponses, hdepth, hevidence, htime, by omega, ?_⟩
  revert hallowed
  cases previous.status <;> cases next.status <;> decide

variable (h : store.AcceptedFrom sequence previous stateFileBytes chain)

include h

/-- Neighbours in an accepted chain passed the transition check. -/
theorem isChain_of_acceptedFrom : chain.IsChain (Precedes store.plan) := by
  induction chain generalizing sequence previous stateFileBytes with
  | nil => exact .nil
  | cons checkpoint chain ih =>
    cases chain with
    | nil => exact .singleton _
    | cons next chain =>
      have hcheck := checkCheckpoint_eq_ok.mp h.2.1
      exact .cons_cons (precedes_of_validateTransition hcheck.2.2.2.1) (ih h.2)

/-- Evidence and files fit the workspace at every prefix. -/
theorem workspace_of_acceptedFrom {k : ℕ} (hk : chain[k]? = some checkpoint) :
    checkpoint.counters.evidenceBytes + (stateFileBytes + chainBytes (chain.take (k + 1))) ≤
      store.plan.maximumWorkspaceBytes := by
  induction chain generalizing sequence previous stateFileBytes k with
  | nil => cases hk
  | cons first chain ih =>
    cases k with
    | zero =>
      cases hk
      simpa using (checkCheckpoint_eq_ok.mp h.1).2.2.2.2.2
    | succ k =>
      have := ih h.2 hk
      rw [List.take_succ_cons, chainBytes_cons]
      omega

end OperatorStateStore

/-! ## A plan and its first checkpoint -/

def exampleDigest : String := String.ofList (List.replicate 64 'a')

def exampleBinding (n : ℕ) : UnifiedComponentBinding where
  discoveryPlanSha256 := exampleDigest
  policySha256 := exampleDigest
  targetOriginSha256 := exampleDigest
  discoverySessionId := "discovery"
  authority := "a.example"
  runId := "run"
  workerId := "worker"
  accountId := "account"
  tenantId := "tenant"
  roleId := "role"
  sessionInjectionManifestSha256 := exampleDigest
  externalVaultPlanSha256 := exampleDigest
  externalVaultBootstrapReceiptSha256 := exampleDigest
  externalSessionIdSha256 := exampleDigest
  providerId := "provider"
  providerInstanceSha256 := exampleDigest
  providerCapabilitySha256 := exampleDigest
  secretBindingRootSha256 := exampleDigest
  secretCount := 1
  allowedPathPrefixes := Std.ExtTreeSet.ofList ["/"] compare
  maximumRequests := n
  maximumDepth := 1
  maximumResponseBodyBytes := 100
  maximumTotalResponseBytes := 1000
  minimumRequestIntervalMilliseconds := 200
  maximumConcurrency := 1
  componentExpiresAtEpochSeconds := 1000

/-- The plan of such a binding, without its digest. -/
def examplePlanMaterial (n : ℕ) : UnifiedOperatorPlan where
  version := unifiedOperatorPlanVersion
  operatorId := "operator"
  binding := exampleBinding n
  bindingSha256 := toLowerHex (Sha256.digest (exampleBinding n).toJson.toVec)
  checkpointIntervalRequests := 1
  maximumWorkspaceBytes := maxUnifiedOperatorWorkspaceBytes
  createdAtEpochSeconds := 1
  expiresAtEpochSeconds := 1000
  activationKeyIdSha256 := exampleDigest
  planSha256 := ""

def examplePlan (n : ℕ) : UnifiedOperatorPlan :=
  { examplePlanMaterial n with planSha256 := (examplePlanMaterial n).calculateSha256 }

theorem planSha256_examplePlan (n : ℕ) :
    (examplePlan n).planSha256 = (examplePlan n).calculateSha256 :=
  (UnifiedOperatorPlan.calculateSha256_with (examplePlanMaterial n) _).symm

theorem exampleDigest_isLowerHex : isLowerHexSha256 exampleDigest = true := by decide +kernel

theorem validateSha256_exampleDigest (field : String) : validateSha256 exampleDigest field = .ok () :=
  failIf_eq_ok.mpr (not_not.mpr exampleDigest_isLowerHex)

variable {n : ℕ}

section

variable (h : n = 1 ∨ n = 2)

include h

theorem validate_exampleBinding : (exampleBinding n).validate = .ok () := by
  simp only [UnifiedComponentBinding.validate, do_eq_ok, exampleBinding, forM_eq_ok,
    List.forall_mem_singleton, List.forall_mem_cons, validateSha256_exampleDigest, true_and]
  rcases h with rfl | rfl <;> decide +kernel

theorem validate_examplePlan : (examplePlan n).validate = .ok () := by
  have hbinding := validate_exampleBinding h
  have hcalculate : (examplePlan n).binding.calculateSha256 =
      .ok (examplePlan n).bindingSha256 := by
    rw [UnifiedComponentBinding.calculateSha256]
    exact bind_eq_ok.mpr ⟨(), hbinding, rfl⟩
  have hdigests : isLowerHexSha256 (examplePlan n).bindingSha256 = true ∧
      isLowerHexSha256 (examplePlan n).planSha256 = true :=
    ⟨isLowerHexSha256_toLowerHex rfl, UnifiedOperatorPlan.isLowerHexSha256_calculateSha256 _⟩
  have hpresent : unlessEmpty (examplePlan n).planSha256
      (validateSha256 (examplePlan n).planSha256 "plan_sha256") = .ok () := by
    rw [unlessEmpty]
    split
    · rfl
    · exact failIf_eq_ok.mpr (not_not.mpr hdigests.2)
  have hidentifier : validateIdentifier "operator" "operator_id" = .ok () := by decide +kernel
  simp only [UnifiedOperatorPlan.validate, do_eq_ok, hcalculate, not_not, Except.ok.injEq, exists_eq_left']
  refine ⟨rfl, hidentifier, hbinding, failIf_eq_ok.mpr (not_not.mpr hdigests.1),
    validateSha256_exampleDigest _, hpresent, trivial, ?_, ?_, ?_⟩
  · show ¬ ((1 : ℤ) ≤ 0 ∨ (1000 : ℤ) ≤ 1 ∨
      maxUnifiedOperatorLifetimeSeconds < saturatingAddI64 1000 (-1) ∨ (1000 : ℤ) < 1000)
    decide
  · show ¬ (1 = 0 ∨ n < 1)
    omega
  · show minUnifiedOperatorWorkspaceBytes ≤ maxUnifiedOperatorWorkspaceBytes ∧
      maxUnifiedOperatorWorkspaceBytes ≤ maxUnifiedOperatorWorkspaceBytes
    decide

theorem verify_examplePlan {now : ℤ}
    (hnow : 1 ≤ now ∧ now ≤ 1000) : (examplePlan n).verify now = .ok () := by
  simp only [UnifiedOperatorPlan.verify, do_eq_ok, not_not]
  refine ⟨validate_examplePlan h, planSha256_examplePlan _, ?_⟩
  show ¬ (now < 1 ∨ 1000 < now)
  omega

theorem verifyPlanDigest_examplePlan : verifyPlanDigest (examplePlan n) = .ok () := by
  have hvalidate : (examplePlan n).validate.mapError OperatorStateError.unified = .ok () := by
    rw [validate_examplePlan h]
    rfl
  exact bind_eq_ok.mpr ⟨(), hvalidate, failIf_eq_ok.mpr (not_not.mpr (planSha256_examplePlan _))⟩

end

def exampleActivation (n : ℕ) : ConsumedUnifiedOperatorActivation where
  planSha256 := (examplePlan n).planSha256
  bindingSha256 := (examplePlan n).bindingSha256
  activationCertificateSha256 := exampleDigest
  expiresAtEpochSeconds := 1000

def exampleCheckpoint (n : ℕ) : OperatorCheckpoint :=
  let initial := OperatorCheckpoint.initial (examplePlan n) (exampleActivation n) 1
  { initial with checkpointSha256 := initial.calculateSha256 }

def exampleStore (n : ℕ) : OperatorStateStore where
  plan := examplePlan n
  activationCertificateSha256 := exampleDigest
  processId := 1

theorem validateStatic_exampleCheckpoint (n : ℕ) :
    (exampleCheckpoint n).validateStatic (examplePlan n) = .ok () := by
  refine OperatorStateStore.validateStatic_eq_ok.mpr ⟨rfl, ?_, ?_, Int.one_pos, rfl, rfl,
    isLowerHexSha256_hashSerializable _, (OperatorCheckpoint.calculateSha256_with _ _).symm⟩
  · simp only [OperatorStateIdentity.validate, do_eq_ok, not_not, not_or]
    refine ⟨⟨rfl, rfl, rfl⟩, exampleDigest_isLowerHex, ?_⟩
    show ¬ (1000 : ℤ) ≤ 1 ∧ ¬ (1000 : ℤ) < 1000
    decide
  · simp only [OperatorCounters.validateAgainstPlan, do_eq_ok, not_lt]
    exact ⟨Nat.zero_le _, Nat.zero_le _, Nat.zero_le _, Nat.zero_le _⟩

theorem fileSize_le (h : (Serde.toJson checkpoint).Short) : fileSize checkpoint ≤ 2400 := by
  refine (length_canonicalBytes_le h).trans ?_
  simp (disch := decide +kernel) only
    [Serde.toJson, Json.bound, Json.boundFields, Json.bound_option, Json.quoteBytes_of_isPlain]
  decide

/-- A directory with the first checkpoint of the plan. -/
def exampleDisk (n : ℕ) : StateDisk where
  directory := (∅ : Directory).insert (checkpointFileName 0) (.file (canonicalBytes (exampleCheckpoint n)))
  markerIsFile := true

theorem holds_exampleDisk (n : ℕ) : Holds (exampleDisk n).directory [exampleCheckpoint n] := by
  have hempty : Holds ∅ [] := by
    intro name
    rw [chainFile]
    cases parseNumbered "checkpoint-" ".json" name <;> simp
  exact OperatorStateStore.holds_insert hempty (Nat.zero_le _) _

theorem fileSize_exampleCheckpoint (n : ℕ) : fileSize (exampleCheckpoint n) ≤ 2400 := by
  refine fileSize_le ?_
  have hdigest := @short_of_isLowerHexSha256
  simp only [Serde.toJson, Json.Short, Json.ShortFields, exampleCheckpoint,
    OperatorCheckpoint.initial, exampleActivation]
  refine ⟨?_, ?_, ⟨(by decide +kernel : Json.quoteBytes "operator" ≤ 66),
    hdigest (UnifiedOperatorPlan.isLowerHexSha256_calculateSha256 _), hdigest (isLowerHexSha256_toLowerHex rfl),
    hdigest exampleDigest_isLowerHex, ?_⟩, ?_, ?_, ?_, trivial, trivial,
    hdigest (isLowerHexSha256_hashSerializable _), trivial⟩ <;> decide +kernel

theorem accepted_exampleCheckpoint (n : ℕ) : (exampleStore n).Accepted [exampleCheckpoint n] := by
  have hsize := fileSize_exampleCheckpoint n
  have hworkspace : (exampleStore n).plan.maximumWorkspaceBytes = maxUnifiedOperatorWorkspaceBytes := rfl
  have hevidence : (exampleCheckpoint n).counters.evidenceBytes = 0 := rfl
  have hcheck : (exampleStore n).checkCheckpoint none 0
      (0 + fileSize (exampleCheckpoint n)) (exampleCheckpoint n) = .ok () := by
    refine OperatorStateStore.checkCheckpoint_eq_ok.mpr
      ⟨rfl, validateStatic_exampleCheckpoint n, rfl, rfl, ?_, ?_⟩
    · rw [hevidence]
      have : (100000 : ℕ) ≤ u64Max := by decide
      omega
    · rw [hevidence, hworkspace]
      have : (100000 : ℕ) ≤ maxUnifiedOperatorWorkspaceBytes := by decide
      omega
  exact ⟨hcheck, trivial⟩

theorem recover_exampleDisk (h : n = 1 ∨ n = 2) (now : ℤ) :
    (exampleStore n).recover (exampleDisk n) now = .ok
      ((exampleStore n).recovered [exampleCheckpoint n] (exampleCheckpoint n) now) :=
  OperatorStateStore.recover_eq_ok.mpr ⟨verifyPlanDigest_examplePlan h, rfl, _, _,
    holds_exampleDisk n, accepted_exampleCheckpoint n, rfl, rfl⟩

/-! ## What an `append` leaves -/

namespace OperatorStateStore

/-- **The store never writes a chain it would refuse to read.** Of a disk that
`recover` accepts: its files are a chain along which counters and times do not
fall, no step exceeds the checkpoint interval, nothing follows a terminal
checkpoint, and evidence and files fit the workspace at every prefix. An `append`
that fails leaves the disk as it was; one that succeeds adds one file, with the
checkpoint of the update, and `recover` returns that checkpoint at any time. -/
theorem append_unchanged_or_extended {store : OperatorStateStore} {disk : StateDisk} {time : ℤ}
    {recovered : RecoveredOperatorState} (hrecover : store.recover disk time = .ok recovered)
    (update : CheckpointUpdate) (nowEpochSeconds : ℤ) :
    (∃ chain, Holds disk.directory chain ∧ chain.getLast? = some recovered.latest ∧
      chain.IsChain (Precedes store.plan) ∧
      ∀ k checkpoint, chain[k]? = some checkpoint →
        checkpoint.counters.evidenceBytes + chainBytes (chain.take (k + 1)) ≤ store.plan.maximumWorkspaceBytes) ∧
    match (store.append update nowEpochSeconds disk).result with
    | .error _ => (store.append update nowEpochSeconds disk).final = disk
    | .ok next =>
      next.latest = sealedCheckpoint recovered.latest update nowEpochSeconds ∧
      checkpointFileName next.latest.sequence ∉ disk.directory ∧
      (store.append update nowEpochSeconds disk).final =
        { disk with
          directory := disk.directory.insert (checkpointFileName next.latest.sequence)
            (.file (canonicalBytes next.latest)) } ∧
      ∀ later, ∃ again, store.recover (store.append update nowEpochSeconds disk).final later = .ok again ∧
        again.latest = next.latest := by
  obtain ⟨hplan, hmarker, chain, latest, hholds, haccepted, hlast, rfl⟩ := recover_eq_ok.mp hrecover
  refine ⟨⟨chain, hholds, hlast, isChain_of_acceptedFrom haccepted, fun k checkpoint hk => ?_⟩, ?_⟩
  · simpa using workspace_of_acceptedFrom haccepted hk
  · rcases (wp_append hplan hmarker hholds haccepted hlast).2 with ⟨e, hresult, hfinal, -⟩ |
      ⟨next, hnext, hterminal, haccepted', hresult, hfree, hfinal⟩
    · rw [hresult]
      exact hfinal
    · have hsequence : next.sequence = chain.length := by
        rw [hnext]
        exact (last_of_accepted haccepted hlast).1
      rw [hresult, hfinal]
      dsimp only [OperatorStateStore.recovered]
      rw [hsequence]
      refine ⟨hnext, hfree, rfl, fun later => ⟨store.recovered (chain ++ [next]) next later, ?_, rfl⟩⟩
      exact recover_eq_ok.mpr ⟨hplan, hmarker, _, next,
        holds_insert hholds (length_le_of_accepted haccepted) next, haccepted', List.getLast?_concat, rfl⟩

end OperatorStateStore

end BoundSeal.Operator
