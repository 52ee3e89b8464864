import BoundSeal.Operator.Runtime

/-!
# What the journal says

The records of the journal by kind and number, and what a successful scan of the
journal says about them.
-/

namespace BoundSeal.Operator

open Rust Lib

/-! ## Names -/

theorem reverse_recordFileName (kind : RecordKind) (index : ℕ) :
    (recordFileName kind index).toList.reverse[5]? = kind.ending.toList.reverse[5]? := by
  rw [recordFileName, numberedName, String.toList_append, List.reverse_append, List.getElem?_append_left]
  cases kind <;> decide

variable {kind kind' : RecordKind} {index index' : ℕ}

theorem recordFileName_injective
    (h : recordFileName kind index = recordFileName kind' index') : kind = kind' ∧ index = index' := by
  have hkind : kind = kind' := by
    have hchar : kind.ending.toList.reverse[5]? = kind'.ending.toList.reverse[5]? := by
      rw [← reverse_recordFileName kind index, h, reverse_recordFileName]
    revert hchar
    cases kind <;> cases kind' <;> decide
  subst hkind
  exact ⟨rfl, numberedName_injective _ _ h⟩

@[simp] theorem recordFileName_inj :
    recordFileName kind index = recordFileName kind' index' ↔ kind = kind' ∧ index = index' :=
  ⟨recordFileName_injective, fun ⟨hkind, hindex⟩ => by rw [hkind, hindex]⟩

section

variable (kind : RecordKind) (index : ℕ)

theorem toList_recordFileName : ∃ rest, (recordFileName kind index).toList = 'r' :: rest := by
  refine ⟨"equest-".toList ++ (zeroPadded 20 index).toList ++ kind.ending.toList, ?_⟩
  simp [recordFileName, numberedName, String.toList_append]

theorem isTemporary_recordFileName : isTemporary (recordFileName kind index) = false := by
  obtain ⟨rest, hrest⟩ := toList_recordFileName kind index
  exact isTemporary_eq_false hrest (by decide)

theorem recordFileName_ne_lock : recordFileName kind index ≠ runtimeLockFile := by
  intro h
  obtain ⟨rest, hrest⟩ := toList_recordFileName kind index
  have hhead := congrArg (fun s : String => s.toList.head?) h
  simp only [hrest, List.head?_cons] at hhead
  revert hhead
  decide

end

theorem temporaryName_ne_recordFileName (name : String) (processId : ℕ) (kind : RecordKind)
    (index : ℕ) : temporaryName name processId ≠ recordFileName kind index :=
  temporaryName_ne (isTemporary_recordFileName kind index) name processId

variable {name : String}

/-- **A name of the journal** determines its number and kind. -/
theorem parseRecordFileName_eq_some :
    parseRecordFileName name = some (index, kind) ↔ index ≤ u64Max ∧ name = recordFileName kind index := by
  have hparse : ∀ k n, parseNumbered "request-" (RecordKind.ending k) name = some n ↔
      n ≤ u64Max ∧ name = recordFileName k n := fun k n => parseNumbered_eq_some
  rw [parseRecordFileName, List.findSome?_eq_some_iff]
  constructor
  · rintro ⟨before, k, after, -, hk, -⟩
    obtain ⟨n, hn, heq⟩ := Option.map_eq_some_iff.mp hk
    cases heq
    exact (hparse _ _).mp hn
  · rintro ⟨hmax, hname⟩
    -- no earlier kind has a name that ends like this one
    have hother : ∀ k, k ≠ kind → parseNumbered "request-" (RecordKind.ending k) name = none := by
      intro k hk
      cases hn : parseNumbered "request-" (RecordKind.ending k) name with
      | none => rfl
      | some n => exact absurd (recordFileName_injective (((hparse k n).mp hn).2.symm.trans hname)).1 hk
    have hself := (hparse kind index).mpr ⟨hmax, hname⟩
    cases kind with
    | prepared => exact ⟨[], .prepared, [.outcome, .commit], rfl, by rw [hself]; rfl, by simp⟩
    | outcome => exact ⟨[.prepared], .outcome, [.commit], rfl, by rw [hself]; rfl, by simp [hother]⟩
    | commit => exact ⟨[.prepared, .outcome], .commit, [], rfl, by rw [hself]; rfl, by simp [hother]⟩

/-! ## The entries of a journal -/

theorem RecordPaths.slot_put (paths : RecordPaths) (name : String) (kind kind' : RecordKind) :
    (paths.put name kind).slot kind' = if kind = kind' then some name else paths.slot kind' := by
  cases kind <;> cases kind' <;> rfl

def foundName (records : BTreeMap ℕ RecordPaths) (kind : RecordKind) (index : ℕ) : Option String :=
  ((records[index]?).getD {}).slot kind

theorem foundName_insert (records : BTreeMap ℕ RecordPaths) (name : String)
    (kind kind' : RecordKind) (index index' : ℕ) :
    foundName (records.insert index (((records[index]?).getD {}).put name kind)) kind' index' =
      if kind = kind' ∧ index = index' then some name else foundName records kind' index' := by
  by_cases hindex : index = index'
  · subst hindex
    rw [foundName, getElem?_insert_self, Option.getD_some, RecordPaths.slot_put]
    simp [foundName]
  · rw [foundName, getElem?_insert_of_ne _ _ hindex]
    simp [hindex, foundName]

/-- What the scan of a list of files has found: `found` has the records among the
files, each under its number. -/
structure Collected (files : List (String × Node)) (records : BTreeMap ℕ RecordPaths) : Prop where
  known : ∀ file ∈ files, file.2 ≠ .other ∧ (file.1 = runtimeLockFile ∨
    ∃ kind index, index ≤ u64Max ∧ file.1 = recordFileName kind index)
  names : ∀ kind index name, foundName records kind index = some name ↔
    index ≤ u64Max ∧ name = recordFileName kind index ∧ ∃ node, (name, node) ∈ files
  members : ∀ index, index ∈ records ↔ ∃ kind name, foundName records kind index = some name

theorem collected_nil : Collected [] ∅ := by
  refine ⟨by simp, ?_, ?_⟩
  · intro kind index name
    cases kind <;> simp [foundName, RecordPaths.slot]
  · intro index
    constructor
    · intro h
      exact absurd h (by simp)
    · rintro ⟨kind, name, h⟩
      cases kind <;> simp [foundName, RecordPaths.slot] at h

variable {records : BTreeMap ℕ RecordPaths}

section

variable {files : List (String × Node)} (h : Collected files records) {node : Node} (hnode : node ≠ .other)

include h hnode

theorem collected_lock : Collected (files ++ [(runtimeLockFile, node)]) records := by
  refine ⟨?_, ?_, h.members⟩
  · intro file hfile
    rcases List.mem_append.mp hfile with hfile | hfile
    · exact h.known file hfile
    · rw [List.mem_singleton.mp hfile]
      exact ⟨hnode, .inl rfl⟩
  · intro kind index name
    rw [h.names]
    constructor
    · rintro ⟨hmax, hname, node', hmem⟩
      exact ⟨hmax, hname, node', List.mem_append_left _ hmem⟩
    · rintro ⟨hmax, hname, node', hmem⟩
      rcases List.mem_append.mp hmem with hmem | hmem
      · exact ⟨hmax, hname, node', hmem⟩
      · have hlock := congrArg Prod.fst (List.mem_singleton.mp hmem)
        exact absurd (hname.symm.trans hlock) (recordFileName_ne_lock kind index)

theorem collected_record (hmax : index ≤ u64Max) :
    Collected (files ++ [(recordFileName kind index, node)])
      (records.insert index (((records[index]?).getD {}).put (recordFileName kind index) kind)) := by
  have hnames : ∀ kind' index' name,
      foundName (records.insert index (((records[index]?).getD {}).put (recordFileName kind index) kind)) kind' index' =
        some name ↔ index' ≤ u64Max ∧ name = recordFileName kind' index' ∧
          ∃ node', (name, node') ∈ files ++ [(recordFileName kind index, node)] := by
    intro kind' index' name
    rw [foundName_insert]
    by_cases hsame : kind = kind' ∧ index = index'
    · obtain ⟨rfl, rfl⟩ := hsame
      rw [if_pos ⟨rfl, rfl⟩, Option.some.injEq]
      constructor
      · rintro rfl
        exact ⟨hmax, rfl, node, List.mem_append_right _ (List.mem_singleton_self _)⟩
      · rintro ⟨-, rfl, -⟩
        rfl
    · rw [if_neg hsame, h.names]
      constructor
      · rintro ⟨hmax', hname, node', hmem⟩
        exact ⟨hmax', hname, node', List.mem_append_left _ hmem⟩
      · rintro ⟨hmax', hname, node', hmem⟩
        rcases List.mem_append.mp hmem with hmem | hmem
        · exact ⟨hmax', hname, node', hmem⟩
        · have heq := congrArg Prod.fst (List.mem_singleton.mp hmem)
          exact absurd (recordFileName_injective (heq.symm.trans hname)) hsame
  refine ⟨?_, hnames, ?_⟩
  · intro file hfile
    rcases List.mem_append.mp hfile with hfile | hfile
    · exact h.known file hfile
    · rw [List.mem_singleton.mp hfile]
      exact ⟨hnode, .inr ⟨kind, index, hmax, rfl⟩⟩
  · intro index'
    by_cases hsame : index = index'
    · subst hsame
      refine ⟨fun _ => ⟨kind, recordFileName kind index, ?_⟩, fun _ => Std.ExtTreeMap.mem_insert_self⟩
      rw [foundName_insert, if_pos ⟨rfl, rfl⟩]
    · rw [Std.ExtTreeMap.mem_insert, h.members]
      simp only [foundName_insert, hsame, and_false, if_false, compare_eq_iff_eq, false_or]

end

theorem collected_of_foldlM {files done : List (String × Node)} {found next : ℕ × BTreeMap ℕ RecordPaths}
    (hdone : Collected done found.2) (h : files.foldlM journalEntry found = .ok next) :
    Collected (done ++ files) next.2 := by
  induction files generalizing done found with
  | nil =>
    rw [List.foldlM_nil, pure_eq_ok] at h
    rw [List.append_nil, ← h]
    exact hdone
  | cons file files ih =>
    rw [List.foldlM_cons, bind_eq_ok] at h
    obtain ⟨middle, hmiddle, hrest⟩ := h
    rw [List.append_cons]
    refine ih ?_ hrest
    simp only [journalEntry, do_eq_ok] at hmiddle
    obtain ⟨hnode, hmiddle⟩ := hmiddle
    by_cases hlock : file.1 = runtimeLockFile
    · rw [if_pos hlock, pure_eq_ok] at hmiddle
      have hfile : file = (runtimeLockFile, file.2) := Prod.ext hlock rfl
      rw [← hmiddle, hfile]
      exact collected_lock hdone hnode
    · rw [if_neg hlock] at hmiddle
      simp only [collectRecord, do_eq_ok, Prod.exists, parseRecordFileName_eq_some] at hmiddle
      obtain ⟨-, index, kind, ⟨hmax, hname⟩, -, -, -, rfl⟩ := hmiddle
      have hfile : file = (recordFileName kind index, file.2) := Prod.ext hname rfl
      rw [hfile]
      exact collected_record hdone hnode hmax

/-- **The entries of a journal** are the records of the directory. -/
theorem journalEntries_eq_ok {journal : Directory} {journalBytes : ℕ}
    (h : journalEntries journal = .ok (journalBytes, records)) :
    (∀ name ∈ journal, name = runtimeLockFile ∨ ∃ kind index, index ≤ u64Max ∧ name = recordFileName kind index) ∧
      (∀ kind index name, foundName records kind index = some name ↔
        index ≤ u64Max ∧ name = recordFileName kind index ∧ name ∈ journal) ∧
      ∀ index, index ∈ records ↔ index ≤ u64Max ∧ ∃ kind, recordFileName kind index ∈ journal := by
  have hcollected := collected_of_foldlM collected_nil h
  rw [List.nil_append] at hcollected
  have hmem : ∀ name, (∃ node, (name, node) ∈ journal.toList) ↔ name ∈ journal := by
    intro name
    simp only [Std.ExtTreeMap.mem_toList_iff_getElem?_eq_some]
    rw [Directory.mem_iff_ne_none, Option.ne_none_iff_exists']
  have hnames : ∀ kind index name, foundName records kind index = some name ↔
      index ≤ u64Max ∧ name = recordFileName kind index ∧ name ∈ journal := by
    intro kind index name
    rw [hcollected.names, hmem]
  refine ⟨?_, hnames, ?_⟩
  · intro name hname
    obtain ⟨node, hnode⟩ := (hmem name).mpr hname
    exact (hcollected.known _ hnode).2
  · intro index
    simp only [hcollected.members, hnames]
    constructor
    · rintro ⟨kind, name, hmax, rfl, hname⟩
      exact ⟨hmax, kind, hname⟩
    · rintro ⟨hmax, kind, hname⟩
      exact ⟨kind, _, hmax, rfl, hname⟩

/-! ## The requests of a journal -/

variable {directory : Directory}

theorem readRecord_eq_ok {α : Type} [Serde α] {value : α} :
    readRecord directory name = .ok value ↔ directory.read name = some (canonicalBytes value) := by
  have hread : ∀ content, (readCanonical content).mapError RuntimeError.ofUnreadable = .ok value ↔
      content = canonicalBytes value := by
    intro content
    rw [← readCanonical_eq_ok]
    cases (readCanonical content : Except Unreadable α) <;> simp [Except.mapError]
  simp only [readRecord, do_eq_ok, hread]
  constructor
  · rintro ⟨content, hcontent, rfl⟩
    exact hcontent
  · intro h
    exact ⟨_, h, rfl⟩

theorem mem_of_read {content : Bytes}
    (h : directory.read name = some content) : name ∈ directory := by
  rw [Directory.mem_iff_ne_none, OperatorStateStore.read_eq_some.mp h]
  exact Option.some_ne_none _

/-- The request is committed: its commit record is in the journal, and the
checkpoint that the record names is in the state. -/
def CommittedRequest (journal stateDirectory : Directory) (index : ℕ) : Prop :=
  ∃ (commit : RequestCommitRecord) (checkpoint : OperatorCheckpoint),
    journal.read (commitFileName index) = some (canonicalBytes commit) ∧ commit.requestIndex = index ∧
      stateDirectory.read (checkpointFileName (index + 1)) = some (canonicalBytes checkpoint) ∧
      checkpoint.checkpointSha256 = commit.checkpointSha256 ∧ checkpoint.counters = commit.counters ∧
      checkpoint.counters.requestsCompleted = index + 1

section Scan

variable {journal stateDirectory : Directory} {records : BTreeMap ℕ RecordPaths}

/-- What a verdict says about the records it was given. -/
def Judged (stateDirectory : Directory) (index : ℕ) (prepared : PreparedRequestRecord)
    (outcome : Option RequestOutcomeRecord) (commit : Option RequestCommitRecord) : RequestVerdict → Prop
  | .unresolved _ => commit = none
  | .reconcile record => outcome = some record ∧ commit = none
  | .committed ms request => ∃ record commitRecord, outcome = some record ∧ commit = some commitRecord ∧
      judgeCommit stateDirectory index prepared record commitRecord = .ok (.committed ms request)

theorem judged_judgeOutcome (index : ℕ) (prepared : PreparedRequestRecord) (record : RequestOutcomeRecord) :
    Judged stateDirectory index prepared (some record) none (judgeOutcome stateDirectory index record) := by
  unfold judgeOutcome
  cases readStateCheckpoint stateDirectory (index + 1) with
  | error e => exact rfl
  | ok checkpoint =>
    by_cases hcounters : checkpoint.counters = record.resultingCounters <;> simp [hcounters, Judged]

variable {index : ℕ}

variable {prepared : PreparedRequestRecord}

variable {commit : Option RequestCommitRecord}

variable {verdict : RequestVerdict} {path : Option String}

theorem judge_eq_ok {outcome : Option RequestOutcomeRecord}
    (h : judge stateDirectory index prepared outcome commit = .ok verdict) :
    Judged stateDirectory index prepared outcome commit verdict := by
  cases outcome with
  | none =>
    cases commit with
    | none =>
      cases h
      rfl
    | some commit => cases h
  | some record =>
    cases commit with
    | none =>
      rw [judge, pure_eq_ok] at h
      subst h
      exact judged_judgeOutcome index prepared record
    | some commitRecord =>
      rw [judge] at h
      have hcommitted := h
      simp only [judgeCommit, do_eq_ok] at hcommitted
      obtain ⟨-, checkpoint, -, -, rfl⟩ := hcommitted
      exact ⟨record, commitRecord, rfl, rfl, h⟩

theorem readOutcome_eq_ok
    {outcome : RequestOutcomeRecord} (h : readOutcome journal index prepared path = .ok (some outcome)) :
    ∃ name, path = some name ∧ journal.read name = some (canonicalBytes outcome) ∧ outcome.requestIndex = index := by
  cases path with
  | none => simp [readOutcome] at h
  | some name =>
    simp only [readOutcome, do_eq_ok, readRecord_eq_ok, Option.some.injEq, not_or, not_not] at h
    obtain ⟨record, hread, -, hindex, rfl⟩ := h
    exact ⟨name, rfl, hread, hindex.1⟩

theorem readCommit_eq_ok (h : readCommit journal path = .ok commit) :
    (path = none ∧ commit = none) ∨ ∃ name record, path = some name ∧ commit = some record ∧
      journal.read name = some (canonicalBytes record) ∧ record.verify = .ok () := by
  cases path with
  | none =>
    cases h
    exact .inl ⟨rfl, rfl⟩
  | some name =>
    simp only [readCommit, do_eq_ok, readRecord_eq_ok] at h
    obtain ⟨record, hread, hverify, rfl⟩ := h
    exact .inr ⟨name, record, rfl, rfl, hread, hverify⟩

/-- What the verdict on a request says about the directories. -/
def Scanned (journal stateDirectory : Directory) (index : ℕ) : RequestVerdict → Prop
  | .unresolved _ => commitFileName index ∉ journal
  | .reconcile outcome => outcome.requestIndex = index ∧ outcomeFileName index ∈ journal ∧
      commitFileName index ∉ journal
  | .committed _ _ => outcomeFileName index ∈ journal ∧ CommittedRequest journal stateDirectory index

theorem scanRequest_eq_ok (hentries : ∀ kind index name, foundName records kind index = some name ↔
      index ≤ u64Max ∧ name = recordFileName kind index ∧ name ∈ journal)
    {paths : RecordPaths} (hpaths : records[index]? = some paths)
    (h : scanRequest journal stateDirectory index paths = .ok verdict) :
    preparedFileName index ∈ journal ∧ Scanned journal stateDirectory index verdict := by
  have hslot : ∀ kind, foundName records kind index = paths.slot kind := by
    intro kind
    rw [foundName, hpaths, Option.getD_some]
  simp only [scanRequest, do_eq_ok, readRecord_eq_ok, not_not] at h
  obtain ⟨path, hpath, prepared, hprepared, -, -, outcome, houtcome, commit, hcommit, hjudge⟩ := h
  have hname : index ≤ u64Max ∧ path = preparedFileName index ∧ path ∈ journal :=
    (hentries .prepared index path).mp ((hslot .prepared).trans hpath)
  refine ⟨hname.2.1 ▸ hname.2.2, ?_⟩
  -- a request without a commit path has no commit file
  have hnone : paths.commit = none → commitFileName index ∉ journal := by
    intro hpath hmem
    have hfound := (hentries .commit index _).mpr ⟨hname.1, rfl, hmem⟩
    rw [hslot .commit] at hfound
    exact absurd (hfound.symm.trans hpath) (Option.some_ne_none _)
  have hnocommit : commit = none → commitFileName index ∉ journal := by
    intro hnil
    rcases readCommit_eq_ok hcommit with ⟨hpath, -⟩ | ⟨-, record, -, hsome, -⟩
    · exact hnone hpath
    · rw [hnil] at hsome
      cases hsome
  have houtcomeFile : ∀ record, outcome = some record → record.requestIndex = index ∧
      outcomeFileName index ∈ journal := by
    rintro record rfl
    obtain ⟨name, hpath, -, hindex⟩ := readOutcome_eq_ok houtcome
    obtain ⟨-, rfl, hmem⟩ := (hentries .outcome index name).mp ((hslot .outcome).trans hpath)
    exact ⟨hindex, hmem⟩
  have hverdict := judge_eq_ok hjudge
  cases verdict with
  | unresolved phase => exact hnocommit hverdict
  | reconcile record =>
    obtain ⟨hindex, hmem⟩ := houtcomeFile record hverdict.1
    exact ⟨hindex, hmem, hnocommit hverdict.2⟩
  | committed ms request =>
    obtain ⟨record, commitRecord, hrecord, rfl, hcommitted⟩ := hverdict
    refine ⟨(houtcomeFile record hrecord).2, ?_⟩
    rcases readCommit_eq_ok hcommit with ⟨-, hnil⟩ | ⟨name, record', hpath, hsome, hread, hverify⟩
    · cases hnil
    · cases hsome
      obtain ⟨-, rfl, -⟩ := (hentries .commit index name).mp ((hslot .commit).trans hpath)
      simp only [judgeCommit, do_eq_ok, readStateCheckpoint, readRecord_eq_ok, not_or, not_not] at hcommitted
      obtain ⟨⟨hindex, -, -⟩, checkpoint, hcheckpoint, ⟨hsha, hcounters⟩, -⟩ := hcommitted
      simp only [RequestCommitRecord.verify, do_eq_ok, not_or, not_not] at hverify
      obtain ⟨⟨-, hsequence, hcompleted, -, -⟩, -⟩ := hverify
      rw [hindex] at hsequence hcompleted
      rw [hsequence] at hcheckpoint
      exact ⟨commitRecord, checkpoint, hread, hindex, hcheckpoint, hsha, hcounters, by rw [hcounters, hcompleted]⟩

def ScannedCommitted (journal stateDirectory : Directory) (entry : ℕ × RecordPaths) : Prop :=
  ∃ epochMilliseconds request,
    scanRequest journal stateDirectory entry.1 entry.2 = .ok (.committed epochMilliseconds request)

/-- The ways in which the second loop of the scan can end. -/
inductive ScanEnd (journal stateDirectory : Directory) (st : ScanState)
    (records : List (ℕ × RecordPaths)) (st' : ScanState) : Prop
  | resolved : st'.unresolved = none → st'.reconcile = none →
      st'.committedRequests = st.committedRequests + records.length →
      (∀ entry ∈ records, ScannedCommitted journal stateDirectory entry) → ScanEnd journal stateDirectory st records st'
  | undecided {init : List (ℕ × RecordPaths)} {index : ℕ} {paths : RecordPaths} {phase : UnresolvedRequestPhase} :
      records = init ++ [(index, paths)] → st'.unresolved = some (index, phase) → st'.reconcile = none →
      st'.committedRequests = st.committedRequests + init.length →
      (∀ entry ∈ init, ScannedCommitted journal stateDirectory entry) →
      scanRequest journal stateDirectory index paths = .ok (.unresolved phase) →
      ScanEnd journal stateDirectory st records st'
  | reconcilable {init : List (ℕ × RecordPaths)} {index : ℕ} {paths : RecordPaths} {outcome : RequestOutcomeRecord} :
      records = init ++ [(index, paths)] → st'.unresolved = none → st'.reconcile = some outcome →
      st'.committedRequests = st.committedRequests + init.length →
      (∀ entry ∈ init, ScannedCommitted journal stateDirectory entry) →
      scanRequest journal stateDirectory index paths = .ok (.reconcile outcome) →
      ScanEnd journal stateDirectory st records st'

section

variable {expected : ℕ} {st st' : ScanState} {records : List (ℕ × RecordPaths)}
  (h : scanLoop journal stateDirectory expected st records = .ok st')

include h

theorem scanLoop_incomplete (hst : st.incompleteSeen = true) : records = [] ∧ st' = st := by
  cases records with
  | nil =>
    rw [scanLoop, pure_eq_ok] at h
    exact ⟨rfl, h.symm⟩
  | cons entry records =>
    simp only [scanLoop, do_eq_ok] at h
    exact absurd hst h.1

/-- **The requests of a scanned journal** are numbered in order, and all but the
last are committed. -/
theorem scanLoop_eq_ok (hunresolved : st.unresolved = none) (hreconcile : st.reconcile = none) :
    records.map (·.1) = List.range' expected records.length ∧ ScanEnd journal stateDirectory st records st' := by
  induction records generalizing expected st with
  | nil =>
    rw [scanLoop, pure_eq_ok] at h
    subst h
    exact ⟨rfl, .resolved hunresolved hreconcile rfl (by simp)⟩
  | cons entry records ih =>
    obtain ⟨index, paths⟩ := entry
    simp only [scanLoop, do_eq_ok, not_not] at h
    obtain ⟨-, rfl, verdict, hverdict, hrest⟩ := h
    cases verdict with
    | unresolved phase =>
      obtain ⟨rfl, rfl⟩ := scanLoop_incomplete hrest rfl
      exact ⟨rfl, .undecided (List.nil_append _).symm rfl hreconcile rfl (by simp) hverdict⟩
    | reconcile outcome =>
      obtain ⟨rfl, rfl⟩ := scanLoop_incomplete hrest (by simp [ScanState.record, ScanState.incompleteSeen])
      exact ⟨rfl, .reconcilable (List.nil_append _).symm hunresolved rfl rfl (by simp) hverdict⟩
    | committed ms request =>
      obtain ⟨hnumbers, hend⟩ := ih hrest hunresolved hreconcile
      have hhead : ScannedCommitted journal stateDirectory (index, paths) := ⟨ms, request, hverdict⟩
      have hinit : ∀ {init : List (ℕ × RecordPaths)}, (∀ entry ∈ init, ScannedCommitted journal stateDirectory entry) →
          ∀ entry ∈ (index, paths) :: init, ScannedCommitted journal stateDirectory entry := by
        intro init hall entry hentry
        rcases List.mem_cons.mp hentry with rfl | hentry
        · exact hhead
        · exact hall entry hentry
      have hcount : ∀ {init : List (ℕ × RecordPaths)},
          st'.committedRequests = (st.record index (.committed ms request)).committedRequests + init.length →
          st'.committedRequests = st.committedRequests + ((index, paths) :: init).length := by
        intro init hcommitted
        rw [hcommitted, List.length_cons]
        show st.committedRequests + 1 + init.length = _
        omega
      refine ⟨by rw [List.map_cons, hnumbers, List.length_cons, List.range'_succ], ?_⟩
      cases hend with
      | resolved hu hr hcommitted hall => exact .resolved hu hr (hcount hcommitted) (hinit hall)
      | undecided hsplit hu hr hcommitted hall hlast =>
        exact .undecided (by rw [hsplit, List.cons_append]) hu hr (hcount hcommitted) (hinit hall) hlast
      | reconcilable hsplit hu hr hcommitted hall hlast =>
        exact .reconcilable (by rw [hsplit, List.cons_append]) hu hr (hcount hcommitted) (hinit hall) hlast

end

/-- What a successful scan says about the journal and the state. -/
structure ScannedJournal (journal stateDirectory : Directory) (state : RecoveredOperatorState)
    (scan : JournalScan) : Prop where
  next : scan.nextRequestIndex = scan.committedRequests
  committed : ∀ i < scan.committedRequests, outcomeFileName i ∈ journal ∧ CommittedRequest journal stateDirectory i
  last : (scan.unresolvedRequest = none ∧ scan.reconcile = none ∧
      state.latest.counters.requestsCompleted = scan.committedRequests ∧
      ∀ kind i, recordFileName kind i ∈ journal → i < scan.committedRequests) ∨
    (scan.unresolvedRequest.isSome ∧ scan.reconcile = none ∧
      state.latest.counters.requestsCompleted = scan.committedRequests ∧
      ∀ kind i, recordFileName kind i ∈ journal → i ≤ scan.committedRequests) ∨
    ∃ outcome, scan.unresolvedRequest = none ∧ scan.reconcile = some outcome ∧
      outcome.requestIndex = scan.committedRequests ∧
      state.latest.counters.requestsCompleted = scan.committedRequests + 1 ∧
      outcomeFileName scan.committedRequests ∈ journal ∧ commitFileName scan.committedRequests ∉ journal ∧
      ∀ kind i, recordFileName kind i ∈ journal → i ≤ scan.committedRequests

theorem scanJournal_eq_ok {state : RecoveredOperatorState} {scan : JournalScan}
    (h : scanJournal journal stateDirectory state = .ok scan) :
    ScannedJournal journal stateDirectory state scan := by
  simp only [scanJournal, do_eq_ok, Prod.exists, not_and, not_not] at h
  obtain ⟨journalBytes, records, hentries, st, hloop, hnone, hsome, rfl⟩ := h
  obtain ⟨hknown, hnames, hmembers⟩ := journalEntries_eq_ok hentries
  obtain ⟨hnumbers, hend⟩ := scanLoop_eq_ok hloop rfl rfl
  have hget : ∀ {index paths}, (index, paths) ∈ records.toList → records[index]? = some paths := fun hmem =>
    Std.ExtTreeMap.mem_toList_iff_getElem?_eq_some.mp hmem
  -- the numbers of the records are those below the length of the list
  have hbelow : ∀ kind i, recordFileName kind i ∈ journal → i < records.toList.length := by
    intro kind i hmem
    have hi : i ∈ records := by
      refine (hmembers i).mpr ⟨?_, kind, hmem⟩
      rcases hknown _ hmem with hlock | ⟨kind', index, hmax, hname⟩
      · exact absurd hlock (recordFileName_ne_lock kind i)
      · rw [(recordFileName_injective hname).2]
        exact hmax
    rw [Std.ExtTreeMap.mem_iff_isSome_getElem?, Option.isSome_iff_exists] at hi
    obtain ⟨paths, hpaths⟩ := hi
    have hmem' : i ∈ records.toList.map (·.1) :=
      List.mem_map.mpr ⟨(i, paths), Std.ExtTreeMap.mem_toList_iff_getElem?_eq_some.mpr hpaths, rfl⟩
    rw [hnumbers, List.mem_range'_1] at hmem'
    omega
  -- an entry of an initial part of the list has its position as its number
  have hcommitted : ∀ init rest, records.toList = init ++ rest →
      (∀ entry ∈ init, ScannedCommitted journal stateDirectory entry) → ∀ i < init.length,
        outcomeFileName i ∈ journal ∧ CommittedRequest journal stateDirectory i := by
    intro init rest hsplit hall i hi
    have hlength : i < records.toList.length := by
      rw [hsplit, List.length_append]
      omega
    have hentry : init[i] = records.toList[i] := by
      simp only [hsplit, List.getElem_append_left hi]
    have hnumber : (init[i]).1 = i := by
      have hmap : (records.toList.map (·.1))[i]? = some (records.toList[i]).1 := by
        rw [List.getElem?_map, List.getElem?_eq_getElem hlength]
        rfl
      rw [hnumbers, List.getElem?_range' hlength] at hmap
      rw [hentry]
      simpa using hmap.symm
    obtain ⟨ms, request, hscan⟩ := hall _ (List.getElem_mem hi)
    have hpaths : records[(init[i]).1]? = some (init[i]).2 :=
      hget (by rw [hentry]; exact List.getElem_mem hlength)
    obtain ⟨-, houtcome, hrequest⟩ := scanRequest_eq_ok hnames hpaths hscan
    rw [hnumber] at houtcome hrequest
    exact ⟨houtcome, hrequest⟩
  have hlastNumber : ∀ init index paths, records.toList = init ++ [(index, paths)] → index = init.length := by
    intro init index paths hsplit
    have hmap := congrArg (fun l => l[init.length]?) hnumbers
    rw [hsplit] at hmap
    simpa using hmap
  cases hend with
  | resolved hu hr hcount hall =>
    rw [Nat.zero_add] at hcount
    refine ⟨rfl, ?_, .inl ⟨hu, hr, hnone (by rw [hr]; rfl), ?_⟩⟩
    · intro i hi
      exact hcommitted records.toList [] (by simp) hall i (hcount ▸ hi)
    · intro kind i hmem
      show i < st.committedRequests
      rw [hcount]
      exact hbelow kind i hmem
  | @undecided init index paths phase hsplit hu hr hcount hall hlast =>
    rw [Nat.zero_add] at hcount
    refine ⟨rfl, ?_, .inr (.inl ⟨by rw [hu]; rfl, hr, hnone (by rw [hr]; rfl), ?_⟩)⟩
    · intro i hi
      exact hcommitted init _ hsplit hall i (hcount ▸ hi)
    · intro kind i hmem
      have hi := hbelow kind i hmem
      rw [hsplit, List.length_append, List.length_singleton] at hi
      show i ≤ st.committedRequests
      omega
  | @reconcilable init index paths outcome hsplit hu hr hcount hall hlast =>
    rw [Nat.zero_add] at hcount
    have hindex : index = st.committedRequests := by
      rw [hcount]
      exact hlastNumber init index paths hsplit
    have hpaths : records[index]? = some paths := hget (by rw [hsplit]; simp)
    obtain ⟨-, hrequest, houtcome, hcommit⟩ := scanRequest_eq_ok hnames hpaths hlast
    rw [hindex] at hrequest houtcome hcommit
    refine ⟨rfl, ?_, .inr (.inr ⟨outcome, hu, hr, hrequest, hsome (by rw [hr]; rfl), houtcome, hcommit, ?_⟩)⟩
    · intro i hi
      exact hcommitted init _ hsplit hall i (hcount ▸ hi)
    · intro kind i hmem
      have hi := hbelow kind i hmem
      rw [hsplit, List.length_append, List.length_singleton] at hi
      show i ≤ st.committedRequests
      omega

end Scan

end BoundSeal.Operator
