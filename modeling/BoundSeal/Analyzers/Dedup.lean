import BoundSeal.Analyzers.Coverage
import BoundSeal.Analyzers.ManifestLog
import BoundSeal.Lib.SortedTable

/-!
# The exact deduplication index (`exact_dedup` of `nxb-passive-analyzers`)

The index remembers finding identifiers. The most recent ones are in a set in
memory; when that is full, the smallest of them are written to a *run*, a file of
sorted identifiers, 65 bytes each with the line break. An identifier is looked up in
the set, and then by binary search in every run whose range it is in.

The state of a method is the index together with the directory of its files. Texts
of errors that come from the operating system or from the standard library are left
out (`none`).
-/

namespace BoundSeal.Analyzers

open Rust Lib

/-! ## Data -/

/-- `FINDING_ID_HEX_BYTES`. -/
def findingIdHexBytes : ℕ := 64

/-- `FIXED_RECORD_BYTES`. -/
def fixedRecordBytes : ℕ := 65

/-- `MAX_HOT_SET_ENTRIES`. -/
def maxHotSetEntries : ℕ := 1000000

/-- `MAX_RUN_ENTRIES`. -/
def maxRunEntries : ℕ := 1000000

/-- `MAX_RUNS`. -/
def maxRuns : ℕ := 4096

inductive ExactDedupError where
  | invalidConfig (message : String)
  | invalidFindingId
  | io (message : Option String)
  | serialization
  | diskBudget
  | runLimit
  | manifestChain (recordIndex : ℕ)
  | manifestRecordHash (recordIndex : ℕ)
  | missingRun (name : String)
  | runHash (name : String)
  | runStructure (message : Option String)
  | orphanRun (name : String)
  deriving DecidableEq

structure ExactDedupConfig where
  root : String
  hotSetMaxEntries : ℕ
  runMaxEntries : ℕ
  diskBudgetBytes : ℕ

/-- `ExactDedupConfig::validate`. -/
def ExactDedupConfig.validate (config : ExactDedupConfig) : Except ExactDedupError Unit := do
  failIf (config.root = "") (.invalidConfig "root path is empty")
  failIf (config.hotSetMaxEntries = 0 ∨ config.hotSetMaxEntries > maxHotSetEntries ∨ config.runMaxEntries = 0 ∨
    config.runMaxEntries > maxRunEntries) (.invalidConfig "hot-set or run bound is outside policy")
  let minimumRunBytes := saturatingMul (min config.runMaxEntries config.hotSetMaxEntries) fixedRecordBytes
  failIf (config.diskBudgetBytes < saturatingAdd minimumRunBytes 4096)
    (.invalidConfig "disk budget cannot hold one configured run")

structure DedupRunRecord where
  sequence : ℕ
  previousHash : String
  fileName : String
  fileSha256 : String
  firstFindingId : String
  lastFindingId : String
  entryCount : ℕ
  fileBytes : ℕ
  recordHash : String
  deriving DecidableEq

instance : Serde DedupRunRecord where
  toJson record := .object [("sequence", .number record.sequence),
    ("previous_hash", .text record.previousHash),
    ("file_name", .text record.fileName),
    ("file_sha256", .text record.fileSha256),
    ("first_finding_id", .text record.firstFindingId),
    ("last_finding_id", .text record.lastFindingId),
    ("entry_count", .number record.entryCount),
    ("file_bytes", .number record.fileBytes),
    ("record_hash", .text record.recordHash)]
  fromJson value := do
    let fields ← value.recordFields ["sequence", "previous_hash", "file_name", "file_sha256",
      "first_finding_id", "last_finding_id", "entry_count", "file_bytes", "record_hash"]
    let sequence ← Json.field fields "sequence" Json.asNat
    let previousHash ← Json.field fields "previous_hash" Json.asText
    let fileName ← Json.field fields "file_name" Json.asText
    let fileSha256 ← Json.field fields "file_sha256" Json.asText
    let firstFindingId ← Json.field fields "first_finding_id" Json.asText
    let lastFindingId ← Json.field fields "last_finding_id" Json.asText
    let entryCount ← Json.field fields "entry_count" Json.asNat
    let fileBytes ← Json.field fields "file_bytes" Json.asNat
    let recordHash ← Json.field fields "record_hash" Json.asText
    some { sequence, previousHash, fileName, fileSha256, firstFindingId, lastFindingId, entryCount,
           fileBytes, recordHash }
  fromJson_toJson record := by
    simp [Json.recordFields_object, Json.field_self, Json.field_other, Json.asNat, Json.asText]

inductive ExactDedupOutcome where
  | unique
  | duplicate
  deriving DecidableEq

structure ExactDedupCheckpoint where
  indexId : String
  committedRuns : ℕ
  committedUniqueIds : ℕ
  pendingUniqueIds : ℕ
  duplicateObservations : ℕ
  diskBytes : ℕ
  manifestTailSha256 : String
  deriving DecidableEq

structure DiskBackedExactDedupIndex where
  config : ExactDedupConfig
  indexId : String
  hotSet : BTreeSet String
  runs : List DedupRunRecord
  manifestTail : String
  committedUniqueIds : ℕ
  duplicateObservations : ℕ
  diskBytes : ℕ

/-- `dedup_hash`. -/
def dedupHash (content : Bytes) : String := toLowerHex (Sha256.digest content)

/-- `validate_finding_id`. -/
def validateFindingId (value : String) : Except ExactDedupError Unit :=
  failIf (isLowerHexSha256 value = false) .invalidFindingId

/-- `validate_index_identifier`. -/
def validateIndexIdentifier (value : String) : Except ExactDedupError Unit :=
  failIf (isRuleId value = false) (.invalidConfig "index_id")

/-- `dedup_manifest_record_hash`. -/
def dedupManifestRecordHash (record : DedupRunRecord) : String :=
  hashJson (.array [.number record.sequence, .text record.previousHash, .text record.fileName, .text record.fileSha256,
    .text record.firstFindingId, .text record.lastFindingId, .number record.entryCount, .number record.fileBytes])

/-! ## Run files -/

/-- An identifier in a run. -/
def fixedRecord (id : String) : Bytes := bytes id ++ [10]

/-- One identifier of `encode_fixed_run`, after the bytes and the identifier before it. -/
def encodeOne (encoded : Bytes × Option String) (id : String) : Except ExactDedupError (Bytes × Option String) := do
  validateFindingId id
  failIf (encoded.2.any (id ≤ ·)) (.runStructure "run identifiers are not strictly sorted")
  pure (encoded.1 ++ fixedRecord id, some id)

/-- `encode_fixed_run`. -/
def encodeFixedRun (ids : List String) : Except ExactDedupError Bytes := do
  failIf (ids = [] ∨ ids.length > maxRunEntries) (.runStructure "run entry count is outside policy")
  let encoded ← ids.foldlM encodeOne ([], none)
  pure encoded.1

/-- One probe of `run_contains_exact`. -/
def probeRun (content : Bytes) (record : DedupRunRecord) (findingId : String) (midpoint : ℕ) :
    Except ExactDedupError Ordering := do
  let buffer := (content.drop (midpoint * fixedRecordBytes)).take fixedRecordBytes
  failIf (buffer.length ≠ fixedRecordBytes) (.io none)
  failIf (buffer[findingIdHexBytes]? ≠ some 10) (.runStructure record.fileName)
  let candidate ← okOr (fromUtf8 (buffer.take findingIdHexBytes)) (.runStructure none)
  pure (compare candidate findingId)

/-- `run_contains_exact`. -/
def runContainsExact (dir : Directory) (record : DedupRunRecord) (findingId : String) :
    Except ExactDedupError Bool := do
  let content ← okOr (dir.read record.fileName) (.io none)
  binarySearch (probeRun content record findingId) record.entryCount

/-- `slice::chunks_exact`. -/
def chunksExact (width : ℕ) (content : Bytes) : List Bytes :=
  (List.range (content.length / width)).map fun i => (content.drop (i * width)).take width

/-- A digit, or a letter from `a` to `f`. -/
def isLowerHexByte (b : UInt8) : Bool := (48 ≤ b && b ≤ 57) || (97 ≤ b && b ≤ 102)

/-- One chunk of `verify_dedup_run`, after the identifier before it. -/
def verifyChunk (record : DedupRunRecord) (previous : Option Bytes) (chunk : Bytes) :
    Except ExactDedupError (Option Bytes) := do
  let id := chunk.take findingIdHexBytes
  failIf (chunk[findingIdHexBytes]? ≠ some 10 ∨ id.any (fun b => !isLowerHexByte b) ∨
    previous.any (id ≤ ·)) (.runStructure record.fileName)
  pure (some id)

/-- `verify_dedup_run`, of the content of the file of the record, if there is one. -/
def verifyDedupRun (record : DedupRunRecord) (file : Option Bytes) : Except ExactDedupError Unit := do
  failIf (record.entryCount = 0 ∨ record.entryCount > maxRunEntries) (.runStructure record.fileName)
  validateFindingId record.firstFindingId
  validateFindingId record.lastFindingId
  failIf (record.firstFindingId > record.lastFindingId) (.runStructure record.fileName)
  let content ← okOr file (.missingRun record.fileName)
  let expectedBytes := saturatingMul record.entryCount fixedRecordBytes
  failIf (content.length ≠ expectedBytes ∨ record.fileBytes ≠ expectedBytes) (.runStructure record.fileName)
  failIf (dedupHash content ≠ record.fileSha256) (.runHash record.fileName)
  let _ ← (chunksExact fixedRecordBytes content).foldlM (verifyChunk record) none
  let first ← okOr (fromUtf8 (content.take findingIdHexBytes)) (.runStructure none)
  let lastOffset := saturatingMul (record.entryCount - 1) fixedRecordBytes
  let last ← okOr (fromUtf8 ((content.drop lastOffset).take findingIdHexBytes)) (.runStructure none)
  failIf (first ≠ record.firstFindingId ∨ last ≠ record.lastFindingId) (.runStructure record.fileName)

def dedupLog : LogFormat DedupRunRecord ExactDedupError where
  manifestName := "dedup-manifest.jsonl"
  start := "dedup-run-"
  ending := ".idx"
  genesis indexId := dedupHash (bytes ("nxb-exact-dedup:" ++ indexId))
  sequence := DedupRunRecord.sequence
  previousHash := DedupRunRecord.previousHash
  fileName := DedupRunRecord.fileName
  recordHash := DedupRunRecord.recordHash
  calculateHash := dedupManifestRecordHash
  verifyFile := verifyDedupRun
  io := .io none
  exists_ := .io "append-only dedup run already exists"
  serialization := .serialization
  manifestChain := .manifestChain
  manifestRecordHash := .manifestRecordHash
  orphan := .orphanRun
  isObject _ := ⟨_, rfl⟩
  tmp_manifest := by decide
  tmp_file n := endsWithStr_numberedName (by decide) (by decide) n
  ending_manifest := by decide

/-! ## The index -/

/-- The index with the directory of its files. -/
structure Dedup where
  index : DiskBackedExactDedupIndex
  dir : Directory

namespace DiskBackedExactDedupIndex

/-- `DiskBackedExactDedupIndex::open`, from the directory. -/
def openIndex (config : ExactDedupConfig) (indexId : String) :
    Method ExactDedupError Directory DiskBackedExactDedupIndex := do
  Method.ofExcept config.validate
  Method.ofExcept (validateIndexIdentifier indexId)
  Method.modify fun dir => dir.insertIfNew dedupLog.manifestName (.file [])
  let runs ← Method.check fun dir => dedupLog.loadAndVerify dir indexId
  Method.check fun dir => dedupLog.rejectOrphans dir runs
  Method.ofExcept (failIf (runs.length > maxRuns) .runLimit)
  let diskBytes ← Method.get LogFormat.directoryBytes
  Method.ofExcept (failIf (diskBytes > config.diskBudgetBytes) .diskBudget)
  pure {
    config
    indexId
    hotSet := ∅
    runs
    manifestTail := dedupLog.tail indexId runs
    committedUniqueIds := runs.foldl (fun sum record => saturatingAdd sum record.entryCount) 0
    duplicateObservations := 0
    diskBytes }

/-- One run: it is opened only if the identifier is in its range. -/
def searchRun (dir : Directory) (findingId : String) (run : DedupRunRecord) : Except ExactDedupError Bool :=
  if run.firstFindingId ≤ findingId ∧ findingId ≤ run.lastFindingId then runContainsExact dir run findingId
  else pure false

/-- The runs one after the other, until one has the identifier. -/
def searchRuns (dir : Directory) (findingId : String) : List DedupRunRecord → Except ExactDedupError Bool
  | [] => pure false
  | run :: runs => do
    let found ← searchRun dir findingId run
    if found then pure true else searchRuns dir findingId runs

/-- `DiskBackedExactDedupIndex::contains`. -/
def contains (d : Dedup) (findingId : String) : Except ExactDedupError Bool := do
  validateFindingId findingId
  if d.index.hotSet.contains findingId then pure true
  else searchRuns d.dir findingId d.index.runs.reverse

def runRecord (index : DiskBackedExactDedupIndex) (content : Bytes) (first last : String)
    (entryCount : ℕ) : DedupRunRecord where
  sequence := index.runs.length + 1
  previousHash := index.manifestTail
  fileName := numberedName dedupLog.start dedupLog.ending (index.runs.length + 1)
  fileSha256 := dedupHash content
  firstFindingId := first
  lastFindingId := last
  entryCount := entryCount
  fileBytes := content.length
  recordHash := ""

def committed (record : DedupRunRecord) (ids : List String) (index : DiskBackedExactDedupIndex) :
    DiskBackedExactDedupIndex :=
  { index with
    hotSet := ids.foldl (fun hot id => hot.erase id) index.hotSet
    diskBytes := saturatingAdd (saturatingAdd index.diskBytes record.fileBytes) (LogFormat.line record).length
    committedUniqueIds := saturatingAdd index.committedUniqueIds ids.length
    manifestTail := record.recordHash
    runs := index.runs ++ [record] }

def onFiles {α : Type} (p : Method ExactDedupError Directory α) : Method ExactDedupError Dedup α :=
  Method.onPart Dedup.dir (fun dir d => { d with dir }) p

/-- `DiskBackedExactDedupIndex::flush_one_run`. -/
def flushOneRun : Method ExactDedupError Dedup ℕ := do
  let index ← Method.get Dedup.index
  if index.hotSet.isEmpty then pure 0
  else do
    Method.ofExcept (failIf (index.runs.length ≥ maxRuns) .runLimit)
    let ids := index.hotSet.toList.take index.config.runMaxEntries
    let content ← Method.ofExcept (encodeFixedRun ids)
    let first ← Method.ofExcept (okOr ids.head? (.runStructure "run unexpectedly empty"))
    let last ← Method.ofExcept (okOr ids.getLast? (.runStructure "run unexpectedly empty"))
    let material := index.runRecord content first last ids.length
    let record := { material with recordHash := dedupManifestRecordHash material }
    let required := saturatingAdd (saturatingAdd record.fileBytes (LogFormat.line record).length) 4096
    Method.ofExcept (failIf (saturatingAdd index.diskBytes required > index.config.diskBudgetBytes) .diskBudget)
    onFiles (dedupLog.atomicWrite record.fileName content)
    onFiles (dedupLog.appendLine (LogFormat.line record))
    Method.modify fun d => { d with index := committed record ids d.index }
    pure ids.length

/-- The loop of `flush`: as long as the set is not empty. A run takes at least one
identifier out of it, so the number of identifiers bounds the rounds. -/
def flushRounds : ℕ → ℕ → Method ExactDedupError Dedup ℕ
  | 0, committed => pure committed
  | rounds + 1, committed => do
    let empty ← Method.get fun d => d.index.hotSet.isEmpty
    if empty then pure committed
    else do
      let count ← flushOneRun
      flushRounds rounds (saturatingAdd committed count)

/-- `DiskBackedExactDedupIndex::flush`. -/
def flush : Method ExactDedupError Dedup ℕ := do
  let entries ← Method.get fun d => d.index.hotSet.size
  flushRounds entries 0

/-- `DiskBackedExactDedupIndex::classify_and_insert`. -/
def classifyAndInsert (findingId : String) : Method ExactDedupError Dedup ExactDedupOutcome := do
  Method.ofExcept (validateFindingId findingId)
  let known ← Method.check fun d => contains d findingId
  if known then do
    Method.modify fun d => { d with index := { d.index with
      duplicateObservations := saturatingAdd d.index.duplicateObservations 1 } }
    pure .duplicate
  else do
    let full ← Method.get fun d => decide (d.index.hotSet.size ≥ d.index.config.hotSetMaxEntries)
    if full then do
      let _ ← flushOneRun
    Method.modify fun d => { d with index := { d.index with hotSet := d.index.hotSet.insert findingId } }
    pure .unique

/-- `DiskBackedExactDedupIndex::checkpoint`. -/
def checkpoint (index : DiskBackedExactDedupIndex) : ExactDedupCheckpoint where
  indexId := index.indexId
  committedRuns := index.runs.length
  committedUniqueIds := index.committedUniqueIds
  pendingUniqueIds := index.hotSet.size
  duplicateObservations := index.duplicateObservations
  diskBytes := index.diskBytes
  manifestTailSha256 := index.manifestTail

/-- `DiskBackedExactDedupIndex::verify`. -/
def verify (d : Dedup) : Except ExactDedupError Unit := do
  let verified ← dedupLog.loadAndVerify d.dir d.index.indexId
  failIf (verified ≠ d.index.runs) (.manifestChain 0)
  dedupLog.rejectOrphans d.dir verified

/-- `DiskBackedExactDedupIndex::finish`. -/
def finish : Method ExactDedupError Dedup ExactDedupCheckpoint := do
  let _ ← flush
  Method.check verify
  Method.get fun d => d.index.checkpoint

/-! ## Calls -/

/-- The calls of a caller that keeps one directory. -/
inductive DedupCall where
  | classifyAndInsert (findingId : String)
  | contains (findingId : String)
  | flush
  /-- `finish`, and then `open` on the same directory with the same identifier. -/
  | reopen (config : ExactDedupConfig)

/-- What the calls return with `Ok`. -/
inductive DedupReply where
  | outcome (outcome : ExactDedupOutcome)
  | found (found : Bool)
  | flushed (committed : ℕ)
  | reopened (checkpoint : ExactDedupCheckpoint)
  deriving DecidableEq

/-- `finish` and `open`. -/
def reopen (config : ExactDedupConfig) : Method ExactDedupError Dedup ExactDedupCheckpoint := do
  let indexId ← Method.get fun d => d.index.indexId
  let checkpoint ← finish
  let index ← onFiles (openIndex config indexId)
  Method.modify fun d => { d with index }
  pure checkpoint

def method : DedupCall → Method ExactDedupError Dedup DedupReply
  | .classifyAndInsert findingId => .outcome <$> classifyAndInsert findingId
  | .contains findingId => .found <$> Method.check fun d => contains d findingId
  | .flush => .flushed <$> flush
  | .reopen config => .reopened <$> reopen config

/-- A call that returns `Ok`. -/
def step (d : Dedup) (call : DedupCall) : Option (DedupReply × Dedup) :=
  match method call d with
  | (.ok reply, d') => some (reply, d')
  | (.error _, _) => none

end DiskBackedExactDedupIndex

end BoundSeal.Analyzers
