import BoundSeal.Lib.Method
import BoundSeal.Lib.Run
import BoundSeal.Rust.Files
import BoundSeal.Rust.JsonLines
import BoundSeal.Rust.MapSum

/-!
# Append-only logs: numbered files and a manifest

The exact-dedup index keeps each piece of its data in a numbered file, and for each
file a record on a line of the manifest. The records are chained by their digests.
`LogFormat` has the names, the records and the errors.
-/

namespace BoundSeal.Analyzers

open Rust Lib

/-! ## Formats -/

/-- What a log of records `ρ` with errors `ε` is made of. -/
structure LogFormat (ρ ε : Type) [Serde ρ] where
  manifestName : String
  start : String
  ending : String
  genesis : String → String
  sequence : ρ → ℕ
  previousHash : ρ → String
  fileName : ρ → String
  recordHash : ρ → String
  calculateHash : ρ → String
  verifyFile : ρ → Option Bytes → Except ε Unit
  io : ε
  exists_ : ε
  serialization : ε
  manifestChain : ℕ → ε
  manifestRecordHash : ℕ → ε
  orphan : String → ε
  isObject : ∀ r : ρ, ∃ fields, Serde.toJson r = .object fields
  tmp_manifest : endsWithStr ".tmp" manifestName = false
  tmp_file : ∀ n, endsWithStr ".tmp" (numberedName start ending n) = false
  ending_manifest : endsWithStr ending manifestName = false

theorem endsWithStr_numberedName {start ending other : String} (hlength : other.toList.length = ending.toList.length)
    (hne : other ≠ ending) (n : ℕ) : endsWithStr other (numberedName start ending n) = false := by
  rw [endsWithStr, Bool.eq_false_iff, ne_eq, List.isSuffixOf_iff_suffix, numberedName, String.toList_append]
  intro hsuffix
  have heq := (List.suffix_of_suffix_length_le hsuffix (List.suffix_append _ _) hlength.le).eq_of_length hlength
  exact hne (String.toList_inj.mp heq)

namespace LogFormat

variable {ρ ε : Type} [Serde ρ] (fmt : LogFormat ρ ε)

/-! ## Reading -/

def line (record : ρ) : Bytes := compactBytes record ++ [10]

/-- The records read so far and the hash of the last. -/
structure Reading (ρ : Type) where
  records : List ρ
  previousHash : String

def verifyLine (dir : Directory) (read : Reading ρ) (entry : List Char × ℕ) : Except ε (Reading ρ) :=
  if isBlankLine entry.1 then pure read
  else do
    let record ← okOr ((Json.fromStr (String.ofList entry.1)).bind Serde.fromJson) fmt.serialization
    failIf (fmt.sequence record ≠ read.records.length + 1 ∨
      fmt.previousHash record ≠ read.previousHash) (fmt.manifestChain entry.2)
    failIf (fmt.recordHash record ≠ fmt.calculateHash record) (fmt.manifestRecordHash entry.2)
    fmt.verifyFile record (dir.read (fmt.fileName record))
    pure ⟨read.records ++ [record], fmt.recordHash record⟩

/-- `load_and_verify_dedup_manifest`. -/
def loadAndVerify (dir : Directory) (id : String) : Except ε (List ρ) := do
  let content ← okOr (dir.read fmt.manifestName) fmt.io
  let text ← okOr (fromUtf8 content) fmt.io
  let read ← (lines text.toList).zipIdx.foldlM (fmt.verifyLine dir) ⟨[], fmt.genesis id⟩
  pure read.records

/-- `reject_orphan_runs`. -/
def rejectOrphans (dir : Directory) (records : List ρ) : Except ε Unit :=
  dir.keys.forM fun name => do
    failIf (endsWithStr ".tmp" name = true) (fmt.orphan name)
    failIf (startsWithStr fmt.start name = true ∧ endsWithStr fmt.ending name = true ∧
      name ∉ records.map fmt.fileName) (fmt.orphan name)

def nodeBytes : Node → ℕ
  | .file content => content.length
  | .other => 0

/-- `dedup_directory_bytes`. -/
def directoryBytes (dir : Directory) : ℕ :=
  (values dir).foldl (fun total node => saturatingAdd total (nodeBytes node)) 0

def tail (id : String) (records : List ρ) : String := (records.getLast?.map fmt.recordHash).getD (fmt.genesis id)

/-! ## Writing -/

def temporaryName (name : String) : String := name ++ ".tmp"

/-- `atomic_write_dedup_run`. -/
def atomicWrite (name : String) (content : Bytes) : Method ε Directory Unit := do
  Method.check fun dir => failIf (name ∈ dir) fmt.exists_
  Method.check fun dir => failIf (temporaryName name ∈ dir) fmt.io
  Method.modify fun dir => dir.insert (temporaryName name) (.file content)
  Method.modify fun dir => (dir.erase (temporaryName name)).insert name (.file content)

/-- `append_dedup_manifest_line`. -/
def appendLine (added : Bytes) : Method ε Directory Unit := do
  let old ← Method.check fun dir => okOr (dir.read fmt.manifestName) fmt.io
  Method.modify fun dir => dir.insert fmt.manifestName (.file (old ++ added))

/-! ## What is written -/

variable {fmt} {dir t : Directory} {name : String} {content : Bytes} {u : Unit}

theorem atomicWrite_eq_ok (h : fmt.atomicWrite name content dir = (.ok u, t)) :
    name ∉ dir ∧ t = dir.insert name (.file content) := by
  simp only [atomicWrite, Method.bind_eq_ok, Method.check_eq_ok, Method.modify_eq_ok, failIf_eq_ok] at h
  obtain ⟨_, _, ⟨hname, rfl⟩, _, _, ⟨htemporary, rfl⟩, _, _, rfl, rfl⟩ := h
  rw [Directory.erase_insert htemporary]
  exact ⟨hname, rfl⟩

theorem appendLine_eq_ok {added : Bytes} (h : fmt.appendLine added dir = (.ok u, t)) :
    ∃ old, dir.read fmt.manifestName = some old ∧ t = dir.insert fmt.manifestName (.file (old ++ added)) := by
  simp only [appendLine, Method.bind_eq_ok, Method.check_eq_ok, Method.modify_eq_ok, okOr_eq_ok] at h
  obtain ⟨old, _, ⟨hold, rfl⟩, rfl⟩ := h
  exact ⟨old, hold, rfl⟩

/-! ## Logs -/

/-- The directory holds the log of the records. `Log.load` says that such a log is read
back, `Log.append` that a piece which has been added belongs to it. -/
structure Log (fmt : LogFormat ρ ε) (id : String) (records : List ρ) (dir : Directory) : Prop where
  manifest : dir.read fmt.manifestName = some (records.flatMap line)
  chain : ∀ (k : ℕ) r, records[k]? = some r → fmt.sequence r = k + 1 ∧
    fmt.previousHash r = fmt.tail id (records.take k) ∧ fmt.recordHash r = fmt.calculateHash r
  names : ∀ r ∈ records, fmt.fileName r = numberedName fmt.start fmt.ending (fmt.sequence r)
  files : ∀ r ∈ records, fmt.verifyFile r (dir.read (fmt.fileName r)) = .ok ()
  temporary : ∀ name ∈ dir, endsWithStr ".tmp" name = false
  orphans : ∀ name ∈ dir, startsWithStr fmt.start name = true → endsWithStr fmt.ending name = true →
    name ∈ records.map fmt.fileName

namespace Log

variable {id : String} {records : List ρ} {r : ρ}

theorem tail_concat : fmt.tail id (records ++ [r]) = fmt.recordHash r := by
  rw [tail, List.getLast?_concat]
  rfl

theorem fromUtf8_manifest (records : List ρ) : fromUtf8 (records.flatMap line) =
    some (String.ofList ((records.map fun r => (Serde.toJson r).chars).flatMap fun text => text ++ ['\n'])) := by
  have hbytes : records.flatMap line = ((records.map fun r => (Serde.toJson r).chars).flatMap fun text =>
      text ++ ['\n']).flatMap String.utf8EncodeChar := by
    rw [List.flatMap_map, List.flatMap_assoc]
    refine List.flatMap_congr fun r _ => ?_
    rw [List.flatMap_append]
    rfl
  rw [hbytes, Json.fromUtf8_encoded]

theorem lines_manifest (records : List ρ) :
    lines ((records.map fun r => (Serde.toJson r).chars).flatMap fun text => text ++ ['\n']) =
      records.map fun r => (Serde.toJson r).chars := by
  refine lines_written fun text htext => ?_
  obtain ⟨r, -, rfl⟩ := List.mem_map.mp htext
  have hprintable := Json.printable_chars (Serde.toJson r)
  exact ⟨fun h => absurd (hprintable _ h) (by decide), fun h => absurd (hprintable _ h) (by decide)⟩

theorem not_blank (fmt : LogFormat ρ ε) (r : ρ) : isBlankLine (Serde.toJson r).chars = false := by
  obtain ⟨fields, hfields⟩ := fmt.isObject r
  rw [hfields, Json.chars, List.cons_append, isBlankLine, List.all_cons]
  rfl

theorem verifyLine_eq_ok {read : Reading ρ} {k : ℕ} (hsequence : fmt.sequence r = read.records.length + 1)
    (hprevious : fmt.previousHash r = read.previousHash) (hhash : fmt.recordHash r = fmt.calculateHash r)
    (hfile : fmt.verifyFile r (dir.read (fmt.fileName r)) = .ok ()) :
    fmt.verifyLine dir read ((Serde.toJson r).chars, k) = .ok ⟨read.records ++ [r], fmt.recordHash r⟩ := by
  rw [verifyLine, if_neg (by rw [not_blank fmt]; exact Bool.false_ne_true)]
  simp only [do_eq_ok, not_or, not_not]
  refine ⟨r, ?_, ⟨hsequence, hprevious⟩, hhash, hfile, rfl⟩
  rw [Json.fromStr_chars, Option.bind_some, Serde.fromJson_toJson]

section

variable (h : Log fmt id records dir)

include h

/-- **A log is read back.** -/
theorem load : fmt.loadAndVerify dir id = .ok records := by
  -- after the lines of the first records, those are what has been read
  have hread : ∀ (done todo : List ρ), done ++ todo = records →
      ((todo.map fun r => (Serde.toJson r).chars).zipIdx done.length).foldlM (fmt.verifyLine dir)
        ⟨done, fmt.tail id done⟩ = .ok ⟨records, fmt.tail id records⟩ := by
    intro done todo
    induction todo generalizing done with
    | nil =>
      intro hsplit
      rw [List.append_nil] at hsplit
      subst hsplit
      rfl
    | cons r todo ih =>
      intro hsplit
      have hmem : r ∈ records := by
        rw [← hsplit]
        exact List.mem_append_right _ List.mem_cons_self
      have hget : records[done.length]? = some r := by
        rw [← hsplit, List.getElem?_append_right (Nat.le_refl _), Nat.sub_self]
        rfl
      obtain ⟨hsequence, hprevious, hhash⟩ := h.chain _ _ hget
      rw [← hsplit, List.take_left] at hprevious
      rw [List.map_cons, List.zipIdx_cons, List.foldlM_cons,
        verifyLine_eq_ok hsequence hprevious hhash (h.files r hmem)]
      have hrest := ih (done ++ [r]) (by rw [List.append_assoc, ← hsplit]; rfl)
      rw [List.length_append, List.length_singleton, tail_concat] at hrest
      exact hrest
  rw [loadAndVerify, h.manifest]
  simp only [do_eq_ok]
  refine ⟨_, rfl, _, fromUtf8_manifest records, ⟨records, fmt.tail id records⟩, ?_, rfl⟩
  rw [String.toList_ofList, lines_manifest]
  exact hread [] records rfl

theorem noOrphans : fmt.rejectOrphans dir records = .ok () := by
  rw [rejectOrphans, forM_eq_ok]
  intro name hname
  have hmem : name ∈ dir := by simpa using hname
  simp only [do_eq_ok, Bool.not_eq_true, not_and, not_not]
  exact ⟨h.temporary name hmem, h.orphans name hmem⟩

theorem insertIfNew_manifest (node : Node) : dir.insertIfNew fmt.manifestName node = dir := by
  have hmem : fmt.manifestName ∈ dir := by
    have hmanifest := h.manifest
    rw [Directory.read] at hmanifest
    rw [Std.ExtTreeMap.mem_iff_isSome_getElem?]
    cases hnode : dir[fmt.manifestName]? with
    | none => simp [hnode] at hmanifest
    | some node => rfl
  refine Std.ExtTreeMap.ext_getElem? fun name => ?_
  rw [Std.ExtTreeMap.getElem?_insertIfNew, if_neg fun hnew => hnew.2 hmem]

end

/-- **A new log** has no records. -/
theorem fresh {dir' : Directory} (hnew : fmt.manifestName ∉ dir)
    (hdir : dir' = dir.insertIfNew fmt.manifestName (.file []))
    (hload : fmt.loadAndVerify dir' id = .ok records)
    (horphans : fmt.rejectOrphans dir' records = .ok ()) : records = [] ∧ Log fmt id [] dir' := by
  have hmanifest : Directory.read dir' fmt.manifestName = some [] := by
    rw [hdir, Directory.read, Std.ExtTreeMap.getElem?_insertIfNew, if_pos ⟨Std.ReflCmp.compare_self, hnew⟩]
  have hempty : records = [] := by
    simp only [loadAndVerify, hmanifest, do_eq_ok] at hload
    obtain ⟨content, hcontent, text, htext, read, hread, rfl⟩ := hload
    obtain rfl := Option.some.inj hcontent
    obtain rfl : text = "" := (Option.some.inj ((fromUtf8_manifest ([] : List ρ)).symm.trans htext)).symm
    obtain rfl := pure_eq_ok.mp hread
    rfl
  subst hempty
  rw [rejectOrphans, forM_eq_ok] at horphans
  simp only [do_eq_ok, Bool.not_eq_true, not_and, not_not] at horphans
  have hnames : ∀ name ∈ dir', name ∈ dir'.keys := fun name hname => by simpa using hname
  exact ⟨rfl, {
    manifest := hmanifest
    chain := fun k r hr => by simp at hr
    names := fun r hr => by simp at hr
    files := fun r hr => by simp at hr
    temporary := fun name hname => (horphans name (hnames name hname)).1
    orphans := fun name hname => (horphans name (hnames name hname)).2 }⟩

theorem fileName_ne_manifest (fmt : LogFormat ρ ε) (n : ℕ) :
    numberedName fmt.start fmt.ending n ≠ fmt.manifestName := by
  intro heq
  have hending : endsWithStr fmt.ending fmt.manifestName = true := by
    rw [← heq, endsWithStr, List.isSuffixOf_iff_suffix, numberedName, String.toList_append]
    exact List.suffix_append _ _
  rw [fmt.ending_manifest] at hending
  cases hending

theorem read_insert_self (dir : Directory) (name : String) (content : Bytes) :
    Directory.read (dir.insert name (.file content)) name = some content := by
  rw [Directory.read, getElem?_insert_self]

theorem read_insert_of_ne (dir : Directory) {name other : String} (h : name ≠ other) (node : Node) :
    Directory.read (dir.insert name node) other = dir.read other := by
  rw [Directory.read, getElem?_insert_of_ne _ _ h, Directory.read]

theorem sequence_le (h : Log fmt id records dir) (hr : r ∈ records) : fmt.sequence r ≤ records.length := by
  obtain ⟨k, hk⟩ := List.mem_iff_getElem?.mp hr
  have hlt : k < records.length := (List.getElem?_eq_some_iff.mp hk).1
  rw [(h.chain k r hk).1]
  omega

theorem read_append {n : ℕ} (h : Log fmt id records dir) (hn : records.length < n) (node node' : Node)
    (hr : r ∈ records) : Directory.read ((dir.insert (numberedName fmt.start fmt.ending n) node).insert fmt.manifestName
      node') (fmt.fileName r) = dir.read (fmt.fileName r) := by
  rw [h.names r hr, read_insert_of_ne _ (fileName_ne_manifest fmt _).symm, read_insert_of_ne]
  intro heq
  have hsame := numberedName_injective _ _ heq
  have hle := h.sequence_le hr
  omega

/-- **A piece that has been added** belongs to the log. -/
theorem append (h : Log fmt id records dir) (hsequence : fmt.sequence r = records.length + 1)
    (hprevious : fmt.previousHash r = fmt.tail id records) (hhash : fmt.recordHash r = fmt.calculateHash r)
    (hname : fmt.fileName r = numberedName fmt.start fmt.ending (fmt.sequence r))
    (hfile : fmt.verifyFile r (some content) = .ok ()) :
    Log fmt id (records ++ [r])
      ((dir.insert (fmt.fileName r) (.file content)).insert fmt.manifestName
        (.file (records.flatMap line ++ line r))) := by
  exact {
    manifest := by rw [read_insert_self, List.flatMap_append, List.flatMap_singleton]
    chain := fun k r' hr' => by
      rcases getElem?_concat_cases hr' with ⟨hlt, hr'⟩ | ⟨rfl, rfl⟩
      · rw [List.take_append_of_le_length hlt.le]
        exact h.chain k r' hr'
      · rw [List.take_left]
        exact ⟨hsequence, hprevious, hhash⟩
    names := fun r' hr' => by
      rcases List.mem_append.mp hr' with hr' | hr'
      · exact h.names r' hr'
      · rw [List.mem_singleton.mp hr']
        exact hname
    files := fun r' hr' => by
      rcases List.mem_append.mp hr' with hr' | hr'
      · rw [hname, h.read_append (by omega) _ _ hr']
        exact h.files r' hr'
      · rw [List.mem_singleton.mp hr', read_insert_of_ne _ (by rw [hname]; exact (fileName_ne_manifest fmt _).symm),
          read_insert_self]
        exact hfile
    temporary := fun other hother => by
      rcases Std.ExtTreeMap.mem_insert.mp hother with heq | hother
      · rw [← Std.LawfulEqOrd.eq_of_compare heq]
        exact fmt.tmp_manifest
      · rcases Std.ExtTreeMap.mem_insert.mp hother with heq | hother
        · rw [← Std.LawfulEqOrd.eq_of_compare heq, hname]
          exact fmt.tmp_file _
        · exact h.temporary other hother
    orphans := fun other hother hstart hending => by
      rw [List.map_append, List.map_singleton, List.mem_append, List.mem_singleton]
      rcases Std.ExtTreeMap.mem_insert.mp hother with heq | hother
      · rw [← Std.LawfulEqOrd.eq_of_compare heq, fmt.ending_manifest] at hending
        cases hending
      · rcases Std.ExtTreeMap.mem_insert.mp hother with heq | hother
        · exact .inr (Std.LawfulEqOrd.eq_of_compare heq).symm
        · exact .inl (h.orphans other hother hstart hending) }

end Log

end LogFormat

end BoundSeal.Analyzers
