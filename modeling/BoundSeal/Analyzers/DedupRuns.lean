import BoundSeal.Analyzers.Dedup

/-!
# The deduplication index is a set

The abstract index is a set of identifiers: `classify_and_insert` puts one in and
says whether it was new, `contains` asks for membership, and neither `flush` nor
closing and opening again changes it (`Answers`).
-/

namespace BoundSeal.Analyzers

open Rust Lib

/-! ## Identifiers as bytes -/

theorem bytes_eq (s : String) : bytes s = s.toList.flatMap String.utf8EncodeChar := by
  have hencoded : s.toByteArray = s.toList.utf8Encode := by
    rw [← String.toByteArray_ofList, String.ofList_toList]
  rw [bytes, hencoded, List.utf8Encode]
  simp

theorem fromUtf8_bytes (s : String) : fromUtf8 (bytes s) = some s := by
  rw [bytes_eq, Json.fromUtf8_encoded, String.ofList_toList]

theorem length_bytes (s : String) : (bytes s).length = s.utf8ByteSize := by
  rfl

/-- An identifier is 64 characters of one byte each. -/
structure IsFindingId (id : String) : Prop where
  ascii : ∀ c ∈ id.toList, c.isDigit = true ∨ ('a' ≤ c ∧ c ≤ 'f')
  size : id.utf8ByteSize = 64

variable {id : String}

theorem validateFindingId_eq_ok : validateFindingId id = .ok () ↔ IsFindingId id := by
  rw [validateFindingId, failIf_eq_ok, Bool.not_eq_false, isLowerHexSha256]
  simp only [Bool.and_eq_true, beq_iff_eq, List.all_eq_true, Bool.or_eq_true, decide_eq_true_eq]
  exact ⟨fun h => ⟨h.2, h.1⟩, fun h => ⟨h.size, h.ascii⟩⟩

theorem IsFindingId.length_fixedRecord (h : IsFindingId id) : (fixedRecord id).length = fixedRecordBytes := by
  rw [fixedRecord, List.length_append, length_bytes, h.size]
  rfl

def byteOf (c : Char) : UInt8 := UInt8.ofNat c.toNat

variable {c : Char}

theorem isHexChar_cases (h : c.isDigit = true ∨ ('a' ≤ c ∧ c ≤ 'f')) :
    (48 ≤ c.toNat ∧ c.toNat ≤ 57) ∨ (97 ≤ c.toNat ∧ c.toNat ≤ 102) := by
  rcases h with h | h
  · simp only [Char.isDigit, ge_iff_le, Bool.and_eq_true, decide_eq_true_eq] at h
    exact .inl h
  · exact .inr h

theorem utf8EncodeChar_eq (h : c.toNat < 128) : String.utf8EncodeChar c = [byteOf c] := by
  unfold String.utf8EncodeChar
  simp only [byteOf]
  split
  · rfl
  · next hgt => exact absurd (show c.val.toNat ≤ 127 by have : c.toNat = c.val.toNat := rfl; omega) hgt

theorem IsFindingId.bytes_eq_map (h : IsFindingId id) : bytes id = id.toList.map byteOf := by
  rw [bytes_eq, ← List.flatMap_pure_eq_map]
  refine List.flatMap_congr fun c hc => utf8EncodeChar_eq ?_
  have := isHexChar_cases (h.ascii c hc)
  omega

theorem map_lt_map {α β : Type} [LT α] [LT β] {f : α → β} {l l' : List α}
    (hf : ∀ a ∈ l, ∀ b ∈ l', a < b → f a < f b) (h : l < l') : l.map f < l'.map f := by
  rw [← List.lex_lt] at h ⊢
  induction h with
  | nil => exact .nil
  | cons h ih => exact .cons (ih fun a ha b hb => hf a (List.mem_cons_of_mem _ ha) b (List.mem_cons_of_mem _ hb))
  | rel h => exact .rel (hf _ List.mem_cons_self _ List.mem_cons_self h)

theorem toNat_byteOf (h : c.toNat < 128) : (byteOf c).toNat = c.toNat := by
  simp only [byteOf, UInt8.toNat_ofNat']
  omega

theorem IsFindingId.lt_bytes {a b : String} (ha : IsFindingId a) (hb : IsFindingId b) (h : a < b) :
    bytes a < bytes b := by
  rw [ha.bytes_eq_map, hb.bytes_eq_map]
  refine map_lt_map (fun c hc d hd hlt => ?_) (String.lt_iff_toList_lt.mp h)
  have hc := isHexChar_cases (ha.ascii c hc)
  have hd := isHexChar_cases (hb.ascii d hd)
  rw [UInt8.lt_iff_toNat_lt, toNat_byteOf (by omega), toNat_byteOf (by omega)]
  exact hlt

theorem IsFindingId.isLowerHexByte (h : IsFindingId id) {b : UInt8} (hb : b ∈ bytes id) :
    Analyzers.isLowerHexByte b = true := by
  rw [h.bytes_eq_map] at hb
  obtain ⟨c, hc, rfl⟩ := List.mem_map.mp hb
  have hc := isHexChar_cases (h.ascii c hc)
  simp only [Analyzers.isLowerHexByte, Bool.or_eq_true, Bool.and_eq_true, decide_eq_true_eq,
    UInt8.le_iff_toNat_le, toNat_byteOf (show c.toNat < 128 by omega)]
  exact hc

/-! ## Runs -/

variable {ids : List String}

theorem encodeFixedRun_eq_ok {content : Bytes} : encodeFixedRun ids = .ok content ↔
    (ids ≠ [] ∧ ids.length ≤ maxRunEntries) ∧ (∀ id ∈ ids, IsFindingId id) ∧ ids.Pairwise (· < ·) ∧
      content = ids.flatMap fixedRecord := by
  have hfold : ∀ (ids : List String) (encoded : Bytes) (previous : Option String),
      (∃ last, ids.foldlM encodeOne (encoded, previous) = .ok (content, last)) ↔ (∀ id ∈ ids, IsFindingId id) ∧
        (previous.toList ++ ids).IsChain (· < ·) ∧ content = encoded ++ ids.flatMap fixedRecord := by
    intro ids
    induction ids with
    | nil =>
      intro encoded previous
      have hchain : (previous.toList ++ []).IsChain (· < ·) := by cases previous <;> simp
      constructor
      · rintro ⟨_, hnil⟩
        cases hnil
        exact ⟨by simp, hchain, (List.append_nil _).symm⟩
      · rintro ⟨-, -, rfl⟩
        exact ⟨previous, by rw [List.flatMap_nil, List.append_nil]; rfl⟩
    | cons id ids ih =>
      intro encoded previous
      have hrest := ih (encoded ++ fixedRecord id) (some id)
      simp only [List.foldlM_cons, encodeOne, do_eq_ok, validateFindingId_eq_ok, List.forall_mem_cons]
      have hstep : (previous.toList ++ id :: ids).IsChain (· < ·) ↔
          ¬ previous.any (id ≤ ·) = true ∧ (id :: ids).IsChain (· < ·) := by
        cases previous <;> simp
      constructor
      · rintro ⟨last, _, ⟨hvalid, hprevious, rfl⟩, hfold⟩
        obtain ⟨hids, hchain, rfl⟩ := hrest.mp ⟨last, hfold⟩
        exact ⟨⟨hvalid, hids⟩, hstep.mpr ⟨hprevious, hchain⟩, List.append_assoc ..⟩
      · rintro ⟨⟨hvalid, hids⟩, hchain, rfl⟩
        obtain ⟨hprevious, hchain⟩ := hstep.mp hchain
        obtain ⟨last, hfold⟩ := hrest.mpr ⟨hids, hchain, (List.append_assoc ..).symm⟩
        exact ⟨last, _, ⟨hvalid, hprevious, rfl⟩, hfold⟩
  simp only [encodeFixedRun, do_eq_ok, not_or, not_lt, Prod.exists, exists_and_right, exists_eq_right]
  rw [hfold ids [] none, Option.toList_none, List.nil_append, List.nil_append, List.isChain_iff_pairwise]

theorem range_of_sorted {first last : String} (hsorted : ids.Pairwise (· < ·))
    (hfirst : ids.head? = some first) (hlast : ids.getLast? = some last) (hid : id ∈ ids) : first ≤ id ∧ id ≤ last := by
  constructor
  · cases ids with
    | nil => cases hid
    | cons head rest =>
      obtain rfl := Option.some.inj hfirst
      rcases List.mem_cons.mp hid with rfl | hid
      · exact le_refl _
      · exact ((List.pairwise_cons.mp hsorted).1 id hid).le
  · obtain ⟨rest, rfl⟩ := List.getLast?_eq_some_iff.mp hlast
    rcases List.mem_append.mp hid with hid | hid
    · exact ((List.pairwise_append.mp hsorted).2.2 id hid _ (List.mem_singleton_self _)).le
    · exact (List.mem_singleton.mp hid).le

structure RecordOf (record : DedupRunRecord) (ids : List String) : Prop where
  valid : ∀ id ∈ ids, IsFindingId id
  sorted : ids.Pairwise (· < ·)
  short : ids.length ≤ maxRunEntries
  count : record.entryCount = ids.length
  first : ids.head? = some record.firstFindingId
  last : ids.getLast? = some record.lastFindingId

structure RunOf (dir : Directory) (record : DedupRunRecord) (ids : List String) : Prop extends
    RecordOf record ids where
  file : dir.read record.fileName = some (ids.flatMap fixedRecord)

namespace RunOf

variable {dir : Directory} {record : DedupRunRecord} {ids : List String}

section

variable (h : RunOf dir record ids)

include h

theorem probe (findingId : String) {i : ℕ} (hi : ids[i]? = some id) :
    probeRun (ids.flatMap fixedRecord) record findingId i = .ok (compare id findingId) := by
  have hid := h.valid id (List.mem_of_getElem? hi)
  have hrow := row_eq (fun a ha => (h.valid a ha).length_fixedRecord) hi
  have hbytes : (bytes id).length = findingIdHexBytes := (length_bytes id).trans hid.size
  simp only [probeRun, hrow, do_eq_ok, not_not]
  refine ⟨hid.length_fixedRecord, ?_, id, ?_, rfl⟩
  · rw [fixedRecord, ← hbytes, List.getElem?_concat_length]
  · rw [fixedRecord, List.take_left' hbytes, fromUtf8_bytes]

/-- Looking up an identifier in a run is membership in the list of the identifiers the run
was written from. -/
theorem contains (findingId : String) :
    runContainsExact dir record findingId = .ok (decide (findingId ∈ ids)) := by
  rw [runContainsExact, h.file]
  show binarySearch _ record.entryCount = _
  rw [h.count]
  exact binarySearch_sorted h.sorted fun i id hi => h.probe findingId hi

theorem in_range (hid : id ∈ ids) :
    record.firstFindingId ≤ id ∧ id ≤ record.lastFindingId := range_of_sorted h.sorted h.first h.last hid

end

theorem congr {dir' : Directory} (h : RunOf dir record ids)
    (hread : Directory.read dir' record.fileName = dir.read record.fileName) : RunOf dir' record ids :=
  { h with file := hread.trans h.file }

end RunOf

/-! ## A new run -/

section

variable {ids : List String} {record : DedupRunRecord}

theorem chunksExact_flatMap (h : ∀ id ∈ ids, IsFindingId id) :
    chunksExact fixedRecordBytes (ids.flatMap fixedRecord) = ids.map fixedRecord := by
  have hwidth := fun id hid => (h id hid).length_fixedRecord
  have hlength := length_flatMap_width hwidth
  refine List.ext_getElem? fun i => ?_
  rw [chunksExact, hlength, Nat.mul_div_cancel _ (by decide), List.getElem?_map, List.getElem?_map]
  by_cases hi : i < ids.length
  · rw [List.getElem?_range hi, List.getElem?_eq_getElem hi, Option.map_some, Option.map_some,
      row_eq hwidth (List.getElem?_eq_getElem hi)]
  · rw [List.getElem?_eq_none (by simpa using hi), List.getElem?_eq_none (by simpa using hi)]
    rfl

theorem take_fixedRecord (h : IsFindingId id) : (fixedRecord id).take findingIdHexBytes = bytes id :=
  List.take_left' ((length_bytes id).trans h.size)

theorem verifyChunks_eq_ok (h : ∀ id ∈ ids, IsFindingId id) (hsorted : ids.Pairwise (· < ·))
    (previous : Option Bytes) (hprevious : ∀ p, previous = some p → ∀ id ∈ ids, p < bytes id) :
    ∃ last, (ids.map fixedRecord).foldlM (verifyChunk record) previous = .ok last := by
  induction ids generalizing previous with
  | nil => exact ⟨previous, rfl⟩
  | cons id ids ih =>
    have hid := h id List.mem_cons_self
    obtain ⟨hfirst, hrest⟩ := List.pairwise_cons.mp hsorted
    have hchunk : verifyChunk record previous (fixedRecord id) = .ok (some (bytes id)) := by
      simp only [verifyChunk, take_fixedRecord hid, do_eq_ok, not_or, not_not]
      refine ⟨⟨?_, ?_, ?_⟩, trivial⟩
      · rw [fixedRecord, show findingIdHexBytes = (bytes id).length from hid.size.symm, List.getElem?_concat_length]
      · rw [List.any_eq_true]
        rintro ⟨b, hb, hnot⟩
        rw [hid.isLowerHexByte hb] at hnot
        cases hnot
      · cases previous with
        | none => exact Bool.false_ne_true
        | some p =>
          have hlt := hprevious p rfl id List.mem_cons_self
          simpa using hlt
    obtain ⟨last, hlast⟩ := ih (fun other hother => h other (List.mem_cons_of_mem id hother)) hrest
      (some (bytes id)) (fun p hp other hother => by
        obtain rfl := Option.some.inj hp
        exact hid.lt_bytes (h other (List.mem_cons_of_mem id hother)) (hfirst other hother))
    refine ⟨last, ?_⟩
    rw [List.map_cons, List.foldlM_cons, hchunk]
    exact hlast

theorem verifyDedupRun_eq_ok (h : RecordOf record ids) (hbytes : record.fileBytes = (ids.flatMap fixedRecord).length)
    (hhash : record.fileSha256 = dedupHash (ids.flatMap fixedRecord)) :
    verifyDedupRun record (some (ids.flatMap fixedRecord)) = .ok () := by
  obtain ⟨hvalid, hsorted, hshort, hcount, hfirst, hlast⟩ := h
  have hwidth := fun id hid => (hvalid id hid).length_fixedRecord
  have hlength := length_flatMap_width hwidth
  have hpos : 0 < ids.length := List.length_pos_of_mem (List.mem_of_mem_head? hfirst)
  have hmul : ∀ {n : ℕ}, n ≤ ids.length → saturatingMul n fixedRecordBytes = n * fixedRecordBytes := by
    intro n hn
    unfold saturatingMul maxRunEntries fixedRecordBytes u64Max at *
    omega
  have hfirst' := hvalid _ (List.mem_of_mem_head? hfirst)
  have hlast' := hvalid _ (List.mem_of_getLast? hlast)
  have hrow : ∀ {i : ℕ} {id : String}, ids[i]? = some id → IsFindingId id →
      ((ids.flatMap fixedRecord).drop (i * fixedRecordBytes)).take findingIdHexBytes = bytes id := by
    intro i id hi hid
    have htake := congrArg (List.take findingIdHexBytes) (row_eq hwidth hi)
    rw [List.take_take, take_fixedRecord hid] at htake
    exact htake
  simp only [verifyDedupRun, do_eq_ok, not_or, not_not, not_lt]
  refine ⟨⟨by omega, by omega⟩, validateFindingId_eq_ok.mpr hfirst',
    validateFindingId_eq_ok.mpr hlast', ?_, _, rfl, ?_, hhash.symm, ?_⟩
  · exact (range_of_sorted hsorted hfirst hlast (List.mem_of_mem_head? hfirst)).2
  · rw [hcount, hmul (Nat.le_refl _), ← hlength]
    exact ⟨rfl, hbytes⟩
  · rw [chunksExact_flatMap hvalid]
    obtain ⟨final, hfinal⟩ := @verifyChunks_eq_ok _ record hvalid hsorted none (by simp)
    refine ⟨final, hfinal, record.firstFindingId, ?_, record.lastFindingId, ?_, rfl, rfl⟩
    · have hzero := hrow (i := 0) (by rw [← List.head?_eq_getElem?]; exact hfirst) hfirst'
      rw [Nat.zero_mul, List.drop_zero] at hzero
      rw [hzero, fromUtf8_bytes]
    · rw [hcount, hmul (by omega), hrow (by rw [← List.getLast?_eq_getElem?]; exact hlast) hlast', fromUtf8_bytes]

end

namespace DiskBackedExactDedupIndex

variable {runs : List DedupRunRecord} {hot : BTreeSet String}

theorem searchRuns_eq {dir : Directory} {parts : List (List String)}
    (h : List.Forall₂ (RunOf dir) runs parts) (findingId : String) :
    searchRuns dir findingId runs = .ok (decide (∃ ids ∈ parts, findingId ∈ ids)) := by
  induction h with
  | nil => simp [searchRuns]
  | @cons record ids runs parts hrun hrest ih =>
    have hfound : searchRun dir findingId record = .ok (decide (findingId ∈ ids)) := by
      unfold searchRun
      split
      · exact hrun.contains findingId
      · next hrange =>
        rw [decide_eq_false fun hmem => hrange (hrun.in_range hmem)]
        rfl
    rw [searchRuns, hfound]
    by_cases hmem : findingId ∈ ids
    · simp only [bind, Except.bind, decide_eq_true hmem]
      simp [hmem]
    · simp only [bind, Except.bind, decide_eq_false hmem]
      rw [if_neg Bool.false_ne_true, ih]
      simp [hmem]

/-! ## The index and its set -/

/-- The runs hold `parts`; together with the set in memory these are the identifiers `S`. -/
structure Inv (parts : List (List String)) (S : Finset String) (d : Dedup) : Prop where
  log : LogFormat.Log dedupLog d.index.indexId d.index.runs d.dir
  tail : d.index.manifestTail = dedupLog.tail d.index.indexId d.index.runs
  runs : List.Forall₂ (RunOf d.dir) d.index.runs parts
  limit : d.index.runs.length ≤ maxRuns
  members : ∀ id, id ∈ S ↔ id ∈ d.index.hotSet ∨ ∃ ids ∈ parts, id ∈ ids
  committed : d.index.committedUniqueIds = (parts.map List.length).sum
  size : S.card = d.index.hotSet.size + d.index.committedUniqueIds

variable {parts : List (List String)} {S : Finset String} {d d' : Dedup}

theorem sum_length_le {dir : Directory} (h : List.Forall₂ (RunOf dir) runs parts) :
    (parts.map List.length).sum ≤ runs.length * maxRunEntries := by
  induction h with
  | nil => simp
  | cons hrun _ ih =>
    have hshort := hrun.short
    simp only [List.map_cons, List.sum_cons, List.length_cons]
    rw [Nat.succ_mul]
    omega

theorem Inv.contains (h : Inv parts S d) {findingId : String} {found : Bool}
    (hok : contains d findingId = .ok found) : found = true ↔ findingId ∈ S := by
  simp only [DiskBackedExactDedupIndex.contains, do_eq_ok] at hok
  obtain ⟨-, hok⟩ := hok
  rw [h.members]
  split at hok
  · next hhot =>
    obtain rfl := pure_eq_ok.mp hok
    exact ⟨fun _ => .inl (Std.ExtTreeSet.mem_iff_contains.mpr hhot), fun _ => rfl⟩
  · next hhot =>
    rw [searchRuns_eq (List.rel_reverse h.runs)] at hok
    obtain rfl := Except.ok.inj hok
    rw [← Std.ExtTreeSet.mem_iff_contains] at hhot
    simp [hhot]

theorem Inv.verify (h : Inv parts S d) : verify d = .ok () := by
  simp only [DiskBackedExactDedupIndex.verify, do_eq_ok, not_not]
  exact ⟨_, h.log.load, rfl, h.log.noOrphans⟩

/-! ## Writing a run -/

variable {id : String}

theorem mem_foldl_erase :
    id ∈ ids.foldl (fun hot id => hot.erase id) hot ↔ id ∈ hot ∧ id ∉ ids := by
  induction ids generalizing hot with
  | nil => simp
  | cons other ids ih =>
    rw [List.foldl_cons, ih, Std.ExtTreeSet.mem_erase, ne_eq, Std.LawfulEqOrd.compare_eq_iff_eq, List.mem_cons, not_or]
    constructor
    · rintro ⟨⟨hne, hhot⟩, hids⟩
      exact ⟨hhot, Ne.symm hne, hids⟩
    · rintro ⟨hhot, hne, hids⟩
      exact ⟨⟨Ne.symm hne, hhot⟩, hids⟩

theorem size_foldl_erase (hnodup : ids.Nodup)
    (hsub : ∀ id ∈ ids, id ∈ hot) : (ids.foldl (fun hot id => hot.erase id) hot).size + ids.length = hot.size := by
  induction ids generalizing hot with
  | nil => simp
  | cons id ids ih =>
    obtain ⟨hnew, hnodup⟩ := List.nodup_cons.mp hnodup
    have hid := hsub id List.mem_cons_self
    have hback : (hot.erase id).insert id = hot := by
      refine Std.ExtTreeSet.ext_mem fun other => ?_
      rw [Std.ExtTreeSet.mem_insert, Std.ExtTreeSet.mem_erase, ne_eq, Std.LawfulEqOrd.compare_eq_iff_eq]
      by_cases heq : id = other
      · simp [← heq, hid]
      · simp [heq]
    have hsize : hot.size = (hot.erase id).size + 1 := by
      rw [← size_insert_new_set (k := id) (by simp), hback]
    have hrest := @ih (hot.erase id) hnodup fun other hother => by
      rw [Std.ExtTreeSet.mem_erase, ne_eq, Std.LawfulEqOrd.compare_eq_iff_eq]
      exact ⟨fun heq => hnew (heq ▸ hother), hsub other (List.mem_cons_of_mem id hother)⟩
    rw [List.foldl_cons, List.length_cons, hsize]
    omega

/-- What `flush_one_run` does to an index with identifiers in memory. -/
structure Wrote (ids : List String) (record : DedupRunRecord) (d d' : Dedup) : Prop where
  room : d.index.runs.length < maxRuns
  hot : ∀ id ∈ ids, id ∈ d.index.hotSet
  run : RecordOf record ids
  bytes : record.fileBytes = (ids.flatMap fixedRecord).length
  sha256 : record.fileSha256 = dedupHash (ids.flatMap fixedRecord)
  sequence : record.sequence = d.index.runs.length + 1
  previous : record.previousHash = d.index.manifestTail
  name : record.fileName = numberedName dedupLog.start dedupLog.ending record.sequence
  hash : record.recordHash = dedupManifestRecordHash record
  files : ∃ old, d.dir.read dedupLog.manifestName = some old ∧
    d'.dir = (d.dir.insert record.fileName (.file (ids.flatMap fixedRecord))).insert dedupLog.manifestName
      (.file (old ++ LogFormat.line record))
  index : d'.index = committed record ids d.index

theorem dedupManifestRecordHash_with (record : DedupRunRecord) (recordHash : String) :
    dedupManifestRecordHash { record with recordHash } = dedupManifestRecordHash record := rfl

variable {n : ℕ}

theorem flushOneRun_eq_ok (hok : flushOneRun d = (.ok n, d')) :
    (d.index.hotSet.isEmpty = true ∧ d' = d) ∨ ∃ ids record, Wrote ids record d d' := by
  rw [flushOneRun, Method.bind_eq_ok] at hok
  obtain ⟨index, _, hindex, hok⟩ := hok
  obtain ⟨rfl, rfl⟩ := Method.get_eq_ok.mp hindex
  dsimp only at hok
  split at hok
  · next hempty =>
    obtain ⟨-, rfl⟩ := Method.pure_eq_ok.mp hok
    exact .inl ⟨hempty, rfl⟩
  · next hempty =>
    right
    simp only [Method.bind_eq_ok, Method.ofExcept_eq_ok, Method.modify_eq_ok, Method.pure_eq_ok,
      failIf_eq_ok, okOr_eq_ok, onFiles, Method.onPart_eq_ok, not_le] at hok
    obtain ⟨_, _, ⟨hruns, rfl⟩, content, _, ⟨hcontent, rfl⟩, first, _, ⟨hfirst, rfl⟩, last, _, ⟨hlast, rfl⟩, _, d,
      ⟨-, rfl⟩, _, _, ⟨dir₁, hwrite, rfl⟩, _, _, ⟨dir₂, hline, rfl⟩, _, _, rfl, -, rfl⟩ := hok
    obtain ⟨⟨-, hshort⟩, hvalid, hsorted, rfl⟩ := encodeFixedRun_eq_ok.mp hcontent
    obtain ⟨-, rfl⟩ := LogFormat.atomicWrite_eq_ok hwrite
    obtain ⟨old, hold, rfl⟩ := LogFormat.appendLine_eq_ok hline
    set ids := d.index.hotSet.toList.take d.index.config.runMaxEntries
    set material := d.index.runRecord (ids.flatMap fixedRecord) first last ids.length
    refine ⟨ids, { material with recordHash := dedupManifestRecordHash material }, {
      room := hruns
      hot := fun id hid => Std.ExtTreeSet.mem_toList.mp (List.mem_of_mem_take hid)
      run := ⟨hvalid, hsorted, hshort, rfl, hfirst, hlast⟩
      bytes := rfl
      sha256 := rfl
      sequence := rfl
      previous := rfl
      name := rfl
      hash := (dedupManifestRecordHash_with material _).symm
      files := ⟨old, by
        rw [← hold]
        exact (LogFormat.Log.read_insert_of_ne _ (LogFormat.Log.fileName_ne_manifest dedupLog _) _).symm, rfl⟩
      index := rfl }⟩

variable {ids : List String} {record : DedupRunRecord}

theorem Inv.committed_add (h : Inv parts S d) (hroom : d.index.runs.length < maxRuns)
    (hshort : ids.length ≤ maxRunEntries) :
    saturatingAdd d.index.committedUniqueIds ids.length = ((parts ++ [ids]).map List.length).sum := by
  have hsum := sum_length_le h.runs
  rw [h.committed, saturatingAdd_eq_add]
  · simp
  · have hle : d.index.runs.length * maxRunEntries ≤ (maxRuns - 1) * maxRunEntries :=
      Nat.mul_le_mul_right _ (by omega)
    unfold maxRuns maxRunEntries u64Max at *
    omega

/-- **A run that is written** moves identifiers from the memory to the files. -/
theorem Inv.wrote (h : Inv parts S d) (hw : Wrote ids record d d') : Inv (parts ++ [ids]) S d' := by
  obtain ⟨index', dir'⟩ := d'
  obtain ⟨old, hold, hdir⟩ := hw.files
  obtain rfl : old = _ := Option.some.inj (hold.symm.trans h.log.manifest)
  obtain rfl : dir' = _ := hdir
  obtain rfl : index' = _ := hw.index
  have hverified := verifyDedupRun_eq_ok hw.run hw.bytes hw.sha256
  have hsize := size_foldl_erase (hw.run.sorted.imp fun hlt => ne_of_lt hlt) hw.hot
  exact {
    log := h.log.append hw.sequence (hw.previous.trans h.tail) hw.hash hw.name hverified
    tail := (@LogFormat.Log.tail_concat _ _ _ dedupLog _ d.index.runs record).symm
    runs := by
      refine List.rel_append ?_ (.cons ?_ .nil)
      · refine ((List.forall₂_and_left _ _).mpr ⟨fun r hr => hr, h.runs⟩).imp fun r part hr => hr.2.congr ?_
        show Directory.read ((d.dir.insert record.fileName _).insert dedupLog.manifestName _) r.fileName = _
        rw [hw.name]
        exact h.log.read_append (by rw [hw.sequence]; omega) _ _ hr.1
      · exact {
          toRecordOf := hw.run
          file := by
            show Directory.read ((d.dir.insert record.fileName _).insert dedupLog.manifestName _) record.fileName = _
            rw [LogFormat.Log.read_insert_of_ne, LogFormat.Log.read_insert_self]
            rw [hw.name]
            exact (LogFormat.Log.fileName_ne_manifest dedupLog _).symm }
    limit := by
      have hroom := hw.room
      show (d.index.runs ++ [record]).length ≤ maxRuns
      rw [List.length_append, List.length_singleton]
      omega
    members := fun id => by
      rw [h.members]
      show _ ↔ id ∈ ids.foldl (fun hot id => hot.erase id) d.index.hotSet ∨ _
      rw [mem_foldl_erase]
      simp only [List.mem_append, List.mem_singleton, or_and_right, exists_or, exists_eq_left]
      have hin : id ∈ ids → id ∈ d.index.hotSet := hw.hot id
      constructor
      · rintro (hhot | hpart)
        · by_cases hid : id ∈ ids
          · exact .inr (.inr hid)
          · exact .inl ⟨hhot, hid⟩
        · exact .inr (.inl hpart)
      · rintro (⟨hhot, -⟩ | hpart | hid)
        · exact .inl hhot
        · exact .inr hpart
        · exact .inl (hin hid)
    committed := h.committed_add hw.room hw.run.short
    size := by
      show S.card = (ids.foldl (fun hot id => hot.erase id) d.index.hotSet).size +
        saturatingAdd d.index.committedUniqueIds ids.length
      rw [h.committed_add hw.room hw.run.short, h.size, h.committed, List.map_append, List.sum_append]
      simp only [List.map_cons, List.map_nil, List.sum_cons, List.sum_nil]
      omega }

theorem Inv.flushOneRun (h : Inv parts S d) (hok : flushOneRun d = (.ok n, d')) :
    ∃ parts', Inv parts' S d' ∧ d'.index.indexId = d.index.indexId ∧
      (d'.index.hotSet.size < d.index.hotSet.size ∨ d.index.hotSet.isEmpty = true ∧ d' = d) := by
  rcases flushOneRun_eq_ok hok with ⟨hempty, rfl⟩ | ⟨ids, record, hw⟩
  · exact ⟨parts, h, rfl, .inr ⟨hempty, rfl⟩⟩
  · refine ⟨parts ++ [ids], h.wrote hw, by rw [hw.index]; rfl, .inl ?_⟩
    have hsize := size_foldl_erase (hw.run.sorted.imp fun hlt => ne_of_lt hlt) hw.hot
    have hpos := List.length_pos_of_mem (List.mem_of_mem_head? hw.run.first)
    rw [hw.index]
    show (ids.foldl (fun hot id => hot.erase id) d.index.hotSet).size < _
    omega

theorem Inv.flushRounds {rounds committed : ℕ} (h : Inv parts S d)
    (hrounds : d.index.hotSet.size ≤ rounds) (hok : flushRounds rounds committed d = (.ok n, d')) :
    ∃ parts', Inv parts' S d' ∧ d'.index.indexId = d.index.indexId ∧ d'.index.hotSet.isEmpty = true := by
  induction rounds generalizing parts d committed with
  | zero =>
    obtain ⟨-, rfl⟩ := Method.pure_eq_ok.mp hok
    refine ⟨parts, h, rfl, ?_⟩
    rw [Std.ExtTreeSet.isEmpty_eq_size_beq_zero, beq_iff_eq]
    omega
  | succ rounds ih =>
    rw [DiskBackedExactDedupIndex.flushRounds, Method.bind_eq_ok] at hok
    obtain ⟨empty, _, hget, hok⟩ := hok
    obtain ⟨rfl, rfl⟩ := Method.get_eq_ok.mp hget
    split at hok
    · next hempty =>
      obtain ⟨-, rfl⟩ := Method.pure_eq_ok.mp hok
      exact ⟨parts, h, rfl, hempty⟩
    · next hempty =>
      obtain ⟨count, d₁, hone, hrest⟩ := Method.bind_eq_ok.mp hok
      obtain ⟨parts₁, h₁, hid, hless | ⟨hnone, -⟩⟩ := h.flushOneRun hone
      · obtain ⟨parts', h', hid', hdone⟩ := ih h₁ (by omega) hrest
        exact ⟨parts', h', hid'.trans hid, hdone⟩
      · exact absurd hnone hempty

theorem Inv.flush (h : Inv parts S d) (hok : flush d = (.ok n, d')) :
    ∃ parts', Inv parts' S d' ∧ d'.index.indexId = d.index.indexId ∧ d'.index.hotSet.isEmpty = true := by
  rw [DiskBackedExactDedupIndex.flush, Method.bind_eq_ok] at hok
  obtain ⟨entries, _, hget, hok⟩ := hok
  obtain ⟨rfl, rfl⟩ := Method.get_eq_ok.mp hget
  exact h.flushRounds (Nat.le_refl _) hok

/-! ## Opening -/

variable {config : ExactDedupConfig}

variable {index : DiskBackedExactDedupIndex}

variable {indexId : String} {dir dir' : Directory}

theorem openIndex_eq_ok (hok : openIndex config indexId dir = (.ok index, dir')) :
    config.validate = .ok () ∧ index.config = config ∧ index.diskBytes = LogFormat.directoryBytes dir' ∧
      dir' = dir.insertIfNew dedupLog.manifestName (.file []) ∧ dedupLog.loadAndVerify dir' indexId = .ok index.runs ∧
      dedupLog.rejectOrphans dir' index.runs = .ok () ∧ index.runs.length ≤ maxRuns ∧ index.indexId = indexId ∧
      index.hotSet = ∅ ∧ index.manifestTail = dedupLog.tail indexId index.runs ∧
      index.committedUniqueIds = index.runs.foldl (fun sum record => saturatingAdd sum record.entryCount) 0 := by
  simp only [openIndex, Method.bind_eq_ok, Method.ofExcept_eq_ok, Method.modify_eq_ok,
    Method.check_eq_ok, Method.get_eq_ok, Method.pure_eq_ok, failIf_eq_ok, not_lt] at hok
  obtain ⟨_, _, ⟨hconfig, rfl⟩, _, _, ⟨-, rfl⟩, _, _, rfl, runs, _, ⟨hload, rfl⟩, _, _,
    ⟨horphans, rfl⟩, _, _, ⟨hlimit, rfl⟩,
    _, _, ⟨rfl, rfl⟩, _, _, ⟨-, rfl⟩, rfl, rfl⟩ := hok
  exact ⟨hconfig, rfl, rfl, rfl, hload, horphans, hlimit, rfl, rfl, rfl, rfl⟩

theorem Inv.fresh (hfresh : dedupLog.manifestName ∉ dir)
    (hok : openIndex config indexId dir = (.ok index, dir')) : Inv [] ∅ ⟨index, dir'⟩ := by
  obtain ⟨-, -, -, rfl, hload, horphans, -, hid, hhot, htail, hcommitted⟩ := openIndex_eq_ok hok
  obtain ⟨hruns, hlog⟩ := LogFormat.Log.fresh hfresh rfl hload horphans
  exact {
    log := by rw [hruns, hid]; exact hlog
    tail := by rw [htail, hid]
    runs := by rw [hruns]; exact .nil
    limit := by rw [hruns]; exact Nat.zero_le _
    members := fun id => by simp [hhot]
    committed := by rw [hcommitted, hruns]; rfl
    size := by rw [hcommitted, hruns, hhot]; rfl }

theorem Inv.opened (h : Inv parts S d)
    (hempty : d.index.hotSet.isEmpty = true) (hok : openIndex config d.index.indexId d.dir = (.ok index, dir')) :
    Inv parts S ⟨index, dir'⟩ := by
  obtain ⟨-, -, -, rfl, hload, -, hlimit, hid, hhot, htail, hcommitted⟩ := openIndex_eq_ok hok
  rw [h.log.insertIfNew_manifest] at hload ⊢
  obtain hruns : d.index.runs = index.runs := Except.ok.inj (h.log.load.symm.trans hload)
  have hnone : d.index.hotSet = ∅ := Std.ExtTreeSet.isEmpty_iff.mp hempty
  have hcounts : index.runs.map DedupRunRecord.entryCount = parts.map List.length := by
    rw [← hruns]
    exact List.forall₂_eq_eq_eq ▸ List.forall₂_map_left_iff.mpr
      (List.forall₂_map_right_iff.mpr (h.runs.imp fun _ _ hrun => hrun.count))
  have hsum : index.committedUniqueIds = (parts.map List.length).sum := by
    have hle := sum_length_le h.runs
    have hmul : d.index.runs.length * maxRunEntries ≤ maxRuns * maxRunEntries := Nat.mul_le_mul_right _ h.limit
    rw [hcommitted, foldl_saturatingAdd, hcounts, Nat.zero_add]
    rw [hcounts]
    unfold maxRuns maxRunEntries u64Max at *
    omega
  exact {
    log := by rw [← hruns, hid]; exact h.log
    tail := by rw [htail, hid]
    runs := by rw [← hruns]; exact h.runs
    limit := hlimit
    members := fun id => by
      rw [h.members, hnone, hhot]
    committed := hsum
    size := by rw [h.size, hnone, hhot, hsum, h.committed] }

/-! ## Calls -/

/-- What the set `known` of identifiers says about a call that returned. -/
def Answers (known : Finset String) : DedupCall → DedupReply → Prop
  | .classifyAndInsert id, .outcome outcome => outcome = .unique ↔ id ∉ known
  | .contains id, .found found => found = true ↔ id ∈ known
  | .flush, .flushed _ => True
  | .reopen _, .reopened _ => True
  | _, _ => False

def insertUnique (known : Finset String) : DedupCall → DedupReply → Finset String
  | .classifyAndInsert id, .outcome .unique => insert id known
  | _, _ => known

/-- A new identifier in the memory. -/
theorem Inv.insert (h : Inv parts S d) (hnew : id ∉ S) :
    Inv parts (insert id S) { d with index := { d.index with hotSet := d.index.hotSet.insert id } } :=
  { h with
    members := fun other => by
      rw [Finset.mem_insert, h.members, Std.ExtTreeSet.mem_insert, Std.LawfulEqOrd.compare_eq_iff_eq, or_assoc, eq_comm]
    size := by
      have hhot : id ∉ d.index.hotSet := fun hid => hnew ((h.members id).mpr (.inl hid))
      show _ = (d.index.hotSet.insert id).size + d.index.committedUniqueIds
      rw [Finset.card_insert_of_notMem hnew, size_insert_new_set hhot, h.size]
      omega }

/-- `finish` and `open` leave the set as it is. -/
theorem Inv.reopen {checkpoint : ExactDedupCheckpoint} (h : Inv parts S d)
    (hok : reopen config d = (.ok checkpoint, d')) : ∃ parts', Inv parts' S d' := by
  simp only [DiskBackedExactDedupIndex.reopen, finish, onFiles, Method.bind_eq_ok, Method.get_eq_ok,
    Method.check_eq_ok, Method.modify_eq_ok, Method.pure_eq_ok, Method.onPart_eq_ok] at hok
  obtain ⟨_, _, ⟨rfl, rfl⟩, _, _, ⟨n, d₁, hflush, _, _, ⟨-, rfl⟩, -, rfl⟩, index, _,
    ⟨dir', hopen, rfl⟩, _, _, rfl, -, rfl⟩ := hok
  obtain ⟨parts', h', hid, hempty⟩ := h.flush hflush
  rw [← hid] at hopen
  exact ⟨parts', h'.opened hempty hopen⟩

theorem Inv.classifyAndInsert {outcome : ExactDedupOutcome} (h : Inv parts S d)
    (hok : classifyAndInsert id d = (.ok outcome, d')) :
    (outcome = .unique ↔ id ∉ S) ∧
      ∃ parts', Inv parts' (insertUnique S (.classifyAndInsert id) (.outcome outcome)) d' := by
  simp only [DiskBackedExactDedupIndex.classifyAndInsert, Method.bind_eq_ok, Method.ofExcept_eq_ok,
    Method.check_eq_ok] at hok
  obtain ⟨_, _, ⟨hvalid, rfl⟩, known, d, ⟨hknown, rfl⟩, hok⟩ := hok
  have hmem := h.contains hknown
  split at hok
  · next hin =>
    obtain ⟨_, _, hmodify, hok⟩ := Method.bind_eq_ok.mp hok
    obtain ⟨rfl, rfl⟩ := Method.pure_eq_ok.mp hok
    obtain rfl := Method.modify_eq_ok.mp hmodify
    exact ⟨by simp [hmem.mp hin], parts, { h with }⟩
  · next hnot =>
    have hnew : id ∉ S := fun hid => hnot (hmem.mpr hid)
    obtain ⟨full, _, hfull, hinsert⟩ := Method.bind_eq_ok.mp hok
    obtain ⟨-, rfl⟩ := Method.get_eq_ok.mp hfull
    -- the identifier is put into the memory after a run may have been written
    obtain ⟨d₁, parts₁, h₁, rfl, rfl⟩ : ∃ d₁ parts₁, Inv parts₁ S d₁ ∧ outcome = .unique ∧
        d' = { d₁ with index := { d₁.index with hotSet := d₁.index.hotSet.insert id } } := by
      split at hinsert
      · simp only [Method.bind_eq_ok, Method.modify_eq_ok, Method.pure_eq_ok] at hinsert
        obtain ⟨n, d₁, hflush, _, _, rfl, houtcome, rfl⟩ := hinsert
        obtain ⟨parts₁, h₁, -, -⟩ := h.flushOneRun hflush
        exact ⟨d₁, parts₁, h₁, houtcome.symm, rfl⟩
      · simp only [Method.bind_eq_ok, Method.modify_eq_ok, Method.pure_eq_ok] at hinsert
        obtain ⟨_, _, rfl, houtcome, rfl⟩ := hinsert
        exact ⟨_, parts, h, houtcome.symm, rfl⟩
    exact ⟨by simp [hnew], parts₁, h₁.insert hnew⟩

/-- The index after the calls of a history, as a set. -/
def uniqueIds (es : List (Event Dedup DedupCall DedupReply)) : Finset String :=
  es.foldl (fun known e => insertUnique known e.input e.output) ∅

theorem uniqueIds_concat (es : List (Event Dedup DedupCall DedupReply)) (e : Event Dedup DedupCall DedupReply) :
    uniqueIds (es ++ [e]) = insertUnique (uniqueIds es) e.input e.output := by
  rw [uniqueIds, List.foldl_append]
  rfl

/-- **One call** answers as the set does, and keeps the index and the set together. -/
theorem Inv.step {call : DedupCall} {reply : DedupReply} (h : Inv parts S d) (hstep : step d call = some (reply, d')) :
    Answers S call reply ∧ ∃ parts', Inv parts' (insertUnique S call reply) d' := by
  have hok : method call d = (.ok reply, d') := by
    unfold DiskBackedExactDedupIndex.step at hstep
    split at hstep
    · next heq =>
      obtain ⟨rfl, rfl⟩ := Prod.mk.inj (Option.some.inj hstep)
      exact heq
    · cases hstep
  cases call with
  | classifyAndInsert id =>
    obtain ⟨outcome, hcall, rfl⟩ := Method.map_eq_ok.mp hok
    exact h.classifyAndInsert hcall
  | contains id =>
    obtain ⟨found, hcall, rfl⟩ := Method.map_eq_ok.mp hok
    obtain ⟨hfound, rfl⟩ := Method.check_eq_ok.mp hcall
    exact ⟨h.contains hfound, parts, h⟩
  | flush =>
    obtain ⟨n, hcall, rfl⟩ := Method.map_eq_ok.mp hok
    obtain ⟨parts', h', -, -⟩ := h.flush hcall
    exact ⟨trivial, parts', h'⟩
  | reopen config =>
    obtain ⟨checkpoint, hcall, rfl⟩ := Method.map_eq_ok.mp hok
    exact ⟨trivial, h.reopen hcall⟩

/-- **The index is a set**: over every sequence of calls that return `Ok`, from a directory without
an index. -/
theorem dedup_refines_set {config : ExactDedupConfig} {indexId : String} {dir dir₀ : Directory}
    {index : DiskBackedExactDedupIndex} {es : List (Event Dedup DedupCall DedupReply)}
    (hfresh : dedupLog.manifestName ∉ dir) (hopen : openIndex config indexId dir = (.ok index, dir₀))
    (hrun : Run DiskBackedExactDedupIndex.step ⟨index, dir₀⟩ es d) :
    (∀ (k : ℕ) e, es[k]? = some e → Answers (uniqueIds (es.take k)) e.input e.output) ∧
      (checkpoint d.index).pendingUniqueIds + (checkpoint d.index).committedUniqueIds =
      (uniqueIds es).card ∧ verify d = .ok () := by
  have hinv : ∀ {es : List (Event Dedup DedupCall DedupReply)} {d : Dedup},
      Run DiskBackedExactDedupIndex.step ⟨index, dir₀⟩ es d → ∃ parts, Inv parts (uniqueIds es) d := by
    intro es d hrun
    refine Run.invariant (fun es d => ∃ parts, Inv parts (uniqueIds es) d) ⟨[], Inv.fresh hfresh hopen⟩ ?_ hrun
    rintro es d call reply d' - ⟨parts, h⟩ hstep
    rw [uniqueIds_concat]
    exact (h.step hstep).2
  obtain ⟨parts, h⟩ := hinv hrun
  refine ⟨fun k e he => ?_, h.size.symm, h.verify⟩
  obtain ⟨parts', h'⟩ := hinv (hrun.before he)
  exact (h'.step (hrun.step_of_getElem? he)).1

def exampleConfig : ExactDedupConfig := ⟨"index", 2, 2, 10000⟩

def exampleIndex : DiskBackedExactDedupIndex :=
  unwrap (openIndex exampleConfig "findings" ∅).1 (by decide +kernel)

def exampleCalls : List DedupCall :=
  [.classifyAndInsert (digestOf '1'), .flush, .classifyAndInsert (digestOf '1'),
    .classifyAndInsert (digestOf '2'), .contains (digestOf '1')]

/-- An identifier that is written to a run and found there, beside one in memory. -/
theorem dedup_refines_set_example : ∃ es d, Run DiskBackedExactDedupIndex.step
      ⟨exampleIndex, (openIndex exampleConfig "findings" ∅).2⟩ es d ∧ es.map Event.output =
        [.outcome .unique, .flushed 1, .outcome .duplicate, .outcome .unique, .found true] ∧
      (checkpoint d.index).pendingUniqueIds + (checkpoint d.index).committedUniqueIds =
      (uniqueIds es).card ∧ verify d = .ok () := by
  have hcalls : (runCalls DiskBackedExactDedupIndex.step ⟨exampleIndex, (openIndex exampleConfig "findings" ∅).2⟩
      exampleCalls).map (fun run => run.1.map Event.output) =
        some [.outcome .unique, .flushed 1, .outcome .duplicate, .outcome .unique, .found true] := by
    decide +kernel
  obtain ⟨es, d, hrun, houtputs⟩ := exists_run_of_map_runCalls hcalls
  have hopen : openIndex exampleConfig "findings" ∅ = (.ok exampleIndex, (openIndex exampleConfig "findings" ∅).2) :=
    Prod.ext (eq_ok_unwrap _ _) rfl
  have hset := dedup_refines_set (Std.ExtTreeMap.not_mem_empty) hopen hrun
  exact ⟨es, d, hrun, houtputs, hset.2.1, hset.2.2⟩

end DiskBackedExactDedupIndex

end BoundSeal.Analyzers
