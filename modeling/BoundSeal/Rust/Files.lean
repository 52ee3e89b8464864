import BoundSeal.Lib.Crash
import BoundSeal.Rust.Collections
import BoundSeal.Rust.Text
import BoundSeal.Rust.Time

/-!
# Rust files: a directory and the operations on it

A directory is the ordered map from names to what they name: a regular file with
its content, or something else (a directory, a link). The operations are those
of `std::fs` the crates use, each atomic; they fail where the operating system
must refuse (a name that is taken, a file that is not there) and nowhere else.
The names are texts: an entry whose name is not UTF-8 is left out.
-/

namespace BoundSeal.Rust

open Lib

/-! ## Names with a number -/

/-- The format `{start}{n:020}{ending}`. -/
def numberedName (start ending : String) (n : ℕ) : String := start ++ zeroPadded 20 n ++ ending

/-- The number of such a name: twenty ASCII digits that fit a `u64`. -/
def parseNumbered (start ending name : String) : Option ℕ := do
  let rest ← stripStart start name
  let digits ← stripEnd ending rest
  if digits.utf8ByteSize ≠ 20 ∨ ¬ digits.toList.all Char.isDigit then none
  else
    let n := Nat.ofDigitChars 10 digits.toList 0
    if n ≤ u64Max then some n else none

theorem zeroPadded_succ (width n d : ℕ) (hd : d < 10) :
    (zeroPadded (width + 2) (10 * n + d)).toList = (zeroPadded (width + 1) n).toList ++ [Nat.digitChar d] := by
  simp only [zeroPadded, String.toList_ofList]
  by_cases hn : n = 0
  · subst hn
    rw [Nat.mul_zero, Nat.zero_add, Nat.toDigits_of_lt_base hd, Nat.toDigits_zero]
    show List.replicate (width + 1) '0' ++ [Nat.digitChar d] = (List.replicate width '0' ++ ['0']) ++ [Nat.digitChar d]
    rw [List.replicate_succ']
  · have hdiv : (10 * n + d) / 10 = n := by omega
    have hmod : (10 * n + d) % 10 = d := by omega
    rw [Nat.toDigits_of_base_le (by decide) (by omega : 10 ≤ 10 * n + d), hdiv, hmod,
      List.length_append, List.length_singleton, ← List.append_assoc]
    congr 3
    omega

theorem exists_digitChar {c : Char} (h : c.isDigit = true) : ∃ d < 10, c = Nat.digitChar d := by
  simp only [Char.isDigit, Bool.and_eq_true, decide_eq_true_eq, ge_iff_le, UInt32.le_iff_toNat_le] at h
  have hlow : 48 ≤ c.toNat := h.1
  have hhigh : c.toNat ≤ 57 := h.2
  refine ⟨c.toNat - 48, by omega, ?_⟩
  conv_lhs => rw [← Char.ofNat_toNat c]
  generalize c.toNat = n at hlow hhigh
  interval_cases n <;> rfl

theorem zeroPadded_ofDigitChars {digits : List Char} (h : ∀ c ∈ digits, c.isDigit = true) (hne : digits ≠ []) :
    zeroPadded digits.length (Nat.ofDigitChars 10 digits 0) = String.ofList digits := by
  rw [← String.toList_inj, String.toList_ofList]
  induction digits using List.reverseRecOn with
  | nil => exact absurd rfl hne
  | append_singleton digits c ih =>
    obtain ⟨d, hd, rfl⟩ := exists_digitChar (h c (by simp))
    rw [Nat.ofDigitChars_append, Nat.ofDigitChars_cons_digitChar_of_lt_ten hd, Nat.ofDigitChars_nil]
    cases digits with
    | nil =>
      rw [Nat.ofDigitChars_nil, Nat.mul_zero, Nat.zero_add, zeroPadded, Nat.toDigits_of_lt_base hd,
        String.toList_ofList]
      rfl
    | cons c' digits =>
      rw [List.length_append, List.length_cons, List.length_singleton, zeroPadded_succ _ _ _ hd]
      congr 1
      exact ih (fun e he => h e (List.mem_append_left _ he)) (List.cons_ne_nil _ _)

theorem toList_zeroPadded_isDigit (width n : ℕ) : ∀ c ∈ (zeroPadded width n).toList, c.isDigit = true := by
  intro c hc
  rw [zeroPadded, String.toList_ofList, List.mem_append] at hc
  rcases hc with hc | hc
  · rw [List.eq_of_mem_replicate hc]
    rfl
  · exact Nat.isDigit_of_mem_toDigits (by decide) (by decide) hc

variable {n : ℕ}

theorem length_zeroPadded (h : n ≤ u64Max) : (zeroPadded 20 n).toList.length = 20 := by
  have hlength : (Nat.toDigits 10 n).length ≤ 20 := by
    rw [Nat.length_toDigits_le_iff (by decide) (by decide)]
    exact lt_of_le_of_lt h (by decide)
  rw [zeroPadded, String.toList_ofList, List.length_append, List.length_replicate]
  omega

theorem utf8Size_of_isDigit {c : Char} (h : c.isDigit = true) : c.utf8Size = 1 := by
  obtain ⟨d, hd, rfl⟩ := exists_digitChar h
  interval_cases d <;> rfl

theorem utf8ByteSize_of_isDigit {s : String} (h : ∀ c ∈ s.toList, c.isDigit = true) :
    s.utf8ByteSize = s.toList.length := by
  conv_lhs => rw [← String.ofList_toList (s := s)]
  exact utf8ByteSize_ofList fun c hc => utf8Size_of_isDigit (h c hc)

/-- **Reading a numbered name inverts writing it.** -/
theorem parseNumbered_eq_some {start ending name : String} :
    parseNumbered start ending name = some n ↔ n ≤ u64Max ∧ name = numberedName start ending n := by
  simp only [parseNumbered, Option.bind_eq_bind, Option.bind_eq_some_iff, stripStart_eq_some, stripEnd_eq_some]
  constructor
  · rintro ⟨rest, rfl, digits, rfl, hn⟩
    by_cases hdigits : digits.utf8ByteSize ≠ 20 ∨ ¬ digits.toList.all Char.isDigit
    · rw [if_pos hdigits] at hn
      cases hn
    · rw [if_neg hdigits] at hn
      obtain ⟨hsize, hall⟩ : digits.utf8ByteSize = 20 ∧ digits.toList.all Char.isDigit = true := by
        simpa only [not_or, not_not] using hdigits
      have hall' : ∀ c ∈ digits.toList, c.isDigit = true := List.all_eq_true.mp hall
      rw [utf8ByteSize_of_isDigit hall'] at hsize
      have hvalue := zeroPadded_ofDigitChars hall' (by
        intro hnil
        rw [hnil] at hsize
        cases hsize)
      rw [hsize, String.ofList_toList] at hvalue
      by_cases hmax : Nat.ofDigitChars 10 digits.toList 0 ≤ u64Max
      · rw [if_pos hmax, Option.some.injEq] at hn
        rw [← hn]
        exact ⟨hmax, by rw [numberedName, hvalue, String.append_assoc]⟩
      · rw [if_neg hmax] at hn
        cases hn
  · rintro ⟨hmax, rfl⟩
    have hall := toList_zeroPadded_isDigit 20 n
    refine ⟨_, by rw [numberedName, String.append_assoc], zeroPadded 20 n, rfl, ?_⟩
    have hvalue : Nat.ofDigitChars 10 (zeroPadded 20 n).toList 0 = n := by
      rw [zeroPadded, String.toList_ofList, ofDigitChars_replicate_zero, Nat.ofDigitChars_ten_toDigits]
    have hsize : (zeroPadded 20 n).utf8ByteSize = 20 := by
      rw [utf8ByteSize_of_isDigit hall, length_zeroPadded hmax]
    rw [if_neg, hvalue, if_pos hmax]
    rintro (h | h)
    · exact h hsize
    · exact h (List.all_eq_true.mpr hall)

theorem numberedName_injective (start ending : String) : Function.Injective (numberedName start ending) := by
  intro m n h
  have hlist := congrArg String.toList h
  simp only [numberedName, String.toList_append, List.append_cancel_left_eq,
    List.append_cancel_right_eq, List.append_assoc, String.toList_inj] at hlist
  exact zeroPadded_injective 20 hlist

theorem toList_eq_range {ν : Type} {m : BTreeMap ℕ ν} {f : ℕ → ν}
    (h : ∀ k v, m[k]? = some v ↔ k < n ∧ f k = v) : m.toList = (List.range n).map fun k => (k, f k) := by
  have hsorted : m.toList.Pairwise fun a b => a.1 < b.1 := by
    refine (Std.ExtTreeMap.ordered_keys_toList (t := m)).imp ?_
    intro a b hab
    exact Nat.compare_eq_lt.mp hab
  have hrange : ((List.range n).map fun k => (k, f k)).Pairwise fun a b => a.1 < b.1 :=
    List.pairwise_map.mpr List.pairwise_lt_range
  have hperm : m.toList.Perm ((List.range n).map fun k => (k, f k)) := by
    refine (List.perm_ext_iff_of_nodup (hsorted.imp ?_) (hrange.imp ?_)).mpr ?_
    · rintro a b hab rfl
      exact absurd hab (Nat.lt_irrefl _)
    · rintro a b hab rfl
      exact absurd hab (Nat.lt_irrefl _)
    · rintro ⟨k, v⟩
      rw [Std.ExtTreeMap.mem_toList_iff_getElem?_eq_some, h]
      simp [eq_comm]
  refine hperm.eq_of_pairwise ?_ hsorted hrange
  intro a b _ _ hab hba
  exact absurd (hab.trans hba) (Nat.lt_irrefl _)

/-! ## Directories -/

/-- What a name of a directory names. -/
inductive Node where
  | file (content : Bytes)
  | other
deriving DecidableEq

abbrev Directory := BTreeMap String Node

/-- Why the operating system refuses an operation. -/
inductive IoError where
  | alreadyExists
  | notFound
deriving DecidableEq, Repr

namespace Directory

/-- `Path::is_file`, `fs::read`: the content of a regular file. -/
def read (dir : Directory) (name : String) : Option Bytes :=
  match dir[name]? with
  | some (.file content) => some content
  | _ => none

/-- `OpenOptions::create_new`: an empty file under a name that is free. -/
def createNew (name : String) : Proc IoError Directory Unit :=
  .op fun dir => if name ∈ dir then (.error .alreadyExists, dir) else (.ok (), dir.insert name (.file []))

/-- `File::write_all` and `File::sync_all`. -/
def writeAll (name : String) (content : Bytes) : Proc IoError Directory Unit :=
  .modify fun dir => dir.insert name (.file content)

/-- `fs::hard_link`. -/
def hardLink (source target : String) : Proc IoError Directory Unit :=
  .op fun dir =>
    match dir[source]? with
    | none => (.error .notFound, dir)
    | some node => if target ∈ dir then (.error .alreadyExists, dir) else (.ok (), dir.insert target node)

/-- `fs::remove_file`. -/
def removeFile (name : String) : Proc IoError Directory Unit :=
  .op fun dir =>
    match dir[name]? with
    | some (.file _) => (.ok (), dir.erase name)
    | _ => (.error .notFound, dir)

/-- The temporary file of a publication is written and linked. A target that
exists is the error `taken`, everything else `io`. -/
def publication {ε : Type} (io taken : ε) (temporary target : String) (content : Bytes) : Proc ε Directory Unit := do
  .mapError (fun _ => io) (createNew temporary)
  .mapError (fun _ => io) (writeAll temporary content)
  .mapError (fun e => if e = .alreadyExists then taken else io) (hardLink temporary target)

/-- Put a file in place: `publish_checkpoint` of the operator state and
`publish_record` of the runtime. -/
def publish {ε : Type} (io taken : ε) (temporary target : String) (content : Bytes) : Proc ε Directory Unit := do
  match ← .attempt (publication io taken temporary target content) with
  | .error e =>
    let _ ← Proc.attempt (removeFile temporary)
    .fail e
  | .ok () => .mapError (fun _ => io) (removeFile temporary)

/-! ## What a publication leaves -/

/-- A directory in the middle of a publication: nothing else has changed, and the
target is as before or has its content. -/
structure Publishing (dir : Directory) (temporary target : String) (content : Bytes) (t : Directory) : Prop where
  elsewhere : ∀ name, name ≠ temporary → name ≠ target → t[name]? = dir[name]?
  target : t[target]? = dir[target]? ∨ (dir[target]? = none ∧ t[target]? = some (.file content))

inductive Published {ε : Type} (io taken : ε) (dir : Directory) (temporary target : String)
    (content : Bytes) : Except ε Unit → Directory → Prop
  | done : temporary ∉ dir → target ∉ dir →
      Published io taken dir temporary target content (.ok ()) (dir.insert target (.file content))
  | taken : temporary ∉ dir → target ∈ dir → Published io taken dir temporary target content (.error taken) dir
  | blocked {t : Directory} : temporary ∈ dir → t = dir ∨ t = dir.erase temporary →
      Published io taken dir temporary target content (.error io) t

variable {name : String} {dir : Directory}

theorem mem_iff_ne_none : name ∈ dir ↔ dir[name]? ≠ none := by
  rw [Std.ExtTreeMap.mem_iff_isSome_getElem?, Option.isSome_iff_ne_none]

theorem getElem?_of_not_mem (h : name ∉ dir) : dir[name]? = none := by
  rwa [mem_iff_ne_none, not_not] at h

/-- Removing what was just put under a free name gives the directory back. -/
theorem erase_insert (h : name ∉ dir) (node : Node) : (dir.insert name node).erase name = dir := by
  refine Std.ExtTreeMap.ext_getElem? fun other => ?_
  by_cases hne : name = other
  · rw [← hne, getElem?_erase_self, getElem?_of_not_mem h]
  · rw [getElem?_erase_of_ne _ hne, getElem?_insert_of_ne _ _ hne]

variable {ε : Type} {io taken : ε} {dir : Directory} {temporary target : String} {content : Bytes}

theorem Publishing.refl : Publishing dir temporary target content dir :=
  ⟨fun _ _ _ => rfl, .inl rfl⟩

variable {t : Directory}

theorem Publishing.insert_temporary (hne : temporary ≠ target)
    (h : Publishing dir temporary target content t) (node : Node) :
    Publishing dir temporary target content (t.insert temporary node) := by
  refine ⟨fun name htemp htarget => ?_, ?_⟩
  · rw [getElem?_insert_of_ne _ _ (Ne.symm htemp)]
    exact h.elsewhere name htemp htarget
  · rw [getElem?_insert_of_ne _ _ hne]
    exact h.target

theorem Publishing.insert_target (hfree : target ∉ dir) :
    Publishing dir temporary target content (dir.insert target (.file content)) :=
  ⟨fun _ _ htarget => getElem?_insert_of_ne _ _ (Ne.symm htarget),
    .inr ⟨getElem?_of_not_mem hfree, getElem?_insert_self _ _ _⟩⟩

theorem Publishing.erase_temporary (hne : temporary ≠ target) :
    Publishing dir temporary target content (dir.erase temporary) :=
  ⟨fun _ htemp _ => getElem?_erase_of_ne _ (Ne.symm htemp), .inl (getElem?_erase_of_ne _ hne)⟩

theorem Published.of_free {r : Except ε Unit}
    (h : Published io taken dir temporary target content r t) (htemporary : temporary ∉ dir)
    (hfree : target ∉ dir) : r = .ok () ∧ t = dir.insert target (.file content) := by
  cases h with
  | done _ _ => exact ⟨rfl, rfl⟩
  | taken _ hmem => exact absurd hmem hfree
  | blocked hmem _ => exact absurd hmem htemporary

/-- **A publication** changes nothing but its temporary file until the target
appears with its whole content, and then it has succeeded. -/
theorem wp_publish (hne : temporary ≠ target) :
    Proc.wp (publish io taken temporary target content) (Publishing dir temporary target content)
      (Published io taken dir temporary target content) dir := by
  simp only [publish, publication, Proc.wp_bind, Proc.wp_attempt, Proc.wp_mapError, createNew, Proc.wp_op]
  by_cases htemp : temporary ∈ dir
  · -- the temporary name is taken: nothing was created, and the file under that name goes
    rw [if_pos htemp]
    refine ⟨.refl, ?_⟩
    simp only [Proc.after, Except.mapError, Proc.wp_bind, Proc.wp_attempt, removeFile, Proc.wp_op, Proc.wp_fail]
    cases hnode : dir[temporary]? with
    | none => exact absurd hnode (mem_iff_ne_none.mp htemp)
    | some node =>
      cases node with
      | file old => exact ⟨.erase_temporary hne, .blocked htemp (.inr rfl)⟩
      | other => exact ⟨.refl, .blocked htemp (.inl rfl)⟩
  · rw [if_neg htemp]
    refine ⟨Publishing.refl.insert_temporary hne _, ?_⟩
    simp only [Proc.after, Except.mapError, Proc.wp_bind, Proc.wp_mapError, writeAll,
      Proc.wp_modify, insert_insert_self, hardLink, Proc.wp_op, getElem?_insert_self]
    refine ⟨Publishing.refl.insert_temporary hne _, ?_⟩
    have htarget : target ∈ dir.insert temporary (.file content) ↔ target ∈ dir := by
      rw [mem_iff_ne_none, getElem?_insert_of_ne _ _ hne, ← mem_iff_ne_none]
    by_cases hfree : target ∈ dir
    · -- the target is taken: the temporary file goes again
      rw [if_pos (htarget.mpr hfree)]
      refine ⟨Publishing.refl.insert_temporary hne _, ?_⟩
      simp only [Proc.wp_bind, Proc.wp_attempt, removeFile, Proc.wp_op, getElem?_insert_self,
        Proc.after, Proc.wp_fail, erase_insert htemp, if_true]
      exact ⟨.refl, .taken htemp hfree⟩
    · rw [if_neg (mt htarget.mp hfree)]
      have hswap := insert_comm_of_ne dir hne (.file content) (.file content)
      have htemp' : temporary ∉ dir.insert target (.file content) := by
        rw [mem_iff_ne_none, getElem?_insert_of_ne _ _ hne.symm, ← mem_iff_ne_none]
        exact htemp
      refine ⟨?_, ?_⟩
      · rw [hswap]
        exact (Publishing.insert_target hfree).insert_temporary hne _
      · simp only [Proc.wp_mapError, removeFile, Proc.wp_op, hswap, getElem?_insert_self,
          Except.mapError, erase_insert htemp']
        exact ⟨.insert_target hfree, .done htemp hfree⟩

/-- A publication under free names makes four file operations. -/
theorem length_passed_publish (hne : temporary ≠ target) (htemporary : temporary ∉ dir)
    (hfree : target ∉ dir) : (publish io taken temporary target content dir).passed.length = 4 := by
  have htarget : target ∉ (dir.insert temporary (.file content) : Directory) := by
    rw [mem_iff_ne_none, getElem?_insert_of_ne _ _ hne, ← mem_iff_ne_none]
    exact hfree
  simp only [publish, publication, createNew, writeAll, hardLink, removeFile, Proc.modify, bind,
    Proc.attempt, Proc.mapError, Proc.op, if_neg htemporary, insert_insert_self,
    getElem?_insert_self, if_neg htarget, Except.mapError]
  rfl

theorem Published.publishing (hne : temporary ≠ target) {r : Except ε Unit}
    (h : Published io taken dir temporary target content r t) : Publishing dir temporary target content t := by
  cases h with
  | done _ hfree => exact .insert_target hfree
  | taken _ _ => exact .refl
  | blocked _ ht =>
    rcases ht with rfl | rfl
    · exact .refl
    · exact .erase_temporary hne

theorem Publishing.mem_iff (h : Publishing dir temporary target content t)
    (hname : name ≠ temporary) : name ∈ t ↔ name ∈ dir ∨ (name = target ∧ target ∈ t) := by
  by_cases htarget : name = target
  · subst htarget
    refine ⟨fun hmem => .inr ⟨rfl, hmem⟩, ?_⟩
    rintro (hmem | ⟨-, hmem⟩)
    · rw [mem_iff_ne_none] at hmem ⊢
      rcases h.target with hsame | ⟨hnone, -⟩
      · rwa [hsame]
      · exact absurd hnone hmem
    · exact hmem
  · rw [mem_iff_ne_none, h.elsewhere name hname htarget, ← mem_iff_ne_none]
    simp [htarget]

end Directory

end BoundSeal.Rust
