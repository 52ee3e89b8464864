import BoundSeal.Operator.Runtime

/-!
# The path scope of a live run

Three crates ask whether a request path lies under an allowed prefix: the runtime,
the session injection (`nxb-session-injection`) and the contract of the live-run
host (`nxb-live-run-host`). The injection alone lets a prefix with a trailing slash
stand for the paths below it, and both validators let such a prefix through.

A target profile (`nxb-core`) has path rules of its own, included and excluded prefixes.
-/

namespace BoundSeal.Operator

open Rust

/-- `SessionInjectionError`, of a path. -/
inductive SessionInjectionError where
  | invalidPathScope
deriving DecidableEq, Repr

namespace SessionInjection

/-- `validate_passive_path` (`validation.inc.rs`); the denied tokens are those of the plan. -/
def validatePassivePath (value : String) : Except SessionInjectionError Unit :=
  let invalidSegment := (splitChar '/' value).any fun segment =>
    segment == "." || segment == ".." ||
      (segmentTokens segment).any fun token => deniedPathTokens.any (eqIgnoreAsciiCase token)
  failIf (value = "" ∨ 4 * 1024 < value.utf8ByteSize ∨ ¬ startsWithChar '/' value ∨ containsStr "//" value ∨
      containsChar '?' value ∨ containsChar '#' value ∨ containsChar '%' value ∨ containsChar ';' value ∨
      containsChar '\\' value ∨ (value.toList.any fun c => isAsciiControlChar c || c == ' ') ∨ invalidSegment)
    .invalidPathScope

/-- `path_matches_prefix` (`validation.inc.rs`). -/
def pathMatchesPrefix (path start : String) : Bool :=
  if start = "/" ∨ path = start then true
  else if endsWithChar '/' start then startsWithStr start path
  else (stripStart start path).any (startsWithChar '/')

end SessionInjection

/-- `path_is_within` (`contract.rs`). -/
def pathIsWithin (candidate parent : String) : Bool :=
  candidate == parent || parent == "/" || (stripStart parent candidate).any (startsWithChar '/')

def AcceptedPath (path : String) : Prop :=
  validatePassivePath path = .ok () ∧ SessionInjection.validatePassivePath path = .ok ()

instance (path : String) : Decidable (AcceptedPath path) := inferInstanceAs (Decidable (_ ∧ _))

def PathTestsAgree (path start : String) : Prop :=
  pathMatchesPrefix path start = SessionInjection.pathMatchesPrefix path start ∧
    SessionInjection.pathMatchesPrefix path start = pathIsWithin path start

theorem not_slash_behind_slash {path start : String} (hpath : containsStr "//" path = false)
    (hend : endsWithChar '/' start = true) : (stripStart start path).any (startsWithChar '/') = false := by
  rw [stripStart]
  split
  · next hstart =>
    rw [Option.any_some, startsWithChar, String.toList_ofList, beq_eq_false_iff_ne]
    intro hhead
    obtain ⟨rest, hrest⟩ := List.isPrefixOf_iff_prefix.mp hstart
    obtain ⟨front, hfront⟩ := List.getLast?_eq_some_iff.mp (beq_iff_eq.mp hend)
    rw [← hrest, List.drop_left] at hhead
    obtain ⟨tail, rfl⟩ := List.head?_eq_some_iff.mp hhead
    rw [containsStr, List.any_eq_false] at hpath
    refine hpath ('/' :: '/' :: tail) ?_ rfl
    rw [List.mem_tails, ← hrest, hfront]
    exact ⟨front, by simp⟩
  · rfl

/-- **The path tests agree** on an accepted path and prefix unless the prefix has a
trailing slash that is not the root and the path lies below it. -/
theorem path_tests_agree_iff {path start : String} (hpath : AcceptedPath path)
    (_hstart : AcceptedPath start) : PathTestsAgree path start ↔
      start = "/" ∨ path = start ∨ ¬ endsWithChar '/' start ∨ ¬ startsWithStr start path := by
  have hslashes : containsStr "//" path = false := by
    have hchecks := failIf_eq_ok.mp hpath.2
    simp only [not_or, Bool.not_eq_true] at hchecks
    exact hchecks.2.2.2.1
  rw [PathTestsAgree, pathMatchesPrefix, SessionInjection.pathMatchesPrefix, pathIsWithin]
  by_cases hroot : start = "/"
  · simp [hroot]
  by_cases hself : path = start
  · simp [hself]
  rw [if_neg (by simp [hroot, hself]), beq_false_of_ne hroot, beq_false_of_ne hself]
  by_cases hend : endsWithChar '/' start = true
  · rw [not_slash_behind_slash hslashes hend, if_pos hend]
    cases startsWithStr start path <;> simp [hroot, hself, hend]
  · rw [if_neg hend]
    simp [hend]

theorem path_tests_agree_iff_app : PathTestsAgree "/app/x" "/app" :=
  (path_tests_agree_iff (by decide +kernel) (by decide +kernel)).mpr (.inr (.inr (.inl (by decide))))

/-- One stage admits `/app/x` under `/app/`, the others refuse. -/
theorem path_tests_disagree : AcceptedPath "/app/" ∧ AcceptedPath "/app/x" ∧
    pathMatchesPrefix "/app/x" "/app/" = false ∧
    SessionInjection.pathMatchesPrefix "/app/x" "/app/" = true ∧ pathIsWithin "/app/x" "/app/" = false := by
  decide +kernel

/-! ## The path rules of a target profile -/

namespace Target

/-- `MAX_PATH_RULES`. -/
def maxPathRules : ℕ := 64

/-- `MAX_PATH_BYTES`. -/
def maxPathBytes : ℕ := 512

/-- `validate_scope_path`. -/
def validateScopePath (path : String) : Except String Unit := do
  failIf (path = "" ∨ maxPathBytes < path.utf8ByteSize ∨ ¬ startsWithChar '/' path ∨ startsWithStr "//" path ∨
      containsChar '\\' path ∨ containsChar '?' path ∨ containsChar '#' path ∨
      containsChar '%' path ∨ containsChar '*' path ∨ (path ≠ "/" ∧ endsWithChar '/' path) ∨
      path.toList.any fun c => isControl c || isWhitespace c)
    "target path prefix is not canonical"
  failIf ((splitChar '/' path).any fun segment => segment == "." || segment == "..")
    "target path prefix contains dot traversal"

/-- `canonical_paths`. -/
def canonicalPaths (paths : List String) (isInclude : Bool) : Except String (List String) := do
  let paths := if isInclude ∧ paths = [] then ["/"] else paths
  failIf (maxPathRules < paths.length) "target path rule count exceeds the supported limit"
  let canonical ← paths.foldlM (fun (canonical : BTreeSet String) path => do
    validateScopePath path
    failIf (¬ isInclude ∧ path = "/") "excluding the root path would leave no usable target scope"
    failIf (path ∈ canonical) "target path rules must not contain duplicates"
    return canonical.insert path) ∅
  failIf (isInclude ∧ canonical.isEmpty) "target must include at least one path prefix"
  return canonical.toList

/-- `path_is_within` (`target.rs`). -/
def pathIsWithin (candidate parent : String) : Bool :=
  parent == "/" || candidate == parent || (stripStart parent candidate).any (startsWithChar '/')

/-- `validate_path_relationships`. -/
def validatePathRelationships (includes excludes : List String) : Except String Unit :=
  excludes.forM fun excluded => do
    failIf (includes.any (· == excluded)) "an excluded path must not remove an entire included prefix"
    failIf (¬ includes.any (pathIsWithin excluded)) "excluded path is outside every included path prefix"

/-- The path rules of a profile, as `create_value` builds them (`target.rs`). -/
def pathRules (includePaths excludePaths : List String) : Except String (List String × List String) := do
  let includePaths ← canonicalPaths includePaths true
  let excludePaths ← canonicalPaths excludePaths false
  validatePathRelationships includePaths excludePaths
  return (includePaths, excludePaths)

/-- Some path within the prefix is within no excluded one. -/
def Admits (excludes : List String) (included : String) : Prop :=
  ∃ path, pathIsWithin path included = true ∧ ∀ excluded ∈ excludes, pathIsWithin path excluded = false

theorem pathIsWithin_iff {path parent : String} :
    pathIsWithin path parent = true ↔ parent = "/" ∨ path = parent ∨ ∃ rest, path = parent ++ ("/" ++ rest) := by
  simp only [pathIsWithin, Bool.or_eq_true, beq_iff_eq, Option.any_eq_true, stripStart_eq_some, or_assoc]
  refine or_congr_right (or_congr_right ⟨?_, ?_⟩)
  · rintro ⟨rest, rfl, hslash⟩
    obtain ⟨tail, htail⟩ := List.head?_eq_some_iff.mp (beq_iff_eq.mp hslash)
    refine ⟨String.ofList tail, congrArg (parent ++ ·) (String.toList_inj.mp ?_)⟩
    simp [htail]
  · rintro ⟨rest, rfl⟩
    exact ⟨_, rfl, by rw [startsWithChar, String.toList_append]; rfl⟩

theorem pathIsWithin_trans {path parent excluded : String} (hexcluded : excluded ≠ "")
    (hpath : pathIsWithin path parent = true) (hparent : pathIsWithin parent excluded = true) :
    pathIsWithin path excluded = true := by
  rw [pathIsWithin_iff] at hpath hparent ⊢
  rcases hparent with hroot | rfl | ⟨rest, rfl⟩
  · exact .inl hroot
  · exact hpath
  rcases hpath with hroot | rfl | ⟨below, rfl⟩
  · -- the root is below no other prefix
    have hlength := congrArg String.length hroot
    have hpositive := String.length_eq_zero_iff.not.mpr hexcluded
    rw [String.length_append, String.length_append, show "/".length = 1 from rfl] at hlength
    omega
  · exact .inr (.inr ⟨rest, rfl⟩)
  · exact .inr (.inr ⟨rest ++ ("/" ++ below), by simp only [String.append_assoc]⟩)

theorem ne_empty_of_canonicalPaths {paths canonical : List String} {isInclude : Bool}
    (h : canonicalPaths paths isInclude = .ok canonical) : ∀ path ∈ canonical, path ≠ "" := by
  simp only [canonicalPaths, do_eq_ok] at h
  obtain ⟨-, set, hfold, -, rfl⟩ := h
  simp only [Std.ExtTreeSet.mem_toList]
  refine foldlM_keeps (I := fun set : BTreeSet String => ∀ path ∈ set, path ≠ "") (fun hstep hset path hpath => ?_)
    hfold (fun _ hnone => absurd hnone Std.ExtTreeSet.not_mem_empty)
  simp only [validateScopePath, do_eq_ok, not_or] at hstep
  obtain ⟨⟨⟨hne, -⟩, -⟩, -, -, rfl⟩ := hstep
  rcases Std.ExtTreeSet.mem_insert.mp hpath with hsame | hold
  · exact compare_eq_iff_eq.mp hsame ▸ hne
  · exact hset path hold

/-- **No dead include**: under accepted path rules every included prefix admits a path
just when no included prefix lies within an excluded one. -/
theorem no_dead_include_iff {includePaths excludePaths includes excludes : List String}
    (h : pathRules includePaths excludePaths = .ok (includes, excludes)) :
    (∀ included ∈ includes, Admits excludes included) ↔
      ∀ included ∈ includes, ∀ excluded ∈ excludes, pathIsWithin included excluded = false := by
  simp only [pathRules, do_eq_ok, Prod.mk.injEq] at h
  obtain ⟨_, -, _, hexcludes, -, rfl, rfl⟩ := h
  refine forall₂_congr fun included _ => ⟨?_, ?_⟩
  · rintro ⟨path, hpath, hfree⟩ excluded hexcluded
    refine Bool.eq_false_iff.mpr fun hwithin => ?_
    have hdead := pathIsWithin_trans (ne_empty_of_canonicalPaths hexcludes excluded hexcluded) hpath hwithin
    exact Bool.false_ne_true ((hfree excluded hexcluded).symm.trans hdead)
  · exact fun hfree => ⟨included, pathIsWithin_iff.mpr (.inr (.inl rfl)), hfree⟩

theorem no_dead_include_iff_app : Admits ["/app/admin"] "/app" := by
  have h : pathRules ["/app"] ["/app/admin"] = .ok (["/app"], ["/app/admin"]) := by decide +kernel
  exact (no_dead_include_iff h).mpr (by decide +kernel) _ List.mem_cons_self

/-- Accepted rules that exclude all of an included prefix. -/
theorem dead_include : pathRules ["/a", "/a/b/c"] ["/a/b"] = .ok (["/a", "/a/b/c"], ["/a/b"]) ∧
    ¬ Admits ["/a/b"] "/a/b/c" := by
  refine ⟨by decide +kernel, ?_⟩
  rintro ⟨path, hpath, hfree⟩
  have hdead : pathIsWithin path "/a/b" = true := pathIsWithin_trans (by decide) hpath (by decide +kernel)
  exact Bool.false_ne_true ((hfree _ List.mem_cons_self).symm.trans hdead)

end Target

end BoundSeal.Operator
