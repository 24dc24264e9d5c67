import Mathlib.Data.List.DropRight
import Logbook.Proofs.Search.Matching
import Logbook.Proofs.Search.Sources

namespace Logbook

namespace Query

theorem not_matches_of_isInvalid {q : Query} {fault : Pattern.Fault} (h : q.IsInvalid fault)
    (line : String) : ¬q.Matches line := by
  obtain ⟨pattern, limit, mode⟩ := q
  obtain ⟨rfl, p, rfl, hcompile⟩ := h
  simp [Matches, hcompile]

instance (q : Query) : DecidablePred q.Matches := fun line =>
  match h : Matcher.compile q.pattern q.mode with
  | .ok _ => decidable_of_iff _ (isMatch_iff h line)
  | .error _ => isFalse (not_matches_of_isInvalid (compile_eq_error_iff.mp h) line)

def matching (q : Query) (lines : List String) : List String :=
  lines.filter fun line => decide (q.Matches line)

theorem filter_isMatch_eq {q : Query} {m : Matcher}
    (h : Matcher.compile q.pattern q.mode = .ok m) (lines : List String) :
    lines.filter m.isMatch = q.matching lines := by
  apply List.filter_congr
  intro line _
  rw [Bool.eq_iff_iff, isMatch_iff h, decide_eq_true_eq]

theorem matching_eq_nil_iff {q : Query} {lines : List String} :
    q.matching lines = [] ↔ ∀ line ∈ lines, ¬q.Matches line := by
  simp [matching]

end Query

namespace Archive

/-- The answer to a search. A source that is missing comes before a pattern that is invalid, and that
comes before a source without lines. The lines found are the last of those that match, as many as are
wanted. -/
inductive Answers (a : Archive) (t : FileTree) (q : Query) (source : Source) : Outcome → Prop where
  | missing : ¬a.HasSource t source → Answers a t q source (.noSource source)
  | invalid {fault : Pattern.Fault} : a.HasSource t source → q.IsInvalid fault →
      Answers a t q source (.invalidPattern fault)
  | noLines : a.HasLines t source [] → (∀ fault, ¬q.IsInvalid fault) →
      Answers a t q source (.noSource source)
  | noMatches {lines : List String} : a.HasLines t source lines → (∀ fault, ¬q.IsInvalid fault) →
      lines ≠ [] → (q.limit = 0 ∨ ∀ line ∈ lines, ¬q.Matches line) →
      Answers a t q source .noMatches
  | found {lines kept : List String} : a.HasLines t source lines →
      (∀ fault, ¬q.IsInvalid fault) → q.limit ≠ 0 → (∃ line ∈ lines, q.Matches line) →
      kept <:+ q.matching lines → kept.length = min q.limit (q.matching lines).length →
      Answers a t q source (.found kept)

variable {a : Archive} {t : FileTree} {q : Query} {source : Source}

theorem not_isInvalid_of_compile {m : Matcher} (h : Matcher.compile q.pattern q.mode = .ok m)
    (fault : Pattern.Fault) : ¬q.IsInvalid fault := by
  intro hinvalid
  rw [← Query.compile_eq_error_iff, h] at hinvalid
  simp at hinvalid

theorem exists_compile (h : ∀ fault, ¬q.IsInvalid fault) :
    ∃ m, Matcher.compile q.pattern q.mode = .ok m := by
  cases hcompile : Matcher.compile q.pattern q.mode with
  | error fault => exact absurd (Query.compile_eq_error_iff.mp hcompile) (h fault)
  | ok m => exact ⟨m, rfl⟩

theorem search_of_compile {m : Matcher} {lines : List String}
    (hm : Matcher.compile q.pattern q.mode = .ok m) (hlines : a.HasLines t source lines) :
    a.search t q source =
      if lines = [] then .noSource source
      else if q.limit = 0 ∨ q.matching lines = [] then .noMatches
      else .found ((q.matching lines).drop ((q.matching lines).length - q.limit)) := by
  rw [search, lines?_eq_some_iff.mpr hlines, hm]
  simp only [scanLines_eq, Scan.outcome, Query.filter_isMatch_eq hm, Tail.foldl_push_eq, Tail.isEmpty,
    List.length_eq_zero_iff, List.isEmpty_iff, List.drop_eq_nil_iff]
  congr 2
  rw [← List.length_eq_zero_iff, eq_iff_iff]
  omega

theorem search_all {lines : List String} (h : a.lines? t source = some lines) (hne : lines ≠ [])
    (limit : Nat) :
    a.search t { pattern := none, limit } source =
      if limit = 0 then .noMatches else .found (lines.rtake limit) := by
  have hmatching : ({ pattern := none, limit } : Query).matching lines = lines := by
    rw [← Query.filter_isMatch_eq (m := .any) rfl]
    exact List.filter_eq_self.mpr fun _ _ => rfl
  rw [search_of_compile (m := .any) rfl (lines?_eq_some_iff.mp h), hmatching, if_neg hne, List.rtake]
  simp only [hne, or_false]

theorem lines_search_all {lines : List String} (h : a.lines? t source = some lines)
    (mode : MatchMode) {limit : Nat} (hlimit : lines.length ≤ limit) :
    (a.search t { pattern := none, limit, mode } source).lines = lines := by
  have hall : lines.filter Matcher.any.isMatch = lines := List.filter_eq_self.mpr fun _ _ => rfl
  have hcompile : Matcher.compile none mode = .ok .any := by cases mode <;> rfl
  rw [search, h]
  simp only [hcompile, scanLines_eq, hall, Tail.foldl_push_eq, Nat.sub_eq_zero_of_le hlimit,
    List.drop_zero, Scan.outcome, Tail.isEmpty]
  cases lines with
  | nil => rfl
  | cons line lines => simp [Outcome.lines]

theorem answers_search (a : Archive) (t : FileTree) (q : Query) (source : Source) :
    a.Answers t q source (a.search t q source) := by
  by_cases hsource : a.HasSource t source
  · obtain ⟨lines, hlines⟩ := hsource.exists_hasLines
    cases hcompile : Matcher.compile q.pattern q.mode with
    | error fault =>
        rw [search, lines?_eq_some_iff.mpr hlines, hcompile]
        exact Answers.invalid hsource (Query.compile_eq_error_iff.mp hcompile)
    | ok m =>
        have hvalid := not_isInvalid_of_compile hcompile
        rw [search_of_compile hcompile hlines]
        split
        · rename_i hempty
          exact Answers.noLines (hempty ▸ hlines) hvalid
        split
        · rename_i hempty hnone
          rw [Query.matching_eq_nil_iff] at hnone
          exact Answers.noMatches hlines hvalid hempty hnone
        · rename_i hsome
          obtain ⟨hlimit, hne⟩ := not_or.mp hsome
          refine Answers.found hlines hvalid hlimit ?_ (List.drop_suffix _ _) ?_
          · simpa [Query.matching_eq_nil_iff] using hne
          · rw [List.length_drop]
            omega
  · rw [search, lines?_eq_none_iff.mpr hsource]
    exact Answers.missing hsource

/-- A search gives the answer that its source and its query call for, and no other. -/
theorem search_eq_iff (a : Archive) (t : FileTree) (q : Query) (source : Source) (o : Outcome) :
    a.search t q source = o ↔ a.Answers t q source o := by
  constructor
  · rintro rfl
    exact answers_search a t q source
  · intro h
    cases h with
    | missing hsource => rw [search, lines?_eq_none_iff.mpr hsource]
    | invalid hsource hinvalid =>
        obtain ⟨lines, hlines⟩ := hsource.exists_hasLines
        rw [search, lines?_eq_some_iff.mpr hlines, Query.compile_eq_error_iff.mpr hinvalid]
    | noLines hlines hvalid =>
        obtain ⟨m, hm⟩ := exists_compile hvalid
        rw [search_of_compile hm hlines, if_pos rfl]
    | noMatches hlines hvalid hne hnone =>
        obtain ⟨m, hm⟩ := exists_compile hvalid
        rw [search_of_compile hm hlines, if_neg hne,
          if_pos (hnone.imp_right Query.matching_eq_nil_iff.mpr)]
    | found hlines hvalid hlimit hsome hsuffix hlength =>
        rename_i lines kept
        obtain ⟨m, hm⟩ := exists_compile hvalid
        have hne : q.matching lines ≠ [] := by simpa [Query.matching_eq_nil_iff] using hsome
        have hlines_ne : lines ≠ [] := by
          rintro rfl
          simp at hsome
        rw [search_of_compile hm hlines, if_neg hlines_ne, if_neg (not_or.mpr ⟨hlimit, hne⟩),
          List.suffix_iff_eq_drop.mp hsuffix, hlength]
        congr 2
        omega

/-- A directory with one log of one line, and some permissions for each of the two. -/
def oneLog (directory log : Nat) : FileTree where
  entries :=
    [(["logs"], .directory directory),
      (["logs", "a.log"], .file ⟨Utf8.encode "secret\n", ⟨86400, 0, by decide⟩, log⟩)]
  clock := ⟨86400, 0, by decide⟩
  workingDirectory := []
  nodup := by simp

/-- A directory of logs that cannot be listed counts as missing, even if the pattern is invalid, and a log
that cannot be read has no lines to be found. -/
theorem unlisted_and_unread_not_searched :
    let a : Archive := { logDir := ⟨"/logs"⟩, historyFile := ⟨"/history"⟩ }
    let invalid : Query := { pattern := some "(", limit := 1, mode := .regex }
    let all : Query := { pattern := none, limit := 1 }
    ((oneLog 0o333 Mode.newFile).isDirectory a.logDir = true ∧ invalid.IsInvalid .groupUnclosed ∧
      a.search (oneLog 0o333 Mode.newFile) invalid .logs = .noSource .logs) ∧
    ((∃ f, (oneLog Mode.newDirectory 0).find ⟨"/logs/a.log"⟩ = .ok (.file f) ∧
        fileLines f.bytes = ["secret"]) ∧
      a.search (oneLog Mode.newDirectory 0) all .logs = .noSource .logs ∧
      a.search (oneLog Mode.newDirectory Mode.newFile) all .logs = .found ["secret"]) := by
  intro a invalid all
  have hinvalid : invalid.IsInvalid .groupUnclosed := ⟨rfl, "(", rfl, rfl⟩
  exact ⟨⟨by decide +kernel, hinvalid, by decide +kernel⟩, ⟨_, rfl, by decide +kernel⟩,
    by decide +kernel, by decide +kernel⟩

end Archive

end Logbook
