import Logbook.Proofs.Pattern.Plain
import Logbook.Proofs.Search.Reference

namespace Logbook

namespace Query

variable {pattern : String} {limit : Nat}

theorem matches_regex_iff (h : ∀ c ∈ pattern.toList, Pattern.isPlain c = true)
    (hlength : pattern.length ≤ Pattern.maxPlainLength) (line : String) :
    Matches { pattern := some pattern, limit, mode := .regex } line ↔ pattern.toList <:+: line.toList := by
  have hcompile := Pattern.compile_of_isPlain h
  rw [if_neg (Nat.not_lt.mpr hlength)] at hcompile
  simp [Matches, hcompile, Pattern.isMatch, Pattern.matchesIn_literals]

theorem isInvalid_of_lt_length (h : ∀ c ∈ pattern.toList, Pattern.isPlain c = true)
    (hlength : Pattern.maxPlainLength < pattern.length) :
    IsInvalid { pattern := some pattern, limit, mode := .regex } .tooLarge := by
  have hcompile := Pattern.compile_of_isPlain h
  rw [if_pos hlength] at hcompile
  exact ⟨rfl, pattern, rfl, hcompile⟩

end Query

namespace Archive

variable {a : Archive} {t : FileTree} {source : Source}

theorem search_eq_of_matches_iff {q q' : Query} {m m' : Matcher}
    (hm : Matcher.compile q.pattern q.mode = .ok m) (hm' : Matcher.compile q'.pattern q'.mode = .ok m')
    (hlimit : q.limit = q'.limit) (h : ∀ line, q.Matches line ↔ q'.Matches line) :
    a.search t q source = a.search t q' source := by
  by_cases hsource : a.HasSource t source
  · obtain ⟨lines, hlines⟩ := hsource.exists_hasLines
    have hmatching : q.matching lines = q'.matching lines := by
      simp only [Query.matching, h]
    rw [search_of_compile hm hlines, search_of_compile hm' hlines, hmatching, hlimit]
  · rw [search, search, lines?_eq_none_iff.mpr hsource]

theorem search_of_isInvalid {q : Query} {fault : Pattern.Fault} (h : q.IsInvalid fault)
    (hsource : a.HasSource t source) : a.search t q source = .invalidPattern fault := by
  obtain ⟨lines, hlines⟩ := hsource.exists_hasLines
  rw [search, lines?_eq_some_iff.mpr hlines, Query.compile_eq_error_iff.mpr h]

/-- A search for a pattern of ASCII letters, digits and spaces has the same outcome as a regular expression and as
a text, whatever the source holds. Only if the pattern takes too much memory as a regular expression, it is
refused. -/
theorem search_regex_eq_substring (a : Archive) (t : FileTree) (source : Source) (limit : Nat)
    {pattern : String} (h : ∀ c ∈ pattern.toList, Pattern.isPlain c = true) :
    (pattern.length ≤ Pattern.maxPlainLength →
      a.search t { pattern := some pattern, limit, mode := .regex } source =
        a.search t { pattern := some pattern, limit, mode := .substring } source) ∧
    (Pattern.maxPlainLength < pattern.length → a.HasSource t source →
      a.search t { pattern := some pattern, limit, mode := .regex } source = .invalidPattern .tooLarge) := by
  refine ⟨fun hlength => ?_, fun hlength hsource =>
    search_of_isInvalid (Query.isInvalid_of_lt_length h hlength) hsource⟩
  have hcompile := Pattern.compile_of_isPlain h
  rw [if_neg (Nat.not_lt.mpr hlength)] at hcompile
  have hregex : Matcher.compile (some pattern) .regex =
      .ok (.regex ⟨(Pattern.Regex.literals pattern.toList).program⟩) := by
    simp [Matcher.compile, hcompile, Except.map]
  exact search_eq_of_matches_iff hregex rfl rfl fun line => Query.matches_regex_iff h hlength line

def twoCommands : FileTree where
  entries := [(["history"], .file ⟨"ab aba b\nabb\n".toUTF8.toList, ⟨1735600000, 0, by decide⟩, Mode.newFile⟩)]
  clock := ⟨1735600100, 0, by decide⟩
  workingDirectory := []
  nodup := by simp

theorem hasLines_twoCommands :
    HasLines ⟨⟨"/log"⟩, ⟨"/history"⟩⟩ twoCommands .history ["ab aba b", "abb"] :=
  lines?_eq_some_iff.mp (by decide +kernel)

def repeated (n : Nat) : String :=
  String.ofList (List.replicate n 'a')

theorem length_repeated (n : Nat) : (repeated n).length = n := by
  rw [repeated, String.length_ofList, List.length_replicate]

theorem isPlain_of_mem_repeated (n : Nat) : ∀ c ∈ (repeated n).toList, Pattern.isPlain c = true := by
  intro c hc
  rw [repeated, String.toList_ofList] at hc
  rw [List.eq_of_mem_replicate hc]
  decide

theorem maxPlainLength_lt_length_repeated : Pattern.maxPlainLength < (repeated 450000).length := by
  rw [length_repeated]
  decide

theorem plain_search_finds_command :
    let a : Archive := ⟨⟨"/log"⟩, ⟨"/history"⟩⟩
    ((∀ c ∈ "aba b".toList, Pattern.isPlain c = true) ∧ "aba b".length ≤ Pattern.maxPlainLength ∧
      a.search twoCommands { pattern := some "aba b", limit := 1, mode := .regex } .history =
        .found ["ab aba b"]) ∧
    (∀ c ∈ (repeated 450000).toList, Pattern.isPlain c = true) ∧
      Pattern.maxPlainLength < (repeated 450000).length ∧ a.HasSource twoCommands .history ∧
      a.search twoCommands { pattern := some (repeated 450000), limit := 1, mode := .regex } .history =
        .invalidPattern .tooLarge := by
  intro a
  have hplain : ∀ c ∈ "aba b".toList, Pattern.isPlain c = true := List.all_eq_true.mp (by decide)
  have hrepeated := isPlain_of_mem_repeated 450000
  have hlong := maxPlainLength_lt_length_repeated
  have hsource : a.HasSource twoCommands .history := hasLines_twoCommands.hasSource
  refine ⟨⟨hplain, by decide, ?_⟩, hrepeated, hlong, hsource, ?_⟩
  · rw [(search_regex_eq_substring a twoCommands .history 1 hplain).1 (by decide)]
    decide +kernel
  · exact (search_regex_eq_substring a twoCommands .history 1 hrepeated).2 hlong hsource

/-- A pattern that is too long is refused as a regular expression, while as a text no line contains it. -/
theorem long_pattern_is_refused :
    let a : Archive := ⟨⟨"/log"⟩, ⟨"/history"⟩⟩
    (∀ c ∈ (repeated 450000).toList, Pattern.isPlain c = true) ∧
      a.search twoCommands { pattern := some (repeated 450000), limit := 1, mode := .substring } .history =
        .noMatches ∧
      a.search twoCommands { pattern := some (repeated 450000), limit := 1, mode := .regex } .history ≠
        .noMatches := by
  intro a
  refine ⟨isPlain_of_mem_repeated 450000, ?_, ?_⟩
  · rw [search_of_compile (m := .substring (repeated 450000)) rfl hasLines_twoCommands, if_neg (by simp), if_pos]
    refine Or.inr (Query.matching_eq_nil_iff.mpr fun line hline hmatches => ?_)
    have hle : (repeated 450000).toList.length ≤ line.toList.length := List.IsInfix.length_le hmatches
    rw [String.length_toList, String.length_toList, length_repeated] at hle
    have hshort : line.length ≤ 8 := by
      rcases List.mem_pair.mp hline with rfl | rfl <;> decide
    omega
  · rw [search_of_isInvalid (Query.isInvalid_of_lt_length (isPlain_of_mem_repeated 450000)
      maxPlainLength_lt_length_repeated) hasLines_twoCommands.hasSource]
    simp

end Archive

end Logbook
