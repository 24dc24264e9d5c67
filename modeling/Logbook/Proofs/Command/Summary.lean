import Logbook.Program
import Logbook.Proofs.Text.Numerals
import Logbook.Proofs.Text.Words

namespace Logbook.Summary

variable {words tokens : List String} {history regex : Bool} {args : String}

/-- The tokens are the words in order, with flags in front of them, between them and after them. -/
inductive Flagged : List String → Bool → Bool → List String → Prop where
  | nil : Flagged [] false false []
  | word {words tokens : List String} {history regex : Bool} {w : String} :
      w ≠ historyFlag → w ≠ regexFlag → Flagged words history regex tokens →
      Flagged (w :: words) history regex (w :: tokens)
  | history {words tokens : List String} {history regex : Bool} :
      Flagged words history regex tokens → Flagged words true regex (historyFlag :: tokens)
  | regex {words tokens : List String} {history regex : Bool} :
      Flagged words history regex tokens → Flagged words history true (regexFlag :: tokens)

theorem Flagged.filter_eq (h : Flagged words history regex tokens) :
    tokens.filter (fun t => t ≠ historyFlag ∧ t ≠ regexFlag) = words := by
  induction h with
  | nil => rfl
  | word hhistory hregex _ ih => rw [List.filter_cons_of_pos (by simp [hhistory, hregex]), ih]
  | history _ ih => rw [List.filter_cons_of_neg (by simp), ih]
  | regex _ ih => rw [List.filter_cons_of_neg (by simp), ih]

theorem Flagged.contains_historyFlag (h : Flagged words history regex tokens) :
    tokens.contains historyFlag = history := by
  induction h with
  | nil => rfl
  | word hhistory _ _ ih => rw [List.contains_cons, ih, beq_false_of_ne hhistory.symm, Bool.false_or]
  | history _ _ => rw [List.contains_cons, beq_self_eq_true, Bool.true_or]
  | regex _ ih => rw [List.contains_cons, ih, beq_false_of_ne (by decide), Bool.false_or]

theorem Flagged.contains_regexFlag (h : Flagged words history regex tokens) :
    tokens.contains regexFlag = regex := by
  induction h with
  | nil => rfl
  | word _ hregex _ ih => rw [List.contains_cons, ih, beq_false_of_ne hregex.symm, Bool.false_or]
  | history _ ih => rw [List.contains_cons, ih, beq_false_of_ne (by decide), Bool.false_or]
  | regex _ _ => rw [List.contains_cons, beq_self_eq_true, Bool.true_or]

/-- The arguments are the words in order, with blanks and flags around them. -/
def Writes (words : List String) (history regex : Bool) (args : String) : Prop :=
  ∃ tokens, Flagged words history regex tokens ∧ Text.Spaced (tokens.map String.toList) args.toList

theorem parse_eq_of_writes (h : Writes words history regex args) :
    parse args = ofWords (splitLimit words).1 (splitLimit words).2 history regex := by
  obtain ⟨tokens, hflagged, hspaced⟩ := h
  have htokens : (Text.words args.toList).map String.ofList = tokens := by
    rw [Text.words_eq_iff.mpr hspaced, List.map_map]
    exact List.map_id'' (fun _ => String.ofList_toList) tokens
  simp only [parse, htokens]
  rw [hflagged.filter_eq, hflagged.contains_historyFlag, hflagged.contains_regexFlag]

theorem limit?_eq_some_iff {w : String} {n : Nat} :
    limit? w = some n ↔ Decimal.AreDigits w.toList ∧ min (Decimal.value w.toList) maxLimit = n := by
  rw [limit?, Option.ite_none_right_eq_some, Option.some.injEq]
  simp [Decimal.AreDigits]

theorem splitLimit_append {ds : List Char} (h : Decimal.AreDigits ds) :
    splitLimit (words ++ [String.ofList ds]) = (words, min (Decimal.value ds) maxLimit) := by
  have hlimit : limit? (String.ofList ds) = some (min (Decimal.value ds) maxLimit) :=
    limit?_eq_some_iff.mpr (by simp [h])
  simp [splitLimit, hlimit]

theorem splitLimit_of_not_areDigits (h : ∀ last ∈ words.getLast?, ¬Decimal.AreDigits last.toList) :
    splitLimit words = (words, defaultLimit) := by
  have hnone : words.getLast?.bind limit? = none := by
    rw [Option.bind_eq_none_iff]
    intro last hlast
    rw [Option.eq_none_iff_forall_ne_some]
    exact fun n hn => h last hlast (limit?_eq_some_iff.mp hn).1
  rw [splitLimit, hnone]

/-- A call for the words, the limit and the flags asks for the same as the summary, and shows the same. -/
structure IsCalledFor (summary : Summary) (words : List String) (limit : Nat) (history regex : Bool) : Prop where
  pattern_eq : summary.query.pattern = if words = [] then none else some (" ".intercalate words)
  limit_eq : summary.query.limit = limit
  mode_eq : summary.query.mode = if regex then .regex else .substring
  source_eq : summary.source = if history then .history else .logs
  run_eq : ∀ (S : Surroundings) (user : User) (call : List String) (console : Console) (t : FileTree)
    (c : CommandLine) (s : Settings), CommandLine.parse call = .ok c →
    c.action = .summarize words limit history regex → Program.settings c user t = .ok s →
    Program.run S user call console t = Program.answered s.palette t
      (.ofOutcome ((Program.archiveOf s).search t summary.query summary.source))

theorem isCalledFor_ofWords (words : List String) (limit : Nat) (history regex : Bool) :
    IsCalledFor (ofWords words limit history regex) words limit history regex where
  pattern_eq := by simp [ofWords]
  limit_eq := rfl
  mode_eq := rfl
  source_eq := rfl
  run_eq := by
    intro S user call console t c s hparse haction hsettings
    simp only [Program.run, hparse, hsettings, haction]

/-- Words, a number and flags ask a session for the same summary as the program itself, wherever the flags and
blanks stand. Without a number, and if the last word is none, the limit is the default; and a number that does not
fit into 64 bits counts as the greatest that does. -/
theorem parse_isCalledFor (words : List String) (history regex : Bool) (args : String) :
    (∀ n < 2 ^ 64, Writes (words ++ [String.ofList (Decimal.digits n)]) history regex args →
      IsCalledFor (parse args) words n history regex) ∧
    (∀ ds, Decimal.AreDigits ds → 2 ^ 64 ≤ Decimal.value ds →
      Writes (words ++ [String.ofList ds]) history regex args →
      IsCalledFor (parse args) words (2 ^ 64 - 1) history regex) ∧
    (Writes words history regex args →
      (∀ last ∈ words.getLast?, ¬Decimal.AreDigits last.toList) →
      IsCalledFor (parse args) words defaultLimit history regex) := by
  have hmax : maxLimit = 2 ^ 64 - 1 := rfl
  refine ⟨fun n hn h => ?_, fun ds hds hlarge h => ?_, fun h hlast => ?_⟩
  · have hlimit : min (Decimal.value (Decimal.digits n)) maxLimit = n := by
      rw [Decimal.value_digits, hmax]
      omega
    rw [parse_eq_of_writes h, splitLimit_append (Decimal.areDigits_digits n), hlimit]
    exact isCalledFor_ofWords words n history regex
  · have hlimit : min (Decimal.value ds) maxLimit = 2 ^ 64 - 1 := by
      rw [hmax]
      omega
    rw [parse_eq_of_writes h, splitLimit_append hds, hlimit]
    exact isCalledFor_ofWords words _ history regex
  · rw [parse_eq_of_writes h, splitLimit_of_not_areDigits hlast]
    exact isCalledFor_ofWords words _ history regex

theorem disk_42_isCalledFor :
    (7 < 2 ^ 64 ∧ Writes (["disk", "42"] ++ [String.ofList (Decimal.digits 7)]) true true
        "--regex disk\t42 --history 7  --regex " ∧
      IsCalledFor (parse "--regex disk\t42 --history 7  --regex ") ["disk", "42"] 7 true true) ∧
    (Decimal.AreDigits "018446744073709551616".toList ∧
      2 ^ 64 ≤ Decimal.value "018446744073709551616".toList ∧
      Writes (["disk"] ++ ["018446744073709551616"]) false false " disk 018446744073709551616" ∧
      IsCalledFor (parse " disk 018446744073709551616") ["disk"] (2 ^ 64 - 1) false false) ∧
    Writes [] true false "--history" ∧ IsCalledFor (parse "--history") [] defaultLimit true false := by
  have hflags : Writes (["disk", "42"] ++ [String.ofList (Decimal.digits 7)]) true true
      "--regex disk\t42 --history 7  --regex " := by
    refine ⟨["--regex", "disk", "42", "--history", "7", "--regex"], ?_, Text.words_eq_iff.mp (by decide)⟩
    exact .regex (.word (by decide) (by decide) (.word (by decide) (by decide)
      (.history (.word (by decide) (by decide) (.regex .nil)))))
  have hlarge : Writes (["disk"] ++ ["018446744073709551616"]) false false " disk 018446744073709551616" :=
    ⟨["disk", "018446744073709551616"], .word (by decide) (by decide) (.word (by decide) (by decide) .nil),
      Text.words_eq_iff.mp (by decide)⟩
  have hnone : Writes [] true false "--history" :=
    ⟨["--history"], .history .nil, Text.words_eq_iff.mp (by decide)⟩
  have hds : Decimal.AreDigits "018446744073709551616".toList := by decide
  refine ⟨⟨by decide, hflags, ?_⟩, ⟨hds, by decide, hlarge, ?_⟩, hnone, ?_⟩
  · exact (parse_isCalledFor ["disk", "42"] true true _).1 7 (by decide) hflags
  · exact (parse_isCalledFor ["disk"] false false _).2.1 _ hds (by decide) hlarge
  · exact (parse_isCalledFor [] true false _).2.2 hnone (by simp)

end Logbook.Summary
