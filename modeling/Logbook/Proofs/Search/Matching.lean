import Mathlib.Tactic
import Logbook.Proofs.Search.Tail
import Logbook.Search

namespace Logbook

theorem Text.containsText_iff {needle line : List Char} :
    Text.containsText needle line = true ↔ needle <:+: line := by
  induction line with
  | nil => simp [Text.containsText]
  | cons c cs ih =>
      rw [Text.containsText, Bool.or_eq_true, ih, List.infix_cons_iff, List.isPrefixOf_iff_prefix]

namespace Query

/-- The pattern is a regular expression that does not compile. -/
def IsInvalid (q : Query) (fault : Pattern.Fault) : Prop :=
  q.mode = .regex ∧ ∃ p, q.pattern = some p ∧ Pattern.compile p = .error fault

/-- A line matches: there is no pattern, or the line contains it, or it is a regular expression that
matches somewhere in the line. -/
def Matches (q : Query) (line : String) : Prop :=
  match q.pattern, q.mode with
  | none, _ => True
  | some needle, .substring => needle.toList <:+: line.toList
  | some p, .regex => ∃ r, Pattern.compile p = .ok r ∧ r.isMatch line = true

variable {q : Query}

theorem compile_eq_error_iff {fault : Pattern.Fault} :
    Matcher.compile q.pattern q.mode = .error fault ↔ q.IsInvalid fault := by
  obtain ⟨pattern, limit, mode⟩ := q
  cases pattern with
  | none => simp [Matcher.compile, IsInvalid]
  | some p =>
      cases mode with
      | substring => simp [Matcher.compile, IsInvalid]
      | regex => cases h : Pattern.compile p <;> simp [Matcher.compile, IsInvalid, h, Except.map]

theorem isMatch_iff {m : Matcher} (h : Matcher.compile q.pattern q.mode = .ok m) (line : String) :
    m.isMatch line = true ↔ q.Matches line := by
  obtain ⟨pattern, limit, mode⟩ := q
  cases pattern with
  | none =>
      obtain rfl : Matcher.any = m := by simpa [Matcher.compile] using h
      simp [Matcher.isMatch, Matches]
  | some p =>
      cases mode with
      | substring =>
          obtain rfl : Matcher.substring p = m := by simpa [Matcher.compile] using h
          simp [Matcher.isMatch, Matches, Text.containsText_iff]
      | regex =>
          cases hcompile : Pattern.compile p with
          | error fault => simp [Matcher.compile, hcompile, Except.map] at h
          | ok r =>
              obtain rfl : Matcher.regex r = m := by
                simpa [Matcher.compile, hcompile, Except.map] using h
              simp [Matcher.isMatch, Matches, hcompile]

end Query

theorem foldl_next_eq (m : Matcher) (lines : List String) (s : Scan) :
    lines.foldl (Scan.next m) s =
      { seen := s.seen + lines.length, kept := (lines.filter m.isMatch).foldl Tail.push s.kept } := by
  induction lines generalizing s with
  | nil => rfl
  | cons line lines ih =>
      rw [List.foldl_cons, ih, Scan.next, List.filter_cons]
      split <;> simp [Nat.add_assoc, Nat.add_comm 1]

theorem scanLines_eq (m : Matcher) (limit : Nat) (lines : List String) :
    scanLines m limit lines =
      { seen := lines.length
        kept := (lines.filter m.isMatch).foldl Tail.push (Tail.empty limit) } := by
  rw [scanLines, foldl_next_eq, Nat.zero_add]

end Logbook
