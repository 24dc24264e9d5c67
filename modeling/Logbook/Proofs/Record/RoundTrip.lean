import Logbook.Proofs.Text.Cut
import Logbook.Proofs.Time.Stamp
import Logbook.Record

namespace Logbook.Record

theorem unescape_cons {c : Char} (h : c ≠ '\\') (cs : List Char) :
    unescape (c :: cs) = c :: unescape cs := by
  rw [unescape]
  all_goals simp_all

theorem unescape_escapeChar_append (c : Char) (cs : List Char) :
    unescape (escapeChar c ++ cs) = c :: unescape cs := by
  simp only [escapeChar]
  split
  · rfl
  · rfl
  · rfl
  · rename_i hslash _ _
    exact unescape_cons hslash cs

theorem unescape_escape (cs : List Char) : unescape (escape cs) = cs := by
  induction cs with
  | nil => rfl
  | cons c cs ih =>
      rw [escape, List.flatMap_cons, unescape_escapeChar_append]
      exact congrArg (c :: ·) ih

def EndsLine (c : Char) : Prop :=
  c = '\n' ∨ c = '\r'

theorem not_endsLine_of_mem_escape {cs : List Char} {c : Char} (h : c ∈ escape cs) :
    ¬EndsLine c := by
  obtain ⟨d, -, hd⟩ := List.mem_flatMap.mp h
  simp only [escapeChar] at hd
  split at hd
  · rcases List.mem_pair.mp hd with rfl | rfl <;> simp [EndsLine]
  · rcases List.mem_pair.mp hd with rfl | rfl <;> simp [EndsLine]
  · rcases List.mem_pair.mp hd with rfl | rfl <;> simp [EndsLine]
  · rename_i hline hreturn
    rw [List.mem_singleton.mp hd]
    rintro (h | h)
    · exact hline h
    · exact hreturn h

theorem isBlank_of_endsLine {c : Char} (h : EndsLine c) : Text.isBlank c = true := by
  rcases h with rfl | rfl <;> rfl

theorem validTag_iff (tag : String) :
    validTag tag = true ↔ tag ≠ "" ∧ ∀ c ∈ tag.toList, c ≠ ':' ∧ Text.isBlank c = false := by
  simp [validTag]

theorem parse?_render_eq_bind {r : Record} (h : r.time.HasPlainYear) :
    parse? r.render =
      (Text.splitFirst ':' (r.tag.toList ++ ':' :: escape r.text.toList)).bind fun (tag, text) =>
        if tag.isEmpty || tag.any Text.isBlank then none
        else some
          { time := r.time.truncateToMicros, tag := String.ofList tag
            text := String.ofList (unescape text) } := by
  have hblank : ' ' ∉ Timestamp.renderMicros r.time := fun hmem =>
    absurd (Timestamp.isBlank_of_mem_renderMicros h hmem) (by decide)
  simp only [render, parse?, String.toList_ofList, List.append_assoc, List.cons_append,
    Text.splitFirst_append_cons hblank, Timestamp.parse?_renderMicros h, Option.bind_eq_bind,
    Option.bind_some]

theorem parse?_render {r : Record} (hyear : r.time.HasPlainYear) (htag : validTag r.tag = true) :
    parse? r.render = some { r with time := r.time.truncateToMicros } := by
  obtain ⟨hne, hchars⟩ := (validTag_iff r.tag).mp htag
  have hcolon : ':' ∉ r.tag.toList := fun hmem => (hchars ':' hmem).1 rfl
  have hread : (r.tag.toList.isEmpty || r.tag.toList.any Text.isBlank) = false := by
    simp only [Bool.or_eq_false_iff, List.any_eq_false, Bool.not_eq_true]
    exact ⟨by simpa using hne, fun c hc => (hchars c hc).2⟩
  rw [parse?_render_eq_bind hyear, Text.splitFirst_append_cons hcolon]
  simp only [Option.bind_some, hread, unescape_escape, String.ofList_toList]
  rfl

theorem validTag_of_parse?_render {r s : Record} (hyear : r.time.HasPlainYear)
    (h : parse? r.render = some s) (htag : s.tag = r.tag) : validTag r.tag = true := by
  rw [parse?_render_eq_bind hyear] at h
  obtain ⟨⟨tag, text⟩, hsplit, hread⟩ := Option.bind_eq_some_iff.mp h
  have hcolon : ':' ∉ tag := (Text.of_splitFirst_eq_some hsplit).2
  simp only [Option.ite_none_left_eq_some, Option.some.injEq, Bool.or_eq_true, not_or,
    Bool.not_eq_true, List.any_eq_false] at hread
  obtain ⟨⟨hempty, hblank⟩, rfl⟩ := hread
  rw [validTag_iff, ← htag, String.toList_ofList]
  refine ⟨?_, fun c hc => ⟨?_, hblank c hc⟩⟩
  · simpa using hempty
  · rintro rfl
    exact hcolon hc

theorem not_endsLine_of_mem_render {r : Record} (hyear : r.time.HasPlainYear)
    (htag : validTag r.tag = true) {c : Char} (hc : c ∈ r.render.toList) : ¬EndsLine c := by
  intro hend
  have hblank := isBlank_of_endsLine hend
  obtain ⟨-, hchars⟩ := (validTag_iff r.tag).mp htag
  simp only [render, String.toList_ofList, List.mem_append, List.mem_cons] at hc
  rcases hc with (hstamp | rfl | hmem) | rfl | htext
  · rw [Timestamp.isBlank_of_mem_renderMicros hyear hstamp] at hblank
    exact Bool.false_ne_true hblank
  · rcases hend with h | h <;> exact absurd h (by decide)
  · rw [(hchars c hmem).2] at hblank
    exact Bool.false_ne_true hblank
  · rcases hend with h | h <;> exact absurd h (by decide)
  · exact not_endsLine_of_mem_escape htext hend

/-- A record is read back from its line, cut down to whole microseconds, if and only if its tag is not
empty and holds neither a colon nor a blank; and then the line holds no line end. -/
theorem render_read_back_iff (r : Record) (hyear : r.time.HasPlainYear) :
    (parse? r.render = some { r with time := r.time.truncateToMicros } ↔
      r.tag ≠ "" ∧ ∀ c ∈ r.tag.toList, c ≠ ':' ∧ Text.isBlank c = false) ∧
    ((r.tag ≠ "" ∧ ∀ c ∈ r.tag.toList, c ≠ ':' ∧ Text.isBlank c = false) →
      '\n' ∉ r.render.toList ∧ '\r' ∉ r.render.toList) := by
  rw [← validTag_iff]
  refine ⟨⟨fun h => validTag_of_parse?_render hyear h rfl, parse?_render hyear⟩, fun htag => ⟨?_, ?_⟩⟩
  · intro hmem
    exact not_endsLine_of_mem_render hyear htag hmem (Or.inl rfl)
  · intro hmem
    exact not_endsLine_of_mem_render hyear htag hmem (Or.inr rfl)

def leapSecond : Instant :=
  ⟨1483228799, 1999999999, by decide⟩

theorem leap_second_read_back :
    leapSecond.HasPlainYear ∧
      parse? (render ⟨leapSecond, "user", "C:\\new\n2017-01-01T00:00:00Z user:ls\r"⟩) =
        some ⟨leapSecond.truncateToMicros, "user", "C:\\new\n2017-01-01T00:00:00Z user:ls\r"⟩ :=
  ⟨by decide, (render_read_back_iff _ (by decide)).1.mpr ((validTag_iff _).mp (by decide))⟩

end Logbook.Record
