import Mathlib.Data.Set.Function
import Logbook.Proofs.Record.RoundTrip

/-!
The written forms among all texts. A text is the written form of some text if and only if it holds no line
end and its backslashes, read from the left, begin the written forms of single characters. On these texts,
and on no others, writing undoes reading, and reading takes them one to one onto all texts.
-/

namespace Logbook.Record

/-- Read from the left, every backslash begins the written form of a backslash, a line feed or a carriage
return. The second character of a written form begins none. -/
inductive PairsUp : List Char → Prop where
  | nil : PairsUp []
  | plain {c : Char} {cs : List Char} (hc : c ≠ '\\') (hcs : PairsUp cs) : PairsUp (c :: cs)
  | pair {c : Char} {cs : List Char} (hc : c = '\\' ∨ c = 'n' ∨ c = 'r') (hcs : PairsUp cs) :
      PairsUp ('\\' :: c :: cs)

/-- The form of a written text: it holds no line end, and its backslashes pair up. -/
structure IsEscaped (cs : List Char) : Prop where
  not_lineFeed_mem : '\n' ∉ cs
  not_return_mem : '\r' ∉ cs
  pairsUp : PairsUp cs

theorem escape_cons (c : Char) (cs : List Char) : escape (c :: cs) = escapeChar c ++ escape cs :=
  List.flatMap_cons

theorem escape_cons_plain {c : Char} (hslash : c ≠ '\\') (hline : c ≠ '\n') (hreturn : c ≠ '\r')
    (cs : List Char) : escape (c :: cs) = c :: escape cs := by
  rw [escape_cons, escapeChar, List.singleton_append]
  all_goals assumption

theorem PairsUp.escapeChar_append (c : Char) {cs : List Char} (h : PairsUp cs) :
    PairsUp (escapeChar c ++ cs) := by
  simp only [escapeChar]
  split
  · exact .pair (Or.inl rfl) h
  · exact .pair (Or.inr (Or.inl rfl)) h
  · exact .pair (Or.inr (Or.inr rfl)) h
  · rename_i hslash _ _
    exact .plain hslash h

theorem pairsUp_escape (cs : List Char) : PairsUp (escape cs) := by
  induction cs with
  | nil => exact .nil
  | cons c cs ih =>
      rw [escape_cons]
      exact ih.escapeChar_append c

theorem isEscaped_escape (cs : List Char) : IsEscaped (escape cs) where
  not_lineFeed_mem h := not_endsLine_of_mem_escape h (Or.inl rfl)
  not_return_mem h := not_endsLine_of_mem_escape h (Or.inr rfl)
  pairsUp := pairsUp_escape cs

theorem IsEscaped.escape_unescape {cs : List Char} (h : IsEscaped cs) : escape (unescape cs) = cs := by
  obtain ⟨hline, hreturn, hpairs⟩ := h
  induction hpairs with
  | nil => rfl
  | plain hc _ ih =>
      have hrest := ih (fun h => hline (List.mem_cons_of_mem _ h))
        (fun h => hreturn (List.mem_cons_of_mem _ h))
      rw [unescape_cons hc, escape_cons_plain hc (fun h => hline (h ▸ List.mem_cons_self))
        (fun h => hreturn (h ▸ List.mem_cons_self)), hrest]
  | pair hc _ ih =>
      have hrest := ih (fun h => hline (List.mem_cons_of_mem _ (List.mem_cons_of_mem _ h)))
        (fun h => hreturn (List.mem_cons_of_mem _ (List.mem_cons_of_mem _ h)))
      rcases hc with rfl | rfl | rfl
      · rw [unescape, escape_cons, hrest]
        rfl
      · rw [unescape, escape_cons, hrest]
        rfl
      · rw [unescape, escape_cons, hrest]
        rfl

theorem escape_unescape_eq_iff {cs : List Char} : escape (unescape cs) = cs ↔ IsEscaped cs :=
  ⟨fun h => h ▸ isEscaped_escape (unescape cs), IsEscaped.escape_unescape⟩

theorem range_escape : Set.range escape = {cs | IsEscaped cs} := by
  ext cs
  constructor
  · rintro ⟨text, rfl⟩
    exact isEscaped_escape text
  · intro h
    exact ⟨unescape cs, h.escape_unescape⟩

theorem bijOn_unescape : Set.BijOn unescape {cs | IsEscaped cs} Set.univ := by
  refine ⟨Set.mapsTo_univ _ _, ?_, ?_⟩
  · intro cs hcs ds hds h
    calc
      cs = escape (unescape cs) := hcs.escape_unescape.symm
      _ = escape (unescape ds) := by rw [h]
      _ = ds := hds.escape_unescape
  · intro text _
    exact ⟨escape text, isEscaped_escape text, unescape_escape text⟩

/-- Writing what was read gives a text back if and only if the text holds no line end and every backslash,
read from the left, begins the written form of a character. These texts are what writing produces, and
reading takes them one to one onto all texts. -/
theorem written_texts_are_escaped :
    (∀ cs : List Char, escape (unescape cs) = cs ↔ IsEscaped cs) ∧
      Set.range escape = {cs | IsEscaped cs} ∧
      Set.BijOn unescape {cs | IsEscaped cs} Set.univ :=
  ⟨fun _ => escape_unescape_eq_iff, range_escape, bijOn_unescape⟩

/-- An unknown escape and a backslash at the end are read as they stand, and written with more
backslashes. -/
example : escape (unescape "grep \\d+ \\".toList) = "grep \\\\d+ \\\\".toList := by decide

end Logbook.Record
