import Logbook.Proofs.Files.Writing
import Logbook.Proofs.Text.Cut
import Logbook.Proofs.Time.Stamp
import Logbook.SessionId

namespace Logbook.SessionId

theorem toList_fileName (id : SessionId) : id.fileName.toList = id.text.toList ++ ".log".toList := by
  simp [fileName, logExtension]

theorem fileName_injective {id other : SessionId} (h : id.fileName = other.fileName) :
    id = other := by
  have htext : id.text.toList ++ ".log".toList = other.text.toList ++ ".log".toList := by
    rw [← toList_fileName, ← toList_fileName, h]
  cases id
  cases other
  exact congrArg mk (String.toList_inj.mp (List.append_cancel_right htext))

theorem isLogName_iff {name : String} :
    isLogName name = true ↔ ∃ stem : String, stem ≠ "" ∧ name = stem ++ ".log" := by
  rw [isLogName, beq_iff_eq, Path.extension?]
  constructor
  · intro h
    split at h
    · rename_i reversed c cs hsplit
      have hlog : String.ofList reversed.reverse = "log" := Option.some.inj h
      have hname := (Text.of_splitFirst_eq_some hsplit).1
      refine ⟨String.ofList (c :: cs).reverse, by simp, String.toList_inj.mp ?_⟩
      rw [← List.reverse_reverse name.toList, hname, List.reverse_append, List.reverse_cons,
        ← String.toList_ofList (l := reversed.reverse), hlog]
      simp
    · simp at h
  · rintro ⟨stem, hne, rfl⟩
    have hreverse : (stem ++ ".log").toList.reverse =
        ['g', 'o', 'l'] ++ '.' :: stem.toList.reverse := by
      rw [String.toList_append, List.reverse_append]
      rfl
    have hstem : stem.toList.reverse ≠ [] := by simpa using hne
    obtain ⟨c, cs, hcs⟩ := List.exists_cons_of_ne_nil hstem
    rw [hreverse, Text.splitFirst_append_cons (by decide), hcs]
    rfl

theorem isLogName_fileName {id : SessionId} (h : id.text ≠ "") : isLogName id.fileName = true :=
  isLogName_iff.mpr ⟨id.text, h, String.toList_inj.mp (by simp [toList_fileName])⟩

theorem mem_renderYear {year : Int} {c : Char} (h : c ∈ Timestamp.renderYear year) :
    c.isDigit = true ∨ c = '-' ∨ c = '+' := by
  rw [Timestamp.renderYear] at h
  split at h
  · exact Or.inl (Decimal.isDigit_of_mem_fixed h)
  · rcases List.mem_cons.mp h with rfl | h
    · split <;> simp
    · rw [Decimal.padded, List.mem_append, Decimal.digits] at h
      rcases h with h | h
      · obtain rfl := List.eq_of_mem_replicate h
        exact Or.inl (by decide)
      · exact Or.inl (Nat.isDigit_of_mem_toDigits (by decide) (by decide) h)

theorem mem_text_ofInstant {t : Instant} {c : Char} (hc : c ∈ (ofInstant t).text.toList) :
    c.isDigit = true ∨ c = '-' ∨ c = '+' := by
  simp only [ofInstant, String.toList_ofList, List.mem_append, List.mem_cons] at hc
  by_contra hnot
  have hfixed : ∀ width n, c ∉ Decimal.fixed width n := fun width n hmem =>
    hnot (Or.inl (Decimal.isDigit_of_mem_fixed hmem))
  have hyear : c ∉ Timestamp.renderYear t.date.year := fun hmem => hnot (mem_renderYear hmem)
  simp only [hfixed, hyear, false_or, or_false] at hc
  exact hnot (Or.inr (Or.inl hc))

theorem text_ofInstant_ne_empty (t : Instant) : (ofInstant t).text ≠ "" := by
  intro h
  have hlist := congrArg String.toList h
  simp [ofInstant] at hlist

theorem isFileName_ofInstant (t : Instant) : Path.IsFileName (ofInstant t).fileName := by
  have hlength : 4 < (ofInstant t).fileName.toList.length := by
    have hne : (ofInstant t).text.toList ≠ [] := by simpa using text_ofInstant_ne_empty t
    rw [toList_fileName, List.length_append]
    have hpos := List.length_pos_iff.mpr hne
    simp
    omega
  refine ⟨?_, ?_, ?_, ?_⟩
  · intro heq
    simp [heq] at hlength
  · intro heq
    simp [heq] at hlength
  · intro heq
    simp [heq] at hlength
  · rw [toList_fileName, List.mem_append, not_or]
    refine ⟨fun hmem => ?_, by decide⟩
    rcases mem_text_ofInstant hmem with hdigit | hdash | hplus
    · exact absurd hdigit (by decide)
    · exact absurd hdash (by decide)
    · exact absurd hplus (by decide)

end Logbook.SessionId
