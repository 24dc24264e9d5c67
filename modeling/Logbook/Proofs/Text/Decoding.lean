import Mathlib.Tactic
import Logbook.Text.Utf8

namespace Logbook.Utf8

theorem eq_of_ofNat_eq_lineFeed {n : Nat} (h : Char.ofNat n = '\n') : n = 10 := by
  have hcode : (Char.ofNat n).toNat = 10 := by
    rw [h]
    rfl
  rw [Char.ofNat] at hcode
  by_cases hvalid : n.isValidChar
  · rw [dif_pos hvalid] at hcode
    exact hcode
  · rw [dif_neg hvalid] at hcode
    simp at hcode

/-- The least character that can still come of some bytes is above ASCII. -/
def Partial.IsLong (p : Partial) : Prop :=
  0x80 ≤ (p.bits * 64 + (p.low.toNat - 0x80)) * 64 ^ (p.owed - 1)

theorem isLong_of_opening {b : UInt8} {p : Partial} (h : opening b = .starts p) : p.IsLong := by
  simp only [opening, UInt8.lt_iff_toNat_lt, UInt8.reduceToNat, ← UInt8.toNat_inj] at h
  split at h
  · simp at h
  split at h
  · simp at h
  split at h
  · obtain rfl := Opening.starts.inj h
    simp only [Partial.IsLong, UInt8.reduceToNat]
    omega
  split at h
  · obtain rfl := Opening.starts.inj h
    simp only [Partial.IsLong]
    split <;> simp only [UInt8.reduceToNat] <;> omega
  split at h
  · obtain rfl := Opening.starts.inj h
    simp only [Partial.IsLong]
    split <;> simp only [UInt8.reduceToNat] <;> omega
  · simp at h

namespace Reader

/-- No line feed has been read, and none can come of the bytes of the character begun. -/
structure HasNoLineFeed (r : Reader) : Prop where
  chars : '\n' ∉ r.chars
  pending : ∀ p, r.pending = some p → p.IsLong

theorem HasNoLineFeed.openWith {r : Reader} (h : '\n' ∉ r.chars) {b : UInt8} (hb : b ≠ 10) :
    (r.openWith b).HasNoLineFeed := by
  rw [Reader.openWith]
  cases hopen : opening b with
  | whole c =>
      refine ⟨?_, by simp⟩
      have hc : '\n' ≠ c := by
        rintro rfl
        simp only [opening] at hopen
        split at hopen
        · exact hb (UInt8.toNat_inj.mp (eq_of_ofNat_eq_lineFeed (Opening.whole.inj hopen)))
        · split_ifs at hopen
      simpa [hc] using h
  | starts p => exact ⟨h, by simpa using isLong_of_opening hopen⟩
  | stray => exact ⟨by simpa [replacement] using h, by simp⟩

theorem HasNoLineFeed.next {r : Reader} (h : r.HasNoLineFeed) {b : UInt8} (hb : b ≠ 10) :
    (r.next b).HasNoLineFeed := by
  rw [Reader.next]
  cases hpending : r.pending with
  | none => exact openWith h.chars hb
  | some p =>
      have hlong := h.pending p hpending
      simp only [Partial.IsLong] at hlong
      dsimp only
      split
      · rename_i hrange
        have hlow : p.low.toNat ≤ b.toNat := UInt8.le_iff_toNat_le.mp hrange.1
        split
        · rename_i howed
          refine ⟨?_, by simp⟩
          rw [show p.owed - 1 = 0 by omega, pow_zero, mul_one] at hlong
          have hc : '\n' ≠ Char.ofNat (p.bits * 64 + (b.toNat - 0x80)) := by
            intro heq
            have hten := eq_of_ofNat_eq_lineFeed heq.symm
            omega
          simpa [hc] using h.chars
        · -- One byte fewer is owed, and what has been read counts 64 times as much.
          rename_i howed
          refine ⟨h.chars, ?_⟩
          rintro _ ⟨⟩
          simp only [Partial.IsLong]
          obtain ⟨owed, howed'⟩ : ∃ n, p.owed = n + 2 := ⟨p.owed - 2, by omega⟩
          rw [howed', show owed + 2 - 1 = owed + 1 by omega, pow_succ'] at hlong
          rw [howed', show owed + 2 - 1 - 1 = owed by omega, show (0x80 : UInt8).toNat - 0x80 = 0 by rfl,
            add_zero, mul_assoc]
          exact hlong.trans (Nat.mul_le_mul_right _ (by omega))
      · exact openWith (by simpa [replacement] using h.chars) hb

theorem HasNoLineFeed.foldl {r : Reader} (h : r.HasNoLineFeed) {bytes : List UInt8}
    (hbytes : 10 ∉ bytes) : (bytes.foldl Reader.next r).HasNoLineFeed := by
  induction bytes generalizing r with
  | nil => exact h
  | cons b bytes ih =>
      rw [List.mem_cons, not_or] at hbytes
      exact ih (h.next (Ne.symm hbytes.1)) hbytes.2

end Reader

theorem not_lineFeed_mem_decodeLossy {bytes : List UInt8} (h : 10 ∉ bytes) :
    '\n' ∉ (decodeLossy bytes).toList := by
  have hread : (bytes.foldl Reader.next ⟨[], none, true⟩).HasNoLineFeed :=
    Reader.HasNoLineFeed.foldl ⟨by simp, by simp⟩ h
  rw [decodeLossy, String.toList_ofList, List.mem_reverse, read, Reader.finish]
  split
  · exact hread.chars
  · simpa [replacement] using hread.chars

end Logbook.Utf8
