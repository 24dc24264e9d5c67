import Logbook.Proofs.Text.Cut
import Logbook.Proofs.Text.Decoding
import Logbook.Proofs.Text.Encoding

/-!
Bytes that are read part by part: a part that starts like a character is read as it is on its own, whatever
stands before it. So a text that is decoded and cut at its line feeds is the same as its bytes cut and then
decoded.
-/

namespace Logbook.Utf8

/-- A byte that can stand behind the first byte of a character. -/
def Continues (b : UInt8) : Prop :=
  0x80 ≤ b.toNat ∧ b.toNat ≤ 0xBF

theorem not_continues_of_head? {c : Char} {b : UInt8}
    (h : (String.utf8EncodeChar c).head? = some b) : ¬Continues b := by
  have hval : c.val.toNat = c.toNat := rfl
  have hmax : c.toNat < 0x110000 := by
    have hvalid : c.toNat < 0xD800 ∨ 0xDFFF < c.toNat ∧ c.toNat < 0x110000 := c.valid
    omega
  simp only [String.utf8EncodeChar, hval] at h
  split_ifs at h
  all_goals
    obtain rfl := Option.some.inj h
    simp only [Continues, UInt8.toNat_ofNat', Nat.reducePow]
    omega

namespace Reader

/-- The character begun, if there is one, goes on only with bytes that continue one. -/
def IsSound (r : Reader) : Prop :=
  ∀ p, r.pending = some p → 0x80 ≤ p.low.toNat ∧ p.high.toNat ≤ 0xBF

theorem isSound_openWith (r : Reader) (b : UInt8) : (r.openWith b).IsSound := by
  intro p hp
  rw [openWith] at hp
  cases hopen : opening b with
  | whole c => simp [hopen] at hp
  | stray => simp [hopen] at hp
  | starts q =>
      obtain rfl : q = p := by simpa [hopen] using hp
      simp only [opening] at hopen
      split_ifs at hopen
      all_goals
        obtain rfl := Opening.starts.inj hopen
        dsimp only
        decide

theorem isSound_next (r : Reader) (b : UInt8) : (r.next b).IsSound := by
  rw [Reader.next]
  split
  · exact isSound_openWith r b
  split
  · -- Behind the second byte of a character there are no narrower bounds.
    intro q hq
    split at hq
    · simp at hq
    · obtain rfl := Option.some.inj hq
      exact ⟨le_refl _, le_refl _⟩
  · exact isSound_openWith _ b

theorem isSound_foldl {r : Reader} (h : r.IsSound) (bytes : List UInt8) :
    (bytes.foldl Reader.next r).IsSound := by
  induction bytes generalizing r with
  | nil => exact h
  | cons b bytes ih => exact ih (isSound_next _ b)

/-- A byte that continues no character ends the one begun, as the end of the input does. -/
theorem next_eq_next_finish {r : Reader} (h : r.IsSound) {b : UInt8} (hb : ¬Continues b) :
    r.next b = r.finish.next b := by
  cases hpending : r.pending with
  | none => rw [finish, hpending]
  | some p =>
      have hrange : ¬(p.low ≤ b ∧ b ≤ p.high) := by
        rintro ⟨hlow, hhigh⟩
        rw [UInt8.le_iff_toNat_le] at hlow hhigh
        obtain ⟨hleast, hmost⟩ := h p hpending
        exact hb ⟨hleast.trans hlow, hhigh.trans hmost⟩
      simp only [next, finish, hpending, if_neg hrange]

/-- A reader that has read some characters before it started. -/
def behind (before : List Char) (valid : Bool) (r : Reader) : Reader :=
  ⟨r.chars ++ before, r.pending, valid && r.valid⟩

variable (before : List Char) (valid : Bool)

theorem openWith_behind (r : Reader) (b : UInt8) :
    (r.behind before valid).openWith b = (r.openWith b).behind before valid := by
  simp only [openWith, behind]
  cases opening b <;> simp

theorem next_behind (r : Reader) (b : UInt8) :
    (r.behind before valid).next b = (r.next b).behind before valid := by
  obtain ⟨chars, pending, sound⟩ := r
  cases pending with
  | none => exact openWith_behind before valid _ b
  | some p =>
      by_cases hrange : p.low ≤ b ∧ b ≤ p.high
      · by_cases howed : p.owed ≤ 1 <;> simp [next, behind, hrange, howed]
      · have hopen := openWith_behind before valid ⟨replacement :: chars, none, false⟩ b
        simpa [next, behind, hrange] using hopen

theorem foldl_next_behind (r : Reader) (bytes : List UInt8) :
    bytes.foldl next (r.behind before valid) = (bytes.foldl next r).behind before valid := by
  induction bytes generalizing r with
  | nil => rfl
  | cons b bytes ih => rw [List.foldl_cons, List.foldl_cons, next_behind, ih]

theorem finish_behind (r : Reader) :
    (r.behind before valid).finish = r.finish.behind before valid := by
  obtain ⟨chars, pending, sound⟩ := r
  cases pending <;> simp [finish, behind]

end Reader

theorem eq_behind_of_pending {r : Reader} (h : r.pending = none) :
    r = (⟨[], none, true⟩ : Reader).behind r.chars r.valid := by
  obtain ⟨chars, pending, sound⟩ := r
  obtain rfl : pending = none := h
  simp [Reader.behind]

theorem pending_finish (r : Reader) : r.finish.pending = none := by
  obtain ⟨chars, pending, sound⟩ := r
  cases pending <;> rfl

theorem read_append {xs ys : List UInt8} (h : ∀ b, ys.head? = some b → ¬Continues b) :
    read (xs ++ ys) = (read ys).behind (read xs).chars (read xs).valid := by
  cases ys with
  | nil =>
      rw [List.append_nil]
      exact eq_behind_of_pending (pending_finish _)
  | cons b ys =>
      have hsound : (xs.foldl Reader.next ⟨[], none, true⟩).IsSound :=
        Reader.isSound_foldl (by simp [Reader.IsSound]) xs
      have hstart : read xs = (⟨[], none, true⟩ : Reader).behind (read xs).chars (read xs).valid :=
        eq_behind_of_pending (pending_finish _)
      -- The byte is no part of what has been begun, so that may as well be given up before it.
      calc
        read (xs ++ b :: ys) = ((b :: ys).foldl Reader.next (read xs)).finish := by
          rw [read, List.foldl_append, List.foldl_cons,
            Reader.next_eq_next_finish hsound (h b rfl)]
          rfl
        _ = (read (b :: ys)).behind (read xs).chars (read xs).valid := by
          rw [hstart, Reader.foldl_next_behind, Reader.finish_behind, ← hstart]
          rfl

theorem decodeLossy_append {xs ys : List UInt8} (h : ∀ b, ys.head? = some b → ¬Continues b) :
    decodeLossy (xs ++ ys) = decodeLossy xs ++ decodeLossy ys := by
  simp [decodeLossy, read_append h, Reader.behind]

theorem decodeLossy_encode_append (s : String) (ys : List UInt8) :
    decodeLossy (encode s ++ ys) = s ++ decodeLossy ys := by
  have hread : read (encode s ++ ys) = (read ys).behind s.toList.reverse true := by
    rw [read, List.foldl_append, encode, foldl_next_encode, List.append_nil,
      eq_behind_of_pending (r := ⟨s.toList.reverse, none, true⟩) rfl, Reader.foldl_next_behind,
      Reader.finish_behind]
    rfl
  simp [decodeLossy, hread, Reader.behind]

theorem decodeLossy_append_encode (xs : List UInt8) (s : String) :
    decodeLossy (xs ++ encode s) = decodeLossy xs ++ s := by
  rw [decodeLossy_append, decodeLossy_encode]
  intro b hb
  rw [encode] at hb
  cases hs : s.toList with
  | nil => simp [hs] at hb
  | cons c cs =>
      refine not_continues_of_head? (c := c) ?_
      rw [hs, List.flatMap_cons, List.head?_append_of_ne_nil _ String.utf8EncodeChar_ne_nil] at hb
      exact hb

theorem decodeLossy_append_lineFeed (xs ys : List UInt8) :
    decodeLossy (xs ++ 10 :: ys) = decodeLossy xs ++ "\n" ++ decodeLossy ys := by
  have hnot : ∀ b, (10 :: ys).head? = some b → ¬Continues b := by
    rintro b ⟨⟩ hb
    exact absurd hb.1 (by decide)
  have hline : decodeLossy (10 :: ys) = "\n" ++ decodeLossy ys := decodeLossy_encode_append "\n" ys
  rw [decodeLossy_append hnot, hline, String.append_assoc]

namespace Reader

theorem openWith_reads (r : Reader) (b : UInt8) :
    (r.openWith b).chars ≠ [] ∨ (r.openWith b).pending ≠ none := by
  rw [openWith]
  cases opening b <;> simp

theorem next_reads (r : Reader) (b : UInt8) :
    (r.next b).chars ≠ [] ∨ (r.next b).pending ≠ none := by
  rw [next]
  split
  · exact openWith_reads r b
  split
  · dsimp only
    split <;> simp
  · exact openWith_reads _ b

theorem finish_reads {r : Reader} (h : r.chars ≠ [] ∨ r.pending ≠ none) : r.finish.chars ≠ [] := by
  obtain ⟨chars, pending, sound⟩ := r
  cases pending with
  | none => simpa [finish] using h
  | some p => simp [finish]

end Reader

theorem decodeLossy_eq_empty_iff {bytes : List UInt8} : decodeLossy bytes = "" ↔ bytes = [] := by
  constructor
  · intro h
    by_contra hne
    obtain ⟨front, b, rfl⟩ := List.eq_nil_or_concat bytes |>.resolve_left hne
    have hread : (read (front.concat b)).chars ≠ [] := by
      rw [List.concat_eq_append, read, List.foldl_append]
      exact Reader.finish_reads (Reader.next_reads _ b)
    exact hread (by simpa [decodeLossy] using h)
  · rintro rfl
    rfl

theorem splitOn_decodeLossy (bytes : List UInt8) :
    (decodeLossy bytes).toList.splitOn '\n' =
      (bytes.splitOn 10).map fun piece => (decodeLossy piece).toList := by
  have hlines := Text.hasLines_linesBy 10 bytes
  generalize Text.linesBy 10 bytes = lines at hlines
  induction hlines with
  | nil => rfl
  | last _ hnot =>
      rw [List.splitOn_eq_singleton hnot, List.splitOn_eq_singleton (not_lineFeed_mem_decodeLossy hnot)]
      rfl
  | cons hnot _ ih =>
      rw [List.splitOn_append_cons_self_of_not_mem hnot, decodeLossy_append_lineFeed,
        String.toList_append, String.toList_append]
      rw [show ("\n" : String).toList = ['\n'] from rfl, List.append_assoc, List.singleton_append,
        List.splitOn_append_cons_self_of_not_mem (not_lineFeed_mem_decodeLossy hnot), ih]
      rfl

end Logbook.Utf8
