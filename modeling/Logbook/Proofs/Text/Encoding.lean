import Mathlib.Tactic
import Logbook.Text.Utf8

namespace Logbook.Utf8

theorem opening_one {m : Nat} (h : m < 0x80) : opening (UInt8.ofNat m) = .whole (Char.ofNat m) := by
  have hm : m % 256 = m := Nat.mod_eq_of_lt (by omega)
  simp [opening, UInt8.lt_iff_toNat_lt, hm, h]

theorem opening_two {m : Nat} (hlow : 0xC2 ≤ m) (hhigh : m < 0xE0) :
    opening (UInt8.ofNat m) = .starts ⟨1, 0x80, 0xBF, m - 0xC0⟩ := by
  have hm : m % 256 = m := Nat.mod_eq_of_lt (by omega)
  have h1 : ¬m < 0x80 := by omega
  have h2 : ¬m < 0xC2 := by omega
  simp [opening, UInt8.lt_iff_toNat_lt, hm, h1, h2, hhigh]

theorem opening_three {m : Nat} (hlow : 0xE0 ≤ m) (hhigh : m < 0xF0) :
    opening (UInt8.ofNat m) =
      .starts ⟨2, if m = 0xE0 then 0xA0 else 0x80, if m = 0xED then 0x9F else 0xBF, m - 0xE0⟩ := by
  have hm : m % 256 = m := Nat.mod_eq_of_lt (by omega)
  have h1 : ¬m < 0x80 := by omega
  have h2 : ¬m < 0xC2 := by omega
  have h3 : ¬m < 0xE0 := by omega
  simp [opening, UInt8.lt_iff_toNat_lt, ← UInt8.toNat_inj, hm, h1, h2, h3, hhigh]

theorem opening_four {m : Nat} (hlow : 0xF0 ≤ m) (hhigh : m < 0xF5) :
    opening (UInt8.ofNat m) =
      .starts ⟨3, if m = 0xF0 then 0x90 else 0x80, if m = 0xF4 then 0x8F else 0xBF, m - 0xF0⟩ := by
  have hm : m % 256 = m := Nat.mod_eq_of_lt (by omega)
  have h1 : ¬m < 0x80 := by omega
  have h2 : ¬m < 0xC2 := by omega
  have h3 : ¬m < 0xE0 := by omega
  have h4 : ¬m < 0xF0 := by omega
  simp [opening, UInt8.lt_iff_toNat_lt, ← UInt8.toNat_inj, hm, h1, h2, h3, h4, hhigh]

namespace Reader

variable (chars : List Char) (valid : Bool)

theorem next_whole {c : Char} (h : c.toNat < 0x80) :
    next ⟨chars, none, valid⟩ (UInt8.ofNat c.toNat) = ⟨c :: chars, none, valid⟩ := by
  simp [next, openWith, opening_one h]

theorem next_starts {b : UInt8} {p : Partial} (h : opening b = .starts p) :
    next ⟨chars, none, valid⟩ b = ⟨chars, some p, valid⟩ := by
  simp [next, openWith, h]

theorem mem_range_of_bounds {low high : UInt8} {m : Nat} (hbyte : m < 256) (hlow : low.toNat ≤ m)
    (hhigh : m ≤ high.toNat) : low ≤ UInt8.ofNat m ∧ UInt8.ofNat m ≤ high := by
  simp only [UInt8.le_iff_toNat_le, UInt8.toNat_ofNat', Nat.reducePow, Nat.mod_eq_of_lt hbyte]
  exact ⟨hlow, hhigh⟩

theorem next_goes_on {owed bits m : Nat} {low high : UInt8} (hbyte : m < 256) (hlow : low.toNat ≤ m)
    (hhigh : m ≤ high.toNat) :
    next ⟨chars, some ⟨owed + 2, low, high, bits⟩, valid⟩ (UInt8.ofNat m) =
      ⟨chars, some ⟨owed + 1, 0x80, 0xBF, bits * 64 + (m - 0x80)⟩, valid⟩ := by
  simp only [next, if_pos (mem_range_of_bounds hbyte hlow hhigh), UInt8.toNat_ofNat',
    Nat.reducePow, Nat.mod_eq_of_lt hbyte]
  rw [if_neg (by omega)]
  rfl

theorem next_ends {bits m : Nat} {low high : UInt8} {c : Char} (hbyte : m < 256)
    (hlow : low.toNat ≤ m) (hhigh : m ≤ high.toNat) (hbits : bits * 64 + (m - 0x80) = c.toNat) :
    next ⟨chars, some ⟨1, low, high, bits⟩, valid⟩ (UInt8.ofNat m) =
      ⟨c :: chars, none, valid⟩ := by
  simp only [next, if_pos (mem_range_of_bounds hbyte hlow hhigh), UInt8.toNat_ofNat',
    Nat.reducePow, Nat.mod_eq_of_lt hbyte, hbits, Char.ofNat_toNat]
  rfl

end Reader

theorem foldl_next_encodeChar (chars : List Char) (valid : Bool) (c : Char) :
    (String.utf8EncodeChar c).foldl Reader.next ⟨chars, none, valid⟩ =
      ⟨c :: chars, none, valid⟩ := by
  have hvalid : c.toNat < 0xD800 ∨ 0xDFFF < c.toNat ∧ c.toNat < 0x110000 := c.valid
  have hval : c.val.toNat = c.toNat := rfl
  simp only [String.utf8EncodeChar, hval]
  split
  · rename_i h
    simp only [List.foldl_cons, List.foldl_nil]
    exact Reader.next_whole _ _ (by omega)
  split
  · rename_i h
    simp only [List.foldl_cons, List.foldl_nil]
    rw [Reader.next_starts _ _ (opening_two (by omega) (by omega))]
    exact Reader.next_ends _ _ (by omega) (by simp) (by simp; omega) (by omega)
  split
  · rename_i h
    -- The range of the second byte leaves out the overlong forms and the surrogates.
    have hlow : (if c.toNat / 4096 % 16 + 0xE0 = 0xE0 then (0xA0 : UInt8) else 0x80).toNat ≤
        c.toNat / 64 % 64 + 0x80 := by
      split <;> simp
      omega
    have hhigh : c.toNat / 64 % 64 + 0x80 ≤
        (if c.toNat / 4096 % 16 + 0xE0 = 0xED then (0x9F : UInt8) else 0xBF).toNat := by
      split <;> simp <;> omega
    simp only [List.foldl_cons, List.foldl_nil]
    rw [Reader.next_starts _ _ (opening_three (by omega) (by omega)),
      Reader.next_goes_on _ _ (by omega) hlow hhigh]
    exact Reader.next_ends _ _ (by omega) (by simp) (by simp; omega) (by omega)
  · rename_i h
    have hlow : (if c.toNat / 262144 % 8 + 0xF0 = 0xF0 then (0x90 : UInt8) else 0x80).toNat ≤
        c.toNat / 4096 % 64 + 0x80 := by
      split <;> simp
      omega
    have hhigh : c.toNat / 4096 % 64 + 0x80 ≤
        (if c.toNat / 262144 % 8 + 0xF0 = 0xF4 then (0x8F : UInt8) else 0xBF).toNat := by
      split <;> simp <;> omega
    simp only [List.foldl_cons, List.foldl_nil]
    rw [Reader.next_starts _ _ (opening_four (by omega) (by omega)),
      Reader.next_goes_on _ _ (by omega) hlow hhigh,
      Reader.next_goes_on _ _ (by omega) (by simp) (by simp; omega)]
    exact Reader.next_ends _ _ (by omega) (by simp) (by simp; omega) (by omega)

theorem foldl_next_encode (cs chars : List Char) (valid : Bool) :
    (cs.flatMap String.utf8EncodeChar).foldl Reader.next ⟨chars, none, valid⟩ =
      ⟨cs.reverse ++ chars, none, valid⟩ := by
  induction cs generalizing chars with
  | nil => rfl
  | cons c cs ih =>
      rw [List.flatMap_cons, List.foldl_append, foldl_next_encodeChar, ih]
      simp

theorem decodeLossy_encode (s : String) : decodeLossy (encode s) = s := by
  simp [decodeLossy, encode, read, foldl_next_encode, Reader.finish]

theorem decodeLossy_flatMap (cs : List Char) :
    decodeLossy (cs.flatMap String.utf8EncodeChar) = String.ofList cs := by
  rw [← decodeLossy_encode (String.ofList cs), encode, String.toList_ofList]

theorem encode_append (s t : String) : encode (s ++ t) = encode s ++ encode t := by
  simp [encode]

theorem encode_lineFeed : encode "\n" = [10] := by
  decide

theorem toNat_of_mem_encodeChar {c : Char} {b : UInt8} (h : b ∈ String.utf8EncodeChar c) :
    b.toNat = c.toNat ∨ 0x80 ≤ b.toNat := by
  have hval : c.val.toNat = c.toNat := rfl
  simp only [String.utf8EncodeChar, hval] at h
  split at h
  · left
    rw [List.mem_singleton.mp h, UInt8.toNat_ofNat']
    omega
  · right
    split at h
    · rcases List.mem_pair.mp h with rfl | rfl <;> rw [UInt8.toNat_ofNat'] <;> omega
    split at h
    · simp only [List.mem_cons, List.not_mem_nil, or_false] at h
      rcases h with rfl | rfl | rfl <;> rw [UInt8.toNat_ofNat'] <;> omega
    · simp only [List.mem_cons, List.not_mem_nil, or_false] at h
      rcases h with rfl | rfl | rfl | rfl <;> rw [UInt8.toNat_ofNat'] <;> omega

theorem lineFeed_mem_encode {s : String} (h : 10 ∈ encode s) : '\n' ∈ s.toList := by
  obtain ⟨c, hc, hbyte⟩ := List.mem_flatMap.mp h
  have hcode : c.toNat = 10 := by
    rcases toNat_of_mem_encodeChar hbyte with hsame | hhigh
    · exact hsame.symm
    · exact absurd hhigh (by decide)
  have hline : c = '\n' := Char.toNat_inj.mp hcode
  exact hline ▸ hc

end Logbook.Utf8
