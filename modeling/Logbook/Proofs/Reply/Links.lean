import Mathlib.Data.List.TakeWhile
import Mathlib.Tactic
import Logbook.Proofs.Text.Cut
import Logbook.Proofs.Text.Trim
import Logbook.Reply.Links

/-!
What is left when links have been removed. No brackets are left that open and close on one line. An address
is left only where it has been put together: bracketed text, which is removed after the addresses, has stood
inside its scheme.
-/

namespace Logbook.Reply

def schemes : List String := ["http://", "https://"]

/-- A web address: a scheme and at least one character behind it, and none that is blank. -/
def IsAddress (w : List Char) : Prop :=
  ∃ scheme ∈ schemes, ∃ body, body ≠ [] ∧ (∀ c ∈ body, Text.isBlank c = false) ∧
    w = scheme.toList ++ body

/-- A citation mark: digits in brackets. -/
def IsCitation (w : List Char) : Prop :=
  ∃ digits, digits ≠ [] ∧ (∀ c ∈ digits, Unicode.decimalDigits.contains c = true) ∧
    w = '[' :: (digits ++ [']'])

/-- A text in brackets, on one line. -/
def IsBracketed (w : List Char) : Prop :=
  ∃ inside, '\n' ∉ inside ∧ ']' ∉ inside ∧ w = '[' :: (inside ++ [']'])

/-- A text and what is left of it when parts have been removed, from the left. A part may depend on what
follows it. -/
inductive Cleared (part : List Char → List Char → Prop) : List Char → List Char → Prop where
  | nil : Cleared part [] []
  | keep {c : Char} {cs ds : List Char} :
      (∀ w rest, c :: cs = w ++ rest → ¬part w rest) → Cleared part cs ds →
        Cleared part (c :: cs) (c :: ds)
  | drop {w cs ds : List Char} : part w cs → Cleared part cs ds → Cleared part (w ++ cs) ds

theorem IsBracketed.not_lineFeed_mem {w : List Char} (h : IsBracketed w) : '\n' ∉ w := by
  obtain ⟨inside, hfeed, -, rfl⟩ := h
  simpa using hfeed

namespace Cleared

variable {part : List Char → List Char → Prop} {cs ds : List Char}

theorem exists_eq_append_cons (h : Cleared part cs ds) {before rest : List Char} {a : Char}
    (hds : ds = before ++ a :: rest) : ∃ before' rest', cs = before' ++ a :: rest' ∧
      (∀ w behind, a :: rest' = w ++ behind → ¬part w behind) ∧ Cleared part rest' rest := by
  induction h generalizing before with
  | nil => simp at hds
  | keep hfree hcleared ih =>
      rcases List.cons_eq_append_iff.mp hds with ⟨rfl, heq⟩ | ⟨before, rfl, heq⟩
      · obtain ⟨rfl, rfl⟩ := List.cons.inj heq
        exact ⟨[], _, rfl, hfree, hcleared⟩
      · obtain ⟨before', rest', rfl, hfree', hrest'⟩ := ih heq
        exact ⟨_ :: before', rest', rfl, hfree', hrest'⟩
  | @drop w _ _ _ _ ih =>
      obtain ⟨before', rest', rfl, hfree', hrest'⟩ := ih hds
      exact ⟨w ++ before', rest', by simp, hfree', hrest'⟩

/-- What a text starts with after a removal it has started with before, or a part has been removed from
within or from in front of it. -/
theorem append_cases (h : Cleared part cs ds) {s rest : List Char} (hds : ds = s ++ rest) :
    (∃ rest', cs = s ++ rest' ∧ Cleared part rest' rest) ∨
      ∃ u v w behind, s = u ++ v ∧ v ≠ [] ∧ cs = u ++ (w ++ behind) ∧ part w behind ∧
        Cleared part behind (v ++ rest) := by
  induction h generalizing s with
  | nil =>
      obtain ⟨rfl, rfl⟩ := List.append_eq_nil_iff.mp hds.symm
      exact Or.inl ⟨[], rfl, .nil⟩
  | keep hfree hcleared ih =>
      rcases List.cons_eq_append_iff.mp hds with ⟨rfl, rfl⟩ | ⟨s, rfl, heq⟩
      · exact Or.inl ⟨_, rfl, .keep hfree hcleared⟩
      · rcases ih heq with ⟨rest', rfl, hrest'⟩ | ⟨u, v, w, behind, rfl, hv, rfl, hpart, hbehind⟩
        · exact Or.inl ⟨rest', rfl, hrest'⟩
        · exact Or.inr ⟨_ :: u, v, w, behind, rfl, hv, rfl, hpart, hbehind⟩
  | @drop w cs _ hpart hcleared _ =>
      by_cases hs : s = []
      · subst hs
        obtain rfl : _ = rest := hds
        exact Or.inl ⟨_, rfl, .drop hpart hcleared⟩
      · exact Or.inr ⟨[], s, w, cs, rfl, hs, rfl, hpart, hds ▸ hcleared⟩

theorem mem_firstLine (hline : ∀ w rest, part w rest → '\n' ∉ w) (h : Cleared part cs ds) {c : Char}
    (hc : c ∈ ds.takeWhile (· != '\n')) : c ∈ cs.takeWhile (· != '\n') := by
  induction h with
  | nil => exact hc
  | @keep d cs ds _ _ ih =>
      rw [List.takeWhile_cons] at hc ⊢
      split at hc
      · rename_i hd
        rw [if_pos hd]
        exact List.mem_cons.mpr ((List.mem_cons.mp hc).imp_right ih)
      · simp at hc
  | @drop w cs ds hpart _ ih =>
      rw [List.takeWhile_append_of_pos (Text.bne_of_not_mem (hline w cs hpart))]
      exact List.mem_append_right w (ih hc)

end Cleared

theorem dropParts_eq_drop (after : List Char → Option (List Char)) (pending : Nat) (cs : List Char) :
    dropParts after pending cs = dropParts after 0 (cs.drop pending) := by
  induction cs generalizing pending with
  | nil => cases pending <;> rfl
  | cons c cs ih =>
      cases pending with
      | zero => rfl
      | succ pending => rw [dropParts, ih, List.drop_succ_cons]

theorem cleared_dropParts {after : List Char → Option (List Char)} {part : List Char → Prop}
    (hnil : ¬part []) (hafter : ∀ cs rest, after cs = some rest ↔ ∃ w, cs = w ++ rest ∧ part w)
    (cs : List Char) : Cleared (fun w _ => part w) cs (dropParts after 0 cs) := by
  cases cs with
  | nil => exact .nil
  | cons c cs =>
      rw [dropParts]
      split
      · rename_i rest hsome
        obtain ⟨w, hw, hpart⟩ := (hafter _ _).mp hsome
        rcases List.cons_eq_append_iff.mp hw with ⟨rfl, -⟩ | ⟨w, rfl, rfl⟩
        · exact absurd hpart hnil
        · rw [dropParts_eq_drop, List.length_append, Nat.add_sub_cancel, List.drop_left]
          exact .drop hpart (cleared_dropParts hnil hafter rest)
      · rename_i hnone
        refine .keep (fun w rest heq hpart => ?_) (cleared_dropParts hnil hafter cs)
        rw [(hafter _ rest).mpr ⟨w, heq, hpart⟩] at hnone
        simp at hnone
termination_by cs.length

theorem exists_isBracketed_iff {rest : List Char} :
    (∃ w after, '[' :: rest = w ++ after ∧ IsBracketed w) ↔ ']' ∈ rest.takeWhile (· != '\n') := by
  constructor
  · rintro ⟨w, after, heq, inside, hfeed, -, rfl⟩
    obtain rfl : rest = inside ++ [']'] ++ after := by simpa using heq
    have hnot : '\n' ∉ inside ++ [']'] := by simpa using hfeed
    rw [List.takeWhile_append_of_pos (Text.bne_of_not_mem hnot)]
    simp
  · intro hmem
    obtain ⟨inside, after, heq, hnot⟩ := List.eq_append_cons_of_mem hmem
    refine ⟨'[' :: (inside ++ [']']), after ++ rest.dropWhile (· != '\n'), ?_, inside, ?_, hnot, rfl⟩
    · conv_lhs => rw [← List.takeWhile_append_dropWhile (p := (· != '\n')) (l := rest), heq]
      simp
    · intro hfeed
      have hne := List.mem_takeWhile_imp (heq ▸ List.mem_append_left (']' :: after) hfeed)
      simp at hne

theorem Cleared.exists_isBracketed {part : List Char → List Char → Prop} {cs ds : List Char}
    (hline : ∀ w rest, part w rest → '\n' ∉ w) (h : Cleared part cs ds)
    (hds : ∃ w after, '[' :: ds = w ++ after ∧ IsBracketed w) :
    ∃ w after, '[' :: cs = w ++ after ∧ IsBracketed w :=
  exists_isBracketed_iff.mpr (h.mem_firstLine hline (exists_isBracketed_iff.mp hds))

theorem not_isBracketed_nil : ¬IsBracketed [] := by
  rintro ⟨inside, -, -, heq⟩
  simp at heq

theorem afterBracketed_eq_some_iff (cs rest : List Char) :
    afterBracketed cs = some rest ↔ ∃ w, cs = w ++ rest ∧ IsBracketed w := by
  constructor
  · intro h
    unfold afterBracketed at h
    split at h
    · rename_i cs
      split at h
      · rename_i behind hdrop
        obtain rfl : behind = rest := Option.some.inj h
        have hinside : ∀ c ∈ cs.takeWhile (fun c => c != ']' && c != '\n'), c ≠ ']' ∧ c ≠ '\n' := by
          intro c hc
          simpa using List.mem_takeWhile_imp hc
        refine ⟨_, ?_, cs.takeWhile (fun c => c != ']' && c != '\n'), fun hfeed => (hinside _ hfeed).2 rfl,
          fun hclose => (hinside _ hclose).1 rfl, rfl⟩
        have hsplit := List.takeWhile_append_dropWhile (p := fun c => c != ']' && c != '\n') (l := cs)
        rw [hdrop] at hsplit
        rw [List.cons_append, List.append_assoc, List.singleton_append, hsplit]
      · simp at h
    · simp at h
  · rintro ⟨w, rfl, inside, hfeed, hclose, rfl⟩
    have hinside : ∀ c ∈ inside, (c != ']' && c != '\n') = true := by
      intro c hc
      rw [Bool.and_eq_true]
      exact ⟨Text.bne_of_not_mem hclose c hc, Text.bne_of_not_mem hfeed c hc⟩
    rw [List.cons_append, List.append_assoc, List.singleton_append, afterBracketed,
      List.dropWhile_append_of_pos hinside, List.dropWhile_cons_of_neg (by simp)]
    rfl

theorem contains_decimalDigits_closing : Unicode.decimalDigits.contains ']' = false := by
  decide +kernel

theorem IsCitation.isBracketed {w : List Char} (h : IsCitation w) : IsBracketed w := by
  obtain ⟨digits, -, hdigits, rfl⟩ := h
  have hfeed : Unicode.decimalDigits.contains '\n' = false := by decide +kernel
  refine ⟨digits, fun hmem => ?_, fun hmem => ?_, rfl⟩
  · simp [hdigits _ hmem] at hfeed
  · simpa [hdigits _ hmem] using contains_decimalDigits_closing

theorem afterCitation_eq_some_iff (cs rest : List Char) :
    afterCitation cs = some rest ↔ ∃ w, cs = w ++ rest ∧ IsCitation w := by
  constructor
  · intro h
    unfold afterCitation at h
    split at h
    · rename_i cs
      split at h
      · rename_i digit digits behind htake hdrop
        obtain rfl : behind = rest := Option.some.inj h
        refine ⟨_, ?_, digit :: digits, List.cons_ne_nil _ _, ?_, rfl⟩
        · rw [← List.takeWhile_append_dropWhile (p := Unicode.decimalDigits.contains) (l := cs), htake, hdrop]
          simp
        · intro c hc
          exact List.mem_takeWhile_imp (htake ▸ hc)
      · simp at h
    · simp at h
  · rintro ⟨w, rfl, digits, hne, hdigits, rfl⟩
    have hclose := Bool.eq_false_iff.mp contains_decimalDigits_closing
    obtain ⟨digit, digits, rfl⟩ := List.exists_cons_of_ne_nil hne
    rw [List.cons_append, List.append_assoc, List.singleton_append, afterCitation,
      List.takeWhile_append_of_pos hdigits, List.dropWhile_append_of_pos hdigits,
      List.takeWhile_cons_of_neg hclose, List.dropWhile_cons_of_neg hclose]
    rfl

theorem cleared_citations (cs : List Char) :
    Cleared (fun w _ => IsCitation w) cs (dropParts afterCitation 0 cs) :=
  cleared_dropParts (fun h => not_isBracketed_nil h.isBracketed) afterCitation_eq_some_iff cs

theorem cleared_bracketed (cs : List Char) :
    Cleared (fun w _ => IsBracketed w) cs (dropParts afterBracketed 0 cs) :=
  cleared_dropParts not_isBracketed_nil afterBracketed_eq_some_iff cs

/-- The whole of an address: it ends before a blank or with the text. -/
def IsWholeAddress (w rest : List Char) : Prop :=
  IsAddress w ∧ ∀ c, rest.head? = some c → Text.isBlank c = true

theorem not_isBlank_of_mem_scheme : ∀ scheme ∈ schemes, ∀ c ∈ scheme.toList,
    Text.isBlank c = false := by
  have hword : ∀ scheme ∈ schemes, scheme.toList.all (fun c => !Text.isBlank c) = true := by
    decide
  intro scheme hscheme c hc
  simpa using List.all_eq_true.mp (hword scheme hscheme) c hc

theorem IsAddress.exists_cons {w : List Char} (h : IsAddress w) :
    ∃ c v, w = c :: v ∧ ∀ d ∈ w, Text.isBlank d = false := by
  obtain ⟨scheme, hscheme, body, hne, hbody, rfl⟩ := h
  obtain ⟨c, v, hcons⟩ := List.exists_cons_of_ne_nil (List.append_ne_nil_of_right_ne_nil scheme.toList hne)
  refine ⟨c, v, hcons, fun d hd => ?_⟩
  exact (List.mem_append.mp hd).elim (not_isBlank_of_mem_scheme scheme hscheme d) (hbody d)

theorem IsAddress.not_lineFeed_mem {w : List Char} (h : IsAddress w) : '\n' ∉ w := by
  obtain ⟨-, -, -, hword⟩ := h.exists_cons
  intro hmem
  exact absurd (hword _ hmem) (by decide)

theorem afterScheme_eq_some_iff {cs rest : List Char} :
    afterScheme cs = some rest ↔ ∃ scheme ∈ schemes, cs = scheme.toList ++ rest := by
  constructor
  · intro h
    unfold afterScheme at h
    split at h
    · exact ⟨"http://", by simp [schemes], by simpa using h⟩
    · exact ⟨"https://", by simp [schemes], by simpa using h⟩
    · simp at h
  · rintro ⟨scheme, hscheme, rfl⟩
    rcases List.mem_cons.mp hscheme with rfl | hscheme
    · rfl
    · obtain rfl := List.mem_singleton.mp hscheme
      rfl

theorem startsAddress_iff {cs : List Char} : startsAddress cs = true ↔
    ∃ scheme ∈ schemes, ∃ c rest, cs = scheme.toList ++ c :: rest ∧
      Text.isBlank c = false := by
  rw [startsAddress]
  constructor
  · intro h
    split at h
    · rename_i c rest hafter
      obtain ⟨scheme, hscheme, hcs⟩ := afterScheme_eq_some_iff.mp hafter
      exact ⟨scheme, hscheme, c, rest, hcs, by simpa using h⟩
    · simp at h
  · rintro ⟨scheme, hscheme, c, rest, hcs, hc⟩
    rw [afterScheme_eq_some_iff.mpr ⟨scheme, hscheme, hcs⟩]
    simp [hc]

theorem isAddress_takeWhile {cs : List Char} (h : startsAddress cs = true) :
    IsAddress (cs.takeWhile fun c => !Text.isBlank c) := by
  obtain ⟨scheme, hscheme, c, rest, rfl, hc⟩ := startsAddress_iff.mp h
  refine ⟨scheme, hscheme, (c :: rest).takeWhile fun c => !Text.isBlank c, ?_, fun d hd => ?_, ?_⟩
  · simp [hc]
  · simpa using List.mem_takeWhile_imp hd
  · refine List.takeWhile_append_of_pos fun d hd => ?_
    simp [not_isBlank_of_mem_scheme scheme hscheme d hd]

theorem isWholeAddress_takeWhile {cs : List Char} (h : startsAddress cs = true) :
    IsWholeAddress (cs.takeWhile fun c => !Text.isBlank c) (cs.dropWhile fun c => !Text.isBlank c) := by
  refine ⟨isAddress_takeWhile h, fun c hc => ?_⟩
  have hhead := List.head?_dropWhile_not (fun c => !Text.isBlank c) cs
  rw [hc] at hhead
  simpa using hhead

theorem IsAddress.startsAddress_append {w : List Char} (h : IsAddress w) (rest : List Char) :
    startsAddress (w ++ rest) = true := by
  obtain ⟨scheme, hscheme, body, hne, hbody, rfl⟩ := h
  obtain ⟨c, body, rfl⟩ := List.exists_cons_of_ne_nil hne
  exact startsAddress_iff.mpr ⟨scheme, hscheme, c, body ++ rest, by simp, hbody c List.mem_cons_self⟩

theorem not_isBlank_of_startsAddress {c : Char} {cs : List Char} (h : startsAddress (c :: cs) = true) :
    Text.isBlank c = false := by
  obtain ⟨d, v, heq, hword⟩ := (isAddress_takeWhile h).exists_cons
  by_contra hc
  rw [List.takeWhile_cons_of_neg (by simpa using hc)] at heq
  simp at heq

theorem dropAddresses_inside (cs : List Char) :
    dropAddresses true cs = dropAddresses false (cs.dropWhile fun c => !Text.isBlank c) := by
  induction cs with
  | nil => rfl
  | cons c cs ih =>
      cases hc : Text.isBlank c with
      | true =>
          have hnot : ¬startsAddress (c :: cs) = true := fun hstarts => by
            simp [not_isBlank_of_startsAddress hstarts] at hc
          rw [List.dropWhile_cons_of_neg (by simp [hc]), dropAddresses, if_pos hc, dropAddresses, if_neg hnot]
      | false => rw [List.dropWhile_cons_of_pos (by simp [hc]), dropAddresses, if_neg (by simp [hc]), ih]

theorem cleared_dropAddresses (cs : List Char) :
    Cleared IsWholeAddress cs (dropAddresses false cs) := by
  cases cs with
  | nil => exact .nil
  | cons c cs =>
      rw [dropAddresses]
      split
      · rename_i hstarts
        have hdrop : (c :: cs).dropWhile (fun c => !Text.isBlank c) = cs.dropWhile fun c => !Text.isBlank c :=
          List.dropWhile_cons_of_pos (by simp [not_isBlank_of_startsAddress hstarts])
        have hshorter : ((c :: cs).dropWhile fun c => !Text.isBlank c).length ≤ cs.length :=
          hdrop ▸ (List.dropWhile_suffix _).length_le
        have hcleared := Cleared.drop (isWholeAddress_takeWhile hstarts) (cleared_dropAddresses _)
        rwa [List.takeWhile_append_dropWhile, hdrop, ← dropAddresses_inside] at hcleared
      · rename_i hnot
        refine .keep (fun w rest heq hpart => hnot ?_) (cleared_dropAddresses cs)
        exact heq ▸ hpart.1.startsAddress_append rest
termination_by cs.length

theorem Cleared.append_of_not_isBlank {cs ds : List Char} (h : Cleared IsWholeAddress cs ds)
    {s rest : List Char} (hs : ∀ c ∈ s, Text.isBlank c = false) (hds : ds = s ++ rest) :
    ∃ rest', cs = s ++ rest' ∧ Cleared IsWholeAddress rest' rest := by
  rcases h.append_cases hds with hkept | ⟨u, v, w, behind, rfl, hv, -, hwhole, hbehind⟩
  · exact hkept
  obtain ⟨c, v, rfl⟩ := List.exists_cons_of_ne_nil hv
  have hc : Text.isBlank c = false := hs c (by simp)
  generalize hleft : c :: v ++ rest = left at hbehind
  cases hbehind with
  | nil => simp at hleft
  | keep _ _ =>
      obtain ⟨rfl, -⟩ := List.cons.inj hleft
      simp [hwhole.2 c rfl] at hc
  | drop hpart _ =>
      obtain ⟨d, w, rfl, hword⟩ := hpart.1.exists_cons
      have hd := hword d List.mem_cons_self
      simp [hwhole.2 d rfl] at hd

theorem not_isAddress_dropAddresses {cs w : List Char} (hw : w <:+: dropAddresses false cs) :
    ¬IsAddress w := by
  intro haddress
  obtain ⟨before, after, heq⟩ := hw
  obtain ⟨c, v, rfl, hword⟩ := haddress.exists_cons
  have hds : dropAddresses false cs = before ++ c :: (v ++ after) := by simpa using heq.symm
  obtain ⟨before', rest', -, hfree, hrest'⟩ := (cleared_dropAddresses cs).exists_eq_append_cons hds
  obtain ⟨rest', rfl, -⟩ := hrest'.append_of_not_isBlank (fun d hd => hword d (List.mem_cons_of_mem c hd)) rfl
  exact hfree _ _ (List.takeWhile_append_dropWhile).symm
    (isWholeAddress_takeWhile (haddress.startsAddress_append rest'))

/-- A text in brackets stands in the text right behind a beginning of the phrase that is not all of it. -/
def Interrupted (phrase cs : List Char) : Prop :=
  ∃ u v before w after, phrase = u ++ v ∧ u ≠ [] ∧ v ≠ [] ∧ cs = before ++ (u ++ (w ++ after)) ∧
    IsBracketed w

theorem isPrefix_of_append_singleton {s u v : List Char} {c : Char} (h : s ++ [c] = u ++ v) (hv : v ≠ []) :
    u <+: s := by
  rcases List.prefix_concat_iff.mp ⟨v, h.symm⟩ with rfl | hprefix
  · exact absurd (List.append_right_eq_self.mp h.symm) hv
  · exact hprefix

section Brackets

variable {part : List Char → List Char → Prop} (hpart : ∀ w rest, part w rest → IsBracketed w)
  {cs ds : List Char}

include hpart

/-- Where an address is left when bracketed text has been removed, one with this scheme has been there before,
or bracketed text has stood inside the scheme. -/
theorem Cleared.address_or_interrupted (h : Cleared part cs ds) {scheme : List Char} (hne : scheme ≠ [])
    {c : Char} (hc : Text.isBlank c = false) (hds : scheme ++ [c] <:+: ds) :
    (∃ d, Text.isBlank d = false ∧ scheme ++ [d] <:+: cs) ∨ Interrupted scheme cs := by
  obtain ⟨before, after, heq⟩ := hds
  obtain ⟨a, s, rfl⟩ := List.exists_cons_of_ne_nil hne
  have hcons : ds = before ++ a :: (s ++ [c] ++ after) := by simpa using heq.symm
  obtain ⟨before', rest', rfl, -, hrest'⟩ := h.exists_eq_append_cons hcons
  rcases hrest'.append_cases rfl with ⟨rest', rfl, -⟩ | ⟨u, v, w, behind, hsplit, hv, rfl, hw, -⟩
  · exact Or.inl ⟨c, hc, before', rest', by simp⟩
  · obtain ⟨v', rfl⟩ := isPrefix_of_append_singleton hsplit hv
    have hbracketed := hpart w behind hw
    by_cases hv' : v' = []
    · -- The whole scheme is there, and a bracket behind it, which makes it an address.
      obtain ⟨inside, -, -, rfl⟩ := hbracketed
      exact Or.inl ⟨'[', by decide, before', inside ++ ']' :: behind, by simp [hv']⟩
    · exact Or.inr ⟨a :: u, v', before', w, behind, rfl, List.cons_ne_nil a u, hv', by simp, hbracketed⟩

theorem Cleared.interrupted (h : Cleared part cs ds) {phrase : List Char} (hds : Interrupted phrase ds) :
    Interrupted phrase cs := by
  obtain ⟨u, v, before, w, after, rfl, hu, hv, heq, hw⟩ := hds
  obtain ⟨a, s, rfl⟩ := List.exists_cons_of_ne_nil hu
  obtain ⟨inside, hfeed, hclose, rfl⟩ := hw
  have hcons : ds = before ++ a :: (s ++ ['['] ++ (inside ++ ']' :: after)) := by simpa using heq
  obtain ⟨before', rest', rfl, -, hrest'⟩ := h.exists_eq_append_cons hcons
  rcases hrest'.append_cases rfl with ⟨rest', rfl, hcleared⟩ | ⟨u, v', w, behind, hsplit, hv', rfl, hw, -⟩
  · obtain ⟨w, after', hbegins, hw⟩ := hcleared.exists_isBracketed
      (fun w rest hw => (hpart w rest hw).not_lineFeed_mem) ⟨_, after, by simp, inside, hfeed, hclose, rfl⟩
    exact ⟨a :: s, v, before', w, after', rfl, hu, hv, by simp [← hbegins], hw⟩
  · obtain ⟨between, rfl⟩ := isPrefix_of_append_singleton hsplit hv'
    exact ⟨a :: u, between ++ v, before', w, behind, by simp, List.cons_ne_nil a u,
      List.append_ne_nil_of_right_ne_nil between hv, by simp, hpart w behind hw⟩

end Brackets

theorem Interrupted.of_dropAddresses {phrase cs : List Char} (hphrase : ∀ c ∈ phrase, Text.isBlank c = false)
    (h : Interrupted phrase (dropAddresses false cs)) : Interrupted phrase cs := by
  obtain ⟨u, v, before, w, after, rfl, hu, hv, heq, inside, hfeed, hclose, rfl⟩ := h
  obtain ⟨a, s, rfl⟩ := List.exists_cons_of_ne_nil hu
  have hcons : dropAddresses false cs = before ++ a :: (s ++ ['['] ++ (inside ++ ']' :: after)) := by
    simpa using heq
  obtain ⟨before', rest', rfl, -, hrest'⟩ := (cleared_dropAddresses cs).exists_eq_append_cons hcons
  have hword : ∀ c ∈ s ++ ['['], Text.isBlank c = false := by
    intro c hc
    rcases List.mem_append.mp hc with hs | hbracket
    · exact hphrase c (by simp [hs])
    · obtain rfl := List.mem_singleton.mp hbracket
      decide
  obtain ⟨rest', rfl, hcleared⟩ := hrest'.append_of_not_isBlank hword rfl
  obtain ⟨w, after', hbegins, hw⟩ := hcleared.exists_isBracketed
    (fun w rest hw => hw.1.not_lineFeed_mem) ⟨_, after, by simp, inside, hfeed, hclose, rfl⟩
  exact ⟨a :: s, v, before', w, after', rfl, hu, hv, by simp [← hbegins], hw⟩

theorem isInfix_removeLinks (text : String) : (removeLinks text).toList <:+: dropParts afterBracketed 0
    (dropParts afterCitation 0 (dropAddresses false text.toList)) := by
  rw [removeLinks, String.toList_ofList, stripLinks]
  exact Text.isInfix_trim _

/-- A bracket that is left is closed on a later line, if it is closed. -/
theorem removeLinks_leaves_no_brackets (text : String) {before inside after : List Char}
    (hleft : (removeLinks text).toList = before ++ '[' :: (inside ++ ']' :: after)) : '\n' ∈ inside := by
  by_contra hfeed
  obtain ⟨front, behind, heq⟩ := isInfix_removeLinks text
  generalize dropParts afterCitation 0 (dropAddresses false text.toList) = cited at heq
  have hcons : dropParts afterBracketed 0 cited =
      front ++ before ++ '[' :: (inside ++ ']' :: (after ++ behind)) := by
    rw [← heq, hleft]
    simp
  obtain ⟨before', rest', -, hfree, hrest'⟩ := (cleared_bracketed cited).exists_eq_append_cons hcons
  -- What closes the bracket on its line has done so before, and the bracket was no part to be removed.
  have hclosed : ']' ∈ (inside ++ ']' :: (after ++ behind)).takeWhile (· != '\n') := by
    rw [List.takeWhile_append_of_pos (Text.bne_of_not_mem hfeed)]
    simp
  obtain ⟨w, more, hbegins, hw⟩ := hrest'.exists_isBracketed (fun _ _ hw => hw.not_lineFeed_mem)
    (exists_isBracketed_iff.mpr hclosed)
  exact hfree w more hbegins hw

theorem bracket_closed_on_next_line_left :
    (removeLinks "see [a [1]\nb] https://x [c").toList =
      "see ".toList ++ '[' :: ("a \nb".toList ++ ']' :: "  [c".toList) ∧ '\n' ∈ "a \nb".toList := by
  have hleft : (removeLinks "see [a [1]\nb] https://x [c").toList =
      "see ".toList ++ '[' :: ("a \nb".toList ++ ']' :: "  [c".toList) := by
    decide +kernel
  exact ⟨hleft, removeLinks_leaves_no_brackets _ hleft⟩

/-- An address is left only if its scheme was interrupted by bracketed text, which was removed after the
addresses. -/
theorem address_left_was_interrupted (text : String) {w : List Char}
    (hleft : w <:+: (removeLinks text).toList) (haddress : IsAddress w) :
    ∃ scheme ∈ schemes, scheme.toList <+: w ∧ Interrupted scheme.toList text.toList := by
  obtain ⟨scheme, hscheme, body, hne, hbody, rfl⟩ := haddress
  obtain ⟨c, body, rfl⟩ := List.exists_cons_of_ne_nil hne
  refine ⟨scheme, hscheme, List.prefix_append _ _, ?_⟩
  have hnonempty : ∀ scheme ∈ schemes, scheme.toList ≠ [] := by decide
  have hblank := not_isBlank_of_mem_scheme scheme hscheme
  have hbegins : scheme.toList ++ [c] <+: scheme.toList ++ c :: body := ⟨body, by simp⟩
  rcases (cleared_bracketed _).address_or_interrupted (fun _ _ hw => hw) (hnonempty scheme hscheme)
      (hbody c List.mem_cons_self) ((hbegins.isInfix.trans hleft).trans (isInfix_removeLinks text)) with
    ⟨d, hd, hcited⟩ | hinterrupted
  · rcases (cleared_citations _).address_or_interrupted (fun _ _ hw => hw.isBracketed)
      (hnonempty scheme hscheme) hd hcited with ⟨e, he, hlinked⟩ | hinterrupted
    · exact absurd ⟨scheme, hscheme, [e], List.cons_ne_nil _ _, by simpa using he, rfl⟩
        (not_isAddress_dropAddresses hlinked)
    · exact hinterrupted.of_dropAddresses hblank
  · have hcited := (cleared_citations _).interrupted (fun _ _ hw => hw.isBracketed) hinterrupted
    exact hcited.of_dropAddresses hblank

theorem isInfix_removeLinks_cited : "https://x".toList <:+: (removeLinks "ht[1]tps://x").toList := by
  decide +kernel

theorem isAddress_cited : IsAddress "https://x".toList :=
  ⟨"https://", by simp [schemes], ['x'], by decide, List.forall_mem_singleton.mpr (by decide), by decide⟩

theorem cited_scheme_was_interrupted :
    ("https://x".toList <:+: (removeLinks "ht[1]tps://x").toList ∧ IsAddress "https://x".toList) ∧
    ∃ scheme ∈ schemes, scheme.toList <+: "https://x".toList ∧
      Interrupted scheme.toList "ht[1]tps://x".toList :=
  ⟨⟨isInfix_removeLinks_cited, isAddress_cited⟩,
    address_left_was_interrupted "ht[1]tps://x" isInfix_removeLinks_cited isAddress_cited⟩

/-- The removal of a citation mark makes an address. -/
theorem removed_citation_leaves_address : ¬∀ (text : String) (w : List Char),
    w <:+: (removeLinks text).toList → ¬IsAddress w := by
  intro h
  exact h "ht[1]tps://x" "https://x".toList isInfix_removeLinks_cited isAddress_cited

end Logbook.Reply
