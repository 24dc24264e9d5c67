import Mathlib.Data.List.Forall2
import Mathlib.Data.List.Infix
import Mathlib.Tactic
import Logbook.Proofs.Text.Lower
import Logbook.Reply.Alias

namespace Logbook.Reply

def isSeparator (c : Char) : Bool :=
  Text.isBlank c || c == '-'

/-- The texts that a part of a name may have. -/
inductive AliasPart.Fits : AliasPart → List Char → Prop where
  | words {text : String} {w : List Char} :
      List.Forall₂ (fun letter c => sameLetter letter c = true) text.toList w → Fits (.words text) w
  | nothing : Fits .gap []
  | separator {c : Char} : isSeparator c = true → Fits .gap [c]

/-- A text that consists of texts of the parts. -/
inductive Spelled : List AliasPart → List Char → Prop where
  | nil : Spelled [] []
  | cons {part : AliasPart} {parts : List AliasPart} {v w : List Char} :
      part.Fits v → Spelled parts w → Spelled (part :: parts) (v ++ w)

/-- A text in one of the spellings of a name. -/
def Names (name : Alias) (w : List Char) : Prop :=
  ∃ spelling ∈ name, Spelled spelling w

/-- A phrase that neither starts nor ends with a separator and is not empty. -/
def IsPhrase (phrase : List Char) : Prop :=
  phrase.head?.any (fun l => !isSeparator l) = true ∧ phrase.getLast?.any (fun l => !isSeparator l) = true

instance (phrase : List Char) : Decidable (IsPhrase phrase) :=
  inferInstanceAs (Decidable (_ ∧ _))

/-- Phrases with gaps between them. -/
inductive IsSpelling : List AliasPart → Prop where
  | last {text : String} : IsPhrase text.toList → IsSpelling [.words text]
  | cons {text : String} {parts : List AliasPart} :
      IsPhrase text.toList → IsSpelling parts → IsSpelling (.words text :: .gap :: parts)

def firstLetter? : List AliasPart → Option Char
  | .words text :: _ => text.toList.head?
  | _ => none

def letters : List AliasPart → List Char
  | [] => []
  | .words text :: parts => text.toList ++ letters parts
  | .gap :: parts => letters parts

theorem fits_words_iff {text : String} {w : List Char} : (AliasPart.words text).Fits w ↔
    List.Forall₂ (fun letter c => sameLetter letter c = true) text.toList w := by
  constructor
  · rintro ⟨hw⟩
    exact hw
  · exact .words

theorem spelled_cons_iff {part : AliasPart} {parts : List AliasPart} {w : List Char} :
    Spelled (part :: parts) w ↔ ∃ u v, w = u ++ v ∧ part.Fits u ∧ Spelled parts v := by
  constructor
  · rintro (_ | ⟨hu, hv⟩)
    exact ⟨_, _, rfl, hu, hv⟩
  · rintro ⟨u, v, rfl, hu, hv⟩
    exact .cons hu hv

theorem spelled_nil_iff {w : List Char} : Spelled [] w ↔ w = [] := by
  constructor
  · rintro ⟨⟩
    rfl
  · rintro rfl
    exact .nil

theorem spelled_words_iff {text : String} {w : List Char} : Spelled [.words text] w ↔
    List.Forall₂ (fun letter c => sameLetter letter c = true) text.toList w := by
  simp [spelled_cons_iff, spelled_nil_iff, fits_words_iff]

theorem spelled_words_gap_iff {text : String} {parts : List AliasPart} {w : List Char} :
    Spelled (.words text :: .gap :: parts) w ↔ ∃ u g v, w = u ++ (g ++ v) ∧
      List.Forall₂ (fun letter c => sameLetter letter c = true) text.toList u ∧
        AliasPart.gap.Fits g ∧ Spelled parts v := by
  constructor
  · intro h
    obtain ⟨u, tail, rfl, hu, htail⟩ := spelled_cons_iff.mp h
    obtain ⟨g, v, rfl, hg, hv⟩ := spelled_cons_iff.mp htail
    exact ⟨u, g, v, rfl, fits_words_iff.mp hu, hg, hv⟩
  · rintro ⟨u, g, v, rfl, hu, hg, hv⟩
    exact .cons (.words hu) (.cons hg hv)

theorem afterPhrase_eq_some_iff {phrase cs rest : List Char} :
    afterPhrase phrase cs = some rest ↔
      ∃ w, cs = w ++ rest ∧ List.Forall₂ (fun letter c => sameLetter letter c = true) phrase w := by
  induction phrase generalizing cs with
  | nil => simp [afterPhrase]
  | cons letter phrase ih =>
      cases cs with
      | nil =>
          simp only [afterPhrase, List.forall₂_cons_left_iff]
          constructor
          · simp
          · rintro ⟨w, heq, c, v, -, -, rfl⟩
            simp at heq
      | cons c cs =>
          simp only [afterPhrase, Option.ite_none_right_eq_some, ih, List.forall₂_cons_left_iff]
          constructor
          · rintro ⟨hsame, w, rfl, hw⟩
            exact ⟨c :: w, rfl, c, w, hsame, hw, rfl⟩
          · rintro ⟨-, heq, d, w, hsame, hw, rfl⟩
            obtain ⟨rfl, rfl⟩ := List.cons.inj heq
            exact ⟨hsame, w, rfl, hw⟩

theorem exists_fits_afterGap (cs : List Char) : ∃ v, cs = v ++ afterGap cs ∧ AliasPart.gap.Fits v := by
  cases cs with
  | nil => exact ⟨[], rfl, .nothing⟩
  | cons c cs =>
      by_cases hc : (Text.isBlank c || c == '-') = true
      · exact ⟨[c], by simp [afterGap, hc], .separator (by simpa [isSeparator] using hc)⟩
      · exact ⟨[], by simp [afterGap, hc], .nothing⟩

theorem spelled_of_afterSpelling {parts : List AliasPart} {cs rest : List Char}
    (h : afterSpelling parts cs = some rest) : ∃ w, cs = w ++ rest ∧ Spelled parts w := by
  induction parts generalizing cs with
  | nil =>
      obtain rfl : cs = rest := Option.some.inj h
      exact ⟨[], rfl, .nil⟩
  | cons part parts ih =>
      cases part with
      | words text =>
          obtain ⟨after, hphrase, hafter⟩ := Option.bind_eq_some_iff.mp h
          obtain ⟨v, rfl, hv⟩ := afterPhrase_eq_some_iff.mp hphrase
          obtain ⟨w, rfl, hw⟩ := ih hafter
          exact ⟨v ++ w, by simp, .cons (.words hv) hw⟩
      | gap =>
          obtain ⟨v, hcs, hv⟩ := exists_fits_afterGap cs
          obtain ⟨w, hgap, hw⟩ := ih h
          exact ⟨v ++ w, by rw [hcs, hgap, List.append_assoc], .cons hv hw⟩

theorem isSeparator_of_sameLetter {letter c : Char} (h : sameLetter letter c = true)
    (hletter : isSeparator letter = false) : isSeparator c = false := by
  by_contra hc
  rw [Bool.not_eq_false] at hc
  have hupper : c.isUpper = false := by
    rw [isSeparator, Bool.or_eq_true, beq_iff_eq] at hc
    rcases hc with hblank | rfl
    · exact Text.isUpper_eq_false_of_isBlank hblank
    · decide
  have hlong : c ≠ '\u017F' ∧ c ≠ '\u212A' := by
    constructor <;> rintro rfl <;> exact absurd hc (by decide)
  simp only [sameLetter, Unicode.toLower_of_not_isUpper hupper, hlong, beq_iff_eq, Bool.or_eq_true,
    Bool.and_eq_true, and_false, or_false] at h
  rw [← h, hc] at hletter
  simp at hletter

theorem exists_sameLetter {phrase w : List Char}
    (hw : List.Forall₂ (fun letter c => sameLetter letter c = true) phrase w) {c : Char} (hc : c ∈ w) :
    ∃ letter ∈ phrase, sameLetter letter c = true := by
  induction hw with
  | nil => simp at hc
  | cons hsame _ ih =>
      rcases List.mem_cons.mp hc with rfl | hc
      · exact ⟨_, List.mem_cons_self, hsame⟩
      · obtain ⟨letter, hletter, hsame⟩ := ih hc
        exact ⟨letter, List.mem_cons_of_mem _ hletter, hsame⟩

theorem IsPhrase.exists_first {phrase w : List Char} (h : IsPhrase phrase)
    (hw : List.Forall₂ (fun letter c => sameLetter letter c = true) phrase w) :
    ∃ letter c v, phrase.head? = some letter ∧ w = c :: v ∧ sameLetter letter c = true ∧
      isSeparator c = false := by
  cases hw with
  | nil => exact absurd h.1 (by decide)
  | @cons letter c _ v hsame _ =>
      have hletter : isSeparator letter = false := by simpa using h.1
      exact ⟨letter, c, v, rfl, rfl, hsame, isSeparator_of_sameLetter hsame hletter⟩

theorem IsPhrase.exists_last {phrase w : List Char} (h : IsPhrase phrase)
    (hw : List.Forall₂ (fun letter c => sameLetter letter c = true) phrase w) :
    ∃ c, w.getLast? = some c ∧ isSeparator c = false := by
  have hlast := h.2
  have hreverse := List.rel_reverse hw
  rw [← List.head?_reverse] at hlast
  rw [← List.head?_reverse]
  generalize phrase.reverse = letters, w.reverse = cs at hreverse hlast ⊢
  cases hreverse with
  | nil => exact absurd hlast (by decide)
  | @cons letter c _ v hsame _ =>
      exact ⟨c, rfl, isSeparator_of_sameLetter hsame (by simpa using hlast)⟩

theorem afterGap_append {g w : List Char} (hg : AliasPart.gap.Fits g)
    (hw : ∃ c v, w = c :: v ∧ isSeparator c = false) : afterGap (g ++ w) = w := by
  obtain ⟨c, v, rfl, hc⟩ := hw
  cases hg with
  | nothing => exact if_neg (Bool.eq_false_iff.mp hc)
  | separator hd => exact if_pos hd

theorem IsSpelling.exists_first {parts : List AliasPart} (h : IsSpelling parts) {w : List Char}
    (hw : Spelled parts w) : ∃ letter c v, firstLetter? parts = some letter ∧ w = c :: v ∧
      sameLetter letter c = true ∧ isSeparator c = false := by
  cases h with
  | last hphrase => exact hphrase.exists_first (spelled_words_iff.mp hw)
  | cons hphrase _ =>
      obtain ⟨u, g, v, rfl, hu, -, -⟩ := spelled_words_gap_iff.mp hw
      obtain ⟨letter, c, u, hletter, rfl, hsame, hc⟩ := hphrase.exists_first hu
      exact ⟨letter, c, u ++ (g ++ v), hletter, rfl, hsame, hc⟩

theorem IsSpelling.exists_last {parts : List AliasPart} (h : IsSpelling parts) {w : List Char}
    (hw : Spelled parts w) : ∃ c, w.getLast? = some c ∧ isSeparator c = false := by
  induction h generalizing w with
  | last hphrase => exact hphrase.exists_last (spelled_words_iff.mp hw)
  | cons _ _ ih =>
      obtain ⟨u, g, v, rfl, -, -, hv⟩ := spelled_words_gap_iff.mp hw
      obtain ⟨c, hlast, hc⟩ := ih hv
      exact ⟨c, by simp [List.getLast?_append, hlast], hc⟩

theorem afterSpelling_append {parts : List AliasPart} (h : IsSpelling parts) {w : List Char}
    (hw : Spelled parts w) (rest : List Char) : afterSpelling parts (w ++ rest) = some rest := by
  induction h generalizing w with
  | @last text hphrase =>
      have hafter : afterPhrase text.toList (w ++ rest) = some rest :=
        afterPhrase_eq_some_iff.mpr ⟨w, rfl, spelled_words_iff.mp hw⟩
      rw [afterSpelling, hafter]
      rfl
  | @cons text parts hphrase hparts ih =>
      obtain ⟨u, g, v, rfl, hu, hg, hv⟩ := spelled_words_gap_iff.mp hw
      have hafter : afterPhrase text.toList (u ++ (g ++ v) ++ rest) = some (g ++ (v ++ rest)) :=
        afterPhrase_eq_some_iff.mpr ⟨u, by simp, hu⟩
      have hfirst : ∃ c v', v ++ rest = c :: v' ∧ isSeparator c = false := by
        obtain ⟨-, c, v', -, rfl, -, hc⟩ := hparts.exists_first hv
        exact ⟨c, v' ++ rest, rfl, hc⟩
      rw [afterSpelling, hafter, Option.bind_some, afterSpelling, afterGap_append hg hfirst, ih hv]

theorem isSeparator_or_mem_letters {parts : List AliasPart} {w : List Char} (hw : Spelled parts w)
    {c : Char} (hc : c ∈ w) : isSeparator c = true ∨ ∃ letter ∈ letters parts, sameLetter letter c = true := by
  induction hw with
  | nil => simp at hc
  | @cons part parts u v hfits _ ih =>
      rcases List.mem_append.mp hc with hu | hv
      · cases hfits with
        | words hwords =>
            obtain ⟨letter, hletter, hsame⟩ := exists_sameLetter hwords hu
            exact Or.inr ⟨letter, List.mem_append_left _ hletter, hsame⟩
        | nothing => simp at hu
        | separator hd =>
            obtain rfl := List.mem_singleton.mp hu
            exact Or.inl hd
      · refine (ih hv).imp_right fun ⟨letter, hletter, hsame⟩ => ⟨letter, ?_, hsame⟩
        cases part with
        | words text => exact List.mem_append_right _ hletter
        | gap => exact hletter

/-- Every spelling of the name consists of phrases with gaps between them. -/
def Alias.IsPlain (name : Alias) : Prop :=
  ∀ parts ∈ name, IsSpelling parts

section Name

variable {name : Alias}

theorem exists_names_of_afterAlias {cs rest : List Char} (h : afterAlias name cs = some rest) :
    ∃ w, cs = w ++ rest ∧ Names name w := by
  obtain ⟨parts, hparts, hafter⟩ := List.exists_of_findSome?_eq_some h
  obtain ⟨w, hw, hspelled⟩ := spelled_of_afterSpelling hafter
  exact ⟨w, hw, parts, hparts, hspelled⟩

theorem not_names_of_afterAlias_eq_none (hname : name.IsPlain) {cs : List Char}
    (h : afterAlias name cs = none) : ∀ w, w <+: cs → ¬Names name w := by
  rintro w ⟨rest, rfl⟩ ⟨parts, hparts, hw⟩
  have hnone := List.findSome?_eq_none_iff.mp h parts hparts
  rw [afterSpelling_append (hname parts hparts) hw] at hnone
  simp at hnone

theorem Names.ne_nil (hname : name.IsPlain) {w : List Char} (h : Names name w) : w ≠ [] := by
  obtain ⟨parts, hparts, hw⟩ := h
  obtain ⟨-, c, v, -, rfl, -, -⟩ := (hname parts hparts).exists_first hw
  exact List.cons_ne_nil c v

theorem not_names_of_containsAlias (hname : name.IsPlain) {cs : List Char}
    (h : containsAlias name cs = false) : ∀ w, w <:+: cs → ¬Names name w := by
  induction cs with
  | nil =>
      intro w hw hnames
      exact hnames.ne_nil hname (List.infix_nil.mp hw)
  | cons c cs ih =>
      intro w hw
      rw [containsAlias, Bool.or_eq_false_iff] at h
      rcases List.infix_cons_iff.mp hw with hbegins | hinside
      · exact not_names_of_afterAlias_eq_none hname (by simpa using h.1) w hbegins
      · exact ih h.2 w hinside

/-- A text and what becomes of it when a name is replaced from the left. -/
inductive Replaced (name : Alias) (new : List Char) : List Char → List Char → Prop where
  | nil : Replaced name new [] []
  | keep {c : Char} {cs ds : List Char} :
      (∀ w, w <+: c :: cs → ¬Names name w) → Replaced name new cs ds →
        Replaced name new (c :: cs) (c :: ds)
  | swap {w cs ds : List Char} :
      Names name w → Replaced name new cs ds → Replaced name new (w ++ cs) (new ++ ds)

theorem replaceAlias_eq_drop (new : List Char) (pending : Nat) (cs : List Char) :
    replaceAlias name new pending cs = replaceAlias name new 0 (cs.drop pending) := by
  induction cs generalizing pending with
  | nil => cases pending <;> rfl
  | cons c cs ih =>
      cases pending with
      | zero => rfl
      | succ pending => rw [replaceAlias, ih, List.drop_succ_cons]

theorem replaced_replaceAlias (hname : name.IsPlain) (new cs : List Char) :
    Replaced name new cs (replaceAlias name new 0 cs) := by
  cases cs with
  | nil => exact .nil
  | cons c cs =>
      rw [replaceAlias]
      split
      · rename_i rest hafter
        obtain ⟨w, hw, hnames⟩ := exists_names_of_afterAlias hafter
        obtain ⟨d, v, rfl⟩ := List.exists_cons_of_ne_nil (hnames.ne_nil hname)
        rw [List.cons_append] at hw
        obtain ⟨rfl, rfl⟩ := List.cons.inj hw
        rw [replaceAlias_eq_drop, List.length_append, Nat.add_sub_cancel, List.drop_left]
        exact .swap hnames (replaced_replaceAlias hname new rest)
      · rename_i hafter
        exact .keep (not_names_of_afterAlias_eq_none hname hafter) (replaced_replaceAlias hname new cs)
termination_by cs.length

def mayStart (name : Alias) (c : Char) : Bool :=
  name.any fun parts => (firstLetter? parts).any fun letter => sameLetter letter c

def mayHold (name : Alias) (c : Char) : Bool :=
  isSeparator c || name.any fun parts => (letters parts).any fun letter => sameLetter letter c

/-- A text that can be put in for a name without making a new one: none of its characters starts the name,
and its first one stands nowhere in it. -/
structure Alias.SetsApart (name : Alias) (new : List Char) : Prop where
  starts : new.any (mayStart name) = false
  mark : ∃ c rest, new = c :: rest ∧ mayHold name c = false

theorem Names.mayHold {w : List Char} (h : Names name w) {c : Char} (hc : c ∈ w) :
    mayHold name c = true := by
  obtain ⟨parts, hparts, hw⟩ := h
  rw [Reply.mayHold, Bool.or_eq_true, List.any_eq_true]
  refine (isSeparator_or_mem_letters hw hc).imp_right fun ⟨letter, hletter, hsame⟩ => ?_
  exact ⟨parts, hparts, List.any_eq_true.mpr ⟨letter, hletter, hsame⟩⟩

theorem Names.exists_last (hname : name.IsPlain) {w : List Char} (h : Names name w) :
    ∃ c, w.getLast? = some c ∧ isSeparator c = false := by
  obtain ⟨parts, hparts, hw⟩ := h
  exact (hname parts hparts).exists_last hw

theorem Names.mayStart (hname : name.IsPlain) {c : Char} {w : List Char} (h : Names name (c :: w)) :
    mayStart name c = true := by
  obtain ⟨parts, hparts, hw⟩ := h
  obtain ⟨letter, d, v, hletter, heq, hsame, -⟩ := (hname parts hparts).exists_first hw
  obtain ⟨rfl, rfl⟩ := List.cons.inj heq
  exact List.any_eq_true.mpr ⟨parts, hparts, by simpa [hletter] using hsame⟩

/-- Behind characters that start no name, names are where they are without them. -/
theorem infix_of_infix_append (hname : name.IsPlain) {us ts : List Char}
    (hus : us.any (mayStart name) = false) {w : List Char} (hw : Names name w) (h : w <:+: us ++ ts) :
    w <:+: ts := by
  induction us with
  | nil => exact h
  | cons c us ih =>
      rw [List.any_cons, Bool.or_eq_false_iff] at hus
      rcases List.infix_cons_iff.mp h with hbegins | hinside
      · obtain ⟨d, v, rfl⟩ := List.exists_cons_of_ne_nil (hw.ne_nil hname)
        obtain ⟨rfl, -⟩ := List.cons_prefix_cons.mp hbegins
        simp [hw.mayStart hname] at hus
      · exact ih hus.2 hinside

section Replaced

variable {new cs ds : List Char}

theorem Replaced.prefix_of_not_mem (h : Replaced name new cs ds) {c : Char} (hc : new.head? = some c)
    {w : List Char} (hw : c ∉ w) (hbegins : w <+: ds) : w <+: cs := by
  induction h generalizing w with
  | nil => exact hbegins
  | keep _ _ ih =>
      rcases List.prefix_cons_iff.mp hbegins with rfl | ⟨v, rfl, hv⟩
      · exact List.nil_prefix
      · exact List.cons_prefix_cons.mpr ⟨rfl, ih (fun hmem => hw (List.mem_cons_of_mem _ hmem)) hv⟩
  | swap _ _ _ =>
      obtain ⟨rest, rfl⟩ := List.head?_eq_some_iff.mp hc
      rcases List.prefix_cons_iff.mp hbegins with rfl | ⟨v, rfl, -⟩
      · exact List.nil_prefix
      · exact absurd List.mem_cons_self hw

theorem Replaced.not_names (hname : name.IsPlain) (hnew : name.SetsApart new)
    (h : Replaced name new cs ds) {w : List Char} (hw : w <:+: ds) : ¬Names name w := by
  intro hnames
  obtain ⟨mark, rest, hmark, hholds⟩ := hnew.mark
  have hnot : mark ∉ w := fun hmem => by simp [hnames.mayHold hmem] at hholds
  induction h with
  | nil => exact hnames.ne_nil hname (List.infix_nil.mp hw)
  | keep hfree hreplaced ih =>
      -- A name that starts here reaches into nothing that is put in, and so was there before.
      rcases List.infix_cons_iff.mp hw with hbegins | hinside
      · have hkept := (Replaced.keep hfree hreplaced).prefix_of_not_mem (by rw [hmark]; rfl) hnot hbegins
        exact hfree w hkept hnames
      · exact ih hinside
  | swap _ _ ih => exact ih (infix_of_infix_append hname hnew.starts hnames hw)

theorem Replaced.count_le (h : Replaced name new cs ds) {c : Char} (hc : c ∉ new) :
    ds.count c ≤ cs.count c := by
  induction h with
  | nil => exact le_rfl
  | keep _ _ ih =>
      rw [List.count_cons, List.count_cons]
      omega
  | swap _ _ ih =>
      rw [List.count_append, List.count_append, List.count_eq_zero.mpr hc]
      omega

theorem Replaced.not_isBlank_head? (hnew : name.SetsApart new) (h : Replaced name new cs ds)
    (hcs : ∀ c, cs.head? = some c → Text.isBlank c = false) {c : Char} (hc : ds.head? = some c) :
    Text.isBlank c = false := by
  cases h with
  | nil => simp at hc
  | keep _ _ => exact hcs c hc
  | swap _ _ =>
      obtain ⟨mark, rest, rfl, hmark⟩ := hnew.mark
      obtain rfl : mark = c := Option.some.inj hc
      rw [mayHold, isSeparator, Bool.or_eq_false_iff, Bool.or_eq_false_iff] at hmark
      exact hmark.1.1

end Replaced

end Name

end Logbook.Reply
