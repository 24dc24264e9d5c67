import Mathlib.Tactic
import Logbook.Text.Basic

/-!
Replacing several words of a text in turn. Where each word begins with a mark that stands nowhere else in
it, no word begins another, and the new text shares nothing with them, the replacements do not touch one
another: each word of the text is replaced where it stands, and every other character stays.
-/

namespace Logbook.Text

section Replacing

variable {old new : List Char}

theorem go_replaceAll_eq_drop (skip : Nat) (cs : List Char) :
    replaceAll.go old new skip cs = replaceAll old new (cs.drop skip) := by
  induction skip generalizing cs with
  | zero => rfl
  | succ skip ih =>
      cases cs with
      | nil => rfl
      | cons c cs => exact ih cs

theorem replaceAll_append (h : old ≠ []) (new cs : List Char) :
    replaceAll old new (old ++ cs) = new ++ replaceAll old new cs := by
  obtain ⟨c, rest, rfl⟩ := List.exists_cons_of_ne_nil h
  have hbegins : (c :: rest).isPrefixOf (c :: (rest ++ cs)) = true :=
    List.isPrefixOf_iff_prefix.mpr ⟨cs, rfl⟩
  rw [replaceAll, List.cons_append, replaceAll.go, hbegins, go_replaceAll_eq_drop]
  simp

theorem replaceAll_cons {c : Char} {cs : List Char} (h : ¬old <+: c :: cs) :
    replaceAll old new (c :: cs) = c :: replaceAll old new cs := by
  have hbegins : old.isPrefixOf (c :: cs) = false :=
    Bool.eq_false_iff.mpr fun htrue => h (List.isPrefixOf_iff_prefix.mp htrue)
  rw [replaceAll, replaceAll.go, hbegins, Bool.and_false, if_neg Bool.false_ne_true]
  rfl

theorem replaceAll_of_not_infix {cs : List Char} (h : ¬old <:+: cs) : replaceAll old new cs = cs := by
  induction cs with
  | nil => rfl
  | cons c cs ih =>
      rw [List.infix_cons_iff, not_or] at h
      rw [replaceAll_cons h.1, ih h.2]

end Replacing

/-- Words that can be told apart in any text, and a new text that shares no character with them. -/
structure Distinct (mark : Char) (words : List (List Char)) (new : List Char) : Prop where
  marked : ∀ w ∈ words, ∃ rest, w = mark :: rest ∧ mark ∉ rest
  eq_of_prefix : ∀ v ∈ words, ∀ w ∈ words, v <+: w → v = w
  new_ne_nil : new ≠ []
  not_mem_new : ∀ w ∈ words, ∀ c ∈ w, c ∉ new

/-- Replaces the words one after the other, each in the whole text. -/
def replaceInTurn (words : List (List Char)) (new cs : List Char) : List Char :=
  words.foldl (fun cs w => replaceAll w new cs) cs

theorem replaceInTurn_nil (words : List (List Char)) (new : List Char) :
    replaceInTurn words new [] = [] := by
  induction words with
  | nil => rfl
  | cons w words ih => exact ih

theorem replaceInTurn_of_not_infix {words : List (List Char)} {new cs : List Char}
    (h : ∀ w ∈ words, ¬w <:+: cs) : replaceInTurn words new cs = cs := by
  induction words with
  | nil => rfl
  | cons w words ih =>
      rw [replaceInTurn, List.foldl_cons, replaceAll_of_not_infix (h w List.mem_cons_self)]
      exact ih fun v hv => h v (List.mem_cons_of_mem _ hv)

section InTurn

variable {mark : Char} {words order : List (List Char)} {new cs : List Char}

theorem not_prefix_of_ne_mark {w : List Char} (hw : ∃ rest, w = mark :: rest ∧ mark ∉ rest) {c : Char}
    (hc : c ≠ mark) (cs : List Char) : ¬w <+: c :: cs := by
  obtain ⟨rest, rfl, -⟩ := hw
  intro h
  exact hc (List.cons_prefix_cons.mp h).1.symm

namespace Distinct

theorem mark_not_mem_new (h : Distinct mark words new) {w : List Char} (hw : w ∈ words) : mark ∉ new := by
  obtain ⟨rest, rfl, -⟩ := h.marked w hw
  exact h.not_mem_new _ hw mark List.mem_cons_self

theorem replaceAll_append_of_not_mem (h : Distinct mark words new) {w : List Char} (hw : w ∈ words)
    {front : List Char} (hfront : mark ∉ front) (cs : List Char) :
    replaceAll w new (front ++ cs) = front ++ replaceAll w new cs := by
  induction front with
  | nil => rfl
  | cons c front ih =>
      rw [List.mem_cons, not_or] at hfront
      rw [List.cons_append, replaceAll_cons (not_prefix_of_ne_mark (h.marked w hw) (Ne.symm hfront.1) _),
        ih hfront.2, List.cons_append]

/-- A replacement neither makes nor destroys what stands at the start of the text and shares no character
with the new text, as long as it holds no mark. -/
theorem prefix_replaceAll_iff (h : Distinct mark words new) {w : List Char} (hw : w ∈ words)
    {front : List Char} (hmark : mark ∉ front) (hnew : ∀ c ∈ front, c ∉ new) (cs : List Char) :
    front <+: replaceAll w new cs ↔ front <+: cs := by
  induction front generalizing cs with
  | nil => simp
  | cons d front ih =>
      rw [List.mem_cons, not_or] at hmark
      have hdnew := hnew d List.mem_cons_self
      by_cases hbegins : w <+: cs
      · -- The word becomes the new text, and neither of them begins with `d`.
        obtain ⟨rest, rfl⟩ := hbegins
        obtain ⟨tail, hwtail, -⟩ := h.marked w hw
        obtain ⟨y, more, hy⟩ := List.exists_cons_of_ne_nil h.new_ne_nil
        rw [replaceAll_append (by simp [hwtail])]
        have hdy : d ≠ y := fun heq => hdnew (by simp [hy, heq])
        simp [hwtail, hy, List.cons_prefix_cons, Ne.symm hmark.1, hdy]
      · cases cs with
        | nil => rfl
        | cons c cs =>
            rw [replaceAll_cons hbegins, List.cons_prefix_cons, List.cons_prefix_cons,
              ih hmark.2 (fun c hc => hnew c (List.mem_cons_of_mem _ hc)) cs]

theorem not_prefix_cons_replaceAll (h : Distinct mark words new) {v w : List Char} (hv : v ∈ words)
    (hw : w ∈ words) {c : Char} (hnot : ¬w <+: c :: cs) : ¬w <+: c :: replaceAll v new cs := by
  obtain ⟨rest, rfl, hrest⟩ := h.marked w hw
  have hnew : ∀ c ∈ rest, c ∉ new := fun c hc =>
    h.not_mem_new _ hw c (List.mem_cons_of_mem _ hc)
  rwa [List.cons_prefix_cons, h.prefix_replaceAll_iff hv hrest hnew, ← List.cons_prefix_cons]

theorem eq_of_prefix_append (h : Distinct mark words new) {v w : List Char} (hv : v ∈ words)
    (hw : w ∈ words) (hbegins : v <+: w ++ cs) : v = w := by
  rcases List.prefix_or_prefix_of_prefix hbegins (List.prefix_append w cs) with hvw | hwv
  · exact h.eq_of_prefix v hv w hw hvw
  · exact (h.eq_of_prefix w hw v hv hwv).symm

theorem replaceInTurn_append_of_not_mem (h : Distinct mark words new) (horder : order ⊆ words)
    {front : List Char} (hfront : mark ∉ front) (cs : List Char) :
    replaceInTurn order new (front ++ cs) = front ++ replaceInTurn order new cs := by
  induction order generalizing cs with
  | nil => rfl
  | cons w order ih =>
      obtain ⟨hw, horder⟩ := List.cons_subset.mp horder
      rw [replaceInTurn, List.foldl_cons, h.replaceAll_append_of_not_mem hw hfront]
      exact ih horder (replaceAll w new cs)

theorem replaceInTurn_cons (h : Distinct mark words new) (horder : order ⊆ words) {c : Char}
    (hnot : ∀ w ∈ words, ¬w <+: c :: cs) :
    replaceInTurn order new (c :: cs) = c :: replaceInTurn order new cs := by
  induction order generalizing cs with
  | nil => rfl
  | cons w order ih =>
      obtain ⟨hw, horder⟩ := List.cons_subset.mp horder
      rw [replaceInTurn, List.foldl_cons, replaceAll_cons (hnot w hw)]
      exact ih horder fun v hv => h.not_prefix_cons_replaceAll hw hv (hnot v hv)

theorem replaceInTurn_word_append (h : Distinct mark words new) (horder : order ⊆ words)
    {w : List Char} (hw : w ∈ order) (cs : List Char) :
    replaceInTurn order new (w ++ cs) = new ++ replaceInTurn order new cs := by
  induction order generalizing cs with
  | nil => exact absurd hw List.not_mem_nil
  | cons v order ih =>
      obtain ⟨hv, horder⟩ := List.cons_subset.mp horder
      rw [replaceInTurn, replaceInTurn, List.foldl_cons, List.foldl_cons]
      by_cases hvw : v = w
      · -- Its turn has come: what follows leaves the new text alone.
        subst hvw
        obtain ⟨rest, hrest, -⟩ := h.marked v hv
        rw [replaceAll_append (by simp [hrest])]
        exact h.replaceInTurn_append_of_not_mem horder (h.mark_not_mem_new hv) _
      · have hmem : w ∈ order := (List.mem_cons.mp hw).resolve_left (Ne.symm hvw)
        have hnot : ¬v <+: w ++ cs := fun hbegins =>
          hvw (h.eq_of_prefix_append hv (horder hmem) hbegins)
        obtain ⟨rest, rfl, hrest⟩ := h.marked w (horder hmem)
        rw [List.cons_append] at hnot ⊢
        rw [replaceAll_cons hnot, h.replaceAll_append_of_not_mem hv hrest, ← List.cons_append]
        exact ih horder hmem (replaceAll v new cs)

theorem not_prefix_cons_replaceInTurn (h : Distinct mark words new) (horder : order ⊆ words)
    {w : List Char} (hw : w ∈ words) {c : Char} (hnot : ¬w <+: c :: cs) :
    ¬w <+: c :: replaceInTurn order new cs := by
  induction order generalizing cs with
  | nil => exact hnot
  | cons v order ih =>
      obtain ⟨hv, horder⟩ := List.cons_subset.mp horder
      exact ih horder (h.not_prefix_cons_replaceAll hv hw hnot)

theorem infix_of_infix_append (h : Distinct mark words new) {w : List Char} (hw : w ∈ words)
    {front : List Char} (hfront : mark ∉ front) (hholds : w <:+: front ++ cs) : w <:+: cs := by
  induction front with
  | nil => exact hholds
  | cons c front ih =>
      rw [List.mem_cons, not_or] at hfront
      rcases List.infix_cons_iff.mp hholds with hbegins | hholds
      · exact absurd hbegins (not_prefix_of_ne_mark (h.marked w hw) (Ne.symm hfront.1) _)
      · exact ih hfront.2 hholds

end Distinct

end InTurn

end Logbook.Text
