import Logbook.Proofs.Text.Replacing
import Logbook.Settings.Basic

/-!
Written forms of the control character in settings. Three replacements in the whole text, one after the
other, are the same as one pass from left to right, whatever their order, and leave no written form.
-/

namespace Logbook.Overrides

/-- The written forms of the control character. -/
def spellings : List String := ["\\033", "\\x1b", "\\e"]

/-- One pass from left to right in which each written form becomes the control character. -/
def decodePass : List Char → List Char
  | '\\' :: '0' :: '3' :: '3' :: rest => escapeChar :: decodePass rest
  | '\\' :: 'x' :: '1' :: 'b' :: rest => escapeChar :: decodePass rest
  | '\\' :: 'e' :: rest => escapeChar :: decodePass rest
  | c :: rest => c :: decodePass rest
  | [] => []

/-- Replaces the written forms in `order` one after the other, each in the whole text. -/
def decodeInTurn (order : List String) (s : String) : String :=
  String.ofList (Text.replaceInTurn (order.map String.toList) [escapeChar] s.toList)

theorem decodeEscapes_eq_decodeInTurn (s : String) : decodeEscapes s = decodeInTurn spellings s :=
  rfl

theorem distinct_spellings : Text.Distinct '\\' (spellings.map String.toList) [escapeChar] where
  marked := by simp [spellings]
  eq_of_prefix := by decide
  new_ne_nil := List.cons_ne_nil _ _
  not_mem_new := by simp [spellings, escapeChar]

theorem not_prefix_of_kept {c : Char} {rest : List Char}
    (h033 : ∀ more, c = '\\' → rest = '0' :: '3' :: '3' :: more → False)
    (hx1b : ∀ more, c = '\\' → rest = 'x' :: '1' :: 'b' :: more → False)
    (he : ∀ more, c = '\\' → rest = 'e' :: more → False) :
    ∀ w ∈ spellings.map String.toList, ¬w <+: c :: rest := by
  intro w hw ⟨more, hmore⟩
  obtain rfl | rfl | rfl : w = "\\033".toList ∨ w = "\\x1b".toList ∨ w = "\\e".toList := by
    simpa [spellings] using hw
  · obtain ⟨hc, hrest⟩ := List.cons_eq_cons.mp hmore
    exact h033 more hc.symm hrest.symm
  · obtain ⟨hc, hrest⟩ := List.cons_eq_cons.mp hmore
    exact hx1b more hc.symm hrest.symm
  · obtain ⟨hc, hrest⟩ := List.cons_eq_cons.mp hmore
    exact he more hc.symm hrest.symm

theorem replaceInTurn_eq_decodePass {order : List String} (horder : order.Perm spellings)
    (cs : List Char) :
    Text.replaceInTurn (order.map String.toList) [escapeChar] cs = decodePass cs := by
  have hsubset : order.map String.toList ⊆ spellings.map String.toList :=
    List.map_subset _ horder.subset
  have hword {w : String} (hw : w ∈ spellings) (rest : List Char) :=
    distinct_spellings.replaceInTurn_word_append hsubset
      (List.mem_map_of_mem (horder.mem_iff.mpr hw)) rest
  fun_induction decodePass cs with
  | case1 rest ih => exact (hword (w := "\\033") (by decide) rest).trans (congrArg _ ih)
  | case2 rest ih => exact (hword (w := "\\x1b") (by decide) rest).trans (congrArg _ ih)
  | case3 rest ih => exact (hword (w := "\\e") (by decide) rest).trans (congrArg _ ih)
  | case4 c rest h033 hx1b he ih =>
      rw [distinct_spellings.replaceInTurn_cons hsubset (not_prefix_of_kept h033 hx1b he), ih]
  | case5 => exact Text.replaceInTurn_nil _ _

theorem decodeInTurn_eq {order : List String} (horder : order.Perm spellings) (s : String) :
    decodeInTurn order s = String.ofList (decodePass s.toList) := by
  rw [decodeInTurn, replaceInTurn_eq_decodePass horder]

theorem not_infix_decodePass {w : List Char} (hw : w ∈ spellings.map String.toList) (cs : List Char) :
    ¬w <:+: decodePass cs := by
  have hbehind {rest : List Char} (h : w <:+: [escapeChar] ++ rest) : w <:+: rest :=
    distinct_spellings.infix_of_infix_append hw (by decide) h
  fun_induction decodePass cs with
  | case1 rest ih => exact fun h => ih (hbehind h)
  | case2 rest ih => exact fun h => ih (hbehind h)
  | case3 rest ih => exact fun h => ih (hbehind h)
  | case4 c rest h033 hx1b he ih =>
      intro h
      rcases List.infix_cons_iff.mp h with hbegins | hholds
      · rw [← replaceInTurn_eq_decodePass (List.Perm.refl _)] at hbegins
        exact distinct_spellings.not_prefix_cons_replaceInTurn (List.Subset.refl _) hw
          (not_prefix_of_kept h033 hx1b he w hw) hbegins
      · exact ih hholds
  | case5 =>
      intro h
      obtain ⟨rest, rfl, -⟩ := distinct_spellings.marked w hw
      exact List.cons_ne_nil _ _ (List.infix_nil.mp h)

theorem decodePass_of_not_infix {cs : List Char}
    (h : ∀ w ∈ spellings.map String.toList, ¬w <:+: cs) : decodePass cs = cs := by
  rw [← replaceInTurn_eq_decodePass (List.Perm.refl _), Text.replaceInTurn_of_not_infix h]

/-- Decoding replaces each written form of the control character in one pass from left to right. The order
of the replacements does not matter, no written form is left, and decoding again changes nothing. -/
theorem decodeEscapes_is_one_pass (s : String) :
    decodeEscapes s = String.ofList (decodePass s.toList) ∧
      (∀ order : List String, order.Perm spellings → decodeInTurn order s = decodeEscapes s) ∧
      (∀ w ∈ spellings, ¬w.toList <:+: (decodeEscapes s).toList) ∧
      decodeEscapes (decodeEscapes s) = decodeEscapes s := by
  have hpass (s : String) : decodeEscapes s = String.ofList (decodePass s.toList) := by
    rw [decodeEscapes_eq_decodeInTurn, decodeInTurn_eq (List.Perm.refl _)]
  have hnone : ∀ w ∈ spellings.map String.toList, ¬w <:+: (decodeEscapes s).toList := by
    intro w hw
    rw [hpass, String.toList_ofList]
    exact not_infix_decodePass hw s.toList
  refine ⟨hpass s, fun order horder => ?_, fun w hw => hnone _ (List.mem_map_of_mem hw), ?_⟩
  · rw [hpass, decodeInTurn_eq horder]
  · rw [hpass (decodeEscapes s), decodePass_of_not_infix hnone, String.ofList_toList]

theorem torn_spellings_decoded :
    ["\\e", "\\x1b", "\\033"].Perm spellings ∧ "\\033" ∈ spellings ∧
      decodeInTurn ["\\e", "\\x1b", "\\033"] "\\\\e\\0\\03333\\x1\\x1bb" =
        "\\\x1b\\0\x1b33\\x1\x1bb" ∧
      ¬"\\033".toList <:+: "\\\x1b\\0\x1b33\\x1\x1bb".toList := by
  have hperm : ["\\e", "\\x1b", "\\033"].Perm spellings := by decide
  have hmem : "\\033" ∈ spellings := by decide
  obtain ⟨hpass, horder, hnone, -⟩ := decodeEscapes_is_one_pass "\\\\e\\0\\03333\\x1\\x1bb"
  have hdecoded : decodeEscapes "\\\\e\\0\\03333\\x1\\x1bb" = "\\\x1b\\0\x1b33\\x1\x1bb" :=
    hpass.trans (by decide)
  rw [← hdecoded]
  exact ⟨hperm, hmem, horder _ hperm, hnone _ hmem⟩

end Logbook.Overrides
