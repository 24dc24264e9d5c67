import Logbook.Proofs.Reply.Shape

namespace Logbook

namespace Reply

theorem beforeLastSpace_cases (cs : List Char) : (' ' ∉ cs ∧ beforeLastSpace cs = cs) ∨
    ∃ behind, cs = beforeLastSpace cs ++ ' ' :: behind ∧ ' ' ∉ behind := by
  rw [beforeLastSpace]
  split
  · rename_i behind before hsplit
    obtain ⟨hreverse, hnot⟩ := Text.of_splitFirst_eq_some hsplit
    refine Or.inr ⟨behind.reverse, ?_, by simpa using hnot⟩
    rw [← List.reverse_reverse cs, hreverse]
    simp
  · rename_i hnone
    refine Or.inl ⟨fun hmem => ?_, rfl⟩
    obtain ⟨behind, before, hreverse, hnot⟩ := List.eq_append_cons_of_mem (List.mem_reverse.mpr hmem)
    rw [hreverse, Text.splitFirst_append_cons hnot] at hnone
    simp at hnone

/-- Points behind a start of a text that starts with no blank leave nothing to trim. -/
theorem trim_append_points {front kept : List Char} (hfront : front <+: kept)
    (hkept : ∀ c, kept.head? = some c → Text.isBlank c = false) :
    Text.trim (front ++ ['.', '.', '.']) = front ++ ['.', '.', '.'] := by
  have hhead : ∀ c, (front ++ ['.', '.', '.']).head? = some c → Text.isBlank c = false := by
    intro c hc
    cases front with
    | nil =>
        obtain rfl : '.' = c := Option.some.inj hc
        decide
    | cons d front =>
        obtain ⟨behind, rfl⟩ := hfront
        exact hkept c hc
  have hlast : ∀ c, (front ++ ['.', '.', '.']).getLast? = some c → Text.isBlank c = false := by
    intro c hc
    obtain rfl : '.' = c := by simpa [List.getLast?_append] using hc
    decide
  rw [Text.trim_eq_trimEnd hhead, Text.trimEnd, Text.dropEndWhile_of_getLast? hlast]

theorem cut_cases (maxLines maxChars : Nat) (cs : List Char) :
    let kept := Text.joinWith ['\n'] ((Text.lines (Text.trim cs)).take maxLines)
    (kept.length ≤ maxChars ∧ cut maxLines maxChars cs = Text.trim kept) ∨
      (maxChars < kept.length ∧
        cut maxLines maxChars cs = beforeLastSpace (kept.take maxChars) ++ ['.', '.', '.']) := by
  intro kept
  rw [cut]
  by_cases hlength : kept.length ≤ maxChars
  · exact Or.inl ⟨hlength, if_pos hlength⟩
  · have hhead : ∀ c, kept.head? = some c → Text.isBlank c = false := fun _ =>
      Text.not_isBlank_head?_joinWith_take fun _ => Text.of_head?_trim
    have hfront := (isPrefix_beforeLastSpace (kept.take maxChars)).trans (List.take_prefix maxChars kept)
    exact Or.inr ⟨Nat.lt_of_not_le hlength, (if_neg hlength).trans (trim_append_points hfront hhead)⟩

theorem length_cut_le (maxLines maxChars : Nat) (cs : List Char) :
    (cut maxLines maxChars cs).length ≤ maxChars + 3 := by
  rcases cut_cases maxLines maxChars cs with ⟨hlength, hcut⟩ | ⟨-, hcut⟩
  · rw [hcut]
    exact ((Text.isInfix_trim _).length_le.trans hlength).trans (Nat.le_add_right _ _)
  · rw [hcut, List.length_append]
    have hfront := (isPrefix_beforeLastSpace
      ((Text.joinWith ['\n'] ((Text.lines (Text.trim cs)).take maxLines)).take maxChars)).length_le
    exact Nat.add_le_add_right (hfront.trans (List.length_take_le _ _)) 3

theorem length_lines_cut_le (maxLines maxChars : Nat) (cs : List Char) :
    (Text.lines (cut maxLines maxChars cs)).length ≤ maxLines := by
  rcases cut_eq_nil_or maxLines maxChars cs with hnil | hle
  · rw [hnil]
    exact Nat.zero_le maxLines
  · exact (Text.length_lines_le _).trans hle

theorem not_isBlank_getLast?_cut {maxLines maxChars : Nat} {cs : List Char} {c : Char}
    (hc : (cut maxLines maxChars cs).getLast? = some c) : Text.isBlank c = false := by
  obtain ⟨front, points, -, -, hcut⟩ := exists_cut_eq maxLines maxChars cs
  exact Text.of_getLast?_trim (hcut ▸ hc)

/-- With `kept` for the first lines of the trimmed text, the answer is `kept`, trimmed, if it is not too long,
and otherwise what stands in `kept` before the last space among the characters that are allowed, or all of
these if there is no space among them, with three points behind. In each case it keeps the limits, and no
blank stands at either end. -/
theorem trimAnswer_keeps_limits (text : String) (maxLines maxChars : Nat) :
    let kept := Text.joinWith ['\n'] ((Text.lines (Text.trim text.toList)).take maxLines)
    let answer := (trimAnswer text maxLines maxChars).toList
    ((kept.length ≤ maxChars ∧ answer = Text.trim kept) ∨
      (maxChars < kept.length ∧ ∃ p, answer = p ++ ['.', '.', '.'] ∧
        ((' ' ∉ p ∧ p = kept.take maxChars) ∨
          ∃ between rest, kept = p ++ ' ' :: (between ++ rest) ∧ ' ' ∉ between ∧
            (p ++ ' ' :: between).length = maxChars))) ∧
    (Text.lines answer).length ≤ maxLines ∧ answer.length ≤ maxChars + 3 ∧
    ∀ c, answer.head? = some c ∨ answer.getLast? = some c → Text.isBlank c = false := by
  intro kept answer
  have hanswer : answer = cut maxLines maxChars text.toList := String.toList_ofList
  refine ⟨?_, ?_, ?_, fun c hc => ?_⟩
  · rw [hanswer]
    refine (cut_cases maxLines maxChars text.toList).imp id fun ⟨hlength, hcut⟩ => ?_
    refine ⟨hlength, _, hcut, ?_⟩
    rcases beforeLastSpace_cases (kept.take maxChars) with ⟨hnone, heq⟩ | ⟨between, heq, hlast⟩
    · exact Or.inl ⟨heq.symm ▸ hnone, heq⟩
    · refine Or.inr ⟨between, kept.drop maxChars, ?_, hlast, ?_⟩
      · calc kept = kept.take maxChars ++ kept.drop maxChars := (List.take_append_drop maxChars kept).symm
          _ = beforeLastSpace (kept.take maxChars) ++ ' ' :: between ++ kept.drop maxChars :=
              congrArg (· ++ kept.drop maxChars) heq
          _ = beforeLastSpace (kept.take maxChars) ++ ' ' :: (between ++ kept.drop maxChars) := by simp
      · rw [← heq]
        exact List.length_take_of_le hlength.le
  · exact hanswer ▸ length_lines_cut_le maxLines maxChars text.toList
  · exact hanswer ▸ length_cut_le maxLines maxChars text.toList
  · rw [hanswer] at hc
    exact hc.elim not_isBlank_head?_cut not_isBlank_getLast?_cut

/-- In how many places of a text a name stands. -/
def occurrences (name : Alias) : List Char → Nat
  | [] => 0
  | c :: cs => (if (afterAlias name (c :: cs)).isSome then 1 else 0) + occurrences name cs

theorem occurrences_nil (cs : List Char) : occurrences [] cs = 0 := by
  induction cs with
  | nil => rfl
  | cons c cs ih => simp [occurrences, ih, afterAlias]

theorem occurrences_le_append (name : Alias) (w cs : List Char) :
    occurrences name cs ≤ occurrences name (w ++ cs) := by
  induction w with
  | nil => exact le_rfl
  | cons c w ih => exact ih.trans (Nat.le_add_left _ _)

theorem Names.occurrences_append {name : Alias} (hname : name.IsPlain) {w : List Char}
    (h : Names name w) (cs : List Char) : occurrences name cs + 1 ≤ occurrences name (w ++ cs) := by
  obtain ⟨c, v, rfl⟩ := List.exists_cons_of_ne_nil (h.ne_nil hname)
  have hsome : (afterAlias name (c :: (v ++ cs))).isSome = true := by
    rw [Option.isSome_iff_ne_none]
    intro hnone
    exact not_names_of_afterAlias_eq_none hname hnone _ (List.prefix_append (c :: v) cs) h
  rw [List.cons_append, occurrences, if_pos hsome, Nat.add_comm]
  exact Nat.add_le_add_left (occurrences_le_append name v cs) 1

theorem Spelled.length_letters_le {parts : List AliasPart} {w : List Char} (h : Spelled parts w) :
    (letters parts).length ≤ w.length := by
  induction h with
  | nil => exact le_rfl
  | @cons part parts u v hfits _ ih =>
      cases hfits with
      | words hwords =>
          rw [letters, List.length_append, List.length_append, hwords.length_eq]
          exact Nat.add_le_add_left ih _
      | nothing => exact ih
      | separator _ => exact ih.trans (Nat.le_succ _)

/-- A text grows only where a name that is shorter than what is put in has been replaced, there by one. -/
theorem Replaced.length_le {name shorter : Alias} (hshorter : shorter.IsPlain) {new cs ds : List Char}
    (hnames : ∀ w, Names name w → new.length ≤ w.length ∨ Names shorter w ∧ new.length ≤ w.length + 1)
    (h : Replaced name new cs ds) : ds.length ≤ cs.length + occurrences shorter cs := by
  induction h with
  | nil => exact le_rfl
  | @keep c cs ds _ _ ih =>
      have hle := occurrences_le_append shorter [c] cs
      rw [List.singleton_append] at hle
      rw [List.length_cons, List.length_cons]
      omega
  | @swap w cs ds hname _ ih =>
      rw [List.length_append, List.length_append]
      rcases hnames w hname with hlength | ⟨hshort, hlength⟩
      · have hle := occurrences_le_append shorter w cs
        omega
      · have hlt := hshort.occurrences_append hshorter cs
        omega

theorem length_finish_le (cs : List Char) : (finish cs).length ≤ cs.length + 12 := by
  have htrim := (Text.isPrefix_dropEndWhile Text.isBlank cs).length_le
  rw [← Text.trimEnd] at htrim
  rcases finish_cases cs with ⟨heq, -⟩ | ⟨heq, -⟩
  · rw [heq]
    omega
  · have hnotice : truncationNotice.toList.length = 12 := by decide
    rw [heq, List.length_append, hnotice]
    omega

end Reply

namespace Persona

open Reply

def shorterNames : Persona → Alias
  | .johny => [[.words "tony"]]
  | .tony => []

theorem isPlain_shorterNames (p : Persona) : p.shorterNames.IsPlain := by
  cases p with
  | johny => exact List.forall_mem_singleton.mpr (.last (by decide))
  | tony => exact List.forall_mem_nil _

theorem length_displayName_le (p : Persona) {w : List Char} (hw : Names p.profile.aliases w) :
    p.profile.displayName.toList.length ≤ w.length ∨
      Names p.shorterNames w ∧ p.profile.displayName.toList.length ≤ w.length + 1 := by
  obtain ⟨parts, hparts, hspelled⟩ := hw
  have hletters := hspelled.length_letters_le
  cases p with
  | johny =>
      have hlong : ∀ parts ∈ johny.profile.aliases, 5 ≤ (letters parts).length ∨ parts = [.words "tony"] := by
        decide
      rcases hlong parts hparts with hlong | rfl
      · exact Or.inl (hlong.trans hletters)
      · exact Or.inr ⟨⟨_, List.mem_singleton_self _, hspelled⟩, Nat.succ_le_succ hletters⟩
  | tony =>
      have hlong : ∀ parts ∈ tony.profile.aliases, 4 ≤ (letters parts).length := by decide
      exact Or.inl ((hlong parts hparts).trans hletters)

theorem length_shape_le (p : Persona) (raw : String) : (p.profile.shape raw).length ≤
    p.profile.maxChars + 3 + 12 + occurrences p.shorterNames (p.cutAnswer raw) := by
  have hfinish := length_finish_le
    (replaceAlias p.profile.aliases p.profile.displayName.toList 0 (p.cutAnswer raw))
  have hreplaced := (p.replaced_cutAnswer raw).length_le p.isPlain_shorterNames
    fun _ => p.length_displayName_le
  have hcut : (p.cutAnswer raw).length ≤ p.profile.maxChars + 3 := length_cut_le _ _ _
  rw [← String.length_toList, p.toList_shape raw]
  omega

/-- Tony's answers keep the limit of characters, the points and the notice aside. Johny's do so except that
each `tony` in the cut answer, where the longer name is put in, adds one. -/
theorem shape_keeps_limit (raw : String) :
    (tony.profile.shape raw).length ≤ tony.profile.maxChars + 3 + 12 ∧
    (johny.profile.shape raw).length ≤
      johny.profile.maxChars + 3 + 12 + occurrences [[.words "tony"]] (johny.cutAnswer raw) := by
  have htony := tony.length_shape_le raw
  rw [shorterNames, occurrences_nil] at htony
  exact ⟨htony, johny.length_shape_le raw⟩

/-- The shorter name four times at the start of an answer that has its full length makes it too long. -/
theorem put_in_names_break_limit : ¬∀ (p : Persona) (raw : String),
    (p.profile.shape raw).length ≤ p.profile.maxChars + 3 + 12 := by
  intro h
  have hlong := h johny (String.ofList ("tonytonytonytony".toList ++ List.replicate 634 'a'))
  revert hlong
  rw [Profile.shape, String.toList_ofList, String.length_ofList]
  decide +kernel

end Persona

end Logbook
