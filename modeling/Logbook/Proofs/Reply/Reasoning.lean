import Logbook.Proofs.Reply.Shape

/-!
Lines that begin like reasoning. None is left when reasoning has been removed, and of what happens to the
answer afterwards only the name that is put in can make one.
-/

namespace Logbook

namespace Reply

theorem isMetaLine_iff {line : List Char} :
    isMetaLine line = true ↔ ∃ b ∈ metaBeginnings, b.toList <+: line.map Char.toLower := by
  simp [isMetaLine]

theorem isMetaLine_nil : isMetaLine [] = false := by
  decide

theorem isPrefix_lower_iff_of_mem {b : String} (hb : b ∈ metaBeginnings) (line : List Char) :
    b.toList <+: Unicode.lower line ↔ b.toList <+: line.map Char.toLower := by
  have hplain : ∀ b ∈ metaBeginnings, Unicode.IsPlainWord b.toList ∧
      b.toList.getLast? ≠ some 'i' := by decide
  exact Unicode.isPrefix_lower_iff (hplain b hb).1 (hplain b hb).2

theorem not_isMetaLine_of_isPrefix {line more : List Char} (h : line <+: more)
    (hmore : isMetaLine more = false) : isMetaLine line = false := by
  rw [Bool.eq_false_iff, ne_eq, isMetaLine_iff] at hmore ⊢
  rintro ⟨b, hb, hbegins⟩
  exact hmore ⟨b, hb, hbegins.trans (h.map Char.toLower)⟩

theorem not_isMetaLine_append_cons {line : List Char} (h : isMetaLine line = false) (more : List Char) :
    isMetaLine (line ++ '\n' :: more) = false := by
  have hfeed : ∀ b ∈ metaBeginnings, '\n' ∉ b.toList := by decide
  rw [Bool.eq_false_iff, ne_eq, isMetaLine_iff] at h ⊢
  rintro ⟨b, hb, hbegins⟩
  rw [List.map_append] at hbegins
  exact h ⟨b, hb, Text.isPrefix_of_append_cons (hfeed b hb) hbegins⟩

theorem isPrefix_append_cases {w xs ys : List Char} (h : w <+: xs ++ ys) :
    w <+: xs ∨ ∃ r, r ≠ [] ∧ w = xs ++ r ∧ r <+: ys := by
  rcases List.prefix_or_prefix_of_prefix h (List.prefix_append xs ys) with hxs | ⟨r, rfl⟩
  · exact Or.inl hxs
  · by_cases hr : r = []
    · exact Or.inl (by simp [hr])
    · exact Or.inr ⟨r, hr, rfl, (List.prefix_append_right_inj xs).mp h⟩

/-- No beginning of a remark reaches into the text from before it. -/
def StandsOff (us : List Char) : Prop :=
  ∀ b ∈ metaBeginnings, ∀ r ∈ b.toList.tails, r ≠ [] → ¬r <+: us.map Char.toLower

instance (us : List Char) : Decidable (StandsOff us) :=
  inferInstanceAs (Decidable (∀ b ∈ metaBeginnings, _))

theorem StandsOff.isPrefix {us : List Char} (h : StandsOff us) {b : String} (hb : b ∈ metaBeginnings)
    {cs : List Char} (hbegins : b.toList <+: (cs ++ us).map Char.toLower) :
    b.toList <+: cs.map Char.toLower := by
  rw [List.map_append] at hbegins
  rcases isPrefix_append_cases hbegins with hcs | ⟨r, hr, heq, hus⟩
  · exact hcs
  · exact absurd hus (h b hb r ((List.mem_tails _ _).mpr ⟨_, heq.symm⟩) hr)

theorem standsOff_points : StandsOff ['.', '.', '.'] := by
  decide

theorem standsOff_truncationNotice : StandsOff truncationNotice.toList := by
  decide

theorem standsOff_nil : StandsOff [] := by
  decide

/-- No line of the text begins like reasoning. -/
def Unreasoned (cs : List Char) : Prop :=
  ∀ before rest, cs = before ++ rest → Text.StartsLine before → isMetaLine rest = false

namespace Unreasoned

variable {cs ds : List Char}

theorem nil : Unreasoned [] := by
  intro before rest heq _
  rw [(List.append_eq_nil_iff.mp heq.symm).2, isMetaLine_nil]

theorem of_isPrefix (h : Unreasoned ds) (hcs : cs <+: ds) : Unreasoned cs := by
  obtain ⟨more, rfl⟩ := hcs
  rintro before rest rfl hstart
  exact not_isMetaLine_of_isPrefix (List.prefix_append rest more)
    (h before (rest ++ more) (by simp) hstart)

theorem of_lines {ls : List (List Char)} (hline : ∀ line ∈ ls, '\n' ∉ line)
    (h : ∀ line ∈ ls, isMetaLine line = false) : Unreasoned (Text.joinWith ['\n'] ls) := by
  intro before rest heq hstart
  rcases Text.exists_of_joinWith_eq hline hstart heq with rfl | ⟨line, hmem, rfl | ⟨more, rfl⟩⟩
  · exact isMetaLine_nil
  · exact h rest hmem
  · exact not_isMetaLine_append_cons (h line hmem) more

theorem of_mem_lines (h : Unreasoned cs) {line : List Char} (hline : line ∈ Text.lines cs) :
    isMetaLine line = false := by
  obtain ⟨before, rest, hcs, hstart, -⟩ := Text.exists_startsLine_of_mem_lines hline
  exact not_isMetaLine_of_isPrefix (List.prefix_append line rest) (h before _ hcs hstart)

theorem append (h : Unreasoned cs) {us : List Char} (hfeed : '\n' ∉ us) (hus : StandsOff us) :
    Unreasoned (cs ++ us) := by
  intro before rest heq hstart
  obtain ⟨between, rfl, rfl⟩ := hstart.exists_eq_append hfeed heq
  have hbetween := h before between rfl hstart
  rw [Bool.eq_false_iff, ne_eq, isMetaLine_iff] at hbetween ⊢
  rintro ⟨b, hb, hbegins⟩
  exact hbetween ⟨b, hb, hus.isPrefix hb hbegins⟩

theorem trim (h : Unreasoned cs) (hhead : ∀ c, cs.head? = some c → Text.isBlank c = false) :
    Unreasoned (Text.trim cs) := by
  -- Trimming at the start would move the start of a line.
  rw [Text.trim_eq_trimEnd hhead]
  exact h.of_isPrefix (Text.isPrefix_dropEndWhile Text.isBlank cs)

theorem cut (h : Unreasoned cs) (hhead : ∀ c, cs.head? = some c → Text.isBlank c = false)
    (maxLines maxChars : Nat) : Unreasoned (Reply.cut maxLines maxChars cs) := by
  obtain ⟨front, points, hfront, hpoints, hcut⟩ := exists_cut_eq maxLines maxChars cs
  have hkept : Unreasoned (Text.joinWith ['\n'] ((Text.lines (Text.trim cs)).take maxLines)) :=
    of_lines (fun line hline => Text.not_mem_of_mem_lines (List.mem_of_mem_take hline))
      fun line hline => (h.trim hhead).of_mem_lines (List.mem_of_mem_take hline)
  rw [hcut]
  refine trim ?_ fun c hc => ?_
  · rcases hpoints with rfl | rfl
    · exact (hkept.of_isPrefix hfront).append (by decide) standsOff_nil
    · exact (hkept.of_isPrefix hfront).append (by decide) standsOff_points
  · cases front with
    | nil =>
        rcases hpoints with rfl | rfl
        · simp at hc
        · obtain rfl : '.' = c := Option.some.inj hc
          decide
    | cons d front =>
        obtain rfl : d = c := Option.some.inj hc
        obtain ⟨more, hmore⟩ := hfront
        exact Text.not_isBlank_head?_joinWith_take (fun _ => Text.of_head?_trim)
          (by rw [← hmore]; rfl)

end Unreasoned

theorem of_mem_answerLines {cs line : List Char} (h : line ∈ answerLines cs) :
    '\n' ∉ line ∧ line ≠ [] ∧ isMetaLine line = false ∧
      ∀ c, line.head? = some c → Text.isBlank c = false := by
  obtain ⟨hmem, hkept⟩ := List.mem_filter.mp h
  obtain ⟨l, hl, rfl⟩ := List.mem_map.mp hmem
  simp only [Bool.and_eq_true, Bool.not_eq_true', List.isEmpty_eq_false_iff] at hkept
  exact ⟨fun hfeed => Text.not_mem_of_mem_lines hl (Text.mem_of_mem_trim hfeed), hkept.1, hkept.2,
    fun _ => Text.of_head?_trim⟩

theorem unreasoned_stripReasoning (cs : List Char) : Unreasoned (stripReasoning cs) :=
  Unreasoned.of_lines (fun _ hline => (of_mem_answerLines hline).1)
    fun _ hline => (of_mem_answerLines hline).2.2.1

theorem not_isBlank_head?_stripReasoning {cs : List Char} {c : Char}
    (hc : (stripReasoning cs).head? = some c) : Text.isBlank c = false :=
  Text.not_isBlank_head?_joinWith (fun _ hline => (of_mem_answerLines hline).2.1)
    (fun _ hline => (of_mem_answerLines hline).2.2.2) hc

section Replaced

variable {name : Alias} {new cs ds : List Char}

theorem Replaced.exists_of_lineFeed (hnew : '\n' ∉ new) (h : Replaced name new cs ds)
    {before rest : List Char} (hds : ds = before ++ '\n' :: rest) :
    ∃ before' rest', cs = before' ++ '\n' :: rest' ∧ Replaced name new rest' rest := by
  induction h generalizing before with
  | nil => simp at hds
  | @keep c cs ds hfree hreplaced ih =>
      rcases List.cons_eq_append_iff.mp hds with ⟨rfl, hrest⟩ | ⟨before, rfl, hrest⟩
      · obtain ⟨rfl, rfl⟩ := List.cons.inj hrest
        exact ⟨[], cs, rfl, hreplaced⟩
      · obtain ⟨before', rest', rfl, hrest'⟩ := ih hrest
        exact ⟨c :: before', rest', rfl, hrest'⟩
  | @swap word cs ds hnames hreplaced ih =>
      have hbehind : ∃ before, ds = before ++ '\n' :: rest := by
        rcases List.append_eq_append_iff.mp hds with ⟨behind, -, hbehind⟩ | ⟨behind, rfl, hbehind⟩
        · exact ⟨behind, hbehind⟩
        · rcases List.cons_eq_append_iff.mp hbehind with ⟨rfl, hrest⟩ | ⟨behind, rfl, -⟩
          · exact ⟨[], hrest⟩
          · exact absurd (by simp) hnew
      obtain ⟨behind, hbehind⟩ := hbehind
      obtain ⟨before', rest', rfl, hrest'⟩ := ih hbehind
      exact ⟨word ++ before', rest', by simp, hrest'⟩

theorem Replaced.exists_of_startsLine (hnew : '\n' ∉ new) (h : Replaced name new cs ds)
    {before rest : List Char} (hds : ds = before ++ rest) (hstart : Text.StartsLine before) :
    ∃ before' rest', cs = before' ++ rest' ∧ Text.StartsLine before' ∧ Replaced name new rest' rest := by
  rcases hstart with rfl | hlast
  · obtain rfl : ds = rest := hds
    exact ⟨[], cs, rfl, Text.startsLine_nil, h⟩
  · obtain ⟨front, rfl⟩ := List.getLast?_eq_some_iff.mp hlast
    rw [List.append_assoc, List.singleton_append] at hds
    obtain ⟨before', rest', rfl, hrest'⟩ := h.exists_of_lineFeed hnew hds
    exact ⟨before' ++ ['\n'], rest', by simp, Or.inr (by simp), hrest'⟩

/-- What a text starts with after a replacement it has started with before, or it reaches into a name that
has been put in. -/
theorem Replaced.isPrefix_cases (h : Replaced name new cs ds) {w : List Char}
    (hw : w <+: ds.map Char.toLower) : w <+: cs.map Char.toLower ∨
      ∃ front word after rest r, cs = front ++ (word ++ after) ∧ Names name word ∧
        ds = front ++ (new ++ rest) ∧ w = front.map Char.toLower ++ r ∧ r ≠ [] ∧
        r <+: (new ++ rest).map Char.toLower := by
  induction h generalizing w with
  | nil => exact Or.inl hw
  | @keep c cs ds _ _ ih =>
      rcases List.prefix_cons_iff.mp hw with rfl | ⟨w, rfl, hrest⟩
      · exact Or.inl List.nil_prefix
      · rcases ih hrest with hcs | ⟨front, word, after, rest, r, rfl, hnames, rfl, rfl, hr, hbegins⟩
        · exact Or.inl (List.cons_prefix_cons.mpr ⟨rfl, hcs⟩)
        · exact Or.inr ⟨c :: front, word, after, rest, r, rfl, hnames, rfl, rfl, hr, hbegins⟩
  | @swap word cs ds hnames _ _ =>
      by_cases hnil : w = []
      · exact Or.inl (by simp [hnil])
      · exact Or.inr ⟨[], word, cs, ds, w, rfl, hnames, rfl, rfl, hnil, hw⟩

end Replaced

theorem exists_finish_eq (cs : List Char) :
    ∃ us, finish cs = Text.trimEnd cs ++ us ∧ '\n' ∉ us ∧ StandsOff us := by
  rcases finish_cases cs with ⟨heq, -⟩ | ⟨heq, -⟩
  · exact ⟨[], by rw [heq, List.append_nil], by decide, standsOff_nil⟩
  · exact ⟨_, heq, by decide, standsOff_truncationNotice⟩

/-- A line of a finished text starts where one starts in the text before. It begins like reasoning only if
the text does there, and holds what the text starts with there, if no line and no blank ends that. -/
theorem exists_startsLine_of_mem_lines_finish {cs line : List Char} (h : line ∈ Text.lines (finish cs)) :
    ∃ before rest, cs = before ++ rest ∧ Text.StartsLine before ∧
      (∀ b ∈ metaBeginnings, b.toList <+: line.map Char.toLower → b.toList <+: rest.map Char.toLower) ∧
      ∀ w c, '\n' ∉ w → '\r' ∉ w → w.getLast? = some c → Text.isBlank c = false → w <+: rest →
        w <+: line := by
  obtain ⟨before, rest, hfinished, hstart, hwithin⟩ := Text.exists_startsLine_of_mem_lines h
  obtain ⟨us, hfinish, hfeed, hus⟩ := exists_finish_eq cs
  rw [hfinish] at hfinished
  obtain ⟨between, htrim, hbetween⟩ := hstart.exists_eq_append hfeed hfinished
  obtain ⟨blanks, hcs, -⟩ := Text.exists_eq_dropEndWhile_append Text.isBlank cs
  rw [← Text.trimEnd, htrim, List.append_assoc] at hcs
  refine ⟨before, between ++ blanks, hcs, hstart, fun b hb hbegins => ?_,
    fun w c hw hw' hlast hc hbegins => ?_⟩
  · have hkept : b.toList <+: between.map Char.toLower := by
      refine hus.isPrefix hb ?_
      rw [← hbetween, List.map_append]
      exact hbegins.trans (List.prefix_append _ _)
    rw [List.map_append]
    exact hkept.trans (List.prefix_append _ _)
  · have hkept : before ++ w <+: before ++ between := by
      rw [← htrim]
      refine Text.isPrefix_trimEnd (c := c) ?_ hc ?_
      · rw [List.getLast?_append, hlast]
        rfl
      · rw [hcs]
        exact (List.prefix_append_right_inj before).mpr hbegins
    refine hwithin w hw hw' ?_
    rw [hbetween]
    exact ((List.prefix_append_right_inj before).mp hkept).trans (List.prefix_append _ _)

end Reply

namespace Persona

open Reply

theorem unreasoned_cutAnswer (raw : String) : Unreasoned (tony.cutAnswer raw) := by
  have hcleans : tony.profile.cleansReasoning = true := rfl
  rw [cutAnswer, if_pos hcleans]
  exact (unreasoned_stripReasoning (stripLinks raw.toList)).cut
    (fun _ => not_isBlank_head?_stripReasoning) tony.profile.maxLines tony.profile.maxChars

theorem eq_of_isPrefix_displayName {b : String} (hb : b ∈ metaBeginnings) {front r rest : List Char}
    (heq : b.toList = front ++ r) (hr : r ≠ [])
    (hbegins : r <+: (tony.profile.displayName.toList ++ rest).map Char.toLower) :
    b = "i need to" ∧ front = "i need ".toList := by
  have hname : tony.profile.displayName.toList.map Char.toLower = "tony".toList := by decide
  have hends : ∀ b ∈ metaBeginnings, ∀ r ∈ b.toList.tails, r ≠ [] →
      r <+: "tony".toList ∨ "tony".toList <+: r → b = "i need to" ∧ r = "to".toList := by
    decide
  rw [List.map_append, hname] at hbegins
  have hcompared := List.prefix_or_prefix_of_prefix hbegins (List.prefix_append "tony".toList _)
  obtain ⟨rfl, rfl⟩ := hends b hb r ((List.mem_tails _ _).mpr ⟨front, heq.symm⟩) hr hcompared
  have hsplit : "i need to".toList = "i need ".toList ++ "to".toList := by decide
  exact ⟨rfl, List.append_cancel_right (heq.symm.trans hsplit)⟩

/-- No line of an answer without reasoning begins in lower case like reasoning, except that the name that
is put in may complete the beginning of one: behind `i need ` at the start of a line of the cut answer. -/
theorem shape_removes_reasoning (raw : String) {line : List Char}
    (hline : line ∈ Text.lines (tony.profile.shape raw).toList) {b : String} (hb : b ∈ metaBeginnings)
    (hbegins : b.toList <+: Unicode.lower line) :
    b = "i need to" ∧ ∃ before front word after rest,
      tony.cutAnswer raw = before ++ (front ++ (word ++ after)) ∧ Text.StartsLine before ∧
      Unicode.lower front = "i need ".toList ∧ Names tony.profile.aliases word ∧
      line = front ++ ("Tony".toList ++ rest) := by
  have hreplaced := tony.replaced_cutAnswer raw
  rw [tony.toList_shape raw] at hline
  generalize replaceAlias tony.profile.aliases tony.profile.displayName.toList 0 (tony.cutAnswer raw) = ds
    at hreplaced hline
  obtain ⟨before, rest, hds, hstart, hmeta, hwithin⟩ := exists_startsLine_of_mem_lines_finish hline
  obtain ⟨before', rest', hcut, hstart', hrest'⟩ :=
    hreplaced.exists_of_startsLine tony.not_lineFeed_mem_displayName hds hstart
  have hrest : b.toList <+: rest.map Char.toLower :=
    hmeta b hb ((isPrefix_lower_iff_of_mem hb line).mp hbegins)
  rcases hrest'.isPrefix_cases hrest with
    hkept | ⟨front, word, after, behind, r, rfl, hnames, rfl, hsplit, hr, hinto⟩
  · have hnot := unreasoned_cutAnswer raw before' rest' hcut hstart'
    rw [isMetaLine_iff.mpr ⟨b, hb, hkept⟩] at hnot
    simp at hnot
  · obtain ⟨rfl, hfront⟩ := eq_of_isPrefix_displayName hb hsplit hr hinto
    have hneed : Unicode.IsPlainWord "i need ".toList := by decide
    have hplain : ∀ c : Char, c.toLower = c → c ∉ "i need Tony".toList → c ∉ front ++ "Tony".toList := by
      intro c hc hnot hmem
      have hphrase : "i need Tony".toList = "i need ".toList ++ "Tony".toList := by decide
      rw [hphrase, List.mem_append, not_or, ← hfront] at hnot
      rcases List.mem_append.mp hmem with hmem | hmem
      · exact hnot.1 (hc ▸ List.mem_map_of_mem hmem)
      · exact hnot.2 hmem
    obtain ⟨tail, rfl⟩ : front ++ "Tony".toList <+: line :=
      hwithin _ 'y' (hplain _ (by decide) (by decide)) (hplain _ (by decide) (by decide)) (by simp)
        (by decide) ⟨behind, by simp [profile]⟩
    exact ⟨rfl, before', front, word, after, tail, hcut, hstart', (Unicode.lower_eq_iff hneed).mpr hfront, hnames,
      by simp⟩

theorem mem_lines_shape_need :
    "I need Tony here.".toList ∈ Text.lines (tony.profile.shape "I need Sonar Pro here.").toList := by
  decide +kernel

theorem isPrefix_lower_need : "i need to".toList <+: Unicode.lower "I need Tony here.".toList :=
  (isPrefix_lower_iff_of_mem (by decide) _).mpr (by decide)

theorem name_after_need_completes_beginning :
    ("I need Tony here.".toList ∈ Text.lines (tony.profile.shape "I need Sonar Pro here.").toList ∧
      "i need to" ∈ metaBeginnings ∧ "i need to".toList <+: Unicode.lower "I need Tony here.".toList) ∧
    "i need to" = "i need to" ∧ ∃ before front word after rest,
      tony.cutAnswer "I need Sonar Pro here." = before ++ (front ++ (word ++ after)) ∧
      Text.StartsLine before ∧ Unicode.lower front = "i need ".toList ∧
      Names tony.profile.aliases word ∧ "I need Tony here.".toList = front ++ ("Tony".toList ++ rest) :=
  ⟨⟨mem_lines_shape_need, by decide, isPrefix_lower_need⟩,
    shape_removes_reasoning "I need Sonar Pro here." mem_lines_shape_need (by decide) isPrefix_lower_need⟩

/-- The name that is put in makes a line begin like reasoning. -/
theorem put_in_name_begins_reasoning : ¬∀ raw : String,
    ∀ line ∈ Text.lines (tony.profile.shape raw).toList, ∀ b ∈ metaBeginnings,
      ¬b.toList <+: Unicode.lower line := by
  intro h
  exact h "I need Sonar Pro here." _ mem_lines_shape_need "i need to" (by decide) isPrefix_lower_need

end Persona

end Logbook
