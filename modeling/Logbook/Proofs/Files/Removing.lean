import Logbook.Proofs.Files.Standing

namespace Logbook

instance (name : String) : Decidable (Path.IsFileName name) :=
  inferInstanceAs (Decidable (_ ∧ _ ∧ _ ∧ _))

namespace FileTree

variable {t u v : FileTree} {p dir : Path} {l here : Location} {names : List String}

/-- Every name in the tree is one that a path can end in. -/
def IsNamed (t : FileTree) : Prop :=
  ∀ e ∈ t.entries, ∀ name ∈ e.1, Path.IsFileName name

instance (t : FileTree) : Decidable t.IsNamed :=
  inferInstanceAs (Decidable (∀ _ ∈ _, ∀ _ ∈ _, _))

theorem IsNamed.isFileName (h : t.IsNamed) {name : String} {e : Entry}
    (hentry : t.entry? (here ++ [name]) = some e) : Path.IsFileName name :=
  h _ ((entry?_eq_some_iff_mem (by simp)).mp hentry) name (by simp)

theorem lookup_filter_ne (l m : Location) (entries : List (Location × Entry)) :
    (entries.filter fun e => e.1 ≠ l).lookup m = if m = l then none else entries.lookup m := by
  induction entries with
  | nil => simp
  | cons head rest ih =>
      obtain ⟨k, old⟩ := head
      rw [List.filter_cons, List.lookup_cons]
      by_cases hk : k = l
      · subst hk
        by_cases hm : m = k
        · simpa [hm] using ih
        · simpa [beq_false_of_ne hm, hm] using ih
      · by_cases hm : m = k
        · subst hm
          simp [hk]
        · simpa [hk, List.lookup_cons, beq_false_of_ne hm] using ih

theorem entry?_erase (hl : l ≠ []) (m : Location) :
    entry? (t.erase l) m = if m = l then none else t.entry? m := by
  simp only [erase, entry?, lookup_filter_ne]
  by_cases hm : m = []
  · rw [if_pos hm, if_neg (by rw [hm]; exact hl.symm), if_pos hm]
  · simp [hm]

/-- Some files of a directory may be gone, and all else is as it was. -/
structure Loses (t u : FileTree) (here : Location) (names : List String) : Prop where
  workingDirectory : u.workingDirectory = t.workingDirectory
  clock : u.clock = t.clock
  entry : ∀ l, u.entry? l = t.entry? l ∨
    (∃ name ∈ names, l = here ++ [name]) ∧ (∃ f, t.entry? l = some (.file f)) ∧ u.entry? l = none

namespace Loses

theorem refl (t : FileTree) (here : Location) (names : List String) : Loses t t here names :=
  ⟨rfl, rfl, fun _ => Or.inl rfl⟩

theorem trans {more : List String} (h : Loses t u here names) (k : Loses u v here more) :
    Loses t v here (names ++ more) where
  workingDirectory := k.workingDirectory.trans h.workingDirectory
  clock := k.clock.trans h.clock
  entry := by
    intro l
    rcases k.entry l with hkept | ⟨⟨name, hname, rfl⟩, ⟨f, hf⟩, hnone⟩
    · rw [hkept]
      refine (h.entry l).imp_right ?_
      rintro ⟨⟨name, hname, rfl⟩, hrest⟩
      exact ⟨⟨name, List.mem_append_left _ hname, rfl⟩, hrest⟩
    · right
      refine ⟨⟨name, List.mem_append_right _ hname, rfl⟩, ?_, hnone⟩
      rcases h.entry (here ++ [name]) with hkept | ⟨-, hfile, -⟩
      · exact ⟨f, hkept ▸ hf⟩
      · exact hfile

theorem keepsDirectories (h : Loses t u here names) : KeepsDirectories t u where
  workingDirectory := h.workingDirectory
  directory := by
    intro l mode hl
    rcases h.entry l with hkept | ⟨-, ⟨f, hf⟩, -⟩
    · rw [hkept, hl]
    · rw [hf] at hl
      simp at hl

theorem entry?_eq_none (h : Loses t u here names) (hl : t.entry? l = none) : u.entry? l = none :=
  (h.entry l).elim (fun hkept => hkept.trans hl) fun hgone => hgone.2.2

theorem entry?_of_notMem (h : Loses t u here names) {name : String} (hname : name ∉ names) :
    u.entry? (here ++ [name]) = t.entry? (here ++ [name]) := by
  refine (h.entry _).resolve_right ?_
  rintro ⟨⟨other, hother, heq⟩, -⟩
  obtain rfl : name = other := by simpa using heq
  exact hname hother

end Loses

theorem of_remove_eq_ok (h : t.remove p = .ok u) :
    ∃ l f, t.locate p = .ok l ∧ t.entry? l = some (.file f) ∧ u = t.erase l := by
  simp only [remove] at h
  cases hlocate : t.locate p with
  | error fault => simp [hlocate, bind, Except.bind] at h
  | ok l =>
      simp only [hlocate, bind, Except.bind] at h
      split at h
      · simp at h
      · simp at h
      · split at h
        · exact ⟨l, _, rfl, ‹_›, (Except.ok.inj h).symm⟩
        · simp at h

theorem loses_of_remove {name : String} (hname : Path.IsFileName name)
    (h : t.remove (dir.join name) = .ok u) : Loses t u (t.resolve dir) [name] := by
  obtain ⟨l, f, hlocate, hentry, rfl⟩ := of_remove_eq_ok h
  obtain rfl : l = t.resolve dir ++ [name] := by
    rw [← resolve_of_locate hlocate, resolve_join _ _ hname]
  refine ⟨rfl, rfl, fun m => ?_⟩
  rw [entry?_erase (by simp)]
  split
  · exact Or.inr ⟨⟨name, by simp, ‹_›⟩, ⟨f, by rw [‹m = _›, hentry]⟩, rfl⟩
  · exact Or.inl rfl

theorem remove_of_canChange (hlocate : t.locate dir = .ok here) (hchange : t.canChange here = true)
    {name : String} (hname : Path.IsFileName name) {f : File}
    (hf : t.entry? (here ++ [name]) = some (.file f)) :
    t.remove (dir.join name) = .ok (t.erase (here ++ [name])) := by
  have henter : t.CanEnter here := by
    simp only [canChange] at hchange
    split at hchange
    · exact ⟨_, ‹_›, (Bool.and_eq_true_iff.mp hchange).2⟩
    · simp at hchange
  simp [remove, locate_join hlocate henter hname, hf, hchange, bind, Except.bind]

end FileTree

end Logbook
