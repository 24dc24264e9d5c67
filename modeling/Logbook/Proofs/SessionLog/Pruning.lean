import Mathlib.Data.Set.Card
import Logbook.Proofs.SessionLog.Retention

namespace Logbook

namespace FileTree

variable {t u : FileTree} {dir : Path}

theorem canChange_of_remove_eq_ok {name : String} (hname : Path.IsFileName name)
    (h : t.remove (dir.join name) = .ok u) : t.canChange (t.resolve dir) = true := by
  obtain ⟨l, f, hlocate, hentry, -⟩ := of_remove_eq_ok h
  obtain rfl : l = t.resolve dir ++ [name] := by
    rw [← resolve_of_locate hlocate, resolve_join _ _ hname]
  by_contra hchange
  simp [remove, hlocate, hentry, hchange, bind, Except.bind] at h

theorem canEnter_of_canChange (h : t.canChange (t.resolve dir) = true) {mode : Nat}
    (hfind : t.find dir = .ok (.directory mode)) : Mode.canEnter mode = true := by
  simp only [canChange, entry?_of_find hfind, Bool.and_eq_true] at h
  exact h.2

end FileTree

namespace SessionLog

variable {here : Location} {t u : FileTree} {log : SessionLog} {listing : List SessionFile}

theorem fst_foldl_removeOne {dir : Path} {files : List SessionFile}
    (hnames : ∀ f ∈ files, Path.IsFileName f.name) (hnodup : (files.map SessionFile.name).Nodup)
    (state : Nat × FileTree) (hlocate : state.2.locate dir = .ok here)
    (hchange : state.2.canChange here = true)
    (hfiles : ∀ f ∈ files, ∃ g, FileTree.entry? state.2 (here ++ [f.name]) = some (.file g)) :
    (files.foldl (removeOne dir) state).1 = state.1 + files.length := by
  induction files generalizing state with
  | nil => rfl
  | cons f files ih =>
      rw [List.forall_mem_cons] at hnames hfiles
      rw [List.map_cons, List.nodup_cons] at hnodup
      obtain ⟨g, hg⟩ := hfiles.1
      have hremove := FileTree.remove_of_canChange hlocate hchange hnames.1 hg
      have hfirst : removeOne dir state f = (state.1 + 1, state.2.erase (here ++ [f.name])) := by
        rw [removeOne, hremove]
      have hloses := loses_removeOne dir state hnames.1
      rw [FileTree.resolve_of_locate hlocate] at hloses
      have hrest := ih hnames.2 hnodup.2 (removeOne dir state f)
        (hloses.keepsDirectories.locate hlocate)
        (FileTree.canChange_of_entry?_eq hchange hloses.keepsDirectories) (by
          intro other hother
          obtain ⟨g', hg'⟩ := hfiles.2 other hother
          have hne : other.name ∉ [f.name] := by
            rw [List.mem_singleton]
            exact fun heq => hnodup.1 (heq ▸ List.mem_map_of_mem hother)
          exact ⟨g', by rw [hloses.entry?_of_notMem hne, hg']⟩)
      rw [List.foldl_cons, hrest, hfirst, List.length_cons]
      omega

/-- The logs that stay when a number of them is kept: the first of the listing, and the log itself
wherever it stands. -/
def kept (log : SessionLog) (max : Nat) (listing : List SessionFile) : List SessionFile :=
  listing.take max ++ (listing.drop max).filter fun f => f.name = log.id.fileName

theorem mem_kept (hnodup : listing.Nodup) {max : Nat} {f : SessionFile} :
    f ∈ log.kept max listing ↔ f ∈ listing ∧ f ∉ log.surplus max listing := by
  have hsplit : f ∈ listing ↔ f ∈ listing.take max ∨ f ∈ listing.drop max := by
    rw [← List.mem_append, List.take_append_drop]
  have hdisjoint : f ∈ listing.take max → f ∉ listing.drop max :=
    fun htake hdrop => List.disjoint_take_drop hnodup le_rfl htake hdrop
  rw [kept, mem_surplus, List.mem_append, List.mem_filter, decide_eq_true_iff]
  tauto

/-- What goes at the second time has a rank beyond the smaller number, unless it has gone at the
first. -/
theorem mem_surplus_or_mem_surplus_kept (a b : Nat) {f : SessionFile} :
    f ∈ log.surplus a listing ∨ f ∈ log.surplus b (log.kept a listing) ↔
      f ∈ log.surplus (min a b) listing := by
  have hown : f.name ≠ log.id.fileName →
      (f ∈ (log.kept a listing).drop b ↔ f ∈ (listing.drop b).take (a - b)) := by
    intro hne
    rw [kept, List.drop_append, List.mem_append, List.drop_take, or_iff_left]
    intro hmem
    exact hne (of_decide_eq_true (List.mem_filter.mp (List.mem_of_mem_drop hmem)).2)
  have hranks : f ∈ listing.drop a ∨ f ∈ (listing.drop b).take (a - b) ↔
      f ∈ listing.drop (min a b) := by
    rcases Nat.le_total a b with hab | hba
    · simp [hab]
    · rw [min_eq_right hba, ← List.take_append_drop (a - b) (listing.drop b), List.mem_append,
        List.take_append_drop, List.drop_drop, Nat.add_sub_cancel' hba, or_comm]
  simp only [mem_surplus]
  by_cases hne : f.name = log.id.fileName
  · simp [hne]
  · rw [hown hne, ← hranks]
    tauto

theorem surplus_kept_self (hnodup : listing.Nodup) (max : Nat) :
    log.surplus max (log.kept max listing) = [] := by
  rw [List.eq_nil_iff_forall_not_mem]
  intro f hf
  have hmem : f ∈ log.surplus max listing := by
    rw [← min_self max, ← mem_surplus_or_mem_surplus_kept]
    exact Or.inr hf
  exact ((mem_kept hnodup).mp (List.mem_of_mem_drop (mem_surplus.mp hf).1)).2 hmem

structure IsListed (t : FileTree) (dir : Path) (listing : List SessionFile) : Prop where
  readable : ∃ mode, t.find dir = .ok (.directory mode) ∧ Mode.canRead mode = true
  newestFirst : IsNewestFirst t (t.resolve dir) listing
  isFileName : ∀ {name f}, t.entry? (t.resolve dir ++ [name]) = some (.file f) → Path.IsFileName name

namespace IsListed

variable {dir : Path}

theorem list_eq (h : IsListed t dir listing) (hchange : t.canChange (t.resolve dir) = true) :
    SessionFile.list dir t = .ok listing := by
  obtain ⟨mode, hfind, hread⟩ := h.readable
  obtain ⟨found, hlist, hfound⟩ :=
    SessionFile.exists_list hfind hread (FileTree.canEnter_of_canChange hchange hfind)
  rw [hlist, hfound.unique h.newestFirst]

theorem list_eq_or (h : IsListed t dir listing) :
    SessionFile.list dir t = .ok listing ∨ SessionFile.list dir t = .ok [] := by
  obtain ⟨mode, hfind, hread⟩ := h.readable
  by_cases henter : Mode.canEnter mode = true
  · obtain ⟨found, hlist, hfound⟩ := SessionFile.exists_list hfind hread henter
    exact Or.inl (by rw [hlist, hfound.unique h.newestFirst])
  · right
    have hcontains : t.contains dir = true := by simp [FileTree.contains, hfind]
    simp [SessionFile.list, hcontains, FileTree.files_of_find hfind, hread, henter, bind,
      Except.bind, pure, Except.pure]

theorem isFileName_of_mem (h : IsListed t dir listing) {f : SessionFile} (hf : f ∈ listing) :
    Path.IsFileName f.name ∧ ∃ g, t.entry? (t.resolve dir ++ [f.name]) = some (.file g) := by
  obtain ⟨-, g, hg, -⟩ := (h.newestFirst.mem_iff f).mp hf
  exact ⟨h.isFileName hg, g, hg⟩

theorem prune_of_surplus_eq_nil (h : IsListed t log.dir listing) {max : Nat}
    (hnone : log.surplus max listing = []) : log.prune max t = (0, t) := by
  rcases h.list_eq_or with hlist | hlist
  · rw [prune_of_list hlist, hnone, List.foldl_nil]
  · rw [prune_of_list hlist, surplus, List.drop_nil, List.filter_nil, List.foldl_nil]

end IsListed

/-- The removal of old logs: those of the given list are gone, their number is known, and all else is as
it was. -/
structure Pruned (t : FileTree) (here : Location) (files : List SessionFile)
    (result : Nat × FileTree) : Prop where
  count : result.1 = files.length
  keepsDirectories : FileTree.KeepsDirectories t result.2
  entry? : ∀ l, FileTree.entry? result.2 l =
    if ∃ f ∈ files, l = here ++ [f.name] then none else t.entry? l

theorem Pruned.entry?_eq {first second both : List SessionFile} {r s r' : Nat × FileTree}
    (h : Pruned t here first r) (k : Pruned r.2 here second s) (hall : Pruned t here both r')
    (hboth : ∀ f, f ∈ first ∨ f ∈ second ↔ f ∈ both) (l : Location) :
    FileTree.entry? s.2 l = FileTree.entry? r'.2 l := by
  have hgone : (∃ f ∈ both, l = here ++ [f.name]) ↔
      (∃ f ∈ second, l = here ++ [f.name]) ∨ ∃ f ∈ first, l = here ++ [f.name] := by
    simp only [← hboth, or_and_right, exists_or]
    exact or_comm
  rw [k.entry?, h.entry?, hall.entry?, ← ite_or]
  exact if_congr hgone.symm rfl rfl

/-- The logs to be removed stand in a directory that can be changed, if there are any. -/
theorem pruned_prune (h : IsListed t log.dir listing) {max : Nat}
    (hchange : log.surplus max listing ≠ [] → t.canChange (t.resolve log.dir) = true) :
    Pruned t (t.resolve log.dir) (log.surplus max listing) (log.prune max t) := by
  by_cases hnone : log.surplus max listing = []
  · rw [h.prune_of_surplus_eq_nil hnone, hnone]
    exact ⟨rfl, (FileTree.Loses.refl t [] []).keepsDirectories, fun l => by simp⟩
  have hchange := hchange hnone
  obtain ⟨mode, hfind, -⟩ := h.readable
  have hlocate := FileTree.locate_of_find hfind
  have hmem : ∀ f ∈ log.surplus max listing, f ∈ listing :=
    fun f hf => List.mem_of_mem_drop (mem_surplus.mp hf).1
  have hnames : ∀ f ∈ log.surplus max listing, Path.IsFileName f.name :=
    fun f hf => (h.isFileName_of_mem (hmem f hf)).1
  have hfiles : ∀ f ∈ log.surplus max listing,
      ∃ g, t.entry? (t.resolve log.dir ++ [f.name]) = some (.file g) :=
    fun f hf => (h.isFileName_of_mem (hmem f hf)).2
  have hnodup : ((log.surplus max listing).map SessionFile.name).Nodup :=
    ((List.filter_sublist.trans (List.drop_sublist _ _)).map _).nodup h.newestFirst.nodup_names
  have hloses := loses_foldl_removeOne log.dir hnames (0, t)
  rw [prune_of_list (h.list_eq hchange)]
  refine ⟨?_, hloses.keepsDirectories, fun l => ?_⟩
  · rw [fst_foldl_removeOne hnames hnodup (0, t) hlocate hchange hfiles, Nat.zero_add]
  · split
    · rename_i hgone
      obtain ⟨f, hf, rfl⟩ := hgone
      exact entry?_foldl_removeOne hnames (0, t) hlocate hchange
        (fun f hf mode => by obtain ⟨g, hg⟩ := hfiles f hf; simp [hg]) f hf
    · rename_i hstays
      refine (hloses.entry l).resolve_right ?_
      rintro ⟨⟨name, hname, rfl⟩, -⟩
      obtain ⟨f, hf, rfl⟩ := List.mem_map.mp hname
      exact hstays ⟨f, hf, rfl⟩

theorem IsListed.kept (h : IsListed t log.dir listing) {max : Nat} {result : Nat × FileTree}
    (hpruned : Pruned t (t.resolve log.dir) (log.surplus max listing) result) :
    IsListed result.2 log.dir (log.kept max listing) := by
  have hplace := hpruned.keepsDirectories.resolve log.dir
  have hgone : ∀ s ∈ listing, ((∃ f ∈ log.surplus max listing,
      t.resolve log.dir ++ [s.name] = t.resolve log.dir ++ [f.name]) ↔
        s ∈ log.surplus max listing) := by
    intro s hs
    constructor
    · rintro ⟨f, hf, heq⟩
      have hname : s.name = f.name := by simpa using heq
      have hmem := List.mem_of_mem_drop (mem_surplus.mp hf).1
      exact h.newestFirst.eq_of_name_eq hs hmem hname ▸ hf
    · exact fun hmem => ⟨s, hmem, rfl⟩
  constructor
  · obtain ⟨mode, hfind, hread⟩ := h.readable
    exact ⟨mode, hpruned.keepsDirectories.find hfind, hread⟩
  · rw [hplace]
    constructor
    · refine h.newestFirst.sorted.sublist ?_
      conv_rhs => rw [← List.take_append_drop max listing]
      exact (List.Sublist.refl _).append List.filter_sublist
    · intro s
      rw [mem_kept h.newestFirst.nodup, hpruned.entry?]
      constructor
      · rintro ⟨hs, hstays⟩
        rw [if_neg ((hgone s hs).not.mpr hstays)]
        exact (h.newestFirst.mem_iff s).mp hs
      · rintro ⟨hlog, f, hf, heq⟩
        split at hf
        · simp at hf
        · rename_i hstays
          have hs := (h.newestFirst.mem_iff s).mpr ⟨hlog, f, hf, heq⟩
          exact ⟨hs, (hgone s hs).not.mp hstays⟩
  · intro name f hf
    rw [hplace, hpruned.entry?] at hf
    split at hf
    · simp at hf
    · exact h.isFileName hf

theorem Pruned.ncard_gone (h : IsListed t log.dir listing) {max : Nat} {result : Nat × FileTree}
    (hpruned : Pruned t (t.resolve log.dir) (log.surplus max listing) result) :
    result.1 = {l | t.entry? l ≠ none ∧ FileTree.entry? result.2 l = none}.ncard := by
  let gone := (log.surplus max listing).map fun f => t.resolve log.dir ++ [f.name]
  have hmem : ∀ f ∈ log.surplus max listing, f ∈ listing :=
    fun f hf => List.mem_of_mem_drop (mem_surplus.mp hf).1
  have hset : {l | t.entry? l ≠ none ∧ FileTree.entry? result.2 l = none} = {l | l ∈ gone} := by
    ext l
    simp only [Set.mem_ofPred_eq, hpruned.entry?, gone, List.mem_map]
    constructor
    · rintro ⟨hthere, hnone⟩
      split at hnone
      · rename_i hgone
        obtain ⟨f, hf, rfl⟩ := hgone
        exact ⟨f, hf, rfl⟩
      · exact absurd hnone hthere
    · rintro ⟨f, hf, rfl⟩
      obtain ⟨-, g, hg⟩ := h.isFileName_of_mem (hmem f hf)
      exact ⟨by simp [hg], if_pos ⟨f, hf, rfl⟩⟩
  have hnodup : gone.Nodup := by
    have hlogs : (log.surplus max listing).Nodup :=
      (List.filter_sublist.trans (List.drop_sublist _ _)).nodup h.newestFirst.nodup
    refine hlogs.map_on fun f hf g hg heq => ?_
    exact h.newestFirst.eq_of_name_eq (hmem f hf) (hmem g hg) (by simpa using heq)
  rw [hset, ← List.coe_toFinset, Set.ncard_coe_finset, List.toFinset_card_of_nodup hnodup,
    List.length_map, hpruned.count]

def CanRemove (log : SessionLog) (t : FileTree) (files : List SessionFile) : Prop :=
  ∀ f ∈ files, f.name ≠ log.id.fileName → ∃ u, t.remove (log.dir.join f.name) = .ok u

theorem CanRemove.canChange (h : IsListed t log.dir listing) {max : Nat}
    (hremove : log.CanRemove t (listing.drop max)) (hsome : log.surplus max listing ≠ []) :
    t.canChange (t.resolve log.dir) = true := by
  obtain ⟨f, hf⟩ := List.exists_mem_of_ne_nil _ hsome
  obtain ⟨hdrop, hne⟩ := mem_surplus.mp hf
  obtain ⟨u, hu⟩ := hremove f hdrop hne
  exact FileTree.canChange_of_remove_eq_ok (h.isFileName_of_mem (List.mem_of_mem_drop hdrop)).1 hu

/-- Of the logs of a directory that can be listed, exactly those go that have a rank from the given
number on, except the log itself, if each of them can be removed. All else stays as it is, and the number
of removals is told. Removing down to one number and then to another is removing down to the smaller one,
so that nothing is left to be removed a second time. Where a directory cannot be listed, nothing
happens. -/
theorem prune_removes_surplus (log : SessionLog) (t : FileTree) (hnamed : t.IsNamed) {mode : Nat}
    (hfind : t.find log.dir = .ok (.directory mode)) :
    let here := t.resolve log.dir
    (Mode.canRead mode = true → ∀ listing, IsNewestFirst t here listing →
      (∀ m, log.CanRemove t (listing.drop m) →
        (∀ l, FileTree.entry? (log.prune m t).2 l =
          if ∃ f ∈ listing.drop m, f.name ≠ log.id.fileName ∧ l = here ++ [f.name] then none
          else t.entry? l) ∧
        (log.prune m t).1 =
          {l | t.entry? l ≠ none ∧ FileTree.entry? (log.prune m t).2 l = none}.ncard ∧
        log.prune m (log.prune m t).2 = (0, (log.prune m t).2)) ∧
      (∀ a b, log.CanRemove t (listing.drop (min a b)) → ∀ l,
        FileTree.entry? (log.prune b (log.prune a t).2).2 l =
          FileTree.entry? (log.prune (min a b) t).2 l)) ∧
    (Mode.canRead mode = false → ∀ m, log.prune m t = (0, t)) := by
  intro here
  refine ⟨fun hread listing hlisting => ?_, fun hread => prune_of_not_canRead hfind hread⟩
  · have h : IsListed t log.dir listing := ⟨⟨mode, hfind, hread⟩, hlisting, hnamed.isFileName⟩
    refine ⟨fun m hremove => ?_, fun a b hremove l => ?_⟩
    · have hpruned := pruned_prune h fun hsome => CanRemove.canChange h hremove hsome
      refine ⟨fun l => ?_, hpruned.ncard_gone h, ?_⟩
      · rw [hpruned.entry?]
        simp only [mem_surplus, and_assoc]
        rfl
      · exact (h.kept hpruned).prune_of_surplus_eq_nil (surplus_kept_self hlisting.nodup m)
    · -- Either removal takes away only logs that go at once when fewer are kept.
      have hchange : ∀ f ∈ log.surplus (min a b) listing, t.canChange here = true :=
        fun f hf => CanRemove.canChange h hremove (List.ne_nil_of_mem hf)
      have hboth : ∀ f, f ∈ log.surplus a listing ∨ f ∈ log.surplus b (log.kept a listing) ↔
          f ∈ log.surplus (min a b) listing := fun f => mem_surplus_or_mem_surplus_kept a b
      have hmin := pruned_prune h (CanRemove.canChange h hremove)
      have hfirst : Pruned t here (log.surplus a listing) (log.prune a t) := by
        refine pruned_prune h fun hsome => ?_
        obtain ⟨f, hf⟩ := List.exists_mem_of_ne_nil _ hsome
        exact hchange f ((hboth f).mp (Or.inl hf))
      have hplace := hfirst.keepsDirectories.resolve log.dir
      have hsecond : Pruned (log.prune a t).2 (FileTree.resolve (log.prune a t).2 log.dir)
          (log.surplus b (log.kept a listing)) (log.prune b (log.prune a t).2) := by
        refine pruned_prune (h.kept hfirst) fun hsome => ?_
        obtain ⟨f, hf⟩ := List.exists_mem_of_ne_nil _ hsome
        rw [hplace]
        exact FileTree.canChange_of_entry?_eq (hchange f ((hboth f).mp (Or.inr hf)))
          hfirst.keepsDirectories
      rw [hplace] at hsecond
      exact hfirst.entry?_eq hsecond hmin hboth l

def earlierLog : SessionLog where
  id := ⟨"20250101-000000"⟩
  dir := ⟨"/logs"⟩

theorem canRemove_oldLogs {mode : Nat} (hchange : (oldLogs mode).canChange ["logs"] = true)
    (hlocate : (oldLogs mode).locate earlierLog.dir = .ok ["logs"]) (m : Nat) :
    earlierLog.CanRemove (oldLogs mode) (oldListing.drop m) := by
  intro f hf _
  obtain ⟨-, g, hg, -⟩ := ((isNewestFirst_oldLogs mode).mem_iff f).mp (List.mem_of_mem_drop hf)
  have hname : Path.IsFileName f.name := by
    rcases entry?_oldLogs_eq_file_iff.mp hg with ⟨hname, -⟩ | ⟨hname | hname, -⟩ <;>
      · rw [hname]
        decide
  exact ⟨_, FileTree.remove_of_canChange hlocate hchange hname hg⟩

theorem oldest_own_log_stays :
    let t := oldLogs Mode.newDirectory
    t.IsNamed ∧ t.find earlierLog.dir = .ok (.directory Mode.newDirectory) ∧
      Mode.canRead Mode.newDirectory = true ∧ IsNewestFirst t ["logs"] oldListing ∧
      earlierLog.CanRemove t (oldListing.drop 0) ∧
      FileTree.entry? (earlierLog.prune 0 t).2 ["logs", "20250102-030405.log"] = none ∧
      FileTree.entry? (earlierLog.prune 0 t).2 ["logs", "20250101-000000.log"] =
        t.entry? ["logs", "20250101-000000.log"] ∧
      ∀ l, FileTree.entry? (earlierLog.prune 0 (earlierLog.prune 1 t).2).2 l =
        FileTree.entry? (earlierLog.prune 0 t).2 l := by
  intro t
  have hnamed : t.IsNamed := by decide +kernel
  have hfind : t.find earlierLog.dir = .ok (.directory Mode.newDirectory) := by decide +kernel
  have hplace : t.resolve earlierLog.dir = ["logs"] := by decide +kernel
  have hlisting : IsNewestFirst t ["logs"] oldListing := isNewestFirst_oldLogs _
  have hremove : earlierLog.CanRemove t (oldListing.drop 0) :=
    canRemove_oldLogs (by decide +kernel) (by decide +kernel) 0
  obtain ⟨hranks, htwice⟩ := (prune_removes_surplus earlierLog t hnamed hfind).1 (by decide)
    oldListing (hplace.symm ▸ hlisting)
  obtain ⟨hentry, -, -⟩ := hranks 0 hremove
  rw [hplace] at hentry
  refine ⟨hnamed, hfind, by decide, hlisting, hremove, ?_, ?_, htwice 1 0 hremove⟩
  · exact (hentry _).trans (if_pos (by decide +kernel))
  · exact (hentry _).trans (if_neg (by decide +kernel))

/-- In a directory that can be changed but not listed, a log stays although its rank is beyond the number
to be kept and it could be removed. -/
theorem unlisted_surplus_stays :
    let t := oldLogs 0o333
    IsNewestFirst t ["logs"] oldListing ∧ earlierLog.CanRemove t (oldListing.drop 0) ∧
      earlierLog.prune 0 t = (0, t) ∧
      ¬∀ l, FileTree.entry? (earlierLog.prune 0 t).2 l =
        if ∃ f ∈ oldListing.drop 0, f.name ≠ earlierLog.id.fileName ∧ l = ["logs"] ++ [f.name]
        then none else t.entry? l := by
  intro t
  have hfind : t.find earlierLog.dir = .ok (.directory 0o333) := by decide +kernel
  have hprune : earlierLog.prune 0 t = (0, t) := prune_of_not_canRead hfind (by decide) 0
  refine ⟨isNewestFirst_oldLogs _, canRemove_oldLogs (by decide +kernel) (by decide +kernel) 0,
    hprune, fun hall => ?_⟩
  have hgone := hall ["logs", "20250102-030405.log"]
  rw [hprune, if_pos (by decide +kernel)] at hgone
  exact absurd hgone (by decide +kernel)

end SessionLog

end Logbook
