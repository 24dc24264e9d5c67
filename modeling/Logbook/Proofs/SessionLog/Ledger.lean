import Mathlib.Tactic
import Logbook.Record
import Logbook.SessionId

/-!
Interleaved actions on several session logs, and the ledger of what they write: which log writes which
tag and text, in order. Logs of the same second have one file, and the ledger of a file is that of all its
logs.
-/

namespace Logbook

/-- What is done with session logs. They are numbered from zero, in the order of their starts. -/
inductive LogAction where
  | start (session now : Instant)
  | append (log : Nat) (now : Instant) (tag text : String)
  /-- The log is ended, and then goes out of use as it would without being ended. -/
  | close (log : Nat) (now : Instant)
  /-- The log goes out of use. -/
  | drop (log : Nat) (now : Instant)

namespace LogAction

def log? : LogAction → Option Nat
  | start _ _ => none
  | append k _ _ _ | close k _ | drop k _ => some k

def ends (k : Nat) : LogAction → Bool
  | close n _ | drop n _ => n == k
  | start _ _ | append _ _ _ _ => false

def starts? : LogAction → Option SessionId
  | start session _ => some (SessionId.ofInstant session)
  | append _ _ _ _ | close _ _ | drop _ _ => none

def adds? (k : Nat) : LogAction → Option (String × String)
  | append n _ tag text => if n = k then some (tag, text) else none
  | start _ _ | close _ _ | drop _ _ => none

def sessions (as : List LogAction) : List SessionId :=
  as.filterMap starts?

/-- The session of the log that an action starts or is done with, when others came before it. -/
def session? (before : List LogAction) : LogAction → Option SessionId
  | start session _ => some (SessionId.ofInstant session)
  | append k _ _ _ | close k _ | drop k _ => (sessions before)[k]?

/-- What an action writes when others came before it, and for which log. A log is ended once. -/
def writes? (before : List LogAction) : LogAction → Option (Nat × String × String)
  | start _ _ => some ((sessions before).length, Tag.session, "start")
  | append k _ tag text => some (k, tag, text)
  | close k _ | drop k _ =>
      if before.any (ends k) then none else some (k, Tag.session, "end")

/-- What actions write when others came before them. -/
def writtenAfter : List LogAction → List LogAction → List (Nat × String × String)
  | _, [] => []
  | before, a :: as => (writes? before a).toList ++ writtenAfter (before ++ [a]) as

def written (as : List LogAction) : List (Nat × String × String) :=
  writtenAfter [] as

def writtenBy (k : Nat) (as : List LogAction) : List (String × String) :=
  (written as).filterMap fun w => if w.1 = k then some w.2 else none

def writtenTo (id : SessionId) (as : List LogAction) : List (String × String) :=
  (written as).filterMap fun w => if (sessions as)[w.1]? = some id then some w.2 else none

theorem sessions_concat (as : List LogAction) (a : LogAction) :
    sessions (as ++ [a]) = sessions as ++ a.starts?.toList := by
  simp only [sessions, List.filterMap_append]
  cases h : a.starts? <;> simp [h]

theorem exists_of_mem_sessions {id : SessionId} {as : List LogAction} (h : id ∈ sessions as) :
    ∃ session now, start session now ∈ as ∧ SessionId.ofInstant session = id := by
  obtain ⟨a, ha, hid⟩ := List.mem_filterMap.mp h
  cases a with
  | start session now => exact ⟨session, now, ha, Option.some.inj hid⟩
  | append k now tag text | close k now | drop k now => simp [starts?] at hid

theorem writtenAfter_concat (before as : List LogAction) (a : LogAction) :
    writtenAfter before (as ++ [a]) =
      writtenAfter before as ++ (writes? (before ++ as) a).toList := by
  induction as generalizing before with
  | nil => simp [writtenAfter]
  | cons b as ih => simp [writtenAfter, ih]

theorem written_concat (as : List LogAction) (a : LogAction) :
    written (as ++ [a]) = written as ++ (writes? as a).toList :=
  writtenAfter_concat [] as a

theorem writtenBy_concat (k : Nat) (as : List LogAction) (a : LogAction) :
    writtenBy k (as ++ [a]) =
      writtenBy k as ++
        (writes? as a).toList.filterMap fun w => if w.1 = k then some w.2 else none := by
  rw [writtenBy, written_concat, List.filterMap_append]
  rfl

theorem writtenTo_eq_nil {id : SessionId} {as : List LogAction} (h : id ∉ sessions as) :
    writtenTo id as = [] := by
  rw [writtenTo, List.filterMap_eq_nil_iff]
  intro w _
  rw [if_neg]
  intro hrow
  exact h (List.mem_of_getElem? hrow)

/-- Actions name only logs that have been started. -/
structure Numbered (as : List LogAction) : Prop where
  actions : ∀ a ∈ as, ∀ k, a.log? = some k → k < (sessions as).length
  rows : ∀ w ∈ written as, w.1 < (sessions as).length

namespace Numbered

variable {as : List LogAction} {a : LogAction}

theorem nil : Numbered [] :=
  ⟨by simp, by simp [written, writtenAfter]⟩

theorem concat (h : Numbered as) (ha : ∀ k, a.log? = some k → k < (sessions as).length) :
    Numbered (as ++ [a]) := by
  have hle : (sessions as).length ≤ (sessions (as ++ [a])).length := by
    simp [sessions_concat]
  constructor
  · intro b hb k hk
    rw [List.mem_append, List.mem_singleton] at hb
    rcases hb with hb | rfl
    · exact (h.actions b hb k hk).trans_le hle
    · exact (ha k hk).trans_le hle
  · intro w hw
    rw [written_concat, List.mem_append, Option.mem_toList] at hw
    rcases hw with hw | hw
    · exact (h.rows w hw).trans_le hle
    · cases a with
      | start session now =>
          obtain rfl : ((sessions as).length, Tag.session, "start") = w := by simpa [writes?] using hw
          simp [sessions_concat, starts?]
      | append k now tag text =>
          obtain rfl : (k, tag, text) = w := by simpa [writes?] using hw
          exact (ha k rfl).trans_le hle
      | close k now | drop k now =>
          obtain ⟨-, rfl⟩ : _ ∧ (k, Tag.session, "end") = w := by simpa [writes?] using hw
          exact (ha k rfl).trans_le hle

theorem ends_eq_false (h : Numbered as) {k : Nat} (hk : (sessions as).length ≤ k) :
    as.any (ends k) = false := by
  rw [List.any_eq_false]
  intro b hb hends
  cases b with
  | start session now | append n now tag text => simp [ends] at hends
  | close n now | drop n now =>
      have hn : n = k := by simpa [ends] using hends
      exact absurd (h.actions _ hb n rfl) (by omega)

theorem adds?_eq_nil (h : Numbered as) {k : Nat} (hk : (sessions as).length ≤ k) :
    as.filterMap (adds? k) = [] := by
  rw [List.filterMap_eq_nil_iff]
  intro b hb
  cases b with
  | start session now | close n now | drop n now => rfl
  | append n now tag text =>
      have hn := h.actions _ hb n rfl
      simp [adds?, show n ≠ k by omega]

theorem writtenBy_eq_nil (h : Numbered as) {k : Nat} (hk : (sessions as).length ≤ k) :
    writtenBy k as = [] := by
  rw [writtenBy, List.filterMap_eq_nil_iff]
  intro w hw
  have hlt := h.rows w hw
  simp [show w.1 ≠ k by omega]

theorem writtenTo_concat (h : Numbered as) (id : SessionId) (a : LogAction) :
    writtenTo id (as ++ [a]) =
      writtenTo id as ++ (writes? as a).toList.filterMap fun w =>
        if (sessions (as ++ [a]))[w.1]? = some id then some w.2 else none := by
  rw [writtenTo, written_concat, List.filterMap_append, writtenTo]
  congr 1
  apply List.filterMap_congr
  intro w hw
  rw [sessions_concat, List.getElem?_append_left (h.rows w hw)]

theorem writtenTo_concat_of_writes? (h : Numbered as) {k : Nat} {e : String × String}
    (hwrites : writes? as a = some (k, e)) {id : SessionId}
    (hk : (sessions (as ++ [a]))[k]? = some id) (other : SessionId) :
    writtenTo other (as ++ [a]) = writtenTo other as ++ if other = id then [e] else [] := by
  rw [h.writtenTo_concat, hwrites]
  by_cases hother : other = id
  · simp [hk, hother]
  · simp [hk, hother, Ne.symm hother]

theorem writtenTo_concat_of_writes?_eq_none (h : Numbered as) (hwrites : writes? as a = none)
    (id : SessionId) : writtenTo id (as ++ [a]) = writtenTo id as := by
  rw [h.writtenTo_concat, hwrites]
  simp

end Numbered

/-- What one log contributes: its start, what is added to it, and one end if it has ended. -/
def contribution (k : Nat) (as : List LogAction) : List (String × String) :=
  (Tag.session, "start") :: as.filterMap (adds? k) ++
    if as.any (ends k) then [(Tag.session, "end")] else []

theorem contribution_concat (k : Nat) (as : List LogAction) (a : LogAction) :
    contribution k (as ++ [a]) =
      (Tag.session, "start") :: (as.filterMap (adds? k) ++ (adds? k a).toList) ++
        if as.any (ends k) || ends k a then [(Tag.session, "end")] else [] := by
  rw [contribution, List.filterMap_append, List.any_append]
  cases h : adds? k a <;> simp [h]

/-- Every log contributes its start, its records and at most one end, if nothing is added after the
end. -/
theorem writtenBy_concat_eq_contribution {as : List LogAction} {a : LogAction} (h : Numbered as)
    (hbefore : ∀ k < (sessions as).length, writtenBy k as = contribution k as)
    (hopen : ∀ {k now tag text}, a = append k now tag text → as.any (ends k) = false) {k : Nat}
    (hk : k < (sessions (as ++ [a])).length) :
    writtenBy k (as ++ [a]) = contribution k (as ++ [a]) := by
  rw [writtenBy_concat, contribution_concat]
  cases a with
  | start session now =>
      simp only [sessions_concat, starts?, Option.toList_some, List.length_append,
        List.length_singleton] at hk
      by_cases hnew : k = (sessions as).length
      · rw [h.writtenBy_eq_nil hnew.ge, h.adds?_eq_nil hnew.ge, h.ends_eq_false hnew.ge]
        simp [writes?, adds?, ends, hnew]
      · rw [hbefore k (by omega), contribution]
        simp [writes?, adds?, ends, Ne.symm hnew]
  | append n now tag text =>
      have hlt : k < (sessions as).length := by simpa [sessions_concat, starts?] using hk
      rw [hbefore k hlt, contribution]
      by_cases hn : n = k
      · subst hn
        simp [writes?, adds?, ends, hopen rfl]
      · simp [writes?, adds?, ends, hn]
  | close n now | drop n now =>
      have hlt : k < (sessions as).length := by simpa [sessions_concat, starts?] using hk
      rw [hbefore k hlt, contribution]
      by_cases hn : n = k
      · subst hn
        cases hended : as.any (ends n) <;> simp [writes?, adds?, ends, hended]
      · cases as.any (ends n) <;> simp [writes?, adds?, ends, hn]

end LogAction

end Logbook
