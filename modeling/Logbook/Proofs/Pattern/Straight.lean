import Mathlib.Data.List.TakeWhile
import Mathlib.Tactic
import Logbook.Pattern.Match

/-!
Programs that neither fork nor look around. Such a program matches where it can take characters one after
another and then accept; carrying all ways to match along loses none of them.
-/

namespace Logbook.Pattern.Program

/-- From an instruction on, the program takes the characters and then accepts. -/
inductive Takes (p : Program) : Nat → List Char → Prop where
  | accept {n : Nat} : p.code[n]? = some .accept → Takes p n []
  | take {n next : Nat} {s : CharSet} {c : Char} {cs : List Char} :
      p.code[n]? = some (.take s next) → s.contains c = true → Takes p next cs → Takes p n (c :: cs)

/-- Every instruction takes a character or accepts. -/
def IsStraight (p : Program) : Prop :=
  ∀ (n : Nat) (i : Instruction), p.code[n]? = some i → i = .accept ∨ ∃ s next, i = .take s next

variable {p : Program}

theorem Takes.lt_size {n : Nat} {cs : List Char} (h : p.Takes n cs) : n < p.code.size := by
  cases h with
  | accept hcode => exact (Array.getElem?_eq_some_iff.mp hcode).1
  | take hcode => exact (Array.getElem?_eq_some_iff.mp hcode).1

theorem takes_nil_iff {n : Nat} : p.Takes n [] ↔ p.code[n]? = some .accept := by
  constructor
  · rintro ⟨hcode⟩
    exact hcode
  · exact Takes.accept

theorem takes_cons_iff {n : Nat} {c : Char} {cs : List Char} :
    p.Takes n (c :: cs) ↔
      ∃ s next, p.code[n]? = some (.take s next) ∧ s.contains c = true ∧ p.Takes next cs := by
  constructor
  · intro h
    cases h with
    | take hcode hc hrest => exact ⟨_, _, hcode, hc, hrest⟩
  · rintro ⟨s, next, hcode, hc, hrest⟩
    exact Takes.take hcode hc hrest

section Reaching

variable (before after : Option Char)

/-- What has been marked are the instructions of the threads, and all numbers that are no instruction's. -/
structure IsMarked (p : Program) (r : Reached) : Prop where
  size_seen : r.seen.size = p.code.size
  seen_iff : ∀ n, r.seen.getD n true = true ↔ p.code.size ≤ n ∨ n ∈ r.threads.map Thread.node

theorem isMarked_start (p : Program) : p.IsMarked ⟨Array.replicate p.code.size false, []⟩ where
  size_seen := by simp
  seen_iff := by
    intro n
    rw [Array.getD_eq_getD_getElem?, Array.getElem?_replicate]
    split <;> simp <;> omega

theorem IsMarked.mark {r : Reached} (hr : p.IsMarked r) {n : Nat} (hn : n < p.code.size) (start : Nat) :
    p.IsMarked ⟨r.seen.setIfInBounds n true, ⟨n, start⟩ :: r.threads⟩ where
  size_seen := by simpa using hr.size_seen
  seen_iff := by
    intro m
    have hold := hr.seen_iff m
    rw [Array.getD_eq_getD_getElem?] at hold ⊢
    rw [Array.getElem?_setIfInBounds]
    by_cases hm : n = m
    · subst hm
      simp [hr.size_seen, hn]
    · rw [if_neg hm, hold, List.map_cons, List.mem_cons]
      simp [Ne.symm hm]

theorem follow_of_seen {r : Reached} {n : Nat} (h : r.seen.getD n true = true) (start fuel : Nat) :
    p.follow before after start (fuel + 2) [n] r = r := by
  simp [follow, h]

theorem follow_of_not_seen (hp : p.IsStraight) {r : Reached} {n : Nat} (h : r.seen.getD n true = false)
    (hn : n < p.code.size) (start fuel : Nat) :
    p.follow before after start (fuel + 2) [n] r =
      ⟨r.seen.setIfInBounds n true, ⟨n, start⟩ :: r.threads⟩ := by
  have hcode := Array.getElem?_eq_getElem hn
  rcases hp n _ hcode with haccept | ⟨s, next, htake⟩
  · simp [follow, h, hcode, haccept]
  · simp [follow, h, hcode, htake]

/-- Following a seed adds its instruction to those that are reached, and nothing else. -/
theorem follow_reaches (hp : p.IsStraight) {r : Reached} (hr : p.IsMarked r) (start fuel n : Nat) :
    let next := p.follow before after start (fuel + 2) [n] r
    p.IsMarked next ∧ ∀ m, m ∈ next.threads.map Thread.node ↔
      m ∈ r.threads.map Thread.node ∨ m < p.code.size ∧ m = n := by
  intro next
  by_cases hseen : r.seen.getD n true = true
  · have hnext : next = r := follow_of_seen before after hseen start fuel
    rw [hnext]
    refine ⟨hr, fun m => ⟨Or.inl, ?_⟩⟩
    rintro (hm | ⟨hlt, rfl⟩)
    · exact hm
    · exact ((hr.seen_iff m).mp hseen).resolve_left (by omega)
  · have hn : n < p.code.size := by
      by_contra hge
      exact hseen ((hr.seen_iff n).mpr (Or.inl (by omega)))
    have hnext : next = ⟨r.seen.setIfInBounds n true, ⟨n, start⟩ :: r.threads⟩ :=
      follow_of_not_seen before after hp (by simpa using hseen) hn start fuel
    rw [hnext]
    refine ⟨hr.mark hn start, fun m => ?_⟩
    have hm : m = n ↔ m < p.code.size ∧ m = n := ⟨fun heq => ⟨heq ▸ hn, heq⟩, And.right⟩
    rw [List.map_cons, List.mem_cons, ← hm, or_comm]

theorem foldl_follow_reaches (hp : p.IsStraight) (seeds : List Thread) {r : Reached} (hr : p.IsMarked r)
    (fuel : Nat) :
    let last := seeds.foldl (fun r t => p.follow before after t.start (fuel + 2) [t.node] r) r
    p.IsMarked last ∧ ∀ m, m ∈ last.threads.map Thread.node ↔
      m ∈ r.threads.map Thread.node ∨ m < p.code.size ∧ m ∈ seeds.map Thread.node := by
  induction seeds generalizing r with
  | nil => simp [hr]
  | cons t seeds ih =>
      obtain ⟨hmarked, hadded⟩ :=
        follow_reaches before after hp hr t.start fuel t.node
      obtain ⟨hlast, hrest⟩ := ih hmarked
      refine ⟨hlast, fun m => ?_⟩
      rw [List.foldl_cons, hrest, hadded, List.map_cons, List.mem_cons]
      tauto

theorem mem_reach_iff (hp : p.IsStraight) (seeds : List Thread) (m : Nat) :
    m ∈ (p.reach before after seeds).map Thread.node ↔
      m < p.code.size ∧ m ∈ seeds.map Thread.node := by
  have h := (foldl_follow_reaches before after hp seeds (isMarked_start p) (2 * p.code.size)).2 m
  rw [reach, List.map_reverse, List.mem_reverse, h]
  simp

end Reaching

section Searching

/-- From one of the instructions on, the program takes the characters and then accepts. -/
def TakesFrom (p : Program) (nodes : List Nat) (cs : List Char) : Prop :=
  ∃ n ∈ nodes, p.Takes n cs

variable {before after : Option Char} {place : Nat} {seeds threads : List Thread}

theorem takesFrom_append_singleton {nodes : List Nat} {n : Nat} {cs : List Char} :
    p.TakesFrom (nodes ++ [n]) cs ↔ p.TakesFrom nodes cs ∨ p.Takes n cs := by
  simp [TakesFrom, or_and_right, exists_or]

theorem takesFrom_reach_iff (hp : p.IsStraight) {cs : List Char} :
    p.TakesFrom ((p.reach before after seeds).map Thread.node) cs ↔
      p.TakesFrom (seeds.map Thread.node) cs := by
  constructor
  · rintro ⟨n, hn, htakes⟩
    exact ⟨n, ((mem_reach_iff before after hp seeds n).mp hn).2, htakes⟩
  · rintro ⟨n, hn, htakes⟩
    exact ⟨n, (mem_reach_iff before after hp seeds n).mpr ⟨htakes.lt_size, hn⟩, htakes⟩

theorem mem_advance_iff {c : Char} {m : Nat} :
    m ∈ (p.advance c threads).map Thread.node ↔
      ∃ n ∈ threads.map Thread.node, ∃ s, p.code[n]? = some (.take s m) ∧ s.contains c = true := by
  simp only [advance, List.mem_map, List.mem_filterMap]
  constructor
  · rintro ⟨u, ⟨t, ht, htake⟩, rfl⟩
    split at htake
    · rename_i s next hcode
      obtain ⟨hc, hu⟩ := Option.ite_none_right_eq_some.mp htake
      obtain rfl := Option.some.inj hu
      exact ⟨t.node, ⟨t, ht, rfl⟩, s, hcode, hc⟩
    · simp at htake
  · rintro ⟨n, ⟨t, ht, rfl⟩, s, hcode, hc⟩
    exact ⟨⟨m, t.start⟩, ⟨t, ht, by simp [hcode, hc]⟩, rfl⟩

theorem takesFrom_advance_iff {c : Char} {cs : List Char} :
    p.TakesFrom ((p.advance c threads).map Thread.node) cs ↔
      p.TakesFrom (threads.map Thread.node) (c :: cs) := by
  simp only [TakesFrom, mem_advance_iff, takes_cons_iff]
  constructor
  · rintro ⟨m, ⟨n, hn, s, hcode, hc⟩, htakes⟩
    exact ⟨n, hn, s, m, hcode, hc, htakes⟩
  · rintro ⟨n, hn, s, m, hcode, hc, htakes⟩
    exact ⟨m, ⟨n, hn, s, hcode, hc⟩, htakes⟩

theorem accepts_iff {t : Thread} : p.accepts t = true ↔ p.Takes t.node [] := by
  rw [takes_nil_iff, accepts]
  split
  · rename_i hcode
    simp [hcode]
  · rename_i hcode
    simpa using hcode

theorem isSome_find?_accepts_iff :
    (threads.find? p.accepts).isSome = true ↔ p.TakesFrom (threads.map Thread.node) [] := by
  simp [TakesFrom, List.find?_isSome, accepts_iff]

theorem isSome_search_of_find?_eq_some {rest : List Char} {t : Thread}
    (hthreads : p.reach before rest.head? (seeds ++ [⟨p.start, place⟩]) = threads)
    (hfind : threads.find? p.accepts = some t) :
    (p.search true place before seeds none rest).isSome = true := by
  rw [search.eq_def]
  simp [hthreads, hfind]

theorem search_of_find?_eq_none {rest : List Char}
    (hthreads : p.reach before rest.head? (seeds ++ [⟨p.start, place⟩]) = threads)
    (hfind : threads.find? p.accepts = none) :
    p.search true place before seeds none rest =
      match rest with
      | [] => none
      | c :: rest => p.search true (place + 1) (some c) (p.advance c threads) none rest := by
  have hgoing : threads.takeWhile (fun t => !p.accepts t) = threads := by
    rw [List.takeWhile_eq_self_iff]
    exact fun t ht => by simpa using List.find?_eq_none.mp hfind t ht
  rw [search.eq_def]
  simp only [Option.isNone_none, if_true, hthreads, hfind, hgoing]
  cases rest <;> simp

theorem isSome_search_step (hp : p.IsStraight) (rest : List Char) :
    (p.search true place before seeds none rest).isSome = true ↔
      p.TakesFrom (seeds.map Thread.node ++ [p.start]) [] ∨
        ∃ c more, rest = c :: more ∧
          (p.search true (place + 1) (some c)
            (p.advance c (p.reach before rest.head? (seeds ++ [⟨p.start, place⟩]))) none more).isSome =
            true := by
  have haccept : ((p.reach before rest.head? (seeds ++ [⟨p.start, place⟩])).find? p.accepts).isSome = true ↔
      p.TakesFrom (seeds.map Thread.node ++ [p.start]) [] := by
    rw [isSome_find?_accepts_iff, takesFrom_reach_iff hp, List.map_append, List.map_singleton]
  rw [← haccept]
  generalize hthreads : p.reach before rest.head? (seeds ++ [⟨p.start, place⟩]) = threads
  cases hfind : threads.find? p.accepts with
  | some t => simp [isSome_search_of_find?_eq_some hthreads hfind]
  | none =>
      rw [search_of_find?_eq_none hthreads hfind]
      cases rest <;> simp

theorem exists_prefix_cons_iff {P : List Char → Prop} {c : Char} {rest : List Char} :
    (∃ cs, P cs ∧ cs <+: c :: rest) ↔ P [] ∨ ∃ cs, P (c :: cs) ∧ cs <+: rest := by
  constructor
  · rintro ⟨cs, hcs, hprefix⟩
    rcases List.prefix_cons_iff.mp hprefix with rfl | ⟨cs', rfl, hrest⟩
    · exact Or.inl hcs
    · exact Or.inr ⟨cs', hcs, hrest⟩
  · rintro (hnil | ⟨cs, hcs, hrest⟩)
    · exact ⟨[], hnil, List.nil_prefix⟩
    · exact ⟨c :: cs, hcs, (List.prefix_cons_inj c).mpr hrest⟩

theorem exists_infix_cons_iff {P : List Char → Prop} {c : Char} {rest : List Char} :
    (∃ cs, P cs ∧ cs <:+: c :: rest) ↔
      (P [] ∨ ∃ cs, P (c :: cs) ∧ cs <+: rest) ∨ ∃ cs, P cs ∧ cs <:+: rest := by
  simp only [List.infix_cons_iff, and_or_left, exists_or, exists_prefix_cons_iff]

/-- A search for any match succeeds if the program can go on from a seed and accept, or can start at some later
place and accept. -/
theorem isSome_search_iff (hp : p.IsStraight) (rest : List Char) :
    (p.search true place before seeds none rest).isSome = true ↔
      (∃ cs, p.TakesFrom (seeds.map Thread.node) cs ∧ cs <+: rest) ∨
        ∃ cs, p.Takes p.start cs ∧ cs <:+: rest := by
  induction rest generalizing place before seeds with
  | nil =>
      rw [isSome_search_step hp, takesFrom_append_singleton]
      simp
  | cons c rest ih =>
      -- The seeds of the next place are the threads of this one that take `c`, one further on.
      have hadvance : ∀ cs, p.TakesFrom ((p.advance c (p.reach before (c :: rest).head?
          (seeds ++ [⟨p.start, place⟩]))).map Thread.node) cs ↔
          p.TakesFrom (seeds.map Thread.node) (c :: cs) ∨ p.Takes p.start (c :: cs) := by
        intro cs
        rw [takesFrom_advance_iff, takesFrom_reach_iff hp, List.map_append, List.map_singleton,
          takesFrom_append_singleton]
      rw [isSome_search_step hp, takesFrom_append_singleton, exists_prefix_cons_iff, exists_infix_cons_iff]
      simp only [List.cons.injEq, exists_and_left, and_assoc, exists_eq_left', ih, hadvance, or_and_right,
        exists_or]
      rw [← or_assoc, or_or_or_comm, or_assoc]

end Searching

theorem matchesIn_iff (hp : p.IsStraight) (text : List Char) :
    p.matchesIn text = true ↔ ∃ cs, p.Takes p.start cs ∧ cs <:+: text := by
  rw [matchesIn, isSome_search_iff hp]
  simp [TakesFrom]

end Logbook.Pattern.Program
