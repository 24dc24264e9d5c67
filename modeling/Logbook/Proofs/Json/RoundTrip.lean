import Logbook.Proofs.Json.Text

namespace Logbook.Json

/-- A value whose numbers are written as JSON numbers are. -/
inductive Value.IsWellFormed : Value → Prop where
  | null : IsWellFormed .null
  | bool (b : Bool) : IsWellFormed (.bool b)
  | number {written : String} : IsDecimal written.toList → IsWellFormed (.number written)
  | string (s : String) : IsWellFormed (.string s)
  | array {items : List Value} : (∀ v ∈ items, IsWellFormed v) → IsWellFormed (.array items)
  | object {fields : List (String × Value)} : (∀ f ∈ fields, IsWellFormed f.2) →
      IsWellFormed (.object fields)

/-- A text starts with something else than space or the end of an array. -/
def StartsValue (cs : List Char) : Prop :=
  ∃ c ∈ cs.head?, isSpace c = false ∧ c ≠ ']'

theorem StartsValue.append {cs : List Char} (h : StartsValue cs) (rest : List Char) :
    StartsValue (cs ++ rest) := by
  obtain ⟨c, hc, hstarts⟩ := h
  exact ⟨c, by rw [List.head?_append, hc]; rfl, hstarts⟩

theorem StartsValue.skipSpace_eq {cs : List Char} (h : StartsValue cs) : skipSpace cs = cs := by
  obtain ⟨c, hc, hspace, -⟩ := h
  obtain ⟨rest, rfl⟩ := List.head?_eq_some_iff.mp hc
  simp [skipSpace, hspace]

/-- A value is read back from its text, whatever stands behind it that does not continue a number. -/
structure Value.ReadsBack (v : Value) : Prop where
  starts : StartsValue (render v)
  readValue_eq : ∀ {fuel : Nat} {rest : List Char}, (render v).length < fuel →
    ¬ContinuesNumber rest → readValue fuel (render v ++ rest) = some (v, rest)

theorem Value.ReadsBack.of_succ {v : Value} (hstarts : StartsValue (render v))
    (hread : ∀ (fuel : Nat) (rest : List Char), (render v).length ≤ fuel → ¬ContinuesNumber rest →
      readValue (fuel + 1) (render v ++ rest) = some (v, rest)) : v.ReadsBack where
  starts := hstarts
  readValue_eq := by
    intro fuel rest hfuel hrest
    obtain ⟨fuel, rfl⟩ := Nat.exists_eq_succ_of_ne_zero (Nat.ne_zero_of_lt hfuel)
    exact hread fuel rest (Nat.le_of_lt_succ hfuel) hrest

theorem not_continuesNumber_cons {c : Char} {cs : List Char} (h : c = ',' ∨ c = ']' ∨ c = '\x7d') :
    ¬ContinuesNumber (c :: cs) := by
  rintro ⟨d, hd, hnumber⟩
  obtain rfl : c = d := Option.some.inj hd
  rcases h with rfl | rfl | rfl <;> revert hnumber <;> decide

theorem skipSpace_cons {c : Char} {cs : List Char} (h : c = ',' ∨ c = ':' ∨ c = ']' ∨ c = '\x7d') :
    skipSpace (c :: cs) = c :: cs := by
  have hspace : isSpace c = false := by rcases h with rfl | rfl | rfl | rfl <;> decide
  simp [skipSpace, hspace]

theorem renderItems_cons_cons (v w : Value) (ws : List Value) :
    renderItems (v :: w :: ws) = render v ++ ',' :: renderItems (w :: ws) := by
  rw [renderItems]
  simp

theorem renderFields_cons_cons (name : String) (v : Value) (g : String × Value)
    (gs : List (String × Value)) :
    renderFields ((name, v) :: g :: gs) =
      renderString name ++ ':' :: render v ++ ',' :: renderFields (g :: gs) := by
  rw [renderFields]
  simp

theorem startsValue_renderItems {v : Value} (h : v.ReadsBack) (vs : List Value) :
    StartsValue (renderItems (v :: vs)) := by
  cases vs with
  | nil => exact h.starts
  | cons w ws => exact renderItems_cons_cons v w ws ▸ h.starts.append _

theorem head?_renderFields (f : String × Value) (fs : List (String × Value)) (rest : List Char) :
    (renderFields (f :: fs) ++ rest).head? = some '"' := by
  cases fs with
  | nil => rfl
  | cons g gs => rfl

theorem startsValue_of_quote {cs : List Char} (h : cs.head? = some '"') : StartsValue cs :=
  ⟨'"', h, by decide, by decide⟩

section Members

variable {v : Value} {fuel : Nat} {rest : List Char}

theorem readItems_last (h : v.ReadsBack) (hfuel : (render v).length < fuel) :
    readItems (fuel + 1) (render v ++ ']' :: rest) = some ([v], rest) := by
  rw [readItems, h.readValue_eq hfuel (not_continuesNumber_cons (by simp))]
  simp [skipSpace_cons]

theorem readItems_next {more : List Char} {vs : List Value} (h : v.ReadsBack)
    (hfuel : (render v).length < fuel) (hmore : StartsValue more)
    (hrest : readItems fuel more = some (vs, rest)) :
    readItems (fuel + 1) (render v ++ ',' :: more) = some (v :: vs, rest) := by
  rw [readItems, h.readValue_eq hfuel (not_continuesNumber_cons (by simp))]
  simp [skipSpace_cons, hmore.skipSpace_eq, hrest]

theorem readFields_last (name : String) (h : v.ReadsBack) (hfuel : (render v).length < fuel) :
    readFields (fuel + 1) (renderString name ++ ':' :: (render v ++ '\x7d' :: rest)) =
      some ([(name, v)], rest) := by
  have hend : ¬ContinuesNumber ('\x7d' :: rest) := not_continuesNumber_cons (by simp)
  have hvalue := h.readValue_eq hfuel hend
  have hspace := (h.starts.append ('\x7d' :: rest)).skipSpace_eq
  simp only [renderString, List.append_assoc, List.cons_append, List.nil_append, readFields,
    readString_text]
  simp [skipSpace_cons, hspace, hvalue]

theorem readFields_next (name : String) {more : List Char} {fs : List (String × Value)}
    (h : v.ReadsBack) (hfuel : (render v).length < fuel) (hmore : StartsValue more)
    (hrest : readFields fuel more = some (fs, rest)) :
    readFields (fuel + 1) (renderString name ++ ':' :: (render v ++ ',' :: more)) =
      some ((name, v) :: fs, rest) := by
  have hend : ¬ContinuesNumber (',' :: more) := not_continuesNumber_cons (by simp)
  have hvalue := h.readValue_eq hfuel hend
  have hspace := (h.starts.append (',' :: more)).skipSpace_eq
  simp only [renderString, List.append_assoc, List.cons_append, List.nil_append, readFields,
    readString_text]
  simp [skipSpace_cons, hspace, hvalue, hmore.skipSpace_eq, hrest]

end Members

theorem readItems_renderItems {items : List Value} (h : ∀ v ∈ items, v.ReadsBack) (hne : items ≠ [])
    {fuel : Nat} (hfuel : (renderItems items).length < fuel) (rest : List Char) :
    readItems (fuel + 1) (renderItems items ++ ']' :: rest) = some (items, rest) := by
  induction items generalizing fuel with
  | nil => exact absurd rfl hne
  | cons v vs ih =>
      rw [List.forall_mem_cons] at h
      cases vs with
      | nil =>
          rw [renderItems] at hfuel ⊢
          exact readItems_last h.1 hfuel
      | cons w ws =>
          rw [renderItems_cons_cons, List.length_append, List.length_cons] at hfuel
          obtain ⟨fuel, rfl⟩ := Nat.exists_eq_succ_of_ne_zero (Nat.ne_zero_of_lt hfuel)
          rw [renderItems_cons_cons, List.append_assoc, List.cons_append]
          exact readItems_next h.1 (by omega) ((startsValue_renderItems (h.2 w (by simp)) ws).append _)
            (ih h.2 (by simp) (by omega))

theorem readFields_renderFields {fields : List (String × Value)} (h : ∀ f ∈ fields, f.2.ReadsBack)
    (hne : fields ≠ []) {fuel : Nat} (hfuel : (renderFields fields).length < fuel)
    (rest : List Char) :
    readFields (fuel + 1) (renderFields fields ++ '\x7d' :: rest) = some (fields, rest) := by
  induction fields generalizing fuel with
  | nil => exact absurd rfl hne
  | cons f fs ih =>
      rw [List.forall_mem_cons] at h
      obtain ⟨name, v⟩ := f
      cases fs with
      | nil =>
          rw [renderFields, List.length_append, List.length_cons] at hfuel
          rw [renderFields, List.append_assoc, List.cons_append]
          exact readFields_last name h.1 (by omega)
      | cons g gs =>
          rw [renderFields_cons_cons] at hfuel ⊢
          simp only [List.length_append, List.length_cons] at hfuel
          obtain ⟨fuel, rfl⟩ := Nat.exists_eq_succ_of_ne_zero (Nat.ne_zero_of_lt hfuel)
          simp only [List.append_assoc, List.cons_append]
          exact readFields_next name h.1 (by omega) (startsValue_of_quote (head?_renderFields g gs _))
            (ih h.2 (by simp) (by omega))

theorem IsDecimal.exists_cons {cs : List Char} (h : IsDecimal cs) :
    ∃ c rest, cs = c :: rest ∧ (c.isDigit = true ∨ c = '-') := by
  cases h with
  | positive hds hplaces =>
      obtain ⟨d, ds, rfl⟩ := List.exists_cons_of_ne_nil hds.digits.1
      exact ⟨d, _, rfl, Or.inl (hds.digits.2 d (by simp))⟩
  | negative hds hplaces => exact ⟨'-', _, rfl, Or.inr rfl⟩

theorem IsDecimal.startsValue {cs : List Char} (h : IsDecimal cs) : StartsValue cs := by
  obtain ⟨c, rest, rfl, hc⟩ := h.exists_cons
  refine ⟨c, rfl, ?_, ?_⟩
  · by_contra hspace
    simp only [isSpace, Bool.or_eq_true, beq_iff_eq, Bool.not_eq_false] at hspace
    rcases hspace with ((rfl | rfl) | rfl) | rfl <;> revert hc <;> decide
  · rintro rfl
    revert hc
    decide

theorem readValue_number {cs rest : List Char} (h : IsDecimal cs) (hrest : ¬ContinuesNumber rest)
    (fuel : Nat) :
    readValue (fuel + 1) (cs ++ rest) = some (.number (String.ofList cs), rest) := by
  have hread := readNumber_append h hrest
  obtain ⟨c, cs, rfl, hc⟩ := h.exists_cons
  rw [List.cons_append, readValue]
  · rw [← List.cons_append, hread]
    rfl
  all_goals
    intro rest heq
    obtain rfl := List.head_eq_of_cons_eq heq
    revert hc
    decide

theorem StartsValue.readValue_array {cs rest : List Char} {items : List Value} {fuel : Nat}
    (h : StartsValue cs) (hread : readItems fuel cs = some (items, rest)) :
    readValue (fuel + 1) ('[' :: cs) = some (.array items, rest) := by
  have hspace := h.skipSpace_eq
  obtain ⟨c, hc, -, hclosing⟩ := h
  obtain ⟨cs, rfl⟩ := List.head?_eq_some_iff.mp hc
  simp [readValue, hspace, hclosing, hread]

theorem readValue_object {cs rest : List Char} {fields : List (String × Value)} {fuel : Nat}
    (h : cs.head? = some '"') (hread : readFields fuel cs = some (fields, rest)) :
    readValue (fuel + 1) ('\x7b' :: cs) = some (.object fields, rest) := by
  have hspace := (startsValue_of_quote h).skipSpace_eq
  obtain ⟨cs, rfl⟩ := List.head?_eq_some_iff.mp h
  simp [readValue, hspace, hread]

theorem Value.IsWellFormed.readsBack {v : Value} (h : v.IsWellFormed) : v.ReadsBack := by
  induction h with
  | null =>
      refine ReadsBack.of_succ ⟨'n', rfl, by decide, by decide⟩ fun fuel rest _ _ => ?_
      simp [render, readValue]
  | bool b =>
      have hstarts : StartsValue (render (.bool b)) :=
        ⟨if b then 't' else 'f', by cases b <;> rfl, by cases b <;> decide, by cases b <;> decide⟩
      refine ReadsBack.of_succ hstarts fun fuel rest _ _ => ?_
      cases b <;> simp [render, readValue]
  | @number written hnumber =>
      refine ReadsBack.of_succ hnumber.startsValue fun fuel rest _ hrest => ?_
      rw [render, readValue_number hnumber hrest, String.ofList_toList]
  | string s =>
      refine ReadsBack.of_succ ⟨'"', rfl, by decide, by decide⟩ fun fuel rest _ _ => ?_
      simp only [render, renderString, List.append_assoc, List.cons_append, List.nil_append, readValue,
        readString_text]
      simp
  | @array items hitems ih =>
      refine ReadsBack.of_succ ⟨'[', rfl, by decide, by decide⟩ fun fuel rest hfuel _ => ?_
      rw [render, List.append_assoc, List.cons_append, List.singleton_append]
      cases items with
      | nil => simp [renderItems, readValue, skipSpace_cons]
      | cons v vs =>
          simp only [render, List.length_append, List.length_cons] at hfuel
          obtain ⟨fuel, rfl⟩ : ∃ m, fuel = m + 1 := ⟨fuel - 1, by omega⟩
          exact ((startsValue_renderItems (ih v (by simp)) vs).append _).readValue_array
            (readItems_renderItems ih (by simp) (by omega) rest)
  | @object fields hfields ih =>
      refine ReadsBack.of_succ ⟨'\x7b', rfl, by decide, by decide⟩ fun fuel rest hfuel _ => ?_
      rw [render, List.append_assoc, List.cons_append, List.singleton_append]
      cases fields with
      | nil => simp [renderFields, readValue, skipSpace_cons]
      | cons f fs =>
          simp only [render, List.length_append, List.length_cons] at hfuel
          obtain ⟨fuel, rfl⟩ : ∃ m, fuel = m + 1 := ⟨fuel - 1, by omega⟩
          exact readValue_object (head?_renderFields f fs _)
            (readFields_renderFields ih (by simp) (by omega) rest)

theorem decode?_compact {v : Value} (h : v.IsWellFormed) : decode? v.compact = some v := by
  have hend : ¬ContinuesNumber [] := by simp [ContinuesNumber]
  have hvalue := h.readsBack.readValue_eq (Nat.lt_add_one _) hend
  rw [List.append_nil] at hvalue
  have hskip : skipSpace v.compact.toList = render v := by
    rw [Value.compact, String.toList_ofList, h.readsBack.starts.skipSpace_eq]
  simp only [decode?, hskip, hvalue, bind, Option.bind]
  rfl

end Logbook.Json
