import Mathlib.Data.List.DropRight
import NextBoot.Text.Characters

/-! Text without blanks at its ends: what trimming yields, leaves as it is, and ends in. -/
namespace NextBoot.Text

/-- No blank stands at either end. -/
structure Trimmed (cs : List Char) : Prop where
  first : ∀ c ∈ cs.head?, isBlank c = false
  last : ∀ c ∈ cs.getLast?, isBlank c = false

theorem trimChars_eq (cs : List Char) :
    trimChars cs = (cs.dropWhile isBlank).rdropWhile isBlank := rfl

theorem length_trimChars_le (cs : List Char) : (trimChars cs).length ≤ cs.length :=
  calc (trimChars cs).length ≤ (cs.dropWhile isBlank).length :=
        (List.rdropWhile_prefix isBlank _).length_le
    _ ≤ cs.length := (List.dropWhile_suffix isBlank).length_le

/-- Blanks are taken off the front first, and what then is taken off the end leaves the front. -/
theorem trimmed_trimChars (cs : List Char) : Trimmed (trimChars cs) where
  first c hc := by
    obtain ⟨rest, hrest⟩ : trimChars cs <+: cs.dropWhile isBlank := List.rdropWhile_prefix _ _
    have hhead : (cs.dropWhile isBlank).head? = some c := by
      rw [← hrest, List.head?_append, Option.mem_def.mp hc, Option.some_or]
    simpa [hhead] using List.head?_dropWhile_not isBlank cs
  last c hc := by
    rw [trimChars_eq] at hc
    have hne : (cs.dropWhile isBlank).rdropWhile isBlank ≠ [] :=
      List.ne_nil_of_mem (List.mem_of_getLast? hc)
    rw [Option.mem_def, List.getLast?_eq_some_getLast hne, Option.some.injEq] at hc
    simpa [hc] using List.rdropWhile_last_not isBlank _ hne

theorem Trimmed.trimChars_eq_self {cs : List Char} (h : Trimmed cs) : trimChars cs = cs := by
  have hfront : cs.dropWhile isBlank = cs := by
    cases cs with
    | nil => rfl
    | cons c cs => exact List.dropWhile_cons_of_neg (by simpa using h.first c rfl)
  rw [trimChars_eq, hfront, List.rdropWhile_eq_self_iff]
  intro hne
  simpa using h.last _ (List.getLast?_eq_some_getLast hne)

theorem trim_eq_self {s : String} (h : Trimmed s.toList) : trim s = s := by
  rw [trim, h.trimChars_eq_self, String.ofList_toList]

theorem trimmed_trim (s : String) : Trimmed (trim s).toList := by
  rw [trim, String.toList_ofList]
  exact trimmed_trimChars _

/-- Nothing is taken off but blanks, and only at the ends. -/
theorem exists_eq_append_trimChars (cs : List Char) :
    ∃ before after, (∀ c ∈ before, isBlank c = true) ∧ (∀ c ∈ after, isBlank c = true) ∧
      cs = before ++ trimChars cs ++ after := by
  refine ⟨cs.takeWhile isBlank, (cs.dropWhile isBlank).rtakeWhile isBlank,
    fun c hc => List.mem_takeWhile_imp hc, fun c hc => List.mem_rtakeWhile_imp hc, ?_⟩
  calc cs = cs.takeWhile isBlank ++ cs.dropWhile isBlank := List.takeWhile_append_dropWhile.symm
    _ = cs.takeWhile isBlank ++ ((cs.dropWhile isBlank).rdropWhile isBlank ++
          (cs.dropWhile isBlank).rtakeWhile isBlank) := by
        rw [List.rdropWhile_append_rtakeWhile]
    _ = _ := by rw [trimChars_eq, List.append_assoc]

/-- Blanks around a text are taken off, whatever the text is. -/
theorem trimChars_append {before cs after : List Char} (hb : ∀ c ∈ before, isBlank c = true)
    (ha : ∀ c ∈ after, isBlank c = true) : trimChars (before ++ cs ++ after) = trimChars cs := by
  have hback (kept : List Char) : (kept ++ after).rdropWhile isBlank = kept.rdropWhile isBlank := by
    rw [List.rdropWhile, List.reverse_append,
      List.dropWhile_append_of_pos (by simpa using ha), List.rdropWhile]
  have hnone : after.dropWhile isBlank = [] := List.dropWhile_eq_nil_iff.mpr ha
  rw [trimChars_eq, trimChars_eq, List.append_assoc, List.dropWhile_append_of_pos hb,
    List.dropWhile_append]
  split
  next hempty => rw [List.isEmpty_iff.mp hempty, hnone]
  next => exact hback _

/-- The trimmed text is the only one without blanks at its ends that lies between blanks in the
text. -/
theorem trimChars_eq_iff {cs core : List Char} :
    trimChars cs = core ↔ Trimmed core ∧ ∃ before after, (∀ c ∈ before, isBlank c = true) ∧
      (∀ c ∈ after, isBlank c = true) ∧ cs = before ++ core ++ after := by
  constructor
  · rintro rfl
    exact ⟨trimmed_trimChars cs, exists_eq_append_trimChars cs⟩
  · rintro ⟨trimmed, before, after, hb, ha, rfl⟩
    rw [trimChars_append hb ha, trimmed.trimChars_eq_self]

/-- Text that ends in a character that is no blank, before the blanks at its end, keeps it there. -/
theorem getLast?_trimChars_eq_some_iff {cs : List Char} {c : Char} (hc : isBlank c = false) :
    (trimChars cs).getLast? = some c ↔
      ∃ front blanks, cs = front ++ c :: blanks ∧ ∀ b ∈ blanks, isBlank b = true := by
  constructor
  · intro hlast
    obtain ⟨front, hfront⟩ := List.getLast?_eq_some_iff.mp hlast
    obtain ⟨before, after, -, hafter, hcs⟩ := exists_eq_append_trimChars cs
    rw [hfront] at hcs
    exact ⟨before ++ front, after, by simpa using hcs, hafter⟩
  · rintro ⟨front, blanks, rfl, hblanks⟩
    obtain ⟨kept, hkept⟩ : ∃ kept, (front ++ [c]).dropWhile isBlank = kept ++ [c] := by
      rw [List.dropWhile_append]
      split
      next => exact ⟨[], List.dropWhile_cons_of_neg (by simp [hc])⟩
      next => exact ⟨front.dropWhile isBlank, rfl⟩
    have hshort : trimChars (front ++ c :: blanks) = trimChars (front ++ [c]) := by
      simpa using @trimChars_append [] (front ++ [c]) blanks (by simp) hblanks
    rw [hshort, trimChars_eq, hkept, List.rdropWhile_concat_neg _ _ _ (by simp [hc]),
      List.getLast?_concat]

end NextBoot.Text
