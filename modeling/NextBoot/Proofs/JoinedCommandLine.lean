import Mathlib.Logic.Relation
import NextBoot.Payload
import NextBoot.Proofs.Text.Trimmed

/-! Joined command lines. Only the parts that are not blank count, each from its first to its last
character that is no blank, so joining in two steps gives what joining at once gives. -/
namespace NextBoot

namespace Text

/-- Text of blanks only, or of nothing. -/
def Blank (s : String) : Prop := ∀ c ∈ s.toList, isBlank c = true

theorem trim_eq_iff {s core : String} :
    trim s = core ↔ Trimmed core.toList ∧
      ∃ before after, Blank before ∧ Blank after ∧ s = before ++ core ++ after := by
  have hchars : trim s = core ↔ trimChars s.toList = core.toList := by
    rw [trim, ← String.toList_inj, String.toList_ofList]
  rw [hchars, trimChars_eq_iff]
  constructor
  · rintro ⟨trimmed, before, after, hb, ha, hs⟩
    refine ⟨trimmed, String.ofList before, String.ofList after, ?_, ?_, ?_⟩
    · simpa [Blank] using hb
    · simpa [Blank] using ha
    · apply String.toList_inj.mp
      simpa using hs
  · rintro ⟨trimmed, before, after, hb, ha, rfl⟩
    exact ⟨trimmed, before.toList, after.toList, hb, ha, by simp⟩

theorem trimmed_empty : Trimmed "".toList := ⟨by simp, by simp⟩

theorem trim_of_blank {s : String} (h : Blank s) : trim s = "" :=
  trim_eq_iff.mpr ⟨trimmed_empty, s, "", h, by simp [Blank], by simp⟩

/-- Blanks around a text are taken off with those that it has at its ends. -/
theorem trim_surrounded {before after : String} (s : String) (hb : Blank before)
    (ha : Blank after) : trim (before ++ s ++ after) = trim s := by
  rw [trim, trim, String.toList_append, String.toList_append, trimChars_append hb ha]

/-- The ends of a text are the ends of its first and of its last part. -/
theorem Trimmed.append_append {first last : List Char} (hf : Trimmed first) (hl : Trimmed last)
    (between : List Char) (hfirst : first ≠ []) (hlast : last ≠ []) :
    Trimmed (first ++ between ++ last) where
  first c hc := by
    rw [List.append_assoc, List.head?_append_of_ne_nil _ hfirst] at hc
    exact hf.first c hc
  last c hc := by
    rw [List.getLast?_append_of_ne_nil _ hlast] at hc
    exact hl.last c hc

end Text

namespace CommandLine

/-- The parts that are not blank, without the blanks at their ends. -/
def words (parts : List String) : List String := (parts.map Text.trim).filter (· ≠ "")

theorem join_eq (base : String) (extra : List String) :
    join base extra = " ".intercalate (words (base :: extra)) := rfl

/-- A part is blank or has a word in it: what is left between blanks, with none at its ends. -/
inductive Words : List String → List String → Prop where
  | nil : Words [] []
  | blank {part : String} {parts ws : List String} (blank : Text.Blank part)
    (rest : Words parts ws) : Words (part :: parts) ws
  | word {before word after : String} {parts ws : List String} (before_blank : Text.Blank before)
    (trimmed : Text.Trimmed word.toList) (ne : word ≠ "") (after_blank : Text.Blank after)
    (rest : Words parts ws) : Words ((before ++ word ++ after) :: parts) (word :: ws)

theorem words_cons_of_eq {part : String} (h : Text.trim part = "") (parts : List String) :
    words (part :: parts) = words parts := by
  simp [words, h]

theorem words_cons_of_ne {part : String} (h : Text.trim part ≠ "") (parts : List String) :
    words (part :: parts) = Text.trim part :: words parts := by
  simp [words, h]

theorem words_append (parts parts' : List String) :
    words (parts ++ parts') = words parts ++ words parts' := by
  simp [words]

theorem words_words (parts : List String) : Words parts (words parts) := by
  induction parts with
  | nil => exact .nil
  | cons part parts ih =>
    obtain ⟨trimmed, before, after, hb, ha, hpart⟩ := Text.trim_eq_iff.mp (rfl : Text.trim part = _)
    by_cases h : Text.trim part = ""
    · rw [words_cons_of_eq h]
      refine .blank ?_ ih
      rw [hpart, h]
      intro c hc
      simp only [String.append_empty, String.toList_append, List.mem_append] at hc
      exact hc.elim (hb c) (ha c)
    · rw [words_cons_of_ne h]
      have hword := Words.word hb trimmed h ha ih
      rwa [← hpart] at hword

/-- By induction on the parts; trimming finds the word, since there is only one between blanks. -/
theorem Words.eq_words {parts ws : List String} (h : Words parts ws) : ws = words parts := by
  induction h with
  | nil => rfl
  | blank blank _ ih => rw [words_cons_of_eq (Text.trim_of_blank blank), ih]
  | @word before word after _ _ hb trimmed ne ha _ ih =>
    have htrim : Text.trim (before ++ word ++ after) = word :=
      Text.trim_eq_iff.mpr ⟨trimmed, before, after, hb, ha, rfl⟩
    rw [words_cons_of_ne (by rwa [htrim]), htrim, ih]

theorem words_iff {parts ws : List String} : Words parts ws ↔ ws = words parts :=
  ⟨Words.eq_words, fun h => h ▸ words_words parts⟩

theorem of_mem_words {parts : List String} {word : String} (h : word ∈ words parts) :
    word ≠ "" ∧ Text.Trimmed word.toList := by
  obtain ⟨hmap, hne⟩ := List.mem_filter.mp h
  obtain ⟨part, -, rfl⟩ := List.mem_map.mp hmap
  exact ⟨of_decide_eq_true hne, Text.trimmed_trim part⟩

/-- Words with a space between two are trimmed, and nothing only if there are none. -/
theorem trimmed_intercalate {ws : List String} (h : ∀ w ∈ ws, w ≠ "" ∧ Text.Trimmed w.toList) :
    Text.Trimmed (" ".intercalate ws).toList ∧ (" ".intercalate ws = "" ↔ ws = []) := by
  induction ws with
  | nil => exact ⟨Text.trimmed_empty, by simp⟩
  | cons w ws ih =>
    obtain ⟨hne, hw⟩ := h w List.mem_cons_self
    obtain ⟨htrimmed, hempty⟩ := ih fun v hv => h v (List.mem_cons_of_mem w hv)
    by_cases hws : ws = []
    · subst hws
      simpa [hne] using hw
    · rw [String.intercalate_cons_of_ne_nil hws]
      have hrest : " ".intercalate ws ≠ "" := fun he => hws (hempty.mp he)
      refine ⟨?_, by simp [hne]⟩
      rw [String.toList_append, String.toList_append]
      exact hw.append_append htrimmed _ (mt String.toList_eq_nil_iff.mp hne)
        (mt String.toList_eq_nil_iff.mp hrest)

theorem trimmed_join (base : String) (extra : List String) :
    Text.Trimmed (join base extra).toList := by
  rw [join_eq]
  exact (trimmed_intercalate fun _ => of_mem_words).1

theorem join_eq_empty_iff (base : String) (extra : List String) :
    join base extra = "" ↔ words (base :: extra) = [] := by
  rw [join_eq]
  exact (trimmed_intercalate fun _ => of_mem_words).2

/-- The joined text is one word more, or none if there is nothing in it. -/
theorem join_join (base : String) (extra more : List String) :
    join (join base extra) more = join base (extra ++ more) := by
  have hsame := Text.trim_eq_self (trimmed_join base extra)
  have hsplit : words (base :: (extra ++ more)) = words (base :: extra) ++ words more :=
    words_append (base :: extra) more
  rw [join_eq (join base extra), join_eq base (extra ++ more), hsplit]
  by_cases hnone : words (base :: extra) = []
  · have hempty := (join_eq_empty_iff base extra).mpr hnone
    rw [words_cons_of_eq (hsame.trans hempty), hnone, List.nil_append]
  · have hne : join base extra ≠ "" := fun he => hnone ((join_eq_empty_iff base extra).mp he)
    rw [words_cons_of_ne (by rwa [hsame]), hsame]
    by_cases hmore : words more = []
    · rw [hmore, List.append_nil, String.intercalate_singleton, join_eq]
    · rw [String.intercalate_cons_of_ne_nil hmore,
        String.intercalate_append_of_ne_nil hnone hmore, join_eq]

/-- A blank part put in anywhere, or blanks put around a part. -/
inductive Spaced : List String → List String → Prop where
  | inserted (before after : List String) {part : String} (blank : Text.Blank part) :
    Spaced (before ++ after) (before ++ part :: after)
  | surrounded (before after : List String) (part : String) {left right : String}
    (left_blank : Text.Blank left) (right_blank : Text.Blank right) :
    Spaced (before ++ part :: after) (before ++ (left ++ part ++ right) :: after)

theorem Spaced.words_eq {parts parts' : List String} (h : Spaced parts parts') :
    words parts = words parts' := by
  cases h with
  | inserted before after blank =>
    rw [words_append, words_append, words_cons_of_eq (Text.trim_of_blank blank)]
  | surrounded before after part hl hr =>
    have htrim := Text.trim_surrounded part hl hr
    rw [words_append, words_append]
    unfold words
    rw [List.map_cons, List.map_cons, htrim]

/-- By induction on the insertions and removals that lead from the one to the other. -/
theorem words_eq_of_eqvGen {parts parts' : List String} (h : Relation.EqvGen Spaced parts parts') :
    words parts = words parts' := by
  induction h with
  | rel _ _ h => exact h.words_eq
  | refl _ => rfl
  | symm _ _ _ ih => exact ih.symm
  | trans _ _ _ _ _ ih ih' => exact ih.trans ih'

/-- Joining parts gives their words, one space between two, and nothing else: the blank parts and the
blanks around parts make no difference, and neither does joining some of them beforehand. -/
theorem join_spec (base : String) (extra : List String) :
    (∃ ws, (∀ ws', Words (base :: extra) ws' ↔ ws' = ws) ∧
      join base extra = " ".intercalate ws ∧ (join base extra = "" ↔ ws = [])) ∧
    Text.Trimmed (join base extra).toList ∧
    (∀ more, join (join base extra) more = join base (extra ++ more)) ∧
    ∀ base' extra', Relation.EqvGen Spaced (base :: extra) (base' :: extra') →
      join base' extra' = join base extra := by
  refine ⟨⟨words (base :: extra), fun _ => words_iff, rfl, join_eq_empty_iff base extra⟩,
    trimmed_join base extra, join_join base extra, ?_⟩
  intro base' extra' h
  rw [join_eq, join_eq, words_eq_of_eqvGen h]

example : join "\u00a0root=/dev/vda \t" [" ", "quiet  splash\n", "", "x"] =
    "root=/dev/vda quiet  splash x" := by decide +kernel

end CommandLine

end NextBoot
