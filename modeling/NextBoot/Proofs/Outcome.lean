import NextBoot.Log

/-! Taking chains of steps that may fail, or that log, apart. -/
namespace NextBoot.Outcome

variable {ε ε' α β : Type}

theorem bind_eq_ok_iff {x : Except ε α} {f : α → Except ε β} {b : β} :
    (x >>= f) = .ok b ↔ ∃ a, x = .ok a ∧ f a = .ok b := by
  cases x <;> simp [bind, Except.bind]

/-- As `bind_eq_ok_iff`, for a step that only checks. -/
theorem check_bind_eq_ok_iff {x : Except ε Unit} {f : Unit → Except ε β} {b : β} :
    (x >>= f) = .ok b ↔ x = .ok () ∧ f () = .ok b := by
  rw [bind_eq_ok_iff]
  constructor
  · rintro ⟨_, hx, hf⟩
    exact ⟨hx, hf⟩
  · rintro ⟨hx, hf⟩
    exact ⟨(), hx, hf⟩

@[simp] theorem mapError_ok (a : α) (g : ε → ε') : (Except.ok a : Except ε α).mapError g = .ok a :=
  rfl

@[simp] theorem mapError_error (e : ε) (g : ε → ε') :
    (Except.error e : Except ε α).mapError g = .error (g e) := rfl

theorem mapError_eq_ok_iff {x : Except ε α} {g : ε → ε'} {a : α} :
    x.mapError g = .ok a ↔ x = .ok a := by
  cases x with
  | error e => simp
  | ok b => simp

@[simp] theorem ok_bind (a : α) (f : α → Except ε β) : (Except.ok a >>= f) = f a := rfl

@[simp] theorem error_bind (e : ε) (f : α → Except ε β) :
    ((Except.error e : Except ε α) >>= f) = .error e := rfl

section Folds

variable {σ : Type} {f : σ → α → Except ε σ} {s s' : σ}

/-- The order of two steps does not matter to a success. -/
def Exchange (f : σ → α → Except ε σ) (x y : α) : Prop :=
  ∀ s s', (f s x >>= (f · y)) = .ok s' ↔ (f s y >>= (f · x)) = .ok s'

theorem Exchange.symm {x y : α} (h : Exchange f x y) : Exchange f y x :=
  fun s s' => (h s s').symm

theorem foldlM_cons_eq_ok_iff {x : α} {xs : List α} :
    (x :: xs).foldlM f s = .ok s' ↔ ∃ mid, f s x = .ok mid ∧ xs.foldlM f mid = .ok s' := by
  rw [List.foldlM_cons, bind_eq_ok_iff]

/-- Where any two steps can be exchanged, so can all. -/
theorem foldlM_eq_ok_iff_of_perm {xs ys : List α} (hp : xs.Perm ys)
    (h : xs.Pairwise (Exchange f)) : xs.foldlM f s = .ok s' ↔ ys.foldlM f s = .ok s' := by
  induction hp generalizing s with
  | nil => exact Iff.rfl
  | cons x _ ih =>
    rw [foldlM_cons_eq_ok_iff, foldlM_cons_eq_ok_iff]
    exact exists_congr fun mid => and_congr_right fun _ => ih (List.pairwise_cons.mp h).2
  | swap x y xs =>
    have hyx : Exchange f y x := (List.pairwise_cons.mp h).1 x List.mem_cons_self
    have moved (x y : α) : (x :: y :: xs).foldlM f s = .ok s' ↔
        ∃ mid, (f s x >>= (f · y)) = .ok mid ∧ xs.foldlM f mid = .ok s' := by
      simp only [foldlM_cons_eq_ok_iff, bind_eq_ok_iff]
      constructor
      · rintro ⟨a, ha, b, hb, hrest⟩
        exact ⟨b, ⟨a, ha, hb⟩, hrest⟩
      · rintro ⟨b, ⟨a, ha, hb⟩, hrest⟩
        exact ⟨a, ha, b, hb, hrest⟩
    rw [moved, moved]
    exact exists_congr fun mid => and_congr_left fun _ => hyx s mid
  | trans hxy _ ih ih' =>
    rw [ih h, ih' ((hxy.pairwise_iff Exchange.symm).mp h)]

end Folds

end NextBoot.Outcome
