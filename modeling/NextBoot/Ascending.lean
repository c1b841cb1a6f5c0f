/-! Lists in strictly ascending order, without repetition. -/
namespace NextBoot.Ascending

variable {α : Type} (lt : α → α → Bool)

/-- Insert where it belongs, unless it is there. -/
def insert (x : α) : List α → List α
  | [] => [x]
  | y :: ys =>
    if lt x y then x :: y :: ys
    else if lt y x then y :: insert x ys
    else y :: ys

def ofList (xs : List α) : List α := xs.foldr (insert lt) []

variable {lt}

theorem mem_insert (connected : ∀ a b, lt a b = false → lt b a = false → a = b) {x z : α}
    {xs : List α} : z ∈ insert lt x xs ↔ z = x ∨ z ∈ xs := by
  induction xs with
  | nil => simp [insert]
  | cons y ys ih =>
    unfold insert
    split
    · simp
    · split
      · simp [ih, or_left_comm]
      · have he : x = y := connected x y (by simp_all) (by simp_all)
        simp [he]

theorem mem_ofList (connected : ∀ a b, lt a b = false → lt b a = false → a = b) {z : α}
    {xs : List α} : z ∈ ofList lt xs ↔ z ∈ xs := by
  induction xs with
  | nil => simp [ofList]
  | cons x xs ih =>
    have h : ofList lt (x :: xs) = insert lt x (ofList lt xs) := rfl
    rw [h, mem_insert connected, ih, List.mem_cons]

theorem pairwise_insert (connected : ∀ a b, lt a b = false → lt b a = false → a = b)
    (trans : ∀ a b c, lt a b = true → lt b c = true → lt a c = true) {x : α} {xs : List α}
    (h : xs.Pairwise (lt · · = true)) : (insert lt x xs).Pairwise (lt · · = true) := by
  induction xs with
  | nil => simp [insert]
  | cons y ys ih =>
    have hy := List.pairwise_cons.mp h
    unfold insert
    split
    next hxy =>
      refine List.pairwise_cons.mpr ⟨fun z hz => ?_, h⟩
      rcases List.mem_cons.mp hz with rfl | hz
      · exact hxy
      · exact trans x y z hxy (hy.1 z hz)
    next =>
      split
      next hyx =>
        refine List.pairwise_cons.mpr ⟨fun z hz => ?_, ih hy.2⟩
        rcases (mem_insert connected).mp hz with rfl | hz
        · exact hyx
        · exact hy.1 z hz
      next => exact h

theorem pairwise_ofList (connected : ∀ a b, lt a b = false → lt b a = false → a = b)
    (trans : ∀ a b c, lt a b = true → lt b c = true → lt a c = true) (xs : List α) :
    (ofList lt xs).Pairwise (lt · · = true) := by
  induction xs with
  | nil => simp [ofList]
  | cons x xs ih => exact pairwise_insert connected trans ih

/-- What the order tells apart is only moved. -/
theorem insert_perm {x : α} {xs : List α} (h : ∀ y ∈ xs, lt x y = true ∨ lt y x = true) :
    (insert lt x xs).Perm (x :: xs) := by
  induction xs with
  | nil => exact .refl _
  | cons y ys ih =>
    obtain ⟨hy, hys⟩ := List.forall_mem_cons.mp h
    unfold insert
    split
    · exact .refl _
    next hxy =>
      rw [if_pos (hy.resolve_left hxy)]
      exact ((ih hys).cons y).trans (.swap x y ys)

theorem ofList_perm {xs : List α}
    (h : xs.Pairwise fun a b => lt a b = true ∨ lt b a = true) : (ofList lt xs).Perm xs := by
  induction xs with
  | nil => exact .refl _
  | cons x xs ih =>
    obtain ⟨hx, hxs⟩ := List.pairwise_cons.mp h
    have sorted := ih hxs
    exact (insert_perm fun y hy => hx y (sorted.mem_iff.mp hy)).trans (sorted.cons x)

end NextBoot.Ascending
