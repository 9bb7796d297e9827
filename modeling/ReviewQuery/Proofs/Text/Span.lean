/-!
# Where a run of characters ends

Texts are read by taking the longest run of characters of one kind.  If the run is known and the
kind does not go on behind it, the two halves are the run and what follows it.
-/

namespace ReviewQuery.Text

section Span

variable
  {α : Type}
  {p : α → Bool}
  {front rest : List α}

theorem takeWhile_append_of_stops
    (inside : ∀ c ∈ front, p c = true)
    (stops : ∀ c ∈ rest.head?, p c = false) :
    (front ++ rest).takeWhile p = front := by
  rw [List.takeWhile_append_of_pos inside]
  cases rest with
  | nil => exact List.append_nil front
  | cons c rest =>
      rw [List.takeWhile_cons_of_neg (by simp [stops c rfl]), List.append_nil]

theorem dropWhile_append_of_stops
    (inside : ∀ c ∈ front, p c = true)
    (stops : ∀ c ∈ rest.head?, p c = false) :
    (front ++ rest).dropWhile p = rest := by
  rw [List.dropWhile_append_of_pos inside]
  cases rest with
  | nil => rfl
  | cons c rest => rw [List.dropWhile_cons_of_neg (by simp [stops c rfl])]

/-- A text is split at its first separator. -/
theorem takeWhile_ne_append_cons
    [DecidableEq α]
    {separator : α}
    (absent : separator ∉ front)
    (rest : List α) :
    (front ++ separator :: rest).takeWhile (· ≠ separator) = front := by
  refine takeWhile_append_of_stops ?_ ?_
  · intro c member
    exact decide_eq_true (ne_of_mem_of_not_mem member absent)
  · rintro c ⟨⟩
    exact decide_eq_false (not_not_intro rfl)

theorem dropWhile_ne_append_cons
    [DecidableEq α]
    {separator : α}
    (absent : separator ∉ front)
    (rest : List α) :
    (front ++ separator :: rest).dropWhile (· ≠ separator) = separator :: rest := by
  refine dropWhile_append_of_stops ?_ ?_
  · intro c member
    exact decide_eq_true (ne_of_mem_of_not_mem member absent)
  · rintro c ⟨⟩
    exact decide_eq_false (not_not_intro rfl)

/-- The run ends where the kind does. -/
theorem stops_dropWhile (text : List α) : ∀ c ∈ (text.dropWhile p).head?, p c = false := by
  intro c first
  have stops := List.head?_dropWhile_not p text
  rw [Option.mem_def.mp first] at stops
  exact stops

end Span

end ReviewQuery.Text
