import ReviewQuery.Text.Hexadecimal

/-!
# Reading hexadecimal numbers

A number is read back from its digits, whichever case they have and however many zeros stand in
front of them.
-/

namespace ReviewQuery.Text.Hexadecimal

/-! ## Digits -/

theorem value?_lower (value : Nat) (small : value < 16) : value? (lower value) = some value := by
  revert value
  decide

/-- The case of a digit does not matter. -/
theorem value?_toLower (c : Char) : value? c.toLower = value? c := by
  by_cases upper : 'A' ≤ c ∧ c ≤ 'Z'
  · have all : ∀ code < 91, 65 ≤ code →
        value? (Char.ofNat code).toLower = value? (Char.ofNat code) := by
      decide
    have same := all c.toNat (Nat.lt_succ_of_le upper.2) upper.1
    rwa [Char.ofNat_toNat] at same
  · have lower : c.toLower = c := dif_neg upper
    rw [lower]

/-- Every digit lies between `0` and `f`. -/
theorem toNat_bounds_of_value?
    {c : Char}
    {value : Nat}
    (found : value? c = some value) :
    48 ≤ c.toNat ∧ c.toNat ≤ 102 := by
  unfold value? at found
  split at found
  · rename_i digit
    exact ⟨digit.1, Nat.le_trans digit.2 (by decide)⟩
  · split at found
    · rename_i small
      exact ⟨Nat.le_trans (by decide) small.1, small.2⟩
    · split at found
      · rename_i capital
        exact ⟨Nat.le_trans (by decide) capital.1, Nat.le_trans capital.2 (by decide)⟩
      · cases found

/-! ## Numbers -/

theorem number?_append_singleton (digits : List Char) (c : Char) :
    number? (digits ++ [c]) =
      (number? digits).bind fun total => (value? c).map (total * 16 + ·) := by
  simp [number?, List.foldlM_append]

/-- The digits of a number are read as that number. -/
theorem number?_render (number : Nat) : number? (render number) = some number := by
  induction number using render.induct with
  | case1 number small =>
      rw [render, if_pos small]
      simp [number?, value?_lower number small]
  | case2 number large ih =>
      have last := value?_lower (number % 16) (Nat.mod_lt _ (by decide))
      have joined : number / 16 * 16 + number % 16 = number := by omega
      rw [render, if_neg large, number?_append_singleton, ih, last]
      exact congrArg some joined

theorem number?_map_toLower (digits : List Char) :
    number? (digits.map Char.toLower) = number? digits := by
  simp only [number?, List.foldlM_map, value?_toLower]

/-- Zeros in front of a number change nothing. -/
theorem number?_replicate_append (zeros : Nat) (digits : List Char) :
    number? (List.replicate zeros '0' ++ digits) = number? digits := by
  induction zeros with
  | zero => rfl
  | succ zeros ih => exact ih

/-- Every character of a number is a digit, whatever number was read in front of it. -/
theorem exists_value?_of_number?
    {digits : List Char}
    {number : Nat}
    (read : number? digits = some number)
    {c : Char}
    (member : c ∈ digits) :
    ∃ value, value? c = some value := by
  unfold number? at read
  generalize 0 = total at read
  induction digits generalizing total with
  | nil => cases member
  | cons d digits ih =>
      rw [List.foldlM_cons, Option.bind_eq_bind, Option.bind_eq_some_iff] at read
      rcases read with ⟨next, known, read⟩
      rcases List.mem_cons.mp member with rfl | later
      · rcases Option.map_eq_some_iff.mp known with ⟨value, found, _⟩
        exact ⟨value, found⟩
      · exact ih later next read

/-- What is no digit does not stand in a number. -/
theorem not_mem_of_number?
    {digits : List Char}
    {number : Nat}
    (read : number? digits = some number)
    {c : Char}
    (noDigit : value? c = none) :
    c ∉ digits := by
  intro member
  rcases exists_value?_of_number? read member with ⟨value, found⟩
  rw [noDigit] at found
  cases found

end ReviewQuery.Text.Hexadecimal
