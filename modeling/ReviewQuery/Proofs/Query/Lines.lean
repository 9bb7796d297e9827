import Mathlib.Data.List.DropRight
import ReviewQuery.Query.Payload

/-!
# The payload is the second line

`lines` cuts a text at every line break, and `keptLines` leaves out the empty lines at its end.  The
payload of a body is found without cutting the body into lines: one line break is looked for, what
follows is tested for being line ends only, and the next line break ends the payload.  It is
nevertheless the second of the lines that are kept.
-/

namespace ReviewQuery.Query

/-- The lines of a text.  A carriage return with a line feed behind it is one line break. -/
def lines : List Char → List (List Char)
  | [] => [[]]
  | '\r' :: '\n' :: rest => [] :: lines rest
  | c :: rest => if isLineEnd c then [] :: lines rest else (lines rest).modifyHead (c :: ·)

/-- The lines of a text without the empty ones at its end. -/
def keptLines (text : List Char) : List (List Char) :=
  (lines text).rdropWhile List.isEmpty

/-- The front of a text, up to its first line end. -/
def firstLine (text : List Char) : List Char :=
  text.takeWhile fun c => !isLineEnd c

/-! ## Lines one by one -/

section FirstLine

variable
  {c : Char}
  {rest : List Char}

theorem firstLine_of_lineEnd (lineEnd : isLineEnd c = true) : firstLine (c :: rest) = [] :=
  List.takeWhile_cons_of_neg (by simp [lineEnd])

theorem firstLine_of_inside (inside : isLineEnd c = false) :
    firstLine (c :: rest) = c :: firstLine rest :=
  List.takeWhile_cons_of_pos (by simp [inside])

/-- A line end that does not start a line break of two characters is a line break. -/
theorem behindFirstLine?_of_lineEnd
    (lineEnd : isLineEnd c = true)
    (notBoth : ∀ behind, c = '\r' → rest = '\n' :: behind → False) :
    behindFirstLine? (c :: rest) = some rest := by
  rw [behindFirstLine?, List.dropWhile_cons_of_neg (by simp [lineEnd])]
  dsimp only
  split
  · rename_i behind
    exact (notBoth behind rfl rfl).elim
  · rfl

theorem behindFirstLine?_of_inside (inside : isLineEnd c = false) :
    behindFirstLine? (c :: rest) = behindFirstLine? rest := by
  rw [behindFirstLine?, behindFirstLine?, List.dropWhile_cons_of_pos (by simp [inside])]

end FirstLine

/-- A text is its first line, perhaps with a line end behind it and more. -/
theorem firstLine_cases (text : List Char) :
    (∀ c ∈ firstLine text, isLineEnd c = false) ∧
      ((firstLine text = text ∧ behindFirstLine? text = none) ∨
        ∃ c rest, text = firstLine text ++ c :: rest ∧ isLineEnd c = true ∧
          behindFirstLine? text = behindFirstLine? (c :: rest)) := by
  induction text with
  | nil => exact ⟨List.forall_mem_nil _, Or.inl ⟨rfl, rfl⟩⟩
  | cons c rest ih =>
      cases kind : isLineEnd c with
      | true =>
          rw [firstLine_of_lineEnd kind]
          exact ⟨List.forall_mem_nil _, Or.inr ⟨c, rest, rfl, kind, rfl⟩⟩
      | false =>
          rw [firstLine_of_inside kind, behindFirstLine?_of_inside kind]
          rcases ih with ⟨inside, ⟨whole, alone⟩ | ⟨d, more, joined, lineEnd, behind⟩⟩
          · exact ⟨List.forall_mem_cons.mpr ⟨kind, inside⟩, Or.inl ⟨by rw [whole], alone⟩⟩
          · refine ⟨List.forall_mem_cons.mpr ⟨kind, inside⟩, Or.inr ⟨d, more, ?_, lineEnd, behind⟩⟩
            rw [List.cons_append, ← joined]

/-- The lines of a text are its first line and the lines of what follows the first line break. -/
theorem lines_eq (text : List Char) :
    lines text =
      match behindFirstLine? text with
      | none => [firstLine text]
      | some rest => firstLine text :: lines rest := by
  fun_induction lines text with
  | case1 => rfl
  | case2 rest ih => rfl
  | case3 c rest notBoth lineEnd ih =>
      rw [behindFirstLine?_of_lineEnd lineEnd notBoth, firstLine_of_lineEnd lineEnd]
  | case4 c rest notBoth inside ih =>
      rw [Bool.not_eq_true] at inside
      rw [behindFirstLine?_of_inside inside, firstLine_of_inside inside, ih]
      cases behindFirstLine? rest with
      | none => rfl
      | some behind => rfl

/-- A return without a feed, a return with one, and a feed without a return before it. -/
example : lines ['a', '\r', '\r', '\n', '\n', 'b'] = [['a'], [], [], ['b']] := rfl

theorem exists_lines_eq (text : List Char) : ∃ others, lines text = firstLine text :: others := by
  rw [lines_eq]
  cases behindFirstLine? text with
  | none => exact ⟨[], rfl⟩
  | some rest => exact ⟨lines rest, rfl⟩

/-- All lines are empty if the text holds nothing but line ends. -/
theorem all_isEmpty_lines (text : List Char) :
    (lines text).all List.isEmpty = text.all isLineEnd := by
  fun_induction lines text with
  | case1 => rfl
  | case2 rest ih =>
      rw [List.all_cons, ih]
      rfl
  | case3 c rest notBoth lineEnd ih =>
      rw [List.all_cons, ih, List.all_cons, lineEnd]
      rfl
  | case4 c rest notBoth inside ih =>
      obtain ⟨others, shown⟩ := exists_lines_eq rest
      rw [Bool.not_eq_true] at inside
      rw [shown, List.modifyHead_cons, List.all_cons, List.all_cons, inside]
      rfl

/-! ## Lines at the end -/

section Kept

variable
  {α : Type}
  {p : α → Bool}

theorem rdropWhile_cons_of_all
    (first : α)
    {list : List α}
    (all : list.all p = true) :
    (first :: list).rdropWhile p = [first].rdropWhile p := by
  have dropped : list.reverse.dropWhile p = [] :=
    List.dropWhile_eq_nil_iff.mpr fun c member =>
      List.all_eq_true.mp all c (List.mem_reverse.mp member)
  rw [List.rdropWhile, List.reverse_cons, List.dropWhile_append, dropped]
  rfl

/-- What stands in front of a kept element is kept. -/
theorem rdropWhile_cons_of_not_all
    (first : α)
    {list : List α}
    (kept : list.all p = false) :
    (first :: list).rdropWhile p = first :: list.rdropWhile p := by
  have left : list.reverse.dropWhile p ≠ [] := by
    intro dropped
    have all : list.all p = true :=
      List.all_eq_true.mpr fun c member =>
        List.dropWhile_eq_nil_iff.mp dropped c (List.mem_reverse.mpr member)
    rw [kept] at all
    cases all
  rw [List.rdropWhile, List.reverse_cons, List.dropWhile_append,
    if_neg (by simpa using left), List.reverse_append]
  rfl

/-- If an element is kept, so is the first one. -/
theorem head?_rdropWhile
    {first : α}
    {list : List α}
    (kept : (first :: list).all p = false) :
    ((first :: list).rdropWhile p)[0]? = some first := by
  rcases List.rdropWhile_prefix p (first :: list) with ⟨dropped, whole⟩
  cases shown : (first :: list).rdropWhile p with
  | nil =>
      have all := List.all_eq_true.mpr (List.rdropWhile_eq_nil_iff.mp shown)
      rw [kept] at all
      cases all
  | cons other others =>
      rw [shown] at whole
      exact congrArg some (List.cons.inj whole).1

end Kept

/-- The payload is the second of the lines that are kept, if there are two of them. -/
theorem payloadLine?_eq (body : List Char) : payloadLine? body = (keptLines body)[1]? := by
  have noSecond : ([firstLine body].rdropWhile List.isEmpty)[1]? = none :=
    List.getElem?_eq_none (List.rdropWhile_prefix List.isEmpty [firstLine body]).length_le
  rw [payloadLine?, keptLines, lines_eq]
  cases behindFirstLine? body with
  | none => exact noSecond.symm
  | some rest =>
      show (if rest.all isLineEnd then none else some (firstLine rest)) = _
      rw [← all_isEmpty_lines]
      obtain ⟨others, shown⟩ := exists_lines_eq rest
      cases blank : (lines rest).all List.isEmpty with
      | true =>
          rw [rdropWhile_cons_of_all _ blank, noSecond]
          rfl
      | false =>
          rw [rdropWhile_cons_of_not_all _ blank]
          rw [shown] at blank ⊢
          exact (head?_rdropWhile blank).symm

end ReviewQuery.Query
