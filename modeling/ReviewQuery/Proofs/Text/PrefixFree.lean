import Mathlib.Logic.Function.Defs

/-!
# Written forms that tell where they end

A way of writing is prefix-free if the value and what is written behind it can be told from the text
alone.  Such forms can be put one after another.  A list is written in such a form if its items are
and a mark that starts no item stands at the end.
-/

namespace ReviewQuery.Text

/-- Whether the value that stands in front of a text, and what follows it, can be told from the
text. -/
def IsPrefixFree {α : Type} (write : α → List Char) : Prop :=
  ∀ ⦃left right : α⦄ ⦃rest rest' : List Char⦄,
    write left ++ rest = write right ++ rest' → left = right ∧ rest = rest'

namespace IsPrefixFree

variable
  {α : Type}
  {write : α → List Char}

/-- What can be read back, whatever follows it, is prefix-free. -/
theorem of_reader
    {read : List Char → Option (α × List Char)}
    (readBack : ∀ value rest, read (write value ++ rest) = some (value, rest)) :
    IsPrefixFree write := by
  intro left right rest rest' same
  have found := readBack left rest
  rw [same, readBack right rest'] at found
  exact Prod.mk.inj (Option.some.inj found.symm)

theorem append_inj
    (prefixFree : IsPrefixFree write)
    {left right : α}
    {rest rest' : List Char} :
    write left ++ rest = write right ++ rest' ↔ left = right ∧ rest = rest' := by
  constructor
  · intro same
    exact prefixFree same
  · rintro ⟨rfl, rfl⟩
    rfl

/-- Items of which none starts with a mark, written one after another and closed by the mark. -/
theorem list
    (prefixFree : IsPrefixFree write)
    {mark : Char}
    (starts : ∀ value, ∃ first others, write value = first :: others ∧ first ≠ mark) :
    IsPrefixFree fun values : List α => values.flatMap write ++ [mark] := by
  intro left right rest rest' same
  induction left generalizing right with
  | nil =>
      cases right with
      | nil => exact ⟨rfl, List.append_cancel_left same⟩
      | cons value values =>
          rcases starts value with ⟨first, others, written, notMark⟩
          simp only [List.flatMap_nil, List.flatMap_cons, written, List.nil_append,
            List.cons_append, List.cons.injEq] at same
          exact absurd same.1.symm notMark
  | cons value values ih =>
      cases right with
      | nil =>
          rcases starts value with ⟨first, others, written, notMark⟩
          simp only [List.flatMap_nil, List.flatMap_cons, written, List.nil_append,
            List.cons_append, List.cons.injEq] at same
          exact absurd same.1 notMark
      | cons value' values' =>
          simp only [List.flatMap_cons, List.append_assoc] at same ih
          rcases prefixFree same with ⟨rfl, behind⟩
          rcases ih behind with ⟨rfl, sameRest⟩
          exact ⟨rfl, sameRest⟩

end IsPrefixFree

end ReviewQuery.Text
