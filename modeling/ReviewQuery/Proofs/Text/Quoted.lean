import Mathlib.Tactic.SplitIfs
import ReviewQuery.Proofs.Text.Hexadecimal
import ReviewQuery.Proofs.Text.PrefixFree
import ReviewQuery.Proofs.Text.Span
import ReviewQuery.Text.Quoted

/-!
# Quoted text tells what it quotes

Every character is read back from what stands for it between the quotes, and nothing that stands for
a character starts with a quote.  So a quoted text ends at its second quote that is not escaped, and
no other string is quoted in the same way.
-/

namespace ReviewQuery.Text.Quoted

/-! ## Reading a character -/

/-- The character of a code point in hexadecimal between braces, and what follows. -/
def readCode (text : List Char) : Option (Char × List Char) := do
  let code ← Hexadecimal.number? (text.takeWhile (· ≠ '\x7d'))
  pure (Char.ofNat code, (text.dropWhile (· ≠ '\x7d')).drop 1)

/-- The character that an escape behind its backslash stands for, and what follows. -/
def readEscape : List Char → Option (Char × List Char)
  | '"' :: rest => some ('"', rest)
  | '\\' :: rest => some ('\\', rest)
  | 'n' :: rest => some ('\n', rest)
  | 'r' :: rest => some ('\r', rest)
  | 't' :: rest => some ('\t', rest)
  | '0' :: rest => some ('\x00', rest)
  | 'u' :: '\x7b' :: rest => readCode rest
  | _ => none

/-- The character that stands in front of a text, and what follows. -/
def readCharacter : List Char → Option (Char × List Char)
  | [] => none
  | c :: rest => if c = '\\' then readEscape rest else some (c, rest)

theorem readCode_render (c : Char) (rest : List Char) :
    readCode (Hexadecimal.render c.toNat ++ '\x7d' :: rest) = some (c, rest) := by
  have number := Hexadecimal.number?_render c.toNat
  have noBrace : '\x7d' ∉ Hexadecimal.render c.toNat :=
    Hexadecimal.not_mem_of_number? number (by decide)
  simp only [readCode, takeWhile_ne_append_cons noBrace, dropWhile_ne_append_cons noBrace, number,
    Option.bind_eq_bind, Option.bind_some, Char.ofNat_toNat, List.drop_one, List.tail_cons,
    Option.pure_def]

/-! ## What stands for a character -/

/-- The three forms in which a character stands between the quotes: behind a backslash, as a letter
or as its code between braces, or as itself. -/
inductive EscapeForm (c : Char) : Prop where
  | letter
      {letter : Char}
      (written : escape c = ['\\', letter])
      (stands : ∀ rest, readEscape (letter :: rest) = some (c, rest))
      (sameLine : letter ≠ '\n')
  | plain
      (written : escape c = [c])
      (notQuote : c ≠ '"')
      (notBackslash : c ≠ '\\')
      (sameLine : c ≠ '\n')
  | code
      (written : escape c = ['\\', 'u', '\x7b'] ++ Hexadecimal.render c.toNat ++ ['\x7d'])

/-- The table of escapes has no other form. -/
theorem escapeForm (c : Char) : EscapeForm c := by
  obtain ⟨written, same⟩ : ∃ written, escape c = written := ⟨_, rfl⟩
  have table := same
  unfold escape at table
  split_ifs at table with quote backslash newline
  iterate 6
    · subst c
      exact .letter (same.trans table.symm) (fun _ => rfl) (by decide)
  · exact .plain (same.trans table.symm) quote backslash newline
  · exact .code (same.trans table.symm)

/-- What stands for a character is read as that character, whatever follows. -/
theorem readCharacter_escape (c : Char) (rest : List Char) :
    readCharacter (escape c ++ rest) = some (c, rest) := by
  cases escapeForm c with
  | letter written stands sameLine =>
      rw [written]
      exact stands rest
  | plain written notQuote notBackslash sameLine =>
      rw [written]
      exact if_neg notBackslash
  | code written =>
      rw [written]
      show readCode (Hexadecimal.render c.toNat ++ ['\x7d'] ++ rest) = _
      rw [List.append_assoc, List.singleton_append, readCode_render]

theorem isPrefixFree_escape : IsPrefixFree escape :=
  .of_reader readCharacter_escape

/-- What stands for a character never starts with a quote. -/
theorem escape_eq_cons (c : Char) : ∃ first others, escape c = first :: others ∧ first ≠ '"' := by
  cases escapeForm c with
  | letter written stands sameLine => exact ⟨'\\', _, written, by decide⟩
  | plain written notQuote notBackslash sameLine => exact ⟨c, [], written, notQuote⟩
  | code written => exact ⟨'\\', _, written, by decide⟩

/-- What stands for a character ends no line. -/
theorem newline_not_mem_escape (c : Char) : '\n' ∉ escape c := by
  cases escapeForm c with
  | letter written stands sameLine => simp [written, Ne.symm sameLine]
  | plain written notQuote notBackslash sameLine => simp [written, Ne.symm sameLine]
  | code written =>
      have digits : '\n' ∉ Hexadecimal.render c.toNat :=
        Hexadecimal.not_mem_of_number? (Hexadecimal.number?_render c.toNat) (by decide)
      simp [written, digits]

/-! ## Quoted texts -/

theorem toList_render (text : String) :
    (render text).toList = '"' :: (text.toList.flatMap escape ++ ['"']) := by
  rw [render, String.toList_ofList, List.cons_append]

/-- A quoted text shows where it ends and what it quotes. -/
theorem isPrefixFree_render : IsPrefixFree fun text : String => (render text).toList := by
  intro left right rest rest' same
  simp only [toList_render, List.cons_append, List.cons.injEq, true_and] at same
  rcases isPrefixFree_escape.list escape_eq_cons same with ⟨sameText, sameRest⟩
  exact ⟨String.toList_inj.mp sameText, sameRest⟩

/-- A quoted text stays on one line. -/
theorem newline_not_mem_render (text : String) : '\n' ∉ (render text).toList := by
  simp [toList_render, newline_not_mem_escape]

end ReviewQuery.Text.Quoted
