import ReviewQuery.Json.Skip
import ReviewQuery.Proofs.Json.Document

/-!
# Passing over documents

The value of a member that nobody asks for is passed over, whatever document it is and however deep
it goes.  What is left is the text behind it, and the brackets that were open stay open.
-/

namespace ReviewQuery.Json

/-! ## Strings -/

theorem skipString_backslash
    {text rest : List Char}
    (escape : skipEscape text = .ok rest) :
    skipString ('\\' :: text) = skipString rest := by
  rw [skipString, if_neg (by decide), if_pos rfl]
  split
  · rename_i failed
    rw [escape] at failed
    cases failed
  · rename_i skipped
    rw [escape] at skipped
    cases skipped
    rfl

/-- What is written for a character is passed over. -/
theorem skipString_escapeChar (c : Char) (rest : List Char) :
    skipString (escapeChar c ++ rest) = skipString rest := by
  cases escapeForm c with
  | letter written stands =>
      rw [written]
      apply skipString_backslash
      show skipEscape (_ :: rest) = _
      rw [skipEscape, if_neg (ne_of_simpleEscape? stands), stands]
  | digits written control =>
      rw [written]
      apply skipString_backslash
      show skipEscape ('u' :: _) = _
      rw [skipEscape, if_pos rfl]
      exact congrArg (Except.map Prod.snd) (scanUnit_lower (by omega) rest)
  | plain written notQuote notBackslash graphic =>
      rw [written, List.singleton_append, skipString, if_neg notQuote, if_neg notBackslash,
        if_neg graphic]

/-- A string is passed over up to its closing quote. -/
theorem skipString_escaped (chars rest : List Char) :
    skipString (chars.flatMap escapeChar ++ '"' :: rest) = .ok rest := by
  induction chars with
  | nil => rw [List.flatMap_nil, List.nil_append, skipString, if_pos rfl]
  | cons c chars ih => rw [List.flatMap_cons, List.append_assoc, skipString_escapeChar, ih]

/-! ## Numbers -/

section Number

variable
  (atEnd : Reason)
  {rest : List Char}

theorem scanFraction_append
    {fraction : Option (List Char)}
    (valid : ∀ digits ∈ fraction, IsDigits digits)
    (ends : ∀ c ∈ rest.head?, c.isDigit = false ∧ c ≠ '.') :
    Literal.scanFraction atEnd (NumberText.renderFraction fraction ++ rest) =
      .ok (fraction, rest) := by
  cases fraction with
  | none =>
      rw [NumberText.renderFraction, List.nil_append, Literal.scanFraction.eq_def]
      split
      · exact absurd rfl (ends '.' rfl).2
      · rfl
  | some digits =>
      have validDigits := valid digits rfl
      have spanned :=
        spanDigits_append validDigits.isDigit_of_mem fun c first => (ends c first).1
      rw [NumberText.renderFraction, List.cons_append, Literal.scanFraction, spanned]
      cases digits with
      | nil => exact absurd rfl validDigits.1
      | cons c others => rfl

theorem scanExponentDigits_append
    {digits : List Char}
    (valid : IsDigits digits)
    (ends : ∀ c ∈ rest.head?, c.isDigit = false) :
    Literal.scanExponentDigits atEnd (digits ++ rest) = .ok (digits, rest) := by
  rw [Literal.scanExponentDigits, spanDigits_append valid.isDigit_of_mem ends]
  cases digits with
  | nil => exact absurd rfl valid.1
  | cons c others => rfl

/-- The sign of an exponent is read, whether it is there or not. -/
theorem scanSign_append
    {sign digits : List Char}
    (known : sign ∈ [[], ['+'], ['-']])
    (valid : IsDigits digits)
    (rest : List Char) :
    ∃ isNegative,
      Literal.scanSign (sign ++ (digits ++ rest)) = (isNegative, digits ++ rest) := by
  simp only [List.mem_cons, List.not_mem_nil, or_false] at known
  rcases known with rfl | rfl | rfl
  · refine ⟨false, ?_⟩
    cases digits with
    | nil => exact absurd rfl valid.1
    | cons c others =>
        have digit := valid.isDigit_of_mem c List.mem_cons_self
        rw [List.nil_append, List.cons_append, Literal.scanSign.eq_def]
        split
        · rename_i plus
          cases plus
          cases digit
        · rename_i minus
          cases minus
          cases digit
        · rfl
  · exact ⟨false, rfl⟩
  · exact ⟨true, rfl⟩

/-- An exponent is read up to its last digit. -/
theorem scanExponent_append (exponent : Option ExponentText) (ends : EndsNumber rest) :
    ∃ scanned,
      Literal.scanExponent atEnd (NumberText.renderExponent exponent ++ rest) =
        .ok (scanned, rest) := by
  cases exponent with
  | none =>
      refine ⟨none, ?_⟩
      rw [NumberText.renderExponent, List.nil_append]
      cases rest with
      | nil => rfl
      | cons c rest => rw [Literal.scanExponent, if_neg (not_or.mpr (ends c rfl).2.2)]
  | some exponent =>
      have letter : exponent.letter = 'e' ∨ exponent.letter = 'E' := by
        simpa only [List.mem_cons, List.not_mem_nil, or_false] using exponent.letter_mem
      have scanned :=
        scanExponentDigits_append atEnd exponent.digits_isDigits fun c first => (ends c first).1
      rcases scanSign_append exponent.sign_mem exponent.digits_isDigits rest with
        ⟨isNegative, signed⟩
      refine ⟨some (isNegative, exponent.digits), ?_⟩
      rw [NumberText.renderExponent, List.cons_append, List.append_assoc, Literal.scanExponent,
        if_pos letter, signed]
      simp only [scanned, bind, Except.bind, pure, Except.pure]

/-- Behind a whole part with its fraction neither a digit nor a point goes on. -/
theorem stops_renderExponent (exponent : Option ExponentText) (ends : EndsNumber rest) :
    ∀ c ∈ (NumberText.renderExponent exponent ++ rest).head?, c.isDigit = false ∧ c ≠ '.' := by
  intro c first
  cases exponent with
  | none => exact ⟨(ends c first).1, (ends c first).2.1⟩
  | some exponent =>
      cases first
      have letter := exponent.letter_mem
      simp only [List.mem_cons, List.not_mem_nil, or_false] at letter
      rcases letter with same | same <;> rw [same] <;> decide

/-- A number is passed over behind its sign. -/
theorem skipNumber_renderMagnitude (number : NumberText) (ends : EndsNumber rest) :
    skipNumber (number.renderMagnitude ++ rest) = .ok rest := by
  have stops := stops_renderExponent number.exponent ends
  have fraction := scanFraction_append .invalidNumber number.fraction_isDigits stops
  rcases scanExponent_append .invalidNumber number.exponent ends with ⟨_, exponent⟩
  have stopsWhole :
      ∀ c ∈ (NumberText.renderFraction number.fraction ++
        (NumberText.renderExponent number.exponent ++ rest)).head?, c.isDigit = false := by
    intro c first
    cases shown : number.fraction with
    | none =>
        rw [shown] at first
        exact (stops c first).1
    | some digits =>
        rw [shown] at first
        cases first
        rfl
  have whole :=
    scanWhole_append .invalidNumber number.whole_isDigits.1 number.whole_isDigits.isDigit_of_mem
      number.whole_of_zero stopsWhole
  rw [skipNumber, NumberText.renderMagnitude, List.append_assoc, List.append_assoc, Literal.scan,
    whole]
  simp only [bind, Except.bind, fraction, exponent, pure, Except.pure, Except.map]

end Number

/-- A number is passed over. -/
theorem skipScalar_render_number
    (number : NumberText)
    {rest : List Char}
    (ends : EndsNumber rest) :
    skipScalar (number.render ++ rest) = .ok rest := by
  have skipped := skipNumber_renderMagnitude number ends
  rw [NumberText.render]
  split
  · exact skipped
  · rcases number.renderMagnitude_eq_cons with ⟨c, tail, shown, digit⟩
    have differs (d : Char) (noDigit : d.isDigit = false) : c ≠ d := ne_of_isDigit digit noDigit
    rw [shown, List.cons_append] at skipped ⊢
    rw [skipScalar, if_neg (differs 'n' rfl), if_neg (differs 't' rfl), if_neg (differs 'f' rfl),
      if_neg (differs '"' rfl), if_neg (differs '-' rfl), if_pos digit, skipped]

/-! ## Single steps -/

theorem skipValue_of_skipScalar
    {c : Char}
    {tail rest : List Char}
    (noBlank : isBlank c = false)
    (skipped : skipScalar (c :: tail) = .ok rest)
    (brackets : List Bracket) :
    skipValue brackets (c :: tail) = skipRest brackets rest := by
  have noBracket : c ≠ '[' := by
    rintro rfl
    cases skipped
  have noBrace : c ≠ '\x7b' := by
    rintro rfl
    cases skipped
  rw [skipValue]
  split
  · rename_i empty
    rw [dropBlanks_cons noBlank] at empty
    cases empty
  · rename_i start
    rw [dropBlanks_cons noBlank] at start
    cases start
    rw [if_neg noBracket, if_neg noBrace]
    split
    · rename_i failed
      rw [skipped] at failed
      cases failed
    · rename_i again
      rw [skipped] at again
      cases again
      rfl

theorem skipValue_openArray (brackets : List Bracket) (rest : List Char) :
    skipValue brackets ('[' :: rest) = skipFirst .array brackets rest := by
  rw [skipValue]
  split
  · rename_i empty
    cases empty
  · rename_i start
    rw [dropBlanks_cons rfl] at start
    cases start
    rw [if_pos rfl]

theorem skipValue_openObject (brackets : List Bracket) (rest : List Char) :
    skipValue brackets ('\x7b' :: rest) = skipFirst .object brackets rest := by
  rw [skipValue]
  split
  · rename_i empty
    cases empty
  · rename_i start
    rw [dropBlanks_cons rfl] at start
    cases start
    rw [if_neg (by decide), if_pos rfl]

theorem closing_cases (bracket : Bracket) :
    bracket.closing = ']' ∨ bracket.closing = '\x7d' := by
  cases bracket with
  | array => exact Or.inl rfl
  | object => exact Or.inr rfl

theorem isBlank_closing (bracket : Bracket) : isBlank bracket.closing = false := by
  cases bracket <;> rfl

theorem skipFirst_closing (bracket : Bracket) (brackets : List Bracket) (rest : List Char) :
    skipFirst bracket brackets (bracket.closing :: rest) = skipRest brackets rest := by
  rw [skipFirst]
  split
  · rename_i empty
    rw [dropBlanks_cons (isBlank_closing bracket)] at empty
    cases empty
  · rename_i start
    rw [dropBlanks_cons (isBlank_closing bracket)] at start
    cases start
    rw [if_pos rfl]

theorem skipFirst_part
    {bracket : Bracket}
    {c : Char}
    {tail rest : List Char}
    (noBlank : isBlank c = false)
    (noClosing : c ≠ bracket.closing)
    (key : skipKey bracket (c :: tail) = .ok rest)
    (brackets : List Bracket) :
    skipFirst bracket brackets (c :: tail) = skipValue (bracket :: brackets) rest := by
  rw [skipFirst]
  split
  · rename_i empty
    rw [dropBlanks_cons noBlank] at empty
    cases empty
  · rename_i start
    rw [dropBlanks_cons noBlank] at start
    cases start
    rw [if_neg noClosing]
    split
    · rename_i failed
      rw [key] at failed
      cases failed
    · rename_i again
      rw [key] at again
      cases again
      rfl

theorem skipRest_closing (bracket : Bracket) (brackets : List Bracket) (rest : List Char) :
    skipRest (bracket :: brackets) (bracket.closing :: rest) = skipRest brackets rest := by
  have noComma : bracket.closing ≠ ',' := by
    cases bracket <;> decide
  rw [skipRest.eq_def (bracket :: brackets)]
  dsimp only
  split
  · rename_i empty
    rw [dropBlanks_cons (isBlank_closing bracket)] at empty
    cases empty
  · rename_i start
    rw [dropBlanks_cons (isBlank_closing bracket)] at start
    cases start
    rw [if_neg noComma, if_pos rfl]

theorem skipRest_comma
    {bracket : Bracket}
    {text rest : List Char}
    (key : skipKey bracket text = .ok rest)
    (brackets : List Bracket) :
    skipRest (bracket :: brackets) (',' :: text) = skipValue (bracket :: brackets) rest := by
  rw [skipRest.eq_def (bracket :: brackets)]
  dsimp only
  split
  · rename_i empty
    cases empty
  · rename_i start
    rw [dropBlanks_cons rfl] at start
    cases start
    rw [if_pos rfl]
    split
    · rename_i failed
      rw [key] at failed
      cases failed
    · rename_i again
      rw [key] at again
      cases again
      rfl

/-! ## Parts one after another -/

/-- Whether a document is passed over in front of any text, whatever brackets are open. -/
def Document.IsSkipped (document : Document) : Prop :=
  ∀ (brackets : List Bracket) (rest : List Char),
    EndsNumber rest → skipValue brackets (document.render ++ rest) = skipRest brackets rest

/-- A text that a bracket takes for one of its parts, with the name that the part may need. -/
structure IsPart (bracket : Bracket) (part : List Char) : Prop where
  starts : ∃ c tail, part = c :: tail ∧ isBlank c = false ∧ c ≠ bracket.closing
  isSkipped :
    ∀ (brackets : List Bracket) (rest : List Char),
      EndsNumber rest →
        ∃ value,
          skipKey bracket (part ++ rest) = .ok value ∧
            skipValue (bracket :: brackets) value = skipRest (bracket :: brackets) rest

theorem isPart_item {document : Document} (skipped : document.IsSkipped) :
    IsPart .array document.render where
  starts := document.render_eq_cons
  isSkipped := fun brackets rest ends => ⟨_, rfl, skipped (.array :: brackets) rest ends⟩

theorem isPart_member {member : String × Document} (skipped : member.2.IsSkipped) :
    IsPart .object ('"' :: Document.behindQuote member) where
  starts := ⟨'"', _, rfl, rfl, by decide⟩
  isSkipped := by
    intro brackets rest ends
    refine ⟨member.2.render ++ rest, ?_, skipped (.object :: brackets) rest ends⟩
    have key := skipString_escaped member.1.toList (':' :: (member.2.render ++ rest))
    rw [List.cons_append, Document.behindQuote, List.append_assoc, List.cons_append,
      List.cons_append, skipKey, dropBlanks_cons rfl]
    dsimp only
    rw [if_pos rfl, key]
    rfl

section Parts

variable
  {bracket : Bracket}
  {parts : List (List Char)}
  (valid : ∀ part ∈ parts, IsPart bracket part)
  (brackets : List Bracket)
  (rest : List Char)

include valid

/-- Behind a part the others are passed over up to the closing bracket. -/
theorem skipRest_partsTail :
    skipRest (bracket :: brackets) (Document.partsTail parts bracket.closing rest) =
      skipRest brackets rest := by
  induction parts with
  | nil => exact skipRest_closing bracket brackets rest
  | cons first others ih =>
      have ends := Document.endsNumber_partsTail others (closing_cases bracket) rest
      rcases (valid first List.mem_cons_self).isSkipped brackets _ ends with ⟨value, key, skipped⟩
      rw [Document.partsTail_cons, skipRest_comma key, skipped]
      exact ih fun part among => valid part (List.mem_cons_of_mem first among)

/-- Behind the opening bracket all parts are passed over. -/
theorem skipFirst_parts {opening : Char} :
    ∃ text,
      Document.renderParts opening bracket.closing parts ++ rest = opening :: text ∧
        skipFirst bracket brackets text = skipRest brackets rest := by
  cases parts with
  | nil => exact ⟨_, rfl, skipFirst_closing bracket brackets rest⟩
  | cons first others =>
      have ends := Document.endsNumber_partsTail others (closing_cases bracket) rest
      have validFirst := valid first List.mem_cons_self
      rcases validFirst.isSkipped brackets _ ends with ⟨value, key, skipped⟩
      rcases validFirst.starts with ⟨c, tail, rfl, noBlank, noClosing⟩
      refine ⟨_, Document.renderParts_cons_append _ _ _ _ _, ?_⟩
      rw [List.cons_append] at key ⊢
      rw [skipFirst_part noBlank noClosing key, skipped]
      exact skipRest_partsTail (fun part among => valid part (List.mem_cons_of_mem _ among))
        brackets rest

end Parts

/-! ## Documents -/

theorem Document.isSkipped_of_skipScalar
    {document : Document}
    (skips : ∀ rest, EndsNumber rest → skipScalar (document.render ++ rest) = .ok rest) :
    document.IsSkipped := by
  intro brackets rest ends
  have skipped := skips rest ends
  rcases document.render_eq_cons with ⟨c, tail, shown, noBlank, _⟩
  rw [shown, List.cons_append] at skipped ⊢
  exact skipValue_of_skipScalar noBlank skipped brackets

/-- Every document is passed over. -/
theorem Document.isSkipped (document : Document) : document.IsSkipped := by
  induction document with
  | null => exact isSkipped_of_skipScalar fun rest _ => rfl
  | bool value =>
      cases value with
      | false => exact isSkipped_of_skipScalar fun rest _ => rfl
      | true => exact isSkipped_of_skipScalar fun rest _ => rfl
  | number text =>
      exact isSkipped_of_skipScalar fun rest ends => by exact skipScalar_render_number text ends
  | string text =>
      apply isSkipped_of_skipScalar
      intro rest _
      rw [render, renderString, List.append_assoc, List.singleton_append]
      exact skipString_escaped text.toList rest
  | array items ih =>
      intro brackets rest _
      have valid : ∀ part ∈ itemTexts items, IsPart .array part := by
        rw [itemTexts_eq_map, List.forall_mem_map]
        exact fun item among => isPart_item (ih item among)
      rcases skipFirst_parts valid brackets rest with ⟨text, shown, skipped⟩
      rw [render]
      exact (congrArg (skipValue brackets) shown).trans
        ((skipValue_openArray brackets text).trans skipped)
  | object members ih =>
      intro brackets rest _
      have valid : ∀ part ∈ memberTexts members, IsPart .object part := by
        rw [memberTexts_eq_map, List.forall_mem_map]
        exact fun member among => isPart_member (ih member among)
      rcases skipFirst_parts valid brackets rest with ⟨text, shown, skipped⟩
      rw [render]
      exact (congrArg (skipValue brackets) shown).trans
        ((skipValue_openObject brackets text).trans skipped)

/-- A value that nobody asks for is passed over up to the text behind it. -/
theorem skipValue_render
    (document : Document)
    {rest : List Char}
    (ends : EndsNumber rest) :
    skipValue [] (document.render ++ rest) = .ok rest := by
  rw [document.isSkipped [] rest ends, skipRest]

end ReviewQuery.Json
