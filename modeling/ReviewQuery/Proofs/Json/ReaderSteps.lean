import ReviewQuery.Json.Reader
import ReviewQuery.Proofs.Json.ScalarText

/-!
# Single steps of the reader

The reader keeps a stack of open arrays and objects.  Each lemma says what it does at one place of
a text without blanks: at a scalar, behind an opening bracket, behind a completed value, and at a
bracket for which there is no room on the stack.
-/

namespace ReviewQuery.Json

/-! ## Starting a value -/

theorem dropBlanks_cons
    {c : Char}
    (noBlank : isBlank c = false)
    (rest : List Char) :
    dropBlanks (c :: rest) = c :: rest := by
  rw [dropBlanks, List.dropWhile_cons_of_neg (by rw [noBlank]; exact Bool.false_ne_true)]

/-- What is read as a scalar starts with no blank and no opening bracket. -/
theorem starts_of_scanScalar
    {text rest : List Char}
    {value : Value}
    (scanned : scanScalar text = .ok (value, rest)) :
    ∃ c tail, text = c :: tail ∧ isBlank c = false ∧ c ≠ '[' ∧ c ≠ '\x7b' := by
  cases text with
  | nil => cases scanned
  | cons c tail =>
      refine ⟨c, tail, rfl, ?_, ?_, ?_⟩
      · rw [← Bool.not_eq_true]
        intro blank
        simp only [isBlank, Bool.or_eq_true, decide_eq_true_eq] at blank
        rcases blank with ((rfl | rfl) | rfl) | rfl <;> cases scanned
      · rintro rfl
        cases scanned
      · rintro rfl
        cases scanned

theorem readValue_of_scanScalar
    {text rest : List Char}
    {value : Value}
    (scanned : scanScalar text = .ok (value, rest))
    (frames : List Frame) :
    readValue frames text = resume frames value rest := by
  rcases starts_of_scanScalar scanned with ⟨c, tail, rfl, noBlank, noBracket, noBrace⟩
  rw [readValue]
  split
  · rename_i empty
    rw [dropBlanks_cons noBlank] at empty
    cases empty
  · rename_i start
    rw [dropBlanks_cons noBlank] at start
    cases start
    rw [if_neg noBracket, if_neg noBrace]
    split
    · rename_i failed
      rw [scanned] at failed
      cases failed
    · rename_i again
      rw [scanned] at again
      cases again
      rfl

theorem readValue_openArray
    {frames : List Frame}
    (room : frames.length < nestingLimit)
    {c : Char}
    (noBlank : isBlank c = false)
    (noEnd : c ≠ ']')
    (rest : List Char) :
    readValue frames ('[' :: c :: rest) = readValue (.array [] :: frames) (c :: rest) := by
  rw [readValue.eq_def frames ('[' :: c :: rest)]
  split
  · rename_i empty
    cases empty
  · rename_i start
    rw [dropBlanks_cons rfl] at start
    cases start
    rw [if_pos rfl, if_pos room]
    split
    · rename_i empty
      rw [dropBlanks_cons noBlank] at empty
      cases empty
    · rename_i start
      rw [dropBlanks_cons noBlank] at start
      cases start
      rw [if_neg noEnd]

theorem readValue_emptyArray
    {frames : List Frame}
    (room : frames.length < nestingLimit)
    (rest : List Char) :
    readValue frames ('[' :: ']' :: rest) = resume frames (.array []) rest := by
  rw [readValue.eq_def frames ('[' :: ']' :: rest)]
  split
  · rename_i empty
    cases empty
  · rename_i start
    rw [dropBlanks_cons rfl] at start
    cases start
    rw [if_pos rfl, if_pos room]
    rfl

theorem readValue_openObject
    {frames : List Frame}
    (room : frames.length < nestingLimit)
    {text rest : List Char}
    {name : String}
    (key : scanKey text = .ok (name, rest)) :
    readValue frames ('\x7b' :: '"' :: text) = readValue (.object [] name :: frames) rest := by
  rw [readValue.eq_def frames ('\x7b' :: '"' :: text)]
  split
  · rename_i empty
    cases empty
  · rename_i start
    rw [dropBlanks_cons rfl] at start
    cases start
    rw [if_neg (by decide), if_pos rfl, if_pos room]
    split
    · rename_i empty
      cases empty
    · rename_i start
      rw [dropBlanks_cons rfl] at start
      cases start
      rw [if_neg (by decide), if_pos rfl]
      split
      · rename_i failed
        rw [key] at failed
        cases failed
      · rename_i again
        rw [key] at again
        cases again
        rfl

theorem readValue_emptyObject
    {frames : List Frame}
    (room : frames.length < nestingLimit)
    (rest : List Char) :
    readValue frames ('\x7b' :: '\x7d' :: rest) = resume frames (.object []) rest := by
  rw [readValue.eq_def frames ('\x7b' :: '\x7d' :: rest)]
  split
  · rename_i empty
    cases empty
  · rename_i start
    rw [dropBlanks_cons rfl] at start
    cases start
    rw [if_neg (by decide), if_pos rfl, if_pos room]
    rfl

/-- An array or object inside too many others is refused at its bracket. -/
theorem readValue_tooDeep
    {frames : List Frame}
    (full : ¬ frames.length < nestingLimit)
    {c : Char}
    (opens : c = '[' ∨ c = '\x7b')
    (rest : List Char) :
    readValue frames (c :: rest) = .error (.atNext .tooDeep (c :: rest)) := by
  have noBlank : isBlank c = false := by
    rcases opens with rfl | rfl <;> rfl
  rw [readValue]
  split
  · rename_i empty
    rw [dropBlanks_cons noBlank] at empty
    cases empty
  · rename_i start
    rw [dropBlanks_cons noBlank] at start
    cases start
    rcases opens with rfl | rfl
    · rw [if_pos rfl, if_neg full]
    · rw [if_neg (by decide), if_pos rfl, if_neg full]

/-! ## Going on behind a value -/

theorem resume_closeArray
    (frames : List Frame)
    (done : List Value)
    (value : Value)
    (rest : List Char) :
    resume (.array done :: frames) value (']' :: rest) =
      resume frames (.array (value :: done).reverse) rest := by
  rw [resume.eq_def (.array done :: frames)]
  rfl

theorem resume_nextItem
    (frames : List Frame)
    (done : List Value)
    (value : Value)
    {c : Char}
    (noBlank : isBlank c = false)
    (noEnd : c ≠ ']')
    (rest : List Char) :
    resume (.array done :: frames) value (',' :: c :: rest) =
      readValue (.array (value :: done) :: frames) (c :: rest) := by
  rw [resume.eq_def (.array done :: frames)]
  dsimp only
  split
  · rename_i empty
    cases empty
  · rename_i start
    rw [dropBlanks_cons rfl] at start
    cases start
    rw [if_neg (by decide), if_pos rfl]
    split
    · rename_i empty
      rw [dropBlanks_cons noBlank] at empty
      cases empty
    · rename_i start
      rw [dropBlanks_cons noBlank] at start
      cases start
      rw [if_neg noEnd]

theorem resume_closeObject
    (frames : List Frame)
    (done : Members)
    (name : String)
    (value : Value)
    (rest : List Char) :
    resume (.object done name :: frames) value ('\x7d' :: rest) =
      resume frames (.object (Members.insert name value done)) rest := by
  rw [resume.eq_def (.object done name :: frames)]
  rfl

theorem resume_nextMember
    (frames : List Frame)
    (done : Members)
    (name : String)
    (value : Value)
    {text rest : List Char}
    {next : String}
    (key : scanKey text = .ok (next, rest)) :
    resume (.object done name :: frames) value (',' :: '"' :: text) =
      readValue (.object (Members.insert name value done) next :: frames) rest := by
  rw [resume.eq_def (.object done name :: frames)]
  dsimp only
  split
  · rename_i empty
    cases empty
  · rename_i start
    rw [dropBlanks_cons rfl] at start
    cases start
    rw [if_neg (by decide), if_pos rfl]
    split
    · rename_i empty
      cases empty
    · rename_i start
      rw [dropBlanks_cons rfl] at start
      cases start
      rw [if_pos rfl]
      split
      · rename_i failed
        rw [key] at failed
        cases failed
      · rename_i again
        rw [key] at again
        cases again
        rfl

/-! ## Names -/

/-- The text of a name is a quote and what is read as a name in front of a colon. -/
theorem scanKey_renderString (name : String) (rest : List Char) :
    ∃ body, renderString name = '"' :: body ∧
      scanKey (body ++ ':' :: rest) = .ok (name, rest) := by
  refine ⟨name.toList.flatMap escapeChar ++ ['"'], rfl, ?_⟩
  rw [List.append_assoc, List.singleton_append, scanKey, scanString_escaped]
  show (scanColon (':' :: rest)).map _ = _
  rw [scanColon, dropBlanks_cons rfl]
  simp only [if_true, Except.map, String.ofList_toList]

theorem Members.insert_of_not_mem
    {name : String}
    {value : Value}
    {done : Members}
    (fresh : name ∉ done.map Prod.fst) :
    Members.insert name value done = done ++ [(name, value)] := by
  induction done with
  | nil => rfl
  | cons first rest ih =>
      rcases first with ⟨other, old⟩
      rw [List.map_cons, List.mem_cons, not_or] at fresh
      rw [Members.insert, if_neg (Ne.symm fresh.1), ih fresh.2]
      rfl

end ReviewQuery.Json
