import Mathlib.Data.List.TakeWhile
import ReviewQuery.Proofs.Text.Span
import ReviewQuery.Query.Payload

/-!
# The second line of an answer

A body that consists of a first line, a line break, a second line with something in it, and a tail
that begins with a line break, has the second line as its payload.  What stands in the first line
and in the tail does not matter.
-/

namespace ReviewQuery.Query

/-- The three ways to end a line. -/
inductive LineBreak where
  | lineFeed
  | carriageReturn
  | both
  deriving DecidableEq, Repr

/-- The characters of a line break. -/
def LineBreak.chars : LineBreak → List Char
  | .lineFeed => ['\n']
  | .carriageReturn => ['\r']
  | .both => ['\r', '\n']

/-- What follows the first line, unless it starts with a line feed behind a carriage return. -/
theorem behindFirstLine?_append
    {first rest : List Char}
    (oneLine : ∀ c ∈ first, isLineEnd c = false)
    (lineBreak : LineBreak)
    (noFeed : rest.head? ≠ some '\n') :
    behindFirstLine? (first ++ (lineBreak.chars ++ rest)) = some rest := by
  have inside : ∀ c ∈ first, (!isLineEnd c) = true := by
    intro c member
    rw [oneLine c member]
    rfl
  have stops : ∀ c ∈ (lineBreak.chars ++ rest).head?, (!isLineEnd c) = false := by
    intro c member
    cases lineBreak <;> cases member <;> rfl
  rw [behindFirstLine?, Text.dropWhile_append_of_stops inside stops]
  cases lineBreak with
  | lineFeed => rfl
  | both => rfl
  | carriageReturn =>
      cases rest with
      | nil => rfl
      | cons c rest =>
          have noFeed : c ≠ '\n' := by
            rintro rfl
            exact noFeed rfl
          simp [LineBreak.chars, noFeed]

/-- The second line is the payload if it is not empty. -/
theorem payloadLine?_append
    {first line tail : List Char}
    (oneLine : ∀ c ∈ first, isLineEnd c = false)
    (lineBreak : LineBreak)
    (nonempty : line ≠ [])
    (secondLine : ∀ c ∈ line, isLineEnd c = false)
    (ends : ∀ c ∈ tail.head?, isLineEnd c = true) :
    payloadLine? (first ++ (lineBreak.chars ++ (line ++ tail))) = some line := by
  rcases List.exists_cons_of_ne_nil nonempty with ⟨c, others, rfl⟩
  have noEnd : isLineEnd c = false := secondLine c List.mem_cons_self
  have noFeed : (c :: others ++ tail).head? ≠ some '\n' := by
    intro feed
    cases Option.some.inj feed
    cases noEnd
  have inside : ∀ d ∈ c :: others, (!isLineEnd d) = true := by
    intro d member
    rw [secondLine d member]
    rfl
  have stops : ∀ d ∈ tail.head?, (!isLineEnd d) = false := by
    intro d member
    rw [ends d member]
    rfl
  have notBlank : (c :: others ++ tail).all isLineEnd = false := by
    rw [List.cons_append, List.all_cons, noEnd, Bool.false_and]
  rw [payloadLine?, behindFirstLine?_append oneLine lineBreak noFeed]
  simp only [Option.bind_eq_bind, Option.bind_some, notBlank, Bool.false_eq_true, if_false,
    Text.takeWhile_append_of_stops inside stops]

/-- The same for a body that is a string. -/
theorem payload?_append
    {first line tail : List Char}
    (oneLine : ∀ c ∈ first, isLineEnd c = false)
    (lineBreak : LineBreak)
    (nonempty : line ≠ [])
    (secondLine : ∀ c ∈ line, isLineEnd c = false)
    (ends : ∀ c ∈ tail.head?, isLineEnd c = true) :
    payload? (String.ofList (first ++ (lineBreak.chars ++ (line ++ tail)))) =
      some (String.ofList line) := by
  rw [payload?, String.toList_ofList,
    payloadLine?_append oneLine lineBreak nonempty secondLine ends, Option.map_some]

/-- A payload is a single line. -/
theorem payload?_oneLine
    {body payload : String}
    (found : payload? body = some payload) :
    ∀ c ∈ payload.toList, isLineEnd c = false := by
  rcases Option.map_eq_some_iff.mp found with ⟨line, second, rfl⟩
  rw [payloadLine?, Option.bind_eq_bind, Option.bind_eq_some_iff] at second
  rcases second with ⟨rest, -, kept⟩
  split at kept
  · cases kept
  · cases kept
    intro c member
    rw [String.toList_ofList] at member
    simpa using List.mem_takeWhile_imp member

end ReviewQuery.Query
