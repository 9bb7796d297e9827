import ReviewQuery.Proofs.Client.Call
import ReviewQuery.Proofs.Json.Remaining
import ReviewQuery.Proofs.Query.Payload

/-!
# The place of a fault in an answer

A payload is a single line, so a fault of it is on line one, and its column counts the octets of the
payload that have been read.  Nothing else of the body has a part in it: not the first line, nor how
lines end, nor what follows the payload.
-/

namespace ReviewQuery

/-- A payload that cannot be read was found, and no array could be read in it. -/
theorem exists_failure_of_readChanges
    {body : String}
    {fault : Json.DecodeError}
    (failed : readChanges body = .error (.badPayload fault)) :
    ∃ payload failure,
      Query.payload? body = some payload ∧
        Json.readItems payload.toList = .error failure ∧
        failure.locate payload.toList = fault := by
  cases found : Query.payload? body with
  | none =>
      rw [readChanges_of_missing found] at failed
      cases failed
  | some payload =>
      rw [readChanges_of_payload found] at failed
      rcases mapError_eq_error_iff.mp failed with ⟨cause, unread, same⟩
      cases same
      rcases mapError_eq_error_iff.mp unread with ⟨failure, unreadItems, located⟩
      exact ⟨payload, failure, rfl, unreadItems, located⟩

/--
If the payload of a body cannot be read, the fault is on line one, in a column that is no greater
than the number of octets of the payload: the octets up to the fault and those that are left there
make up the payload.  Every other body with this payload has the same fault, whatever its first line
is, however its lines end, and whatever follows the payload.
-/
theorem place_of_badPayload
    {body : String}
    {fault : Json.DecodeError}
    (failed : readChanges body = .error (.badPayload fault)) :
    ∃ payload,
      Query.payload? body = some payload ∧
        fault.position.line = 1 ∧
        fault.position.column ≤ (Text.Utf8.ofString payload).length ∧
        (∃ failure,
          Json.readItems payload.toList = .error failure ∧
            fault.reason = failure.reason ∧
            fault.position.column + failure.remaining = (Text.Utf8.ofString payload).length) ∧
        (∀ other,
          Query.payload? other = some payload → readChanges other = .error (.badPayload fault)) ∧
        ∀ (first tail : List Char) (lineBreak : Query.LineBreak),
          (∀ c ∈ first, Query.isLineEnd c = false) →
            (∀ c ∈ tail.head?, Query.isLineEnd c = true) → payload ≠ "" →
              readChanges
                  (String.ofList (first ++ (lineBreak.chars ++ (payload.toList ++ tail)))) =
                .error (.badPayload fault) := by
  obtain ⟨payload, failure, found, unread, rfl⟩ := exists_failure_of_readChanges failed
  have within := Json.remaining_le_of_readItems unread
  have oneLine := Query.payload?_oneLine found
  have noFeed : '\n' ∉ payload.toList := fun member => Bool.noConfusion (oneLine '\n' member)
  have samePayload (other : String) (again : Query.payload? other = some payload) :
      readChanges other = .error (.badPayload (failure.locate payload.toList)) := by
    rw [← failed, readChanges_of_payload again, readChanges_of_payload found]
  refine ⟨payload, found, ?_, ?_, ⟨failure, unread, ?_, ?_⟩, samePayload, ?_⟩
  · rw [failure.locate_of_no_feed noFeed]
  · rw [failure.locate_of_no_feed noFeed]
    exact Nat.sub_le _ _
  · rfl
  · rw [failure.locate_of_no_feed noFeed]
    exact Nat.sub_add_cancel within
  · intro first tail lineBreak guardLine newLine nonempty
    have notNil : payload.toList ≠ [] := by
      simpa using nonempty
    have again := Query.payload?_append guardLine lineBreak notNil oneLine newLine
    rw [String.ofList_toList] at again
    exact samePayload _ again

/-- A fault at a character of two octets, in bodies with different first lines, line breaks and
tails. -/
theorem place_of_badPayload_at_accent :
    let body := ")]\x7d'\n[1,é]"
    let other := "<html>\r[1,é]\r\n\nlater"
    readChanges body = .error (.badPayload ⟨.expectedValue, ⟨1, 4⟩⟩) ∧
      readChanges other = .error (.badPayload ⟨.expectedValue, ⟨1, 4⟩⟩) ∧
      ∃ payload,
        Query.payload? body = some payload ∧ 4 ≤ (Text.Utf8.ofString payload).length := by
  intro body other
  have failed : readChanges body = .error (.badPayload ⟨.expectedValue, ⟨1, 4⟩⟩) := by
    dsimp only [body]
    with_unfolding_all rfl
  have line : Query.payload? body = some "[1,é]" := by
    decide +kernel
  have otherLine : Query.payload? other = some "[1,é]" := by
    decide +kernel
  obtain ⟨payload, found, -, column, -, same, -⟩ := place_of_badPayload failed
  exact ⟨failed, same other (otherLine.trans (line.symm.trans found)), payload, found, column⟩

end ReviewQuery
