import ReviewQuery.Proofs.Client.Call
import ReviewQuery.Proofs.Query.Lines
import ReviewQuery.Proofs.Text.Slice

/-!
# The payload without a copy

The octets of a payload can be cut out of the octets of a body in place.  `cutPayload` does so by
offsets: of the first line break, of what stands behind it, and of the next line break.  Every cut
is a boundary between characters, so none of them fails, and what is cut out is the payload.
-/

namespace ReviewQuery.Query

open Text.Utf8 (BadCut cutFrom cutTo encode encodeChar ne_of_mem_encode size)

/-- Whether an octet ends a line. -/
def isLineEndOctet (octet : UInt8) : Bool :=
  octet = 13 || octet = 10

/-- The octets behind a line break.  What stands behind its first octet is cut off in any case. -/
def cutLineBreak (octets : List UInt8) : Except BadCut (List UInt8) := do
  let behindOne ← cutFrom octets 1
  if [13, 10].isPrefixOf octets then cutFrom octets 2 else pure behindOne

/-- The octets of the first line. -/
def cutFirstLine (octets : List UInt8) : Except BadCut (List UInt8) :=
  match octets.findIdx? isLineEndOctet with
  | none => pure octets
  | some last => cutTo octets last

/-- The octets of the payload, cut out of those of a body. -/
def cutPayload (body : List UInt8) : Except BadCut (Option (List UInt8)) :=
  match body.findIdx? isLineEndOctet with
  | none => pure none
  | some first => do
    let rest ← cutLineBreak (← cutFrom body first)
    if rest.all isLineEndOctet then pure none
    else some <$> cutFirstLine rest

/-! ## Line ends in octets -/

theorem encodeChar_of_isLineEnd
    {c : Char}
    (lineEnd : isLineEnd c = true) :
    ∃ octet, encodeChar c = [octet] ∧ isLineEndOctet octet = true := by
  simp only [isLineEnd, Bool.or_eq_true, decide_eq_true_eq] at lineEnd
  rcases lineEnd with rfl | rfl
  · exact ⟨13, rfl, rfl⟩
  · exact ⟨10, rfl, rfl⟩

theorem not_isLineEndOctet
    {text : List Char}
    (inside : ∀ c ∈ text, isLineEnd c = false)
    {octet : UInt8}
    (member : octet ∈ encode text) :
    isLineEndOctet octet = false := by
  have noReturn : '\r' ∉ text := fun among => Bool.noConfusion (inside '\r' among)
  have noFeed : '\n' ∉ text := fun among => Bool.noConfusion (inside '\n' among)
  simp only [isLineEndOctet, Bool.or_eq_false_iff, decide_eq_false_iff_not]
  exact ⟨ne_of_mem_encode member (by decide) noReturn, ne_of_mem_encode member (by decide) noFeed⟩

theorem all_isLineEndOctet (text : List Char) :
    (encode text).all isLineEndOctet = text.all isLineEnd := by
  induction text with
  | nil => rfl
  | cons c rest ih =>
      rw [Text.Utf8.encode_cons, List.all_append, ih, List.all_cons]
      congr 1
      cases kind : isLineEnd c with
      | true =>
          obtain ⟨octet, shown, lineEnd⟩ := encodeChar_of_isLineEnd kind
          rw [shown, List.all_cons, lineEnd]
          rfl
      | false =>
          obtain ⟨first, others, shown, -⟩ := Text.Utf8.encodeChar_eq_cons c
          have member : first ∈ encode [c] := by
            rw [Text.Utf8.encode_cons, shown]
            exact List.mem_cons_self
          rw [shown, List.all_cons, not_isLineEndOctet (List.forall_mem_singleton.mpr kind) member]
          rfl

theorem findIdx?_encode_of_inside
    {text : List Char}
    (inside : ∀ c ∈ text, isLineEnd c = false) :
    (encode text).findIdx? isLineEndOctet = none :=
  List.findIdx?_eq_none_iff.mpr fun _ member => not_isLineEndOctet inside member

/-- The first line end of a text lies behind the octets of its first line. -/
theorem findIdx?_encode
    {front : List Char}
    (inside : ∀ c ∈ front, isLineEnd c = false)
    {c : Char}
    (lineEnd : isLineEnd c = true)
    (rest : List Char) :
    (encode (front ++ c :: rest)).findIdx? isLineEndOctet = some (size front) := by
  obtain ⟨octet, shown, found⟩ := encodeChar_of_isLineEnd lineEnd
  rw [Text.Utf8.encode_append, Text.Utf8.encode_cons, shown, List.findIdx?_append,
    findIdx?_encode_of_inside inside, List.singleton_append, List.findIdx?_cons, found]
  simp [size]

/-- The octets of a line break of two characters show that there is one. -/
theorem isPrefixOf_lineBreak
    {c : Char}
    (lineEnd : isLineEnd c = true)
    {rest : List Char}
    (notBoth : ∀ behind, c = '\r' → rest = '\n' :: behind → False) :
    [13, 10].isPrefixOf (encode (c :: rest)) = false := by
  simp only [isLineEnd, Bool.or_eq_true, decide_eq_true_eq] at lineEnd
  rcases lineEnd with rfl | rfl
  · cases rest with
    | nil => rfl
    | cons d more =>
        have absent : '\n' ∉ [d] := by
          intro member
          exact notBoth more rfl (by rw [List.mem_singleton.mp member])
        obtain ⟨first, others, shown, -⟩ := Text.Utf8.encodeChar_eq_cons d
        have member : first ∈ encode [d] := by
          rw [Text.Utf8.encode_cons, shown]
          exact List.mem_cons_self
        have noFeed : first ≠ 10 := ne_of_mem_encode member (by decide) absent
        rw [Text.Utf8.encode_cons, Text.Utf8.encode_cons, shown]
        simpa [List.isPrefixOf, encodeChar] using noFeed.symm
  · rfl

/-! ## Cuts of a body -/

/-- Behind a line end stands what stands behind its line break, and it is cut off there. -/
theorem cutLineBreak_encode
    {c : Char}
    (lineEnd : isLineEnd c = true)
    (rest : List Char) :
    ∃ behind, behindFirstLine? (c :: rest) = some behind ∧
      cutLineBreak (encode (c :: rest)) = .ok (encode behind) := by
  obtain ⟨octet, shown, -⟩ := encodeChar_of_isLineEnd lineEnd
  have cutOne : cutFrom (encode (c :: rest)) 1 = .ok (encode rest) := by
    have cut := Text.Utf8.cutFrom_size [c] rest
    rw [size, Text.Utf8.encode_cons, shown] at cut
    exact cut
  by_cases both : ∃ behind, c = '\r' ∧ rest = '\n' :: behind
  · rcases both with ⟨behind, rfl, rfl⟩
    refine ⟨behind, rfl, ?_⟩
    rw [cutLineBreak, cutOne]
    exact Text.Utf8.cutFrom_size ['\r', '\n'] behind
  · have notBoth : ∀ behind, c = '\r' → rest = '\n' :: behind → False :=
      fun behind isReturn isFeed => both ⟨behind, isReturn, isFeed⟩
    refine ⟨rest, behindFirstLine?_of_lineEnd lineEnd notBoth, ?_⟩
    rw [cutLineBreak, cutOne]
    show (if [13, 10].isPrefixOf (encode (c :: rest)) = true then _ else _) = _
    rw [isPrefixOf_lineBreak lineEnd notBoth]
    rfl

theorem cutFirstLine_encode (text : List Char) :
    cutFirstLine (encode text) = .ok (encode (firstLine text)) := by
  rcases firstLine_cases text with ⟨inside, ⟨whole, -⟩ | ⟨c, rest, joined, lineEnd, -⟩⟩
  · rw [whole] at inside ⊢
    rw [cutFirstLine, findIdx?_encode_of_inside inside]
    rfl
  · have found := findIdx?_encode inside lineEnd rest
    have cut := Text.Utf8.cutTo_size (firstLine text) (c :: rest)
    rw [← joined] at found cut
    rw [cutFirstLine, found]
    exact cut

/-- No cut of a body fails, and the octets of the payload are cut out. -/
theorem cutPayload_encode (body : List Char) :
    cutPayload (encode body) = .ok ((payloadLine? body).map encode) := by
  rcases firstLine_cases body with ⟨inside, ⟨whole, alone⟩ | ⟨c, rest, joined, lineEnd, same⟩⟩
  · rw [whole] at inside
    rw [cutPayload, findIdx?_encode_of_inside inside, payloadLine?, alone]
    rfl
  · obtain ⟨behind, found, cutBreak⟩ := cutLineBreak_encode lineEnd rest
    have first := findIdx?_encode inside lineEnd rest
    have cut := Text.Utf8.cutFrom_size (firstLine body) (c :: rest)
    rw [← joined] at first cut
    rw [cutPayload, first, payloadLine?, same, found]
    simp only [cut, cutBreak, all_isLineEndOctet, cutFirstLine_encode, bind, Except.bind,
      Option.bind]
    split <;> rfl

/-! ## The payload of a body -/

/--
The payload of a body is the second of its lines, once the empty lines at the end are left out; with
fewer than two lines left there is none, and reading the changes fails for want of it.  Cut out of
the octets of the body in place, it is the same, and every cut is made between two characters.
-/
theorem payload_second_line (body : String) :
    payload? body = (keptLines body.toList)[1]?.map String.ofList ∧
      (readChanges body = .error .missingPayload ↔ (keptLines body.toList).length < 2) ∧
      cutPayload (Text.Utf8.ofString body) = .ok ((payload? body).map Text.Utf8.ofString) := by
  have second : payload? body = (keptLines body.toList)[1]?.map String.ofList := by
    rw [payload?, payloadLine?_eq]
  refine ⟨second, ?_, ?_⟩
  · constructor
    · intro missing
      by_contra enough
      have found := List.getElem?_eq_getElem (Nat.le_of_not_lt enough)
      rw [found] at second
      rw [readChanges_of_payload second] at missing
      cases decoded : Json.decodeItems (String.ofList (keptLines body.toList)[1]) with
      | error reason =>
          rw [decoded] at missing
          cases missing
      | ok changes =>
          rw [decoded] at missing
          cases missing
    · intro short
      apply readChanges_of_missing
      rw [second, List.getElem?_eq_none (Nat.le_of_lt_succ short)]
      rfl
  · have same : Text.Utf8.ofString ∘ String.ofList = encode := by
      funext text
      exact congrArg encode String.toList_ofList
    rw [Text.Utf8.ofString, cutPayload_encode, payload?, Option.map_map, same]

end ReviewQuery.Query
