import Mathlib.Data.Nat.Digits.Defs
import ReviewQuery.Proofs.Http.Chunks

/-!
# Every layout carries its body

A body can be laid out behind its head in three ways: its length is told, it comes in chunks, or it
ends with the connection.  Each layout has its own field in the head, if any, and each is read as
the same octets.
-/

namespace ReviewQuery.Http

/-! ## Layouts -/

/-- A way to lay out the octets of a body. -/
inductive Layout (octets : Octets) where
  /-- The head tells how many there are. -/
  | length
  /-- They come in chunks. -/
  | chunks (list : List Chunk) (joined : list.flatMap Chunk.data = octets)
  /-- They end with the connection. -/
  | untilEnd

namespace Layout

variable {octets : Octets}

/-- What the head says about a layout. -/
def fields : Layout octets → List Field
  | .length => [.ofText "Content-Length" (Nat.toDigits 10 octets.length)]
  | .chunks _ _ => [.ofText "Transfer-Encoding" "chunked".toList]
  | .untilEnd => []

/-- How the body is to be read. -/
def framing : Layout octets → Framing
  | .length => .length octets.length
  | .chunks _ _ => .chunked
  | .untilEnd => .untilEnd

/-- The body as it is sent. -/
def write : Layout octets → Octets
  | .length | .untilEnd => octets
  | .chunks list _ => list.flatMap Chunk.write ++ Chunk.last

theorem read_write (layout : Layout octets) : layout.framing.read layout.write = .ok octets := by
  cases layout with
  | length =>
      rw [framing, write, Framing.read, if_neg (Nat.lt_irrefl _), List.take_length]
  | chunks list joined =>
      exact (readChunks_write list).trans (congrArg Except.ok joined)
  | untilEnd => rfl

end Layout

/-! ## Heads with a layout -/

/-- Whether a field can stand in a head and says nothing about the body. -/
structure Field.IsNeutral (field : Field) : Prop extends field.IsPlain where
  ne_length : field.name.map Char.toLower ≠ "content-length".toList
  ne_transfer : field.name.map Char.toLower ≠ "transfer-encoding".toList

theorem length_toDigits_of_lt {n : Nat} (fits : n < lengthBound) :
    (Nat.toDigits 10 n).length ≤ 20 :=
  Nat.toDigits_length 10 n 20 (by decide) (Nat.lt_trans fits (by decide))

/-- The field of a layout can stand in a head. -/
theorem Layout.isPlain_of_mem_fields
    {octets : Octets}
    (fits : octets.length < lengthBound)
    (layout : Layout octets) :
    ∀ field ∈ layout.fields, field.IsPlain := by
  intro field member
  cases layout with
  | length =>
      rcases List.mem_singleton.mp member with rfl
      have short := length_toDigits_of_lt fits
      have name : "Content-Length".toList.length = 14 := by decide
      exact Field.isPlain_ofText (by decide) (isVisible_toDigits _) (by omega)
  | chunks list joined =>
      rcases List.mem_singleton.mp member with rfl
      exact Field.isPlain_ofText (by decide) (by decide) (by decide)
  | untilEnd => cases member

/-! ## The framing that a head asks for -/

section Framing

variable
  {head : Head}
  {octets : Octets}
  {before after : List Field}

/-- A status that allows a body leaves the framing to the fields. -/
theorem Head.framing_of_filled
    (version : head.status.version = protocol)
    (filled : head.status.code ≠ 204 ∧ head.status.code ≠ 304) :
    head.framing =
      if ((head.value? "transfer-encoding").getD []).isEmpty then
        match (head.value? "content-length").bind decimal? with
        | some octets => if octets < lengthBound then .length octets else .untilEnd
        | none => .untilEnd
      else .chunked := by
  have recent : protocol ≠ "HTTP/1.0".toList := by decide
  simp only [Head.framing, version, recent, filled.1, filled.2, decide_false, Bool.or_self,
    Bool.not_false, Bool.true_and, Bool.false_eq_true, if_false, Bool.not_eq_true']
  cases ((head.value? "transfer-encoding").getD []).isEmpty with
  | true => rfl
  | false => rfl

/-- A field of a head with a layout is neutral or belongs to the layout. -/
theorem Layout.neutral_or_mem
    {layout : Layout octets}
    (fields : head.fields = before ++ (layout.fields ++ after))
    (neutral : ∀ field ∈ before ++ after, field.IsNeutral)
    {field : Field}
    (member : field ∈ head.fields) :
    field.IsNeutral ∨ field ∈ layout.fields := by
  rw [fields, List.mem_append, List.mem_append] at member
  rcases member with early | own | late
  · exact Or.inl (neutral field (List.mem_append_left after early))
  · exact Or.inr own
  · exact Or.inl (neutral field (List.mem_append_right before late))

/-- Among neutral fields, the field of a layout decides the framing. -/
theorem Layout.framing_eq
    (layout : Layout octets)
    (version : head.status.version = protocol)
    (filled : head.status.code ≠ 204 ∧ head.status.code ≠ 304)
    (fields : head.fields = before ++ (layout.fields ++ after))
    (neutral : ∀ field ∈ before ++ after, field.IsNeutral)
    (fits : octets.length < lengthBound) :
    head.framing = layout.framing := by
  have neutralBefore : ∀ field ∈ before, field.IsNeutral := fun field member =>
    neutral field (List.mem_append_left after member)
  have sorted {field : Field} (member : field ∈ head.fields) :
      field.IsNeutral ∨ field ∈ layout.fields :=
    neutral_or_mem fields neutral member
  rw [Head.framing_of_filled version filled]
  cases layout with
  | length =>
      have transfer : head.value? "transfer-encoding" = none := by
        refine Head.value?_of_absent ?_
        intro field member
        rcases sorted member with other | own
        · exact other.ne_transfer
        · rcases List.mem_singleton.mp own with rfl
          show "Content-Length".toList.map Char.toLower ≠ _
          decide
      have length : head.value? "content-length" = some (Nat.toDigits 10 octets.length) :=
        Head.value?_of_field fields (fun field member => (neutralBefore field member).ne_length)
          (by decide) (isVisible_toDigits octets.length)
      rw [transfer, length, Option.bind_some, decimal?_toDigits]
      exact if_pos fits
  | chunks list joined =>
      have transfer : head.value? "transfer-encoding" = some "chunked".toList :=
        Head.value?_of_field fields (fun field member => (neutralBefore field member).ne_transfer)
          (by decide) (by decide)
      have nonempty : ((some "chunked".toList).getD []).isEmpty ≠ true := by decide
      rw [transfer, if_neg nonempty]
      rfl
  | untilEnd =>
      have absent : ∀ field ∈ head.fields, field.IsNeutral := by
        intro field member
        rcases sorted member with other | own
        · exact other
        · cases own
      rw [Head.value?_of_absent fun field member => (absent field member).ne_transfer,
        Head.value?_of_absent fun field member => (absent field member).ne_length]
      rfl

end Framing

end ReviewQuery.Http
