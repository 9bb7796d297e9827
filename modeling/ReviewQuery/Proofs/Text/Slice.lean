import ReviewQuery.Proofs.Text.Utf8

/-!
# Cutting a text by octets

A text that is held as octets can be cut only between two characters: at its end, or in front of an
octet that starts a character.  A cut anywhere else is a fault.  `isBoundary_encode_iff` says that
the places to cut a text are the ends of its fronts.
-/

namespace ReviewQuery.Text.Utf8

/-- Whether octets may be cut at an offset. -/
def isBoundary (octets : List UInt8) (offset : Nat) : Bool :=
  match octets[offset]? with
  | some octet => (continuation? octet).isNone
  | none => offset = octets.length

/-- The fault of a cut inside a character or behind the end of a text. -/
structure BadCut where
  offset : Nat

/-- What stands behind an offset. -/
def cutFrom (octets : List UInt8) (offset : Nat) : Except BadCut (List UInt8) :=
  if isBoundary octets offset then .ok (octets.drop offset) else .error ⟨offset⟩

/-- What stands in front of an offset. -/
def cutTo (octets : List UInt8) (offset : Nat) : Except BadCut (List UInt8) :=
  if isBoundary octets offset then .ok (octets.take offset) else .error ⟨offset⟩

/-! ## Octets that start a character -/

theorem continuation?_eq_none
    {n : Nat}
    (small : n < 256)
    (starts : n < 0x80 ∨ 0xC0 ≤ n) :
    continuation? (UInt8.ofNat n) = none := by
  rw [continuation?, toNat_ofNat small, if_neg (by omega)]

/-- A character is written as one octet that starts it and others that go on with it. -/
theorem encodeChar_eq_cons (c : Char) :
    ∃ first others, encodeChar c = first :: others ∧ continuation? first = none ∧
      ∀ octet ∈ others, (continuation? octet).isNone = false := by
  rcases toNat_eq_bits c with ⟨limit, -⟩
  have goesOn (n : Nat) : (continuation? (UInt8.ofNat (0x80 + n % 64))).isNone = false := by
    rw [continuation?_ofNat (Nat.mod_lt n (by decide))]
    rfl
  have none : ∀ octet ∈ ([] : List UInt8), (continuation? octet).isNone = false :=
    List.forall_mem_nil _
  rw [encodeChar]
  split_ifs with one two three
  · exact ⟨_, [], rfl, continuation?_eq_none (by omega) (by omega), none⟩
  · refine ⟨_, [_], rfl, continuation?_eq_none (by omega) (by omega), ?_⟩
    exact List.forall_mem_cons.mpr ⟨goesOn _, none⟩
  · refine ⟨_, [_, _], rfl, continuation?_eq_none (by omega) (by omega), ?_⟩
    exact List.forall_mem_cons.mpr ⟨goesOn _, List.forall_mem_cons.mpr ⟨goesOn _, none⟩⟩
  · refine ⟨_, [_, _, _], rfl, continuation?_eq_none (by omega) (by omega), ?_⟩
    exact List.forall_mem_cons.mpr
      ⟨goesOn _, List.forall_mem_cons.mpr ⟨goesOn _, List.forall_mem_cons.mpr ⟨goesOn _, none⟩⟩⟩

/-! ## Where a text may be cut -/

theorem isBoundary_append (front back : List UInt8) (offset : Nat) :
    isBoundary (front ++ back) (front.length + offset) = isBoundary back offset := by
  rw [isBoundary, isBoundary, List.getElem?_append_right (Nat.le_add_right _ _),
    Nat.add_sub_cancel_left, List.length_append]
  split
  · rfl
  · rw [decide_eq_decide, Nat.add_left_cancel_iff]

theorem isBoundary_encode_zero (text : List Char) : isBoundary (encode text) 0 = true := by
  cases text with
  | nil => rfl
  | cons c rest =>
      obtain ⟨first, others, shown, starts, -⟩ := encodeChar_eq_cons c
      rw [encode_cons, shown, isBoundary, List.cons_append, List.getElem?_cons_zero]
      simp only [starts, Option.isNone_none]

/-- There is no boundary inside a character. -/
theorem isBoundary_encode_inside
    {c : Char}
    {offset : Nat}
    (behindStart : 0 < offset)
    (inside : offset < (encodeChar c).length)
    (rest : List UInt8) :
    isBoundary (encodeChar c ++ rest) offset = false := by
  obtain ⟨first, others, shown, -, goesOn⟩ := encodeChar_eq_cons c
  rw [shown] at inside ⊢
  obtain ⟨before, rfl⟩ := Nat.exists_eq_succ_of_ne_zero (Nat.ne_of_gt behindStart)
  have short : before < others.length := Nat.lt_of_succ_lt_succ inside
  rw [isBoundary, List.getElem?_append_left inside, List.getElem?_cons_succ,
    List.getElem?_eq_getElem short]
  exact goesOn _ (List.getElem_mem short)

/-- A text may be cut behind its fronts and nowhere else. -/
theorem isBoundary_encode_iff {text : List Char} {offset : Nat} :
    isBoundary (encode text) offset = true ↔
      ∃ front back, text = front ++ back ∧ offset = size front := by
  constructor
  · intro boundary
    induction text generalizing offset with
    | nil =>
        refine ⟨[], [], rfl, ?_⟩
        exact of_decide_eq_true boundary
    | cons c rest ih =>
        rcases Nat.eq_zero_or_pos offset with rfl | behindStart
        · exact ⟨[], c :: rest, rfl, rfl⟩
        rcases Nat.lt_or_ge offset (encodeChar c).length with inside | behind
        · rw [encode_cons, isBoundary_encode_inside behindStart inside] at boundary
          cases boundary
        · obtain ⟨others, rfl⟩ := Nat.exists_eq_add_of_le behind
          rw [encode_cons, isBoundary_append] at boundary
          rcases ih boundary with ⟨front, back, rfl, rfl⟩
          refine ⟨c :: front, back, rfl, ?_⟩
          rw [size, size, encode_cons, List.length_append]
  · rintro ⟨front, back, rfl, rfl⟩
    rw [encode_append, size]
    exact (isBoundary_append (encode front) (encode back) 0).trans (isBoundary_encode_zero back)

/-! ## Cuts at the end of a front -/

section Cut

variable (front back : List Char)

theorem cutFrom_size : cutFrom (encode (front ++ back)) (size front) = .ok (encode back) := by
  rw [cutFrom, if_pos (isBoundary_encode_iff.mpr ⟨front, back, rfl, rfl⟩), encode_append, size,
    List.drop_left]

theorem cutTo_size : cutTo (encode (front ++ back)) (size front) = .ok (encode front) := by
  rw [cutTo, if_pos (isBoundary_encode_iff.mpr ⟨front, back, rfl, rfl⟩), encode_append, size,
    List.take_left]

end Cut

end ReviewQuery.Text.Utf8
