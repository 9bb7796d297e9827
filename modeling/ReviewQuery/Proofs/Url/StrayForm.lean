import ReviewQuery.Proofs.Url.FormDecoding

/-!
# Forms behind other text

If other text stands in front of a written form, with a sign between them that no escape takes in,
then reading both together does not give the fields of the form: either there are more fields, or
the first one has more octets in its name or its value.
-/

namespace ReviewQuery.Url

/-! ## Signs that end an escape -/

/-- A percent sign without two digits behind it stands for itself. -/
theorem PercentEncoding.decode_percent
    {high low : Char}
    (invalid : Text.Hexadecimal.value? high = none ∨ Text.Hexadecimal.value? low = none)
    (rest : List Char) :
    decode ('%' :: high :: low :: rest) = 0x25 :: decode (high :: low :: rest) := by
  rw [decode]
  rcases invalid with none | none
  · rw [none]
  · rw [none]
    cases Text.Hexadecimal.value? high <;> rfl

theorem PercentEncoding.decode_cons
    {c : Char}
    (notPercent : c ≠ '%')
    (rest : List Char) :
    decode (c :: rest) = Text.Utf8.encodeChar c ++ decode rest := by
  rw [decode]
  intro high low behind isPercent
  exact absurd isPercent notPercent

/-- A character that is no digit of an escape starts anew. -/
theorem PercentEncoding.decode_append
    {c : Char}
    (boundary : Text.Hexadecimal.value? c = none)
    (front rest : List Char) :
    decode (front ++ c :: rest) = decode front ++ decode (c :: rest) := by
  induction front using decode.induct with
  | case1 high low front h l highValue lowValue ih =>
      show decode ('%' :: high :: low :: (front ++ c :: rest)) = _
      simp only [decode, highValue, lowValue, ih, List.cons_append]
  | case2 high low front invalid ih =>
      have either : Text.Hexadecimal.value? high = none ∨ Text.Hexadecimal.value? low = none := by
        cases highValue : Text.Hexadecimal.value? high with
        | none => exact Or.inl rfl
        | some h =>
            cases lowValue : Text.Hexadecimal.value? low with
            | none => exact Or.inr rfl
            | some l => exact (invalid h l highValue lowValue).elim
      show decode ('%' :: high :: low :: (front ++ c :: rest)) = _
      rw [decode_percent either, decode_percent either, List.cons_append, ← ih]
      rfl
  | case3 d front unescaped ih =>
      by_cases percent : d = '%'
      · subst percent
        rcases front with _ | ⟨high, _ | ⟨low, front⟩⟩
        · cases rest with
          | nil => rfl
          | cons e rest => exact decode_percent (Or.inl boundary) rest
        · show decode ('%' :: high :: c :: rest) = _
          have alone : decode ['%', high] = 0x25 :: decode [high] := rfl
          rw [decode_percent (Or.inr boundary), alone, List.cons_append, ← ih]
          rfl
        · exact (unescaped high low front rfl rfl).elim
      · rw [List.cons_append, decode_cons percent, decode_cons percent, ih, List.append_assoc]
  | case4 => rfl

namespace FormEncoding

theorem octets_append
    {c : Char}
    (boundary : Text.Hexadecimal.value? c = none)
    (notPlus : c ≠ '+')
    (front rest : List Char) :
    octets (front ++ c :: rest) = octets front ++ octets (c :: rest) := by
  rw [octets, octets, octets, List.map_append, List.map_cons, if_neg notPlus,
    PercentEncoding.decode_append boundary]

/-- A text with more in front of it is another text. -/
theorem decode?_append_ne
    {c : Char}
    (boundary : Text.Hexadecimal.value? c = none)
    (notPlus : c ≠ '+')
    (notPercent : c ≠ '%')
    (front : List Char)
    (text : String) :
    decode? (front ++ c :: encode text) ≠ some text := by
  intro same
  have longer := octets_append boundary notPlus front (encode text)
  rw [octets_cons notPlus notPercent, octets_encode] at longer
  rw [decode?, Option.map_eq_some_iff] at same
  rcases same with ⟨characters, decoded, rfl⟩
  rw [Text.Utf8.decode_eq_some_iff, longer, Text.Utf8.ofString, String.toList_ofList] at decoded
  have size := congrArg List.length decoded
  have some := List.length_pos_iff.mpr (Text.Utf8.encodeChar_ne_nil c)
  simp only [List.length_append] at size
  omega

/-! ## Forms with text in front of them -/

theorem readField?_eq_some
    {text : List Char}
    {field : String × String}
    (read : readField? text = some field) :
    decode? (text.takeWhile (· ≠ '=')) = some field.1 ∧
      decode? ((text.dropWhile (· ≠ '=')).drop 1) = some field.2 := by
  rw [readField?] at read
  rcases Option.bind_eq_some_iff.mp read with ⟨name, nameRead, read⟩
  rcases Option.bind_eq_some_iff.mp read with ⟨value, valueRead, read⟩
  cases read
  exact ⟨nameRead, valueRead⟩

/-- A field whose name or value has more in front of it is another field. -/
theorem readField?_append_ne (front : List Char) (field : String × String) :
    readField? (front ++ '?' :: writeField field) ≠ some field := by
  intro same
  rcases readField?_eq_some same with ⟨nameRead, valueRead⟩
  by_cases sign : '=' ∈ front
  · rcases List.eq_append_cons_of_mem sign with ⟨name, value, rfl, noSign⟩
    have whole : name ++ '=' :: value ++ '?' :: writeField field =
        name ++ '=' :: ((value ++ '?' :: encode field.1) ++ '=' :: encode field.2) := by
      simp [writeField]
    rw [whole, Text.dropWhile_ne_append_cons noSign] at valueRead
    exact decode?_append_ne (by decide) (by decide) (by decide) _ field.2 valueRead
  · have whole : front ++ '?' :: writeField field =
        (front ++ '?' :: encode field.1) ++ '=' :: encode field.2 := by
      simp [writeField]
    have noSign : '=' ∉ front ++ '?' :: encode field.1 := by
      rw [List.mem_append, List.mem_cons]
      rintro (inside | mark | inside)
      · exact sign inside
      · cases mark
      · exact not_mem_encode (by decide) field.1 inside
    rw [whole, Text.takeWhile_ne_append_cons noSign] at nameRead
    exact decode?_append_ne (by decide) (by decide) (by decide) front field.1 nameRead

/-- Behind the first field the parts of a form are its fields, whatever stands in front. -/
theorem splitOn_append_fields (front : List Char) (fields : List (String × String)) :
    (front ++ fields.flatMap fun field => '&' :: writeField field).splitOn '&' =
      front.splitOn '&' ++ fields.map writeField := by
  induction fields generalizing front with
  | nil => simp
  | cons field fields ih =>
      rw [List.flatMap_cons, List.cons_append, List.splitOn_append_cons_self, ih,
        List.splitOn_eq_singleton (not_mem_writeField field), List.map_cons, List.singleton_append]

theorem length_of_mapM_eq_some
    {α β : Type}
    {f : α → Option β}
    {list : List α}
    {results : List β}
    (done : list.mapM f = some results) :
    results.length = list.length := by
  induction list generalizing results with
  | nil =>
      cases done
      rfl
  | cons first list ih =>
      rw [List.mapM_cons] at done
      rcases Option.bind_eq_some_iff.mp done with ⟨result, _, done⟩
      rcases Option.bind_eq_some_iff.mp done with ⟨others, othersDone, done⟩
      cases done
      rw [List.length_cons, List.length_cons, ih othersDone]

/-- A form behind other text does not give its fields. -/
theorem readFields?_append_ne
    {fields : List (String × String)}
    (nonempty : fields ≠ [])
    (front : List Char) :
    readFields? (front ++ '?' :: write fields) ≠ some fields := by
  intro same
  cases fields with
  | nil => exact nonempty rfl
  | cons first others =>
      have parts : front ++ '?' :: write (first :: others) =
          (front ++ '?' :: writeField first) ++
            others.flatMap fun field => '&' :: writeField field := by
        rw [write_cons, List.append_assoc, List.cons_append]
      rw [readFields?, parts, splitOn_append_fields, List.mapM_append] at same
      rcases Option.bind_eq_some_iff.mp same with ⟨read, readDone, same⟩
      rcases Option.bind_eq_some_iff.mp same with ⟨behind, behindDone, same⟩
      rw [mapM_readField?_writeField] at behindDone
      cases behindDone
      have single : read = [first] := List.append_cancel_right (Option.some.inj same)
      subst single
      by_cases separator : '&' ∈ front
      · rcases List.append_of_mem separator with ⟨before, after, rfl⟩
        have more := length_of_mapM_eq_some readDone
        rw [List.append_assoc, List.cons_append, List.splitOn_append_cons_self,
          List.length_append, List.length_singleton] at more
        have some := List.length_pos_iff.mpr (List.splitOn_ne_nil '&' before)
        have others := List.length_pos_iff.mpr
          (List.splitOn_ne_nil '&' (after ++ '?' :: writeField first))
        omega
      · have noSeparator : '&' ∉ front ++ '?' :: writeField first := by
          rw [List.mem_append, List.mem_cons]
          rintro (inside | mark | inside)
          · exact separator inside
          · cases mark
          · exact not_mem_writeField first inside
        rw [List.splitOn_eq_singleton noSeparator, List.mapM_cons] at readDone
        rcases Option.bind_eq_some_iff.mp readDone with ⟨field, fieldRead, readDone⟩
        cases readDone
        exact readField?_append_ne front first fieldRead

end FormEncoding

end ReviewQuery.Url
