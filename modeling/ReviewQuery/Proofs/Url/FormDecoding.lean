import ReviewQuery.Proofs.Text.Span
import ReviewQuery.Proofs.Text.Utf8
import ReviewQuery.Url.Encoding

/-!
# Reading form fields

The fields of a form are written one after another with `&` between them, each as a name and a value
with `=` between them.  Reading a written form gives back its fields, because neither of the two
separators stands in an encoded text.
-/

namespace ReviewQuery.Url.FormEncoding

/-! ## Reading -/

/-- The octets that a written text stands for. -/
def octets (text : List Char) : List UInt8 :=
  PercentEncoding.decode (text.map fun c => if c = '+' then ' ' else c)

/-- The text that was written, provided that its octets are UTF-8. -/
def decode? (text : List Char) : Option String :=
  (Text.Utf8.decode (octets text)).map String.ofList

/-- The name in front of the first `=` and the value behind it. -/
def readField? (text : List Char) : Option (String × String) := do
  let name ← decode? (text.takeWhile (· ≠ '='))
  let value ← decode? ((text.dropWhile (· ≠ '=')).drop 1)
  pure (name, value)

/-- The fields of a form. -/
def readFields? (text : List Char) : Option (List (String × String)) :=
  (text.splitOn '&').mapM readField?

/-! ## Writing -/

/-- A name and a value as they are written. -/
def writeField (field : String × String) : List Char :=
  encode field.1 ++ '=' :: encode field.2

/-- The fields of a form as they are written. -/
def write (fields : List (String × String)) : List Char :=
  ['&'].intercalate (fields.map writeField)

theorem write_cons (first : String × String) (others : List (String × String)) :
    write (first :: others) =
      writeField first ++ others.flatMap fun field => '&' :: writeField field := by
  induction others generalizing first with
  | nil =>
      rw [write, List.map_singleton, List.intercalate_singleton, List.flatMap_nil, List.append_nil]
  | cons second others ih =>
      have joined := ih second
      rw [write] at joined ⊢
      rw [List.map_cons, List.map_cons, List.intercalate_cons_cons, ← List.map_cons, joined,
        List.flatMap_cons, List.append_assoc]
      rfl

/-! ## Characters of a written form -/

/-- Whether a character stands in an encoded text. -/
def isEncoded (c : Char) : Bool :=
  c.isAlphanum || "*-._+%".toList.contains c

theorem upper_facts (value : Nat) (small : value < 16) :
    isEncoded (Text.Hexadecimal.upper value) = true ∧
      Text.Hexadecimal.upper value ≠ '+' ∧
      Text.Hexadecimal.value? (Text.Hexadecimal.upper value) = some value := by
  revert value
  decide

theorem isKept_facts (octet : UInt8) (kept : isKept octet = true) :
    isEncoded (Char.ofNat octet.toNat) = true ∧
      Char.ofNat octet.toNat ≠ '+' ∧
      Char.ofNat octet.toNat ≠ '%' ∧
      octet.toNat < 0x80 := by
  have all : ∀ code < 256, isKept (UInt8.ofNat code) = true →
      isEncoded (Char.ofNat code) = true ∧
        Char.ofNat code ≠ '+' ∧ Char.ofNat code ≠ '%' ∧ code < 0x80 := by
    decide +kernel
  exact all octet.toNat octet.toNat_lt (by rw [UInt8.ofNat_toNat]; exact kept)

theorem isEncoded_of_mem_encodeOctet
    {octet : UInt8}
    {c : Char}
    (member : c ∈ encodeOctet octet) :
    isEncoded c = true := by
  have limit := octet.toNat_lt
  unfold encodeOctet at member
  split at member
  · rename_i kept
    cases List.mem_singleton.mp member
    exact (isKept_facts octet kept).1
  split at member
  · cases List.mem_singleton.mp member
    rfl
  · simp only [List.mem_cons, List.not_mem_nil, or_false] at member
    rcases member with rfl | rfl | rfl
    · rfl
    · exact (upper_facts _ (by omega)).1
    · exact (upper_facts _ (by omega)).1

theorem isEncoded_of_mem_encode {text : String} {c : Char} (member : c ∈ encode text) :
    isEncoded c = true := by
  rcases List.mem_flatMap.mp member with ⟨octet, _, inside⟩
  exact isEncoded_of_mem_encodeOctet inside

/-! ## Reading what was written -/

theorem octets_cons
    {c : Char}
    (notPlus : c ≠ '+')
    (notPercent : c ≠ '%')
    (rest : List Char) :
    octets (c :: rest) = Text.Utf8.encodeChar c ++ octets rest := by
  rw [octets, List.map_cons, if_neg notPlus, PercentEncoding.decode]
  · rfl
  · intro high low rest isPercent
    exact absurd isPercent notPercent

theorem octets_encodeOctet_append (octet : UInt8) (rest : List Char) :
    octets (encodeOctet octet ++ rest) = octet :: octets rest := by
  have limit := octet.toNat_lt
  unfold encodeOctet
  split
  · rename_i kept
    rcases isKept_facts octet kept with ⟨_, notPlus, notPercent, ascii⟩
    rw [List.singleton_append, octets_cons notPlus notPercent,
      Text.Utf8.encodeChar_one (by rw [Text.Utf8.toNat_ofNat_of_lt ascii]; exact ascii),
      Text.Utf8.toNat_ofNat_of_lt ascii, UInt8.ofNat_toNat]
    rfl
  split
  · rename_i blank
    subst blank
    rfl
  · rcases upper_facts (octet.toNat / 16) (by omega) with ⟨_, highNotPlus, high⟩
    rcases upper_facts (octet.toNat % 16) (by omega) with ⟨_, lowNotPlus, low⟩
    show PercentEncoding.decode (List.map _ ('%' :: _ :: _ :: rest)) = _
    rw [List.map_cons, List.map_cons, List.map_cons, if_neg (by decide), if_neg highNotPlus,
      if_neg lowNotPlus, PercentEncoding.decode, high, low]
    show UInt8.ofNat (16 * (octet.toNat / 16) + octet.toNat % 16) :: _ = _
    rw [Nat.div_add_mod, UInt8.ofNat_toNat]
    rfl

theorem octets_encode (text : String) : octets (encode text) = Text.Utf8.ofString text := by
  unfold encode
  induction Text.Utf8.ofString text with
  | nil => rfl
  | cons octet rest ih =>
      rw [List.flatMap_cons, octets_encodeOctet_append, ih]

/-- An encoded text is read back. -/
theorem decode?_encode (text : String) : decode? (encode text) = some text := by
  rw [decode?, octets_encode, Text.Utf8.ofString, Text.Utf8.decode_encode, Option.map_some,
    String.ofList_toList]

/-- Whether a character stands in a written form. -/
def isFormChar (c : Char) : Bool :=
  isEncoded c || c = '=' || c = '&'

theorem isFormChar_of_mem_writeField
    {field : String × String}
    {c : Char}
    (member : c ∈ writeField field) :
    isFormChar c = true := by
  have ofText {text : String} (inside : c ∈ encode text) : isFormChar c = true := by
    rw [isFormChar, isEncoded_of_mem_encode inside]
    rfl
  rcases List.mem_append.mp member with name | value
  · exact ofText name
  · cases value with
    | head => rfl
    | tail _ value => exact ofText value

/-- A form is written in letters, digits and a few signs. -/
theorem isFormChar_of_mem_write
    {fields : List (String × String)}
    {c : Char}
    (member : c ∈ write fields) :
    isFormChar c = true := by
  cases fields with
  | nil => cases member
  | cons first others =>
      rw [write_cons, List.mem_append, List.mem_flatMap] at member
      rcases member with inside | ⟨field, _, inside⟩
      · exact isFormChar_of_mem_writeField inside
      · cases inside with
        | head => rfl
        | tail _ inside => exact isFormChar_of_mem_writeField inside

theorem not_mem_encode {separator : Char} (foreign : isEncoded separator = false) (text : String) :
    separator ∉ encode text := by
  intro member
  rw [isEncoded_of_mem_encode member] at foreign
  cases foreign

/-- A name and a value are told apart. -/
theorem readField?_writeField (field : String × String) :
    readField? (writeField field) = some field := by
  have noSign : '=' ∉ encode field.1 := not_mem_encode (by decide) field.1
  rw [readField?, writeField, Text.takeWhile_ne_append_cons noSign,
    Text.dropWhile_ne_append_cons noSign, List.drop_one, List.tail_cons, decode?_encode,
    decode?_encode]
  rfl

theorem not_mem_writeField (field : String × String) : '&' ∉ writeField field := by
  intro member
  rcases List.mem_append.mp member with name | value
  · exact not_mem_encode (by decide) field.1 name
  · cases value with
    | tail _ value => exact not_mem_encode (by decide) field.2 value

theorem mapM_readField?_writeField (fields : List (String × String)) :
    (fields.map writeField).mapM readField? = some fields := by
  induction fields with
  | nil => rfl
  | cons field fields ih =>
      rw [List.map_cons, List.mapM_cons, readField?_writeField, ih]
      rfl

/-- The fields of a written form are read back. -/
theorem readFields?_write {fields : List (String × String)} (nonempty : fields ≠ []) :
    readFields? (write fields) = some fields := by
  have apart : ∀ part ∈ fields.map writeField, '&' ∉ part := by
    intro part member
    rcases List.mem_map.mp member with ⟨field, _, rfl⟩
    exact not_mem_writeField field
  rw [readFields?, write, List.splitOn_intercalate '&' apart (by simpa using nonempty),
    mapM_readField?_writeField]

end ReviewQuery.Url.FormEncoding
