import ReviewQuery.Http.Head
import ReviewQuery.Proofs.Text.Span
import ReviewQuery.Proofs.Text.Utf8

/-!
# A head that was written is read back

A line is read up to its line feed and loses the carriage return in front of it.  So a head is read
back line by line: the status line by its blanks, every field by its first colon, and the fields end
at the empty line.
-/

namespace ReviewQuery.Http

/-! ## Lines -/

/-- A line with its end. -/
def writeLine (line : Octets) : Octets :=
  line ++ [cr, lf]

theorem readLine_writeLine
    {line : Octets}
    (inside : lf ∉ line)
    (short : line.length + 1 < lineLimit)
    (rest : Octets) :
    readLine (writeLine line ++ rest) = .ok (line, rest) := by
  have written : writeLine line ++ rest = (line ++ [cr]) ++ lf :: rest := by
    simp [writeLine]
  have absent : lf ∉ line ++ [cr] := by
    intro member
    rcases List.mem_append.mp member with early | last
    · exact inside early
    · exact absurd (List.mem_singleton.mp last) (by decide)
  have notLong : ¬ lineLimit ≤ (line ++ [cr]).length := by
    rw [List.length_append, List.length_singleton]
    omega
  simp only [readLine, written, Text.takeWhile_ne_append_cons absent,
    Text.dropWhile_ne_append_cons absent, if_neg notLong, stripReturn, List.getLast?_concat,
    if_true, List.dropLast_concat]

/-! ## Blanks around a value -/

/-- Whether no blank stands at either end of a text. -/
def IsTrimmed (text : List Char) : Prop :=
  (∀ c ∈ text.head?, Text.isBlank c = false) ∧ ∀ c ∈ text.getLast?, Text.isBlank c = false

theorem trim_of_isTrimmed {text : List Char} (trimmed : IsTrimmed text) :
    Text.trim text = text := by
  have none : ∀ c ∈ ([] : List Char), Text.isBlank c = true := List.forall_mem_nil _
  have last : ∀ c ∈ text.reverse.head?, Text.isBlank c = false := by
    rw [List.head?_reverse]
    exact trimmed.2
  have front := Text.dropWhile_append_of_stops none trimmed.1
  have back := Text.dropWhile_append_of_stops none last
  rw [List.nil_append] at front back
  rw [Text.trim, front, back, List.reverse_reverse]

/-- A blank in front of a trimmed text is all that is taken off. -/
theorem trim_blank_cons {text : List Char} (trimmed : IsTrimmed text) :
    Text.trim (' ' :: text) = text :=
  trim_of_isTrimmed trimmed

/-! ## Graphic texts -/

/-- Whether a text is graphic ASCII. -/
def IsGraphic (text : List Char) : Prop :=
  ∀ c ∈ text, 0x20 ≤ c.toNat ∧ c.toNat < 0x7F

/-- Whether a text is graphic ASCII without any blank. -/
def IsVisible (text : List Char) : Prop :=
  ∀ c ∈ text, 0x20 < c.toNat ∧ c.toNat < 0x7F

/-- Only the characters of the text are looked at, and not all characters there are. -/
instance (text : List Char) : Decidable (IsGraphic text) :=
  List.decidableBAll _ text

instance (text : List Char) : Decidable (IsVisible text) :=
  List.decidableBAll _ text

section Graphic

variable {text : List Char}

theorem IsGraphic.toNat_lt (graphic : IsGraphic text) : ∀ c ∈ text, c.toNat < 0x80 :=
  fun c member => Nat.lt_succ_of_lt (graphic c member).2

/-- A graphic text stays on its line. -/
theorem IsGraphic.lf_not_mem (graphic : IsGraphic text) : lf ∉ Text.Utf8.encode text := by
  intro member
  rcases Text.Utf8.exists_mem_of_mem_encode member (by decide) with ⟨c, among, code⟩
  have seen := (graphic c among).1
  rw [code] at seen
  exact absurd seen (by decide)

/-- Among the graphic characters only the space is a blank. -/
theorem IsGraphic.isBlank_eq_false
    (graphic : IsGraphic text)
    {c : Char}
    (member : c ∈ text)
    (ne : c ≠ ' ') :
    Text.isBlank c = false := by
  have all : ∀ code < 0x7F, 0x20 ≤ code → Char.ofNat code ≠ ' ' →
      Text.isBlank (Char.ofNat code) = false := by
    decide
  have known := all c.toNat (graphic c member).2 (graphic c member).1
  rw [Char.ofNat_toNat] at known
  exact known ne

theorem IsVisible.isGraphic (visible : IsVisible text) : IsGraphic text := fun c member =>
  ⟨Nat.le_of_lt (visible c member).1, (visible c member).2⟩

theorem IsVisible.isTrimmed (visible : IsVisible text) : IsTrimmed text := by
  have noBlank : ∀ c ∈ text, Text.isBlank c = false := by
    intro c member
    refine visible.isGraphic.isBlank_eq_false member ?_
    rintro rfl
    exact absurd (visible _ member).1 (by decide)
  exact ⟨fun c first => noBlank c (List.mem_of_mem_head? first),
    fun c last => noBlank c (List.mem_of_mem_getLast? last)⟩

end Graphic

/-! ## Numbers -/

/-- The digits of a number are read as that number. -/
theorem decimal?_toDigits (n : Nat) : decimal? (Nat.toDigits 10 n) = some n := by
  have digits : ∀ c ∈ Nat.toDigits 10 n, c.isDigit = true := fun c member =>
    Nat.isDigit_of_mem_toDigits (by decide) (by decide) member
  have value : Nat.ofDigitChars 10 (Nat.toDigits 10 n) 0 = n := Nat.ofDigitChars_ten_toDigits
  have nonempty : (Nat.toDigits 10 n).isEmpty = false :=
    List.isEmpty_eq_false_iff.mpr Nat.toDigits_ne_nil
  simp only [Nat.ofDigitChars, Nat.mul_comm 10] at value
  generalize Nat.toDigits 10 n = shown at digits value nonempty
  have unsigned : ∀ rest, shown ≠ '+' :: rest := by
    rintro rest rfl
    exact absurd (digits '+' List.mem_cons_self) (by decide)
  unfold decimal?
  split
  · exact absurd rfl (unsigned _)
  · simp only [nonempty, List.all_eq_true.mpr digits, Bool.not_false, Bool.and_self, if_true]
    exact congrArg some value

/-- The digits of a number are visible. -/
theorem isVisible_toDigits (n : Nat) : IsVisible (Nat.toDigits 10 n) := by
  intro c member
  have digit : c.isDigit = true := Nat.isDigit_of_mem_toDigits (by decide) (by decide) member
  simp only [Char.isDigit, Bool.and_eq_true, decide_eq_true_eq] at digit
  have lower : 48 ≤ c.toNat := digit.1
  have upper : c.toNat ≤ 57 := digit.2
  omega

theorem length_toDigits_of_three {n : Nat} (lower : 100 ≤ n) (upper : n < 1000) :
    (Nat.toDigits 10 n).length = 3 := by
  rw [Nat.toDigits_eq_if (by decide), if_neg (by omega), Nat.toDigits_eq_if (by decide),
    if_neg (by omega), Nat.toDigits_eq_if (by decide), if_pos (by omega)]
  rfl

/-! ## The status line -/

/-- The version of the protocol that a status line names. -/
def protocol : List Char :=
  "HTTP/1.1".toList

/-- The text of a status line. -/
def statusText (status : Nat) (reason : List Char) : List Char :=
  protocol ++ ' ' :: (Nat.toDigits 10 status ++ ' ' :: reason)

/-- A status line is split at its first two blanks. -/
theorem readStatusText_append
    {version code reason : List Char}
    {status : Nat}
    (versionInside : ' ' ∉ version)
    (versionStart : "HTTP/".toList.isPrefixOf version = true)
    (versionLength : version.length = 8)
    (versionForm : isVersion version = true)
    (codeInside : ' ' ∉ code)
    (codeLength : code.length = 3)
    (codeValue : decimal? code = some status)
    (trimmed : IsTrimmed reason) :
    readStatusText (version ++ ' ' :: (code ++ ' ' :: reason)) = .ok ⟨version, status, reason⟩ := by
  simp only [readStatusText, Text.takeWhile_ne_append_cons versionInside,
    Text.dropWhile_ne_append_cons versionInside, Text.takeWhile_ne_append_cons codeInside,
    Text.dropWhile_ne_append_cons codeInside, versionStart, versionLength, versionForm,
    codeLength, codeValue, trim_blank_cons trimmed, Bool.not_true, Bool.false_eq_true, if_false,
    ne_eq, not_true_eq_false]

theorem length_protocol : protocol.length = 8 := by
  decide

theorem readStatusText_statusText
    {status : Nat}
    (lower : 100 ≤ status)
    (upper : status < 1000)
    {reason : List Char}
    (trimmed : IsTrimmed reason) :
    readStatusText (statusText status reason) = .ok ⟨protocol, status, reason⟩ := by
  have digits : ' ' ∉ Nat.toDigits 10 status := fun member =>
    absurd (isVisible_toDigits status ' ' member).1 (by decide)
  exact readStatusText_append (by decide) (by decide) length_protocol (by decide) digits
    (length_toDigits_of_three lower upper) (decimal?_toDigits status) trimmed

/-- A status line of ASCII is read as its text is. -/
theorem readStatus_encode {text : List Char} (ascii : ∀ c ∈ text, c.toNat < 0x80) :
    readStatus (Text.Utf8.encode text) = readStatusText text := by
  have small : (Text.Utf8.encode text).all (· < 128) = true := by
    rw [Text.Utf8.encode_of_ascii ascii, List.all_map, List.all_eq_true]
    intro c member
    have code := ascii c member
    rw [Function.comp_apply, decide_eq_true_eq, UInt8.lt_iff_toNat_lt,
      Text.Utf8.toNat_ofNat (by omega)]
    exact code
  rw [readStatus, if_pos small, Text.Utf8.map_encode_of_ascii ascii]

/-! ## Fields -/

namespace Field

/-- The line of a field. -/
def write (field : Field) : Octets :=
  Text.Utf8.encode field.name ++ 58 :: field.value

/-- Whether a field can stand on a line of its own: its name is a token, and its value ends no line
and is not too long. -/
structure IsPlain (field : Field) : Prop where
  name_token : ∀ c ∈ field.name, isTokenChar c = true
  value_inside : lf ∉ field.value
  write_short : field.write.length + 1 < lineLimit

theorem write_ne_nil (field : Field) : field.write ≠ [] := by
  simp [write]

end Field

theorem toNat_lt_of_isTokenChar {c : Char} (token : isTokenChar c = true) : c.toNat < 0x80 := by
  have signs : IsGraphic "!#$%&'*+-.^_`|~".toList := by decide
  rw [isTokenChar, Bool.or_eq_true, List.contains_iff_mem] at token
  rcases token with letter | sign
  · exact Text.Utf8.toNat_lt_of_isAlphanum letter
  · exact signs.toNat_lt c sign

/-- What is no part of a token does not stand in the name of a field. -/
theorem Field.IsPlain.not_mem_name
    {field : Field}
    (plain : field.IsPlain)
    {octet : UInt8}
    (ascii : octet.toNat < 0x80)
    (foreign : isTokenChar (Char.ofNat octet.toNat) = false) :
    octet ∉ Text.Utf8.encode field.name := by
  intro member
  rcases Text.Utf8.exists_mem_of_mem_encode member ascii with ⟨c, inside, code⟩
  rw [← code, Char.ofNat_toNat, plain.name_token c inside] at foreign
  cases foreign

theorem field?_write {field : Field} (plain : field.IsPlain) : field? field.write = some field := by
  have ascii : ∀ c ∈ field.name, c.toNat < 0x80 := fun c member =>
    toNat_lt_of_isTokenChar (plain.name_token c member)
  have noColon : 58 ∉ Text.Utf8.encode field.name := plain.not_mem_name (by decide) (by decide)
  simp only [field?, Field.write, Text.takeWhile_ne_append_cons noColon,
    Text.dropWhile_ne_append_cons noColon, Text.Utf8.map_encode_of_ascii ascii,
    List.all_eq_true.mpr plain.name_token, if_true]

theorem readLine_write {field : Field} (plain : field.IsPlain) (rest : Octets) :
    readLine (writeLine field.write ++ rest) = .ok (field.write, rest) := by
  refine readLine_writeLine ?_ plain.write_short rest
  intro member
  rcases List.mem_append.mp member with name | value
  · exact plain.not_mem_name (by decide) (by decide) name
  · rcases List.mem_cons.mp value with colon | value
    · cases colon
    · exact plain.value_inside value

/-- The fields end at the empty line. -/
theorem readFields_of_empty
    {octets rest : Octets}
    (read : readLine octets = .ok ([], rest))
    (done : List Field) :
    readFields done octets = .ok (done.reverse, rest) := by
  rw [readFields]
  split
  · rename_i failed
    rw [read] at failed
    cases failed
  · rename_i known
    rw [read] at known
    cases known
    rfl

/-- A line with a field is one field more. -/
theorem readFields_of_field
    {octets line rest : Octets}
    {field : Field}
    (read : readLine octets = .ok (line, rest))
    (nonempty : line ≠ [])
    (found : field? line = some field)
    {done : List Field}
    (few : done.length < fieldLimit) :
    readFields done octets = readFields (field :: done) rest := by
  rw [readFields]
  split
  · rename_i failed
    rw [read] at failed
    cases failed
  · rename_i known
    rw [read] at known
    cases known
    have notEmpty : line.isEmpty = false := List.isEmpty_eq_false_iff.mpr nonempty
    simp only [notEmpty, found, Bool.false_eq_true, if_false, List.length_cons]
    rw [if_neg (by omega)]

/-- Written fields are read back in order. -/
theorem readFields_write
    {fields : List Field}
    (plain : ∀ field ∈ fields, field.IsPlain)
    {done : List Field}
    (few : done.length + fields.length ≤ fieldLimit)
    (rest : Octets) :
    readFields done
        (fields.flatMap (fun field => writeLine field.write) ++ (writeLine [] ++ rest)) =
      .ok (done.reverse ++ fields, rest) := by
  induction fields generalizing done with
  | nil =>
      have empty : readLine (writeLine [] ++ rest) = .ok ([], rest) :=
        readLine_writeLine (List.not_mem_nil) (by decide) rest
      rw [List.flatMap_nil, List.nil_append, readFields_of_empty empty, List.append_nil]
  | cons field fields ih =>
      rw [List.forall_mem_cons] at plain
      rw [List.length_cons] at few
      rw [List.flatMap_cons, List.append_assoc,
        readFields_of_field (readLine_write plain.1 _) field.write_ne_nil (field?_write plain.1)
          (by omega),
        ih plain.2 (by rw [List.length_cons]; omega), List.reverse_cons, List.append_assoc,
        List.singleton_append]

/-! ## Heads -/

/-- Whether a text can tell the reason of a status: it is graphic ASCII without blanks at its ends,
and not too long. -/
structure IsReason (reason : List Char) : Prop where
  graphic : IsGraphic reason
  first_ne_blank : reason.head? ≠ some ' '
  last_ne_blank : reason.getLast? ≠ some ' '
  short : reason.length ≤ 1000

theorem IsReason.isTrimmed {reason : List Char} (plain : IsReason reason) : IsTrimmed reason := by
  constructor
  · intro c first
    refine plain.graphic.isBlank_eq_false (List.mem_of_mem_head? first) ?_
    rintro rfl
    exact plain.first_ne_blank first
  · intro c last
    refine plain.graphic.isBlank_eq_false (List.mem_of_mem_getLast? last) ?_
    rintro rfl
    exact plain.last_ne_blank last

/-- A status line is graphic. -/
theorem isGraphic_statusText (status : Nat) {reason : List Char} (plain : IsReason reason) :
    IsGraphic (statusText status reason) := by
  have version : IsGraphic protocol := by decide
  intro c member
  simp only [statusText, List.mem_append, List.mem_cons] at member
  rcases member with inVersion | rfl | inDigits | rfl | inReason
  · exact version c inVersion
  · decide
  · exact (isVisible_toDigits status).isGraphic c inDigits
  · decide
  · exact plain.graphic c inReason

/-- A head as it is sent. -/
def writeHead (status : Nat) (reason : List Char) (fields : List Field) : Octets :=
  writeLine (Text.Utf8.encode (statusText status reason)) ++
    (fields.flatMap (fun field => writeLine field.write) ++ writeLine [])

/-- A written head is read back, whatever follows it. -/
theorem Head.read_writeHead
    {status : Nat}
    (lower : 100 ≤ status)
    (upper : status < 1000)
    {reason : List Char}
    (plainReason : IsReason reason)
    {fields : List Field}
    (plainFields : ∀ field ∈ fields, field.IsPlain)
    (few : fields.length ≤ fieldLimit)
    (rest : Octets) :
    Head.read (writeHead status reason fields ++ rest) =
      .ok (⟨⟨protocol, status, reason⟩, fields⟩, rest) := by
  have graphic := isGraphic_statusText status plainReason
  have short : (Text.Utf8.encode (statusText status reason)).length + 1 < lineLimit := by
    have bound := plainReason.short
    rw [Text.Utf8.encode_of_ascii graphic.toNat_lt, List.length_map]
    simp only [statusText, List.length_append, List.length_cons, length_protocol,
      length_toDigits_of_three lower upper, lineLimit]
    omega
  have statusRead := readStatus_encode graphic.toNat_lt
  rw [readStatusText_statusText lower upper plainReason.isTrimmed] at statusRead
  have room : ([] : List Field).length + fields.length ≤ fieldLimit := by simpa using few
  have fieldsRead := readFields_write plainFields room rest
  rw [Head.read, writeHead, List.append_assoc, List.append_assoc,
    readLine_writeLine graphic.lf_not_mem short]
  show (readStatus _ >>= _) = _
  rw [statusRead]
  show (readFields [] _ >>= _) = _
  rw [fieldsRead]
  rfl

/-! ## Values of fields -/

/-- A field with a blank in front of its value. -/
def Field.ofText (name : String) (text : List Char) : Field :=
  ⟨name.toList, Text.Utf8.encode (' ' :: text)⟩

theorem Field.isPlain_ofText
    {name : String}
    {text : List Char}
    (token : name.toList.all isTokenChar = true)
    (visible : IsVisible text)
    (short : name.toList.length + text.length ≤ 1000) :
    (Field.ofText name text).IsPlain := by
  have nameAscii : ∀ c ∈ name.toList, c.toNat < 0x80 := fun c member =>
    toNat_lt_of_isTokenChar (List.all_eq_true.mp token c member)
  have graphic : IsGraphic (' ' :: text) := by
    intro c member
    rcases List.mem_cons.mp member with rfl | inText
    · decide
    · exact visible.isGraphic c inText
  refine ⟨List.all_eq_true.mp token, graphic.lf_not_mem, ?_⟩
  rw [write, ofText, Text.Utf8.encode_of_ascii nameAscii,
    Text.Utf8.encode_of_ascii graphic.toNat_lt]
  simp only [List.length_append, List.length_cons, List.length_map, lineLimit]
  omega

namespace Head

variable
  {head : Head}
  {name : String}

/-- The first field of a name gives its value, without the blank in front. -/
theorem value?_of_field
    {before after : List Field}
    {shown : String}
    {text : List Char}
    (fields : head.fields = before ++ Field.ofText shown text :: after)
    (others : ∀ other ∈ before, other.name.map Char.toLower ≠ name.toList)
    (named : shown.toList.map Char.toLower = name.toList)
    (visible : IsVisible text) :
    head.value? name = some text := by
  have found :
      head.fields.find? (fun field => field.name.map Char.toLower = name.toList) =
        some (Field.ofText shown text) := by
    rw [fields, List.find?_append, List.find?_eq_none.mpr (by simpa using others), Option.none_or]
    exact List.find?_cons_of_pos (decide_eq_true named)
  have allowed : ∀ c ∈ text, isValueChar c = true := by
    intro c member
    simp only [isValueChar, Bool.or_eq_true, Bool.and_eq_true, decide_eq_true_eq]
    exact Or.inr (visible.isGraphic c member)
  simp only [value?, found, Field.ofText, Text.Utf8.decode_encode,
    trim_blank_cons visible.isTrimmed, List.all_eq_true.mpr allowed, Option.bind_eq_bind,
    Option.bind_some, if_true]

theorem value?_of_absent
    (absent : ∀ field ∈ head.fields, field.name.map Char.toLower ≠ name.toList) :
    head.value? name = none := by
  rw [value?, List.find?_eq_none.mpr (by simpa using absent)]
  rfl

end Head

end ReviewQuery.Http
