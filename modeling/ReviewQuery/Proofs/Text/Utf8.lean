import Mathlib.Data.List.TakeWhile
import Mathlib.Tactic.SplitIfs
import ReviewQuery.Text.Octets

/-!
# UTF-8 loses nothing

Reading undoes writing, and no other octets are read: an octet list is the text of some characters
exactly when it is what these characters are written as.  Characters are compared by width, from one
octet to four.  What is left of a text takes no more octets than the whole, and in a text without a
line feed every position is on the first line, with the number of octets that have been read as its
column.
-/

namespace ReviewQuery.Text

namespace Utf8

/-! ## Single octets -/

theorem toNat_ofNat {n : Nat} (small : n < 256) : (UInt8.ofNat n).toNat = n := by
  rw [UInt8.toNat_ofNat', Nat.mod_eq_of_lt small]

theorem ofNat_of_toNat {octet : UInt8} {n : Nat} (same : octet.toNat = n) :
    UInt8.ofNat n = octet := by
  rw [← same, UInt8.ofNat_toNat]

theorem continuation?_ofNat {bits : Nat} (small : bits < 64) :
    continuation? (UInt8.ofNat (0x80 + bits)) = some bits := by
  rw [continuation?, toNat_ofNat (by omega), if_pos (by omega), Nat.add_sub_cancel_left]

theorem continuation?_eq_some
    {octet : UInt8}
    {bits : Nat}
    (carried : continuation? octet = some bits) :
    bits < 64 ∧ UInt8.ofNat (0x80 + bits) = octet := by
  unfold continuation? at carried
  split_ifs at carried with range
  have same := Option.some.inj carried
  exact ⟨by omega, ofNat_of_toNat (by omega)⟩

theorem toNat_ofNat_of_lt {code : Nat} (ascii : code < 0x80) : (Char.ofNat code).toNat = code := by
  revert code
  decide

theorem character?_toNat {least : Nat} {c : Char} (large : least ≤ c.toNat) :
    character? least c.toNat = some c := by
  rw [character?, if_pos ⟨large, c.valid⟩, Char.ofNat_toNat]

theorem character?_eq_some
    {least code : Nat}
    {c : Char}
    (found : character? least code = some c) :
    least ≤ code ∧ c.toNat = code := by
  unfold character? at found
  split_ifs at found with range
  cases found
  refine ⟨range.1, ?_⟩
  rw [Char.ofNat, dif_pos range.2]
  rfl

/-! ## Writing, by width -/

section Writing

variable {c : Char}

theorem encodeChar_one (ascii : c.toNat < 0x80) : encodeChar c = [UInt8.ofNat c.toNat] := by
  rw [encodeChar, if_pos ascii]

theorem encodeChar_two
    {high low : Nat}
    (code : c.toNat = high * 64 + low)
    (long : 0x80 ≤ c.toNat)
    (short : high < 32)
    (lowBits : low < 64) :
    encodeChar c = [UInt8.ofNat (0xC0 + high), UInt8.ofNat (0x80 + low)] := by
  rw [encodeChar, if_neg (by omega), if_pos (by omega), show c.toNat / 64 = high by omega,
    show c.toNat % 64 = low by omega]

theorem encodeChar_three
    {high middle low : Nat}
    (code : c.toNat = high * 4096 + middle * 64 + low)
    (long : 0x800 ≤ c.toNat)
    (short : high < 16)
    (middleBits : middle < 64)
    (lowBits : low < 64) :
    encodeChar c =
      [UInt8.ofNat (0xE0 + high), UInt8.ofNat (0x80 + middle), UInt8.ofNat (0x80 + low)] := by
  rw [encodeChar, if_neg (by omega), if_neg (by omega), if_pos (by omega),
    show c.toNat / 4096 = high by omega, show c.toNat / 64 % 64 = middle by omega,
    show c.toNat % 64 = low by omega]

theorem encodeChar_four
    {high second third low : Nat}
    (code : c.toNat = high * 262144 + second * 4096 + third * 64 + low)
    (long : 0x10000 ≤ c.toNat)
    (secondBits : second < 64)
    (thirdBits : third < 64)
    (lowBits : low < 64) :
    encodeChar c =
      [UInt8.ofNat (0xF0 + high), UInt8.ofNat (0x80 + second), UInt8.ofNat (0x80 + third),
        UInt8.ofNat (0x80 + low)] := by
  rw [encodeChar, if_neg (by omega), if_neg (by omega), if_neg (by omega),
    show c.toNat / 262144 = high by omega, show c.toNat / 4096 % 64 = second by omega,
    show c.toNat / 64 % 64 = third by omega, show c.toNat % 64 = low by omega]

end Writing

/-! ## Reading, by width -/

section Reading

variable (rest : List UInt8)

theorem decode_one {code : Nat} (ascii : code < 0x80) :
    decode (UInt8.ofNat code :: rest) = (decode rest).map (Char.ofNat code :: ·) := by
  rw [decode.eq_def]
  simp only [toNat_ofNat (show code < 256 by omega), if_pos ascii]
  cases decode rest <;> rfl

theorem decode_two {high low : Nat} (short : high < 32) (lowBits : low < 64) :
    decode (UInt8.ofNat (0xC0 + high) :: UInt8.ofNat (0x80 + low) :: rest) =
      (character? 0x80 (high * 64 + low)).bind fun c => (decode rest).map (c :: ·) := by
  rw [decode.eq_def]
  simp only [toNat_ofNat (show 0xC0 + high < 256 by omega), continuation?_ofNat lowBits]
  rw [if_neg (by omega), if_neg (by omega), if_pos (by omega), Nat.add_sub_cancel_left]
  cases decode rest <;> rfl

theorem decode_three
    {high middle low : Nat}
    (short : high < 16)
    (middleBits : middle < 64)
    (lowBits : low < 64) :
    decode (UInt8.ofNat (0xE0 + high) :: UInt8.ofNat (0x80 + middle) ::
        UInt8.ofNat (0x80 + low) :: rest) =
      (character? 0x800 (high * 4096 + middle * 64 + low)).bind fun c =>
        (decode rest).map (c :: ·) := by
  rw [decode.eq_def]
  simp only [toNat_ofNat (show 0xE0 + high < 256 by omega), continuation?_ofNat middleBits,
    continuation?_ofNat lowBits]
  rw [if_neg (by omega), if_neg (by omega), if_neg (by omega), if_pos (by omega),
    Nat.add_sub_cancel_left]
  cases decode rest <;> rfl

/-- Four octets make one character.  The code point stays a sum all the way, because it is too large
to be multiplied out. -/
theorem decode_four
    {high second third low : Nat}
    (short : high < 8)
    (secondBits : second < 64)
    (thirdBits : third < 64)
    (lowBits : low < 64) :
    decode (UInt8.ofNat (0xF0 + high) :: UInt8.ofNat (0x80 + second) ::
        UInt8.ofNat (0x80 + third) :: UInt8.ofNat (0x80 + low) :: rest) =
      (character? 0x10000 (high * 262144 + second * 4096 + third * 64 + low)).bind fun c =>
        (decode rest).map (c :: ·) := by
  rw [decode.eq_def]
  simp only [toNat_ofNat (show 0xF0 + high < 256 by omega), continuation?_ofNat secondBits,
    continuation?_ofNat thirdBits, continuation?_ofNat lowBits]
  rw [if_neg (by omega), if_neg (by omega), if_neg (by omega), if_neg (by omega),
    if_pos (by omega), Nat.add_sub_cancel_left]
  rw [Option.bind_eq_bind, Option.bind_some, Option.bind_eq_bind, Option.bind_some,
    Option.bind_eq_bind, Option.bind_some]
  generalize high * 262144 + second * 4096 + third * 64 + low = code
  cases decode rest <;> rfl

end Reading

/-! ## ASCII -/

theorem toNat_lt_of_isAlphanum {c : Char} (letter : c.isAlphanum = true) : c.toNat < 0x80 := by
  have kinds : (c.isUpper || c.isLower || c.isDigit) = true := letter
  rw [Bool.or_eq_true, Bool.or_eq_true] at kinds
  rcases kinds with (upper | lower) | digit
  · have bound : c.val ≤ 'Z'.val := (of_decide_eq_true upper).2
    exact Nat.lt_of_le_of_lt (UInt32.le_iff_toNat_le.mp bound) (by decide)
  · have bound : c.val ≤ 'z'.val := of_decide_eq_true (Bool.and_eq_true_iff.mp lower).2
    exact Nat.lt_of_le_of_lt (UInt32.le_iff_toNat_le.mp bound) (by decide)
  · have bound : c.val ≤ '9'.val := of_decide_eq_true (Bool.and_eq_true_iff.mp digit).2
    exact Nat.lt_of_le_of_lt (UInt32.le_iff_toNat_le.mp bound) (by decide)

/-- A text of ASCII takes one octet for each of its characters. -/
theorem encode_of_ascii {text : List Char} (ascii : ∀ c ∈ text, c.toNat < 0x80) :
    encode text = text.map fun c => UInt8.ofNat c.toNat := by
  induction text with
  | nil => rfl
  | cons c text ih =>
      rw [List.forall_mem_cons] at ascii
      rw [encode_cons, encodeChar_one ascii.1, ih ascii.2, List.map_cons, List.singleton_append]

/-- The characters of such a text are the octets themselves. -/
theorem map_encode_of_ascii {text : List Char} (ascii : ∀ c ∈ text, c.toNat < 0x80) :
    (encode text).map (fun octet => Char.ofNat octet.toNat) = text := by
  have same : ∀ c ∈ text, Char.ofNat (UInt8.ofNat c.toNat).toNat = c := by
    intro c member
    have small := ascii c member
    rw [toNat_ofNat (by omega), Char.ofNat_toNat]
  rw [encode_of_ascii ascii, List.map_map]
  exact (List.map_congr_left same).trans (List.map_id' text)

/-! ## Both ways -/

/-- The bits of a code point, six at a time from the end. -/
theorem toNat_eq_bits (c : Char) :
    c.toNat < 0x110000 ∧
      c.toNat = c.toNat / 64 * 64 + c.toNat % 64 ∧
      c.toNat = c.toNat / 4096 * 4096 + c.toNat / 64 % 64 * 64 + c.toNat % 64 ∧
      c.toNat =
        c.toNat / 262144 * 262144 + c.toNat / 4096 % 64 * 4096 + c.toNat / 64 % 64 * 64 +
          c.toNat % 64 := by
  have valid := c.valid
  simp only [UInt32.isValidChar, Nat.isValidChar] at valid
  have limit : c.toNat < 0x110000 := by
    show c.val.toNat < _
    omega
  exact ⟨limit, by omega, by omega, by omega⟩

/-- A character is read back from its octets, whatever follows them. -/
theorem decode_encodeChar_append (c : Char) (rest : List UInt8) :
    decode (encodeChar c ++ rest) = (decode rest).map (c :: ·) := by
  rcases toNat_eq_bits c with ⟨limit, two, three, four⟩
  have read {least : Nat} (large : least ≤ c.toNat) :
      ((character? least c.toNat).bind fun c => (decode rest).map (c :: ·)) =
        (decode rest).map (c :: ·) := by
    rw [character?_toNat large, Option.bind_some]
  by_cases one : c.toNat < 0x80
  · rw [encodeChar_one one, List.singleton_append, decode_one rest one, Char.ofNat_toNat]
  by_cases short : c.toNat < 0x800
  · rw [encodeChar_two two (by omega) (by omega) (by omega)]
    exact (decode_two rest (by omega) (by omega)).trans (two ▸ read (by omega))
  by_cases long : c.toNat < 0x10000
  · rw [encodeChar_three three (by omega) (by omega) (by omega) (by omega)]
    exact (decode_three rest (by omega) (by omega) (by omega)).trans (three ▸ read (by omega))
  · rw [encodeChar_four four (by omega) (by omega) (by omega) (by omega)]
    exact (decode_four rest (by omega) (by omega) (by omega) (by omega)).trans
      (four ▸ read (by omega))

theorem encodeChar_ne_nil (c : Char) : encodeChar c ≠ [] := by
  simp only [encodeChar]
  split_ifs <;> exact List.cons_ne_nil _ _

/-- Beyond ASCII every octet of a character is marked by its highest bit. -/
theorem le_of_mem_encodeChar
    {c : Char}
    {octet : UInt8}
    (wide : 0x80 ≤ c.toNat)
    (member : octet ∈ encodeChar c) :
    0x80 ≤ octet.toNat := by
  have limit := (toNat_eq_bits c).1
  have marked {n : Nat} (large : 0x80 ≤ n) (small : n < 256) :
      0x80 ≤ (UInt8.ofNat n).toNat := by
    rw [toNat_ofNat small]
    exact large
  simp only [encodeChar, if_neg (show ¬ c.toNat < 0x80 by omega)] at member
  split_ifs at member with two three
  all_goals simp only [List.mem_cons, List.not_mem_nil, or_false] at member
  · rcases member with rfl | rfl <;> exact marked (by omega) (by omega)
  · rcases member with rfl | rfl | rfl <;> exact marked (by omega) (by omega)
  · rcases member with rfl | rfl | rfl | rfl <;> exact marked (by omega) (by omega)

/-- An octet of ASCII in a text is a character of the text. -/
theorem exists_mem_of_mem_encode
    {text : List Char}
    {octet : UInt8}
    (member : octet ∈ encode text)
    (ascii : octet.toNat < 0x80) :
    ∃ c ∈ text, c.toNat = octet.toNat := by
  rcases List.mem_flatMap.mp member with ⟨c, among, inside⟩
  refine ⟨c, among, ?_⟩
  by_cases one : c.toNat < 0x80
  · rw [encodeChar_one one] at inside
    rw [List.mem_singleton.mp inside, toNat_ofNat (by omega)]
  · have wide := le_of_mem_encodeChar (by omega) inside
    omega

/-- An octet of ASCII in a text without the character that it stands for would be one too many. -/
theorem ne_of_mem_encode
    {text : List Char}
    {octet : UInt8}
    (member : octet ∈ encode text)
    {c : Char}
    (ascii : c.toNat < 0x80)
    (absent : c ∉ text) :
    octet ≠ UInt8.ofNat c.toNat := by
  rintro rfl
  have code : (UInt8.ofNat c.toNat).toNat = c.toNat := toNat_ofNat (by omega)
  rcases exists_mem_of_mem_encode member (by omega) with ⟨d, among, same⟩
  have equal : d = c := by
    rw [← Char.ofNat_toNat d, same, code, Char.ofNat_toNat]
  exact absent (equal ▸ among)

/-- Reading undoes writing. -/
theorem decode_encode (text : List Char) : decode (encode text) = some text := by
  induction text with
  | nil => rfl
  | cons c text ih =>
      rw [encode_cons, decode_encodeChar_append, ih, Option.map_some]

/-- Only what was written is read. -/
theorem encode_of_decode
    {octets : List UInt8}
    {text : List Char}
    (read : decode octets = some text) :
    encode text = octets := by
  fun_induction decode octets generalizing text with
  | case1 =>
      cases read
      rfl
  | case2 a rest ascii ih =>
      simp only [Option.bind_eq_bind, Option.bind_eq_some_iff, Option.pure_def,
        Option.some.injEq] at read
      rcases read with ⟨text, readRest, rfl⟩
      have code : (Char.ofNat a.toNat).toNat = a.toNat := toNat_ofNat_of_lt ascii
      rw [encode_cons, ih readRest, encodeChar_one (by omega), code, UInt8.ofNat_toNat]
      rfl
  | case4 a _ _ short b rest ih =>
      simp only [Option.bind_eq_bind, Option.bind_eq_some_iff, Option.pure_def,
        Option.some.injEq] at read
      rcases read with ⟨low, carried, c, found, text, readRest, rfl⟩
      rcases continuation?_eq_some carried with ⟨lowBits, rfl⟩
      rcases character?_eq_some found with ⟨long, code⟩
      rw [encode_cons, ih readRest, encodeChar_two code (by omega) (by omega) lowBits,
        ofNat_of_toNat (show a.toNat = _ by omega)]
      rfl
  | case6 a _ _ _ short b b' rest ih =>
      simp only [Option.bind_eq_bind, Option.bind_eq_some_iff, Option.pure_def,
        Option.some.injEq] at read
      rcases read with ⟨middle, carried, low, carriedLow, c, found, text, readRest, rfl⟩
      rcases continuation?_eq_some carried with ⟨middleBits, rfl⟩
      rcases continuation?_eq_some carriedLow with ⟨lowBits, rfl⟩
      rcases character?_eq_some found with ⟨long, code⟩
      rw [encode_cons, ih readRest,
        encodeChar_three code (by omega) (by omega) middleBits lowBits,
        ofNat_of_toNat (show a.toNat = _ by omega)]
      rfl
  | case8 a _ _ _ _ short b b' b'' rest ih =>
      simp only [Option.bind_eq_bind, Option.bind_eq_some_iff, Option.pure_def,
        Option.some.injEq] at read
      obtain ⟨second, carried, third, carriedThird, low, carriedLow, c, found, text, readRest,
        rfl⟩ := read
      rcases continuation?_eq_some carried with ⟨secondBits, rfl⟩
      rcases continuation?_eq_some carriedThird with ⟨thirdBits, rfl⟩
      rcases continuation?_eq_some carriedLow with ⟨lowBits, rfl⟩
      rcases character?_eq_some found with ⟨long, code⟩
      rw [encode_cons, ih readRest,
        encodeChar_four code (by omega) secondBits thirdBits lowBits,
        ofNat_of_toNat (show a.toNat = _ by omega)]
      rfl
  | case3 | case5 | case7 | case9 | case10 => cases read

/-- An octet list is read as a text exactly when the text is written so. -/
theorem decode_eq_some_iff {octets : List UInt8} {text : List Char} :
    decode octets = some text ↔ octets = encode text := by
  constructor
  · intro read
    exact (encode_of_decode read).symm
  · rintro rfl
    exact decode_encode text

/-- Different texts are written differently. -/
theorem encode_injective {left right : List Char} (same : encode left = encode right) :
    left = right := by
  have read := decode_encode left
  rw [same, decode_encode] at read
  exact (Option.some.inj read).symm

/-! ## The octets of what is left -/

theorem size_append (left right : List Char) : size (left ++ right) = size left + size right := by
  rw [size, encode_append, List.length_append]
  rfl

theorem size_lt_size_cons (c : Char) (rest : List Char) : size rest < size (c :: rest) := by
  rw [size, size, encode_cons, List.length_append]
  exact Nat.lt_add_of_pos_left (List.length_pos_iff.mpr (encodeChar_ne_nil c))

theorem size_le_of_suffix {rest text : List Char} (left : rest <:+ text) :
    size rest ≤ size text := by
  rcases left with ⟨front, rfl⟩
  rw [size_append]
  exact Nat.le_add_left _ _

theorem length_le_size (text : List Char) : text.length ≤ size text := by
  induction text with
  | nil => exact Nat.zero_le _
  | cons c rest ih =>
      have more := size_lt_size_cons c rest
      rw [List.length_cons]
      omega

end Utf8

/-! ## Positions on a single line -/

/-- As long as no line feed has been read, the column counts all octets. -/
theorem Position.after_of_no_feed
    {text : List Char}
    (noFeed : '\n' ∉ text)
    {read : Nat}
    (within : read ≤ Utf8.size text) :
    Position.after text read = ⟨1, read⟩ := by
  have others : ∀ octet ∈ (Utf8.encode text).take read, octet ≠ lineFeed := fun octet member =>
    Utf8.ne_of_mem_encode (List.mem_of_mem_take member) (by decide) noFeed
  have noneSeen : ((Utf8.encode text).take read).count lineFeed = 0 :=
    List.count_eq_zero.mpr fun member => others lineFeed member rfl
  have allInside : ∀ octet ∈ ((Utf8.encode text).take read).reverse, octet ≠ lineFeed :=
    fun octet member => others octet (List.mem_reverse.mp member)
  have whole :
      (((Utf8.encode text).take read).reverse.takeWhile (· ≠ lineFeed)).length = read := by
    rw [List.takeWhile_eq_self_iff.mpr (by simpa using allInside), List.length_reverse,
      List.length_take]
    exact Nat.min_eq_left within
  rw [Position.after, noneSeen, whole]

end ReviewQuery.Text
