import Mathlib.Data.List.TakeWhile
import ReviewQuery.Http.Body
import ReviewQuery.Proofs.Http.Head
import ReviewQuery.Proofs.Text.Hexadecimal

/-!
# Chunks that were written are read back

A body in chunks is cut wherever its sender likes, also within a character.  Every chunk tells its
size in front, in digits of either case and with any number of zeros, and the empty chunk ends the
body.  Joined again, the chunks are the octets that were cut.
-/

namespace ReviewQuery.Http

/-! ## Sizes -/

section Size

variable
  {digits : List Char}
  {size : Nat}

theorem isVisible_of_number? (read : Text.Hexadecimal.number? digits = some size) :
    IsVisible digits := by
  intro c member
  rcases Text.Hexadecimal.exists_value?_of_number? read member with ⟨value, found⟩
  have bounds := Text.Hexadecimal.toNat_bounds_of_value? found
  omega

/-- What is no digit does not stand in the octets of a size. -/
theorem not_mem_encode_of_number?
    (read : Text.Hexadecimal.number? digits = some size)
    {octet : UInt8}
    (ascii : octet.toNat < 0x80)
    (noDigit : Text.Hexadecimal.value? (Char.ofNat octet.toNat) = none) :
    octet ∉ Text.Utf8.encode digits := by
  intro member
  rcases Text.Utf8.exists_mem_of_mem_encode member ascii with ⟨c, among, code⟩
  rw [← code, Char.ofNat_toNat] at noDigit
  exact Text.Hexadecimal.not_mem_of_number? read noDigit among

theorem hexadecimal?_of_number?
    (nonempty : digits ≠ [])
    (read : Text.Hexadecimal.number? digits = some size) :
    hexadecimal? digits = some size := by
  have unsigned : ∀ rest, digits ≠ '+' :: rest := by
    rintro rest rfl
    exact Text.Hexadecimal.not_mem_of_number? read (by decide) List.mem_cons_self
  unfold hexadecimal?
  split
  · exact absurd rfl (unsigned _)
  · rw [if_neg (by simpa using nonempty), read]

theorem chunkSize?_encode
    (nonempty : digits ≠ [])
    (read : Text.Hexadecimal.number? digits = some size)
    (fits : size < lengthBound) :
    chunkSize? (Text.Utf8.encode digits) = some size := by
  have noExtension : (Text.Utf8.encode digits).takeWhile (· ≠ 59) = Text.Utf8.encode digits := by
    rw [List.takeWhile_eq_self_iff]
    intro octet member
    have absent : 59 ∉ Text.Utf8.encode digits :=
      not_mem_encode_of_number? read (by decide) (by decide)
    exact decide_eq_true (ne_of_mem_of_not_mem member absent)
  simp only [chunkSize?, noExtension, Text.Utf8.decode_encode,
    trim_of_isTrimmed (isVisible_of_number? read).isTrimmed, hexadecimal?_of_number? nonempty read,
    Option.bind_eq_bind, Option.bind_some, if_pos fits]

/-- A size is read up to the end of its line. -/
theorem readChunkSize_writeLine
    (nonempty : digits ≠ [])
    (read : Text.Hexadecimal.number? digits = some size)
    (fits : size < lengthBound)
    (rest : Octets) :
    readChunkSize (writeLine (Text.Utf8.encode digits) ++ rest) = .ok (size, rest) := by
  have written :
      writeLine (Text.Utf8.encode digits) ++ rest =
        Text.Utf8.encode digits ++ cr :: lf :: rest := by
    simp [writeLine]
  have absent : cr ∉ Text.Utf8.encode digits :=
    not_mem_encode_of_number? read (by decide) (by decide)
  simp only [readChunkSize, written, Text.takeWhile_ne_append_cons absent,
    Text.dropWhile_ne_append_cons absent, behindLineEnd?, and_self, if_true,
    chunkSize?_encode nonempty read fits]

end Size

/-! ## One chunk after the other -/

section Step

variable {octets rest : Octets}

/-- The empty chunk ends the body. -/
theorem readChunks_of_last
    (size : readChunkSize octets = .ok (0, rest))
    (ended : (behindLineEnd? rest).isSome = true) :
    readChunks octets = .ok [] := by
  rw [readChunks]
  split
  · rename_i failed
    rw [size] at failed
    cases failed
  · rename_i known
    rw [size] at known
    cases known
    rw [if_pos ended]
  · rename_i known
    rw [size] at known
    cases known

/-- Any other chunk stands in front of those behind it.  Its last octet is what shows that the data
does not end within it. -/
theorem readChunks_of_chunk
    {data : Octets}
    (nonempty : data ≠ [])
    (size : readChunkSize octets = .ok (data.length, writeLine data ++ rest)) :
    readChunks octets = (readChunks rest).map (data ++ ·) := by
  rcases List.eq_nil_or_concat data with rfl | ⟨front, last, rfl⟩
  · exact absurd rfl nonempty
  rw [List.concat_eq_append] at size ⊢
  have behind : writeLine (front ++ [last]) ++ rest = front ++ last :: cr :: lf :: rest := by
    simp [writeLine]
  rw [behind, List.length_append, List.length_singleton] at size
  rw [readChunks]
  split
  · rename_i failed
    rw [size] at failed
    cases failed
  · rename_i known
    rw [size] at known
    cases known
  · rename_i known
    rw [size] at known
    cases known
    split
    · rename_i ends
      simp at ends
    · rename_i found
      rw [List.drop_left] at found
      cases found
      have ended : behindLineEnd? (cr :: lf :: rest) = some rest := rfl
      have taken :
          (front ++ last :: cr :: lf :: rest).take (front.length + 1) = front ++ [last] := by
        rw [List.take_length_add_append, List.take_succ_cons, List.take_zero]
      split
      · rename_i missing
        rw [ended] at missing
        cases missing
      · rename_i found
        rw [ended] at found
        cases found
        rw [taken]
        cases readChunks rest with
        | error fault => rfl
        | ok octets => rfl

end Step

/-! ## Bodies in chunks -/

/-- A chunk: some octets, and their number in hexadecimal digits of either case behind any number of
zeros. -/
structure Chunk where
  data : Octets
  zeros : Nat
  size : List Char
  data_nonempty : data ≠ []
  data_fits : data.length < lengthBound
  size_spells :
    size.map Char.toLower =
      List.replicate zeros '0' ++ Text.Hexadecimal.render data.length

namespace Chunk

/-- A chunk as it is sent. -/
def write (chunk : Chunk) : Octets :=
  writeLine (Text.Utf8.encode chunk.size) ++ writeLine chunk.data

/-- The empty chunk, which ends a body. -/
def last : Octets :=
  writeLine (Text.Utf8.encode ['0']) ++ writeLine []

theorem number?_size (chunk : Chunk) :
    Text.Hexadecimal.number? chunk.size = some chunk.data.length := by
  rw [← Text.Hexadecimal.number?_map_toLower, chunk.size_spells,
    Text.Hexadecimal.number?_replicate_append, Text.Hexadecimal.number?_render]

/-- A chunk that is not empty tells a size. -/
theorem size_ne_nil (chunk : Chunk) : chunk.size ≠ [] := by
  intro none
  have empty := chunk.number?_size
  rw [none] at empty
  exact chunk.data_nonempty (List.eq_nil_of_length_eq_zero (Option.some.inj empty).symm)

end Chunk

/-- The last chunk behind any others is read as what they carry. -/
theorem readChunks_write (chunks : List Chunk) :
    readChunks (chunks.flatMap Chunk.write ++ Chunk.last) = .ok (chunks.flatMap Chunk.data) := by
  induction chunks with
  | nil =>
      have size : readChunkSize Chunk.last = .ok (0, writeLine []) :=
        readChunkSize_writeLine (by decide) (by decide) (by decide) _
      exact readChunks_of_last size rfl
  | cons chunk chunks ih =>
      have size :=
        readChunkSize_writeLine chunk.size_ne_nil chunk.number?_size chunk.data_fits
          (writeLine chunk.data ++ (chunks.flatMap Chunk.write ++ Chunk.last))
      have first := readChunks_of_chunk chunk.data_nonempty size
      rw [List.flatMap_cons, List.flatMap_cons, Chunk.write, List.append_assoc, List.append_assoc,
        first, ih]
      rfl

end ReviewQuery.Http
