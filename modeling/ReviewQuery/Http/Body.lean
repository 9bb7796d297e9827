import ReviewQuery.Http.Head
import ReviewQuery.Text.Hexadecimal

/-!
# The body of a response

The head tells where a body ends: at once, behind its last chunk, after a number of octets, or at
the end of the connection.
-/

namespace ReviewQuery.Http

/-- Where a body ends. -/
inductive Framing where
  /-- There is no body. -/
  | absent
  /-- The body comes in chunks, the last of which is empty. -/
  | chunked
  /-- The body has a known length. -/
  | length (octets : Nat)
  /-- The body ends with the connection. -/
  | untilEnd
  deriving DecidableEq, Repr

/-- The first number that is too large for a length, which is `2 ^ 64`. -/
def lengthBound : Nat := 18446744073709551616

/-- The framing that a head asks for. -/
def Head.framing (head : Head) : Framing :=
  let isOld := head.status.version = "HTTP/1.0".toList
  let transfer := (head.value? "transfer-encoding").getD []
  if head.status.code = 204 || head.status.code = 304 then .absent
  else if !isOld && !transfer.isEmpty then .chunked
  else
    match (head.value? "content-length").bind decimal? with
    | some octets => if octets < lengthBound then .length octets else .untilEnd
    | none => .untilEnd

/-! ## Chunks -/

/-- A whole number in hexadecimal, which may start with a plus sign. -/
def hexadecimal? (text : List Char) : Option Nat :=
  let digits :=
    match text with
    | '+' :: digits => digits
    | digits => digits
  if digits.isEmpty then none else Text.Hexadecimal.number? digits

/-- The size in front of a chunk, between blanks and up to an extension. -/
def chunkSize? (octets : Octets) : Option Nat := do
  let text ← Text.Utf8.decode (octets.takeWhile (· ≠ 59))
  let size ← hexadecimal? (Text.trim text)
  if size < lengthBound then some size else none

/-- What follows a carriage return and a line feed. -/
def behindLineEnd? : Octets → Option Octets
  | a :: b :: rest => if a = cr ∧ b = lf then some rest else none
  | _ => none

/-- The size of the next chunk and what follows its line. -/
def readChunkSize (octets : Octets) : Except Fault (Nat × Octets) :=
  match behindLineEnd? (octets.dropWhile (· ≠ cr)) with
  | none => .error .badChunk
  | some rest =>
    match chunkSize? (octets.takeWhile (· ≠ cr)) with
    | none => .error .badChunk
    | some size => .ok (size, rest)

theorem length_lt_of_behindLineEnd?
    {octets rest : Octets}
    (h : behindLineEnd? octets = some rest) :
    rest.length < octets.length := by
  unfold behindLineEnd? at h
  split at h
  · split at h
    · cases h
      simp only [List.length_cons]
      omega
    · cases h
  · cases h

theorem length_lt_of_readChunkSize
    {octets rest : Octets}
    {size : Nat}
    (h : readChunkSize octets = .ok (size, rest)) :
    rest.length < octets.length := by
  have bound := (List.dropWhile_suffix (l := octets) (· ≠ cr)).length_le
  unfold readChunkSize at h
  split at h
  · cases h
  · rename_i behind
    have := length_lt_of_behindLineEnd? behind
    split at h
    · cases h
    · cases h
      omega

/-- The octets of all chunks up to the empty one.  A body that ends within a chunk is taken as it
is. -/
def readChunks (octets : Octets) : Except Fault Octets :=
  match _size : readChunkSize octets with
  | .error fault => .error fault
  | .ok (0, rest) => if (behindLineEnd? rest).isSome then .ok [] else .error .badChunk
  | .ok (size + 1, rest) =>
    match _data : rest.drop size with
    | [] => .ok rest
    | _ :: behind =>
      match _end : behindLineEnd? behind with
      | none => .error .badChunk
      | some rest' =>
        match readChunks rest' with
        | .error fault => .error fault
        | .ok octets => .ok (rest.take (size + 1) ++ octets)
termination_by octets.length
decreasing_by
  have := length_lt_of_readChunkSize _size
  have := length_lt_of_behindLineEnd? _end
  have := congrArg List.length _data
  simp only [List.length_drop, List.length_cons] at this
  omega

/-! ## Bodies -/

/-- The octets of a body. -/
def Framing.read (framing : Framing) (octets : Octets) : Except Fault Octets :=
  match framing with
  | .absent => .ok []
  | .chunked => readChunks octets
  | .length count => if octets.length < count then .error .bodyEnds else .ok (octets.take count)
  | .untilEnd => .ok octets

end ReviewQuery.Http
