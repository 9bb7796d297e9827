import ReviewQuery.Url.Encoding

/-!
# Paths

A path is a list of segments.  While a text is read into segments, a dot segment stands for the
place itself and a double-dot segment takes back the segment before it.  A drive letter is never
taken back, and at the start of a file path it is written with a colon.
-/

namespace ReviewQuery.Url

/-- The path of a URL. -/
inductive Path where
  /-- Segments, each behind a slash. -/
  | segments (list : List (List Char))
  /-- A text that is no list of segments, as in a mail address. -/
  | plain (text : List Char)
  deriving DecidableEq, Repr

namespace Path

/-- The path as it stands in a URL. -/
def render : Path → List Char
  | .segments list => list.flatMap ('/' :: ·)
  | .plain text => text

/-! ## Kinds of segments -/

/-- A segment in lower case with its encoded dots decoded. -/
def decodeDots : List Char → List Char
  | '%' :: '2' :: c :: rest =>
    if c = 'e' || c = 'E' then '.' :: decodeDots rest else '%' :: '2' :: decodeDots (c :: rest)
  | c :: rest => c :: decodeDots rest
  | [] => []

/-- Whether a segment stands for the place itself. -/
def isDot (segment : List Char) : Bool :=
  decodeDots segment = ['.']

/-- Whether a segment stands for the place above. -/
def isDoubleDot (segment : List Char) : Bool :=
  decodeDots segment = ['.', '.']

/-- Whether a segment is a drive letter. -/
def isDrive : List Char → Bool
  | [letter, mark] => letter.isAlpha && (mark = ':' || mark = '|')
  | _ => false

/-! ## Segments of a text -/

/-- The parts of a text between separators. -/
def split (isSeparator : Char → Bool) : List Char → List (List Char)
  | [] => [[]]
  | c :: rest =>
    if isSeparator c then [] :: split isSeparator rest
    else
      match split isSeparator rest with
      | [] => [[c]]
      | part :: others => (c :: part) :: others

/-- The segments without the last one, unless that is a drive letter. -/
def shorten (segments : List (List Char)) : List (List Char) :=
  match segments.getLast? with
  | some last => if isDrive last then segments else segments.dropLast
  | none => []

/-- The segments after one more; `isLast` tells that nothing follows it.  A dot segment at the end
leaves an empty one. -/
def push
    (isFile isLast : Bool)
    (segments : List (List Char))
    (segment : List Char) : List (List Char) :=
  let close (list : List (List Char)) := if isLast then list ++ [[]] else list
  if isDoubleDot segment then close (shorten segments)
  else if isDot segment then close segments
  else
    if isFile && segments.isEmpty && isDrive segment then segments ++ [segment.take 1 ++ [':']]
    else segments ++ [segment]

/-- The segments after all the given ones. -/
def pushAll (isFile : Bool) (segments : List (List Char)) :
    List (List Char) → List (List Char)
  | [] => segments
  | [last] => push isFile true segments last
  | segment :: rest => pushAll isFile (push isFile false segments segment) rest

/-- The segments that a text without its leading slash stands for. -/
def ofText (isFile : Bool) (isSeparator : Char → Bool) (text : List Char) : List (List Char) :=
  pushAll isFile []
    ((split isSeparator text).map (PercentEncoding.encode PercentEncoding.inPath))

end Path

end ReviewQuery.Url
