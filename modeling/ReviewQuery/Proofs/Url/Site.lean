import ReviewQuery.Proofs.Url.AuthorityText
import ReviewQuery.Proofs.Url.Tail

/-!
# The site of a URL

The site of a text is what can be seen in it of the server: the text of its authority, and whether
a drive letter behind the authority hides the host.  A text has a site if there are slashes for one
behind its scheme.
-/

namespace ReviewQuery.Url

/-! ## Sites -/

/-- Whether a character is a slash below some kind of scheme. -/
def SchemeKind.isSlash (kind : SchemeKind) (c : Char) : Bool :=
  c = '/' || (kind.isSpecial && c = '\\')

/-- The text behind the slashes in front of an authority.  Only below the schemes of the web their
number does not matter. -/
def behindSlashes? : SchemeKind → List Char → Option (List Char)
  | .web, rest => some (rest.dropWhile (SchemeKind.isSlash .web))
  | kind, first :: second :: text =>
    if kind.isSlash first && kind.isSlash second then some text else none
  | _, _ => none

/-- Below other schemes than those of the web there are two slashes in front of an authority. -/
theorem behindSlashes?_eq_some_iff
    {kind : SchemeKind}
    {rest text : List Char}
    (notWeb : kind ≠ .web) :
    behindSlashes? kind rest = some text ↔
      ∃ first second, rest = first :: second :: text ∧
        kind.isSlash first = true ∧ kind.isSlash second = true := by
  constructor
  · intro found
    rcases rest with _ | ⟨first, _ | ⟨second, behind⟩⟩
    · cases kind <;> trivial
    · cases kind <;> trivial
    · rw [behindSlashes?] at found
      · split at found
        · rename_i slashes
          cases found
          exact ⟨first, second, rfl, Bool.and_eq_true_iff.mp slashes⟩
        · cases found
      · exact notWeb
  · rintro ⟨first, second, rfl, firstSlash, secondSlash⟩
    rw [behindSlashes?, firstSlash, secondSlash]
    · rfl
    · exact notWeb

/-- Whether a file path starts with a drive letter. -/
def startsWithDrive (path : List Char) : Bool :=
  ((readPath .file (splitTail path).1).head?.map Path.isDrive).getD false

/-- Whether a text names a host that its path takes away. -/
def hidesHost (kind : SchemeKind) (text : List Char) : Bool :=
  match kind, readFileHost text with
  | .file, .ok (some _, path) => startsWithDrive path
  | _, _ => false

/-- What can be seen of a server in the text of a URL. -/
structure Site where
  authority : List Char
  hidesHost : Bool
  deriving DecidableEq, Repr

/-- The site of the text behind a scheme. -/
def siteBelow? (kind : SchemeKind) (rest : List Char) : Option Site :=
  (behindSlashes? kind rest).map fun text => ⟨authorityText kind text, hidesHost kind text⟩

/-- The site of a text. -/
def site? (text : List Char) : Option Site :=
  match splitScheme? (clean text) with
  | none => none
  | some (scheme, rest) => siteBelow? (.of scheme) rest

/-! ## Reading below a scheme -/

/-- The URL that the text behind a scheme stands for. -/
def readBelow (scheme rest : List Char) : Except Error Url :=
  match SchemeKind.of scheme with
  | .web => readWithAuthority .web scheme (rest.dropWhile (SchemeKind.isSlash .web))
  | .file => readFile rest
  | .other => readOther scheme rest

theorem parse_of_splitScheme?
    {text scheme rest : List Char}
    (found : splitScheme? (clean text) = some (scheme, rest)) :
    parse text = readBelow scheme rest := by
  rw [parse, found]
  rfl

theorem parse_eq_ok_iff {text : List Char} {url : Url} :
    parse text = .ok url ↔
      ∃ scheme rest, splitScheme? (clean text) = some (scheme, rest) ∧
        readBelow scheme rest = .ok url := by
  constructor
  · intro parsed
    cases found : splitScheme? (clean text) with
    | none =>
        rw [parse, found] at parsed
        cases parsed
    | some parts =>
        rw [parse_of_splitScheme? found] at parsed
        exact ⟨parts.1, parts.2, rfl, parsed⟩
  · rintro ⟨scheme, rest, found, read⟩
    rw [parse_of_splitScheme? found]
    exact read

/-- A scheme ends at its colon, whatever follows. -/
theorem splitScheme?_eq_some
    {text scheme rest : List Char}
    (found : splitScheme? text = some (scheme, rest)) :
    ∃ letters, text = letters ++ ':' :: rest ∧ HasNoTail letters ∧
      ∀ other, splitScheme? (letters ++ ':' :: other) = some (scheme, other) := by
  have letter : ∀ c ∈ text.takeWhile isSchemeChar, isSchemeChar c = true := by
    intro c member
    exact List.mem_takeWhile_imp member
  have parts : text.takeWhile isSchemeChar ++ text.dropWhile isSchemeChar = text :=
    List.takeWhile_append_dropWhile
  rw [splitScheme?] at found
  split at found
  · rename_i first more behind letters colon
    rw [letters] at letter
    rw [letters, colon] at parts
    split at found
    · rename_i alphabetic
      cases found
      refine ⟨first :: more, parts.symm, ?_, ?_⟩
      · apply hasNoTail_iff.mpr
        constructor
        · intro mark
          cases letter '?' mark
        · intro sign
          cases letter '#' sign
      · intro other
        have stops : ∀ c ∈ (':' :: other).head?, isSchemeChar c = false := by
          intro c head
          cases head
          rfl
        simp only [splitScheme?, Text.takeWhile_append_of_stops letter stops,
          Text.dropWhile_append_of_stops letter stops, if_pos alphabetic, letters]
    · cases found
  · cases found

/-! ## Schemes without rules of their own -/

/-- The path of a text that names no server. -/
def pathWithoutServer : List Char → Path
  | '/' :: rest => .segments (Path.ofText false (· = '/') rest)
  | text => .plain (PercentEncoding.encode PercentEncoding.isControl text)

/-- The URL of a text that names no server. -/
def withoutServer (scheme text : List Char) : Url :=
  withoutHost .other scheme (pathWithoutServer (splitTail text).1) (splitTail text).2.1
    (splitTail text).2.2

theorem readOther_eq (scheme rest : List Char) :
    readOther scheme rest =
      match behindSlashes? .other rest with
      | some text => readWithAuthority .other scheme text
      | none => .ok (withoutServer scheme rest) := by
  have onlySlash (c : Char) : SchemeKind.isSlash .other c = decide (c = '/') := by
    simp [SchemeKind.isSlash, SchemeKind.isSpecial]
  by_cases slashes : ∃ text, rest = '/' :: '/' :: text
  · rcases slashes with ⟨text, rfl⟩
    rfl
  · have noSlashes : behindSlashes? .other rest = none := by
      rcases rest with _ | ⟨first, _ | ⟨second, text⟩⟩
      · rfl
      · rfl
      · rw [behindSlashes?, onlySlash, onlySlash, if_neg]
        · intro both
          rw [Bool.and_eq_true, decide_eq_true_eq, decide_eq_true_eq] at both
          rcases both with ⟨rfl, rfl⟩
          exact slashes ⟨text, rfl⟩
        · rintro ⟨⟩
    rw [noSlashes, readOther, withoutServer]
    · rcases splitTail rest with ⟨path, query, fragment⟩
      show (match path with | '/' :: _ => _ | _ => _) =
        Except.ok (withoutHost .other scheme (pathWithoutServer path) query fragment)
      split
      · rfl
      · rename_i relative
        rw [pathWithoutServer]
        exact relative
    · intro text same
      exact slashes ⟨text, same⟩

/-! ## Files -/

/-- The host of a file and the text behind it. -/
def fileHost (rest : List Char) : Except Error (Option Host × List Char) :=
  match behindSlashes? .file rest with
  | some text => readFileHost text
  | none => .ok (none, rest)

/-- The URL of a file at some host. -/
def fileUrl (host : Option Host) (rest : List Char) : Url :=
  let (path, query, fragment) := splitTail rest
  let segments := trimFilePath (readPath .file path)
  { withoutHost .file "file".toList (.segments segments) query fragment with
    host := if startsWithDrive rest then none else host }

theorem readFile_eq (rest : List Char) :
    readFile rest = (fileHost rest).map fun found => fileUrl found.1 found.2 := by
  rcases rest with _ | ⟨first, _ | ⟨second, text⟩⟩
  · rfl
  · rfl
  · have marks :
        ((decide (((first :: second :: text).take 2).length = 2)) &&
          ((first :: second :: text).take 2).all fun c => c = '/' || c = '\\') =
            (SchemeKind.isSlash .file first && SchemeKind.isSlash .file second) := by
      simp [SchemeKind.isSlash, SchemeKind.isSpecial]
    simp only [readFile, fileHost, behindSlashes?, marks]
    cases SchemeKind.isSlash .file first && SchemeKind.isSlash .file second with
    | false => rfl
    | true =>
        show (readFileHost text >>= _) = (readFileHost text).map _
        cases readFileHost text <;> rfl

/-- The host of a file is read from its authority as a whole. -/
theorem readFileHost_append
    {inside tail : List Char}
    (stays : StaysInside true inside)
    (ends : EndsBefore true tail) :
    readFileHost (inside ++ tail) =
      if inside = [] ∨ Path.isDrive inside = true then .ok (none, inside ++ tail)
      else
        (Host.readSpecial inside).map fun host =>
          (if host = .name "localhost".toList then none else some host, tail) := by
  simp only [readFileHost, takeWhile_authority stays ends, Bool.or_eq_true, List.isEmpty_iff,
    List.drop_left]
  split
  · rfl
  · cases Host.readSpecial inside <;> rfl

/-! ## Queries and fragments -/

section Tail

variable
  {kind : SchemeKind}
  {scheme text rest : List Char}

theorem StaysInside.hasNoTail
    {special : Bool}
    {inside : List Char}
    (stays : StaysInside special inside) :
    HasNoTail inside := by
  apply hasNoTail_iff.mpr
  constructor
  · intro mark
    cases stays '?' mark
  · intro sign
    cases stays '#' sign

theorem splitTail_behindSlashes (found : behindSlashes? kind rest = some text) :
    (splitTail rest).2 = (splitTail text).2 := by
  have plain {c : Char} (slash : kind.isSlash c = true) : c ≠ '?' ∧ c ≠ '#' := by
    constructor
    · rintro rfl
      simp [SchemeKind.isSlash] at slash
    · rintro rfl
      simp [SchemeKind.isSlash] at slash
  have within : ∃ slashes, HasNoTail slashes ∧ rest = slashes ++ text := by
    by_cases web : kind = .web
    · subst web
      cases found
      refine ⟨_, ?_, List.takeWhile_append_dropWhile.symm⟩
      intro c member
      exact plain (List.mem_takeWhile_imp member)
    · rcases (behindSlashes?_eq_some_iff web).mp found with
        ⟨first, second, rfl, firstSlash, secondSlash⟩
      refine ⟨[first, second], ?_, rfl⟩
      intro c member
      rcases List.mem_pair.mp member with rfl | rfl
      · exact plain firstSlash
      · exact plain secondSlash
  rcases within with ⟨slashes, noTail, rfl⟩
  rw [splitTail_append noTail]

theorem splitTail_readServer
    {server : Server}
    (read : readServer kind scheme text = .ok (server, rest)) :
    (splitTail text).2 = (splitTail rest).2 := by
  rcases exists_authority kind.isSpecial text with ⟨inside, tail, rfl, stays, ends⟩
  rcases readServer_inside stays ends read with ⟨behind, ⟨front, rfl⟩, rfl, _⟩
  have plain := stays.hasNoTail
  rw [List.append_assoc, splitTail_append (plain.of_subset (List.subset_append_left _ _))]

theorem splitTail_readFileHost
    {host : Option Host}
    (read : readFileHost text = .ok (host, rest)) :
    (splitTail text).2 = (splitTail rest).2 := by
  rcases exists_authority true text with ⟨inside, tail, rfl, stays, ends⟩
  rw [readFileHost_append stays ends] at read
  split at read
  · cases read
    rfl
  · rcases map_eq_ok_iff.mp read with ⟨_, _, same⟩
    cases same
    rw [splitTail_append stays.hasNoTail]

/-- Whether the query and the fragment of a URL are those of a text. -/
def EndsAs (url : Url) (kind : SchemeKind) (text : List Char) : Prop :=
  url.query = (splitTail text).2.1.map (encodeQuery kind) ∧
    url.fragment = (splitTail text).2.2.map encodeFragment

theorem EndsAs.of_splitTail
    {url : Url}
    (ends : EndsAs url kind rest)
    (same : (splitTail text).2 = (splitTail rest).2) :
    EndsAs url kind text := by
  rw [EndsAs, same]
  exact ends

theorem endsAs_of_readWithAuthority
    {url : Url}
    (read : readWithAuthority kind scheme text = .ok url) :
    EndsAs url kind text := by
  rw [readWithAuthority_eq] at read
  rcases map_eq_ok_iff.mp read with ⟨server, found, rfl⟩
  exact EndsAs.of_splitTail ⟨rfl, rfl⟩ (splitTail_readServer found)

theorem endsAs_of_readFile {url : Url} (read : readFile rest = .ok url) :
    EndsAs url .file rest := by
  rw [readFile_eq] at read
  rcases map_eq_ok_iff.mp read with ⟨host, found, rfl⟩
  apply EndsAs.of_splitTail ⟨rfl, rfl⟩
  rw [fileHost] at found
  cases slashes : behindSlashes? .file rest with
  | none =>
      rw [slashes] at found
      cases found
      rfl
  | some text =>
      rw [slashes] at found
      rw [splitTail_behindSlashes slashes, splitTail_readFileHost found]

theorem endsAs_of_readOther
    {url : Url}
    (read : readOther scheme rest = .ok url) :
    EndsAs url .other rest := by
  rw [readOther_eq] at read
  cases slashes : behindSlashes? .other rest with
  | none =>
      rw [slashes] at read
      cases read
      exact ⟨rfl, rfl⟩
  | some text =>
      rw [slashes] at read
      exact (endsAs_of_readWithAuthority read).of_splitTail (splitTail_behindSlashes slashes)

/-- Below every scheme the query and the fragment are those of the text. -/
theorem endsAs_of_readBelow
    {url : Url}
    (read : readBelow scheme rest = .ok url) :
    EndsAs url (.of scheme) rest := by
  rw [readBelow] at read
  cases kind : SchemeKind.of scheme with
  | web =>
      rw [kind] at read
      have slashes : behindSlashes? .web rest = some _ := rfl
      exact (endsAs_of_readWithAuthority read).of_splitTail (splitTail_behindSlashes slashes)
  | file =>
      rw [kind] at read
      exact endsAs_of_readFile read
  | other =>
      rw [kind] at read
      exact endsAs_of_readOther read

end Tail

end ReviewQuery.Url
