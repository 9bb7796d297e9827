import ReviewQuery.Url.Basic

/-!
# Reading URLs

A text is read from left to right: the scheme up to a colon; below a scheme with hosts the user
information, the host and the port; then the path, the query and the fragment.  Controls and blanks
around the text and line ends and tabs within it do not count.
-/

namespace ReviewQuery.Url

/-! ## Scheme -/

/-- The text without the controls and blanks around it and without tabs and line ends. -/
def clean (text : List Char) : List Char :=
  let isOuter (c : Char) : Bool := c.toNat ≤ 0x20
  let trimmed := ((text.dropWhile isOuter).reverse.dropWhile isOuter).reverse
  trimmed.filter fun c => c ≠ '\t' && c ≠ '\n' && c ≠ '\r'

/-- Whether a character may stand in a scheme behind its first letter. -/
def isSchemeChar (c : Char) : Bool :=
  c.isAlphanum || c = '+' || c = '-' || c = '.'

/-- The scheme of a text in lower case, and what follows its colon. -/
def splitScheme? (text : List Char) : Option (List Char × List Char) :=
  let scheme := text.takeWhile isSchemeChar
  match scheme, text.dropWhile isSchemeChar with
  | first :: _, ':' :: rest =>
    if first.isAlpha then some (scheme.map Char.toLower, rest) else none
  | _, _ => none

/-! ## Authority -/

/-- Whether a character ends the user information and the host. -/
def endsAuthority (special : Bool) (c : Char) : Bool :=
  c = '/' || c = '?' || c = '#' || (special && c = '\\')

/-- A user name, a password, and the text that follows them. -/
structure UserInfo where
  username : List Char
  password : List Char
  rest : List Char
  deriving DecidableEq, Repr

/-- The user information of an authority, which ends at its last `@`.  If there is nothing in
front of the `@`, a host has to follow. -/
def readUserInfo (special : Bool) (text : List Char) : Except Error UserInfo :=
  let authority := text.takeWhile fun c => !endsAuthority special c
  let host := (authority.reverse.takeWhile (· ≠ '@')).reverse
  if host.length = authority.length then .ok ⟨[], [], text⟩
  else
    let info := authority.take (authority.length - host.length - 1)
    let rest := text.drop (info.length + 1)
    if info.isEmpty && (rest.head?.map (endsAuthority special)).getD false then
      .error .emptyHost
    else
      let encode := PercentEncoding.encode PercentEncoding.inUserInfo
      let username := info.takeWhile (· ≠ ':')
      let password := (info.dropWhile (· ≠ ':')).drop 1
      .ok ⟨encode username, encode password, rest⟩

/-- The text of a host, up to a colon outside brackets or the end of the authority. -/
def spanHost (special inBrackets : Bool) : List Char → List Char × List Char
  | [] => ([], [])
  | c :: rest =>
    if (c = ':' && !inBrackets) || endsAuthority special c then ([], c :: rest)
    else
      let (host, rest) := spanHost special (c = '[' || (inBrackets && c ≠ ']')) rest
      (c :: host, rest)

/-- The host at the start of a text and the rest.  Below the schemes of the web there has to be
one. -/
def readHost (kind : SchemeKind) (text : List Char) :
    Except Error (Option Host × List Char) := do
  let (shown, rest) := spanHost kind.isSpecial false text
  if shown.isEmpty then
    if kind = .web || rest.head? = some ':' then .error .emptyHost else .ok (none, rest)
  else
    let host ← if kind.isSpecial then Host.readSpecial shown else Host.readPlain shown
    pure (some host, rest)

/-- The port at the start of a text, if there is a colon, and the rest.  The port that goes with
the scheme is left out. -/
def readPort (scheme : List Char) : List Char → Except Error (Option Nat × List Char)
  | ':' :: text =>
    let digits := text.takeWhile Char.isDigit
    let rest := text.dropWhile Char.isDigit
    let port := digits.foldl (fun total c => total * 10 + (c.toNat - 48)) 0
    if 65535 < port then .error .invalidPort
    else if (rest.head?.map fun c => !endsAuthority true c).getD false then
      .error .invalidPort
    else if digits.isEmpty || defaultPort? scheme = some port then .ok (none, rest)
    else .ok (some port, rest)
  | text => .ok (none, text)

/-! ## Path, query and fragment -/

/-- A text up to its query, the query and the fragment. -/
def splitTail (text : List Char) : List Char × Option (List Char) × Option (List Char) :=
  let front := text.takeWhile (· ≠ '#')
  let fragment := (text.dropWhile (· ≠ '#')).tail?
  (front.takeWhile (· ≠ '?'), (front.dropWhile (· ≠ '?')).tail?, fragment)

/-- The query as it stands in a URL. -/
def encodeQuery (kind : SchemeKind) (query : List Char) : List Char :=
  PercentEncoding.encode
    (if kind.isSpecial then PercentEncoding.inSpecialQuery else PercentEncoding.inQuery) query

/-- The fragment as it stands in a URL. -/
def encodeFragment (fragment : List Char) : List Char :=
  PercentEncoding.encode PercentEncoding.inFragment fragment

/-- The path behind an authority.  Below a special scheme it has at least one segment. -/
def readPath (kind : SchemeKind) (text : List Char) : List (List Char) :=
  let isSeparator (c : Char) : Bool := c = '/' || (kind.isSpecial && c = '\\')
  match text with
  | [] => if kind.isSpecial then [[]] else []
  | c :: rest => Path.ofText (kind = .file) isSeparator (if isSeparator c then rest else c :: rest)

/-- A file path does not start with empty segments. -/
def trimFilePath (segments : List (List Char)) : List (List Char) :=
  match segments.dropWhile (· = []) with
  | [] => [[]]
  | segments => segments

/-! ## Whole URLs -/

/-- A URL with a host. -/
def readWithAuthority
    (kind : SchemeKind)
    (scheme text : List Char) : Except Error Url := do
  let info ← readUserInfo kind.isSpecial text
  let (host, rest) ← readHost kind info.rest
  let (port, rest) ← readPort scheme rest
  if host.isNone && !(info.username.isEmpty && info.password.isEmpty) then .error .emptyHost
  else
    let (path, query, fragment) := splitTail rest
    pure
      { scheme := scheme
        username := info.username
        password := info.password
        host := host
        port := port
        path := .segments (readPath kind path)
        query := query.map (encodeQuery kind)
        fragment := fragment.map encodeFragment
        hasAuthority := true }

/-- A URL without a host. -/
def withoutHost
    (kind : SchemeKind)
    (scheme : List Char)
    (path : Path)
    (query fragment : Option (List Char)) : Url :=
  { scheme := scheme
    username := []
    password := []
    host := none
    port := none
    path := path
    query := query.map (encodeQuery kind)
    fragment := fragment.map encodeFragment
    hasAuthority := kind = .file }

/-- The host of a file.  A drive letter in its place belongs to the path, and the own machine is
not named. -/
def readFileHost (text : List Char) : Except Error (Option Host × List Char) :=
  let shown := text.takeWhile fun c => !endsAuthority true c
  if shown.isEmpty || Path.isDrive shown then .ok (none, text)
  else
    match Host.readSpecial shown with
    | .error e => .error e
    | .ok host =>
      .ok (if host = .name "localhost".toList then none else some host, text.drop shown.length)

/-- A URL of a file.  A path with a drive letter needs no host. -/
def readFile (text : List Char) : Except Error Url := do
  let isSlash (c : Char) : Bool := c = '/' || c = '\\'
  let hasHost := (text.take 2).length = 2 && (text.take 2).all isSlash
  let (host, rest) ← if hasHost then readFileHost (text.drop 2) else .ok (none, text)
  let (path, query, fragment) := splitTail rest
  let segments := readPath .file path
  let startsWithDrive := (segments.head?.map Path.isDrive).getD false
  let url := withoutHost .file "file".toList (.segments (trimFilePath segments)) query fragment
  pure { url with host := if startsWithDrive then none else host }

/-- A URL below a scheme with no rules of its own. -/
def readOther (scheme text : List Char) : Except Error Url :=
  match text with
  | '/' :: '/' :: rest => readWithAuthority .other scheme rest
  | _ =>
    let (path, query, fragment) := splitTail text
    match path with
    | '/' :: rest =>
      let segments := Path.ofText false (· = '/') rest
      .ok (withoutHost .other scheme (.segments segments) query fragment)
    | _ =>
      let plain := PercentEncoding.encode PercentEncoding.isControl path
      .ok (withoutHost .other scheme (.plain plain) query fragment)

/-- The URL that a text stands for. -/
def parse (text : List Char) : Except Error Url :=
  match splitScheme? (clean text) with
  | none => .error .missingScheme
  | some (scheme, rest) =>
    match SchemeKind.of scheme with
    | .web => readWithAuthority .web scheme (rest.dropWhile fun c => c = '/' || c = '\\')
    | .file => readFile rest
    | .other => readOther scheme rest

end ReviewQuery.Url
