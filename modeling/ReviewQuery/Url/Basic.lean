import ReviewQuery.Url.Host
import ReviewQuery.Url.Path

/-!
# URLs

An absolute URL in its parts, each of them encoded as it stands in the text of the URL.
`Url.render` puts the parts together.
-/

namespace ReviewQuery

/-- An absolute URL. -/
structure Url where
  scheme : List Char
  username : List Char
  password : List Char
  host : Option Url.Host
  /-- The port, unless it is the one that goes with the scheme. -/
  port : Option Nat
  path : Url.Path
  query : Option (List Char)
  fragment : Option (List Char)
  /-- Whether the text names a host, which may be an empty one. -/
  hasAuthority : Bool
  deriving DecidableEq, Repr

namespace Url

/-! ## Schemes -/

/-- The three kinds of schemes, which are read by different rules. -/
inductive SchemeKind where
  /-- A scheme of the web, which always has a host. -/
  | web
  /-- The scheme of files, whose host may be missing. -/
  | file
  /-- Any other scheme. -/
  | other
  deriving DecidableEq, Repr

/-- The port that goes with a scheme. -/
def defaultPort? (scheme : List Char) : Option Nat :=
  if scheme = "http".toList || scheme = "ws".toList then some 80
  else if scheme = "https".toList || scheme = "wss".toList then some 443
  else if scheme = "ftp".toList then some 21
  else none

/-- The kind of a scheme. -/
def SchemeKind.of (scheme : List Char) : SchemeKind :=
  if (defaultPort? scheme).isSome then .web
  else if scheme = "file".toList then .file
  else .other

/-- Whether the kind has the special rules for slashes, hosts and queries. -/
def SchemeKind.isSpecial (kind : SchemeKind) : Bool :=
  kind ≠ .other

/-! ## Written form -/

/-- The user name and password in front of a host. -/
def renderUserInfo (username password : List Char) : List Char :=
  if username.isEmpty && password.isEmpty then []
  else username ++ (if password.isEmpty then [] else ':' :: password) ++ ['@']

/-- What stands between the scheme and the path. -/
def renderAuthority (url : Url) : List Char :=
  if url.hasAuthority then
    '/' :: '/' :: renderUserInfo url.username url.password ++
      ((url.host.map Host.render).getD []) ++
      ((url.port.map fun port => ':' :: Nat.toDigits 10 port).getD [])
  else []

/-- The text of a URL. -/
def render (url : Url) : List Char :=
  url.scheme ++ ':' :: url.renderAuthority ++ url.path.render ++
    ((url.query.map ('?' :: ·)).getD []) ++ ((url.fragment.map ('#' :: ·)).getD [])

end Url

end ReviewQuery
