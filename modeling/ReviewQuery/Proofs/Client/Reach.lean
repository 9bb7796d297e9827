import ReviewQuery.Proofs.Client.Basic
import ReviewQuery.Proofs.Query.Address
import ReviewQuery.Proofs.Url.JoinedBase

/-!
# Where queries go

A configuration is accepted if its base URL can be read, but a query goes to an address that is
read anew.  `reaches_iff` says for which base URLs that address is a URL at the server of the base
which asks the endpoint for the query: for those in which no query and no fragment starts and to
whose site the endpoint can be joined.
-/

namespace ReviewQuery

open Url

namespace Client

/-- Whether the address of a query is a URL at the server of the base URL that asks the endpoint for
the query and the options, and for nothing else. -/
def Reaches (client : Client) (query : String) (options : Query.Options) : Prop :=
  ∃ base url : Url,
    Url.parse client.config.baseUrl.toList = .ok base ∧
    Url.parse (client.address query options).toList = .ok url ∧
    (url.scheme = base.scheme ∧ url.host = base.host ∧ url.port = base.port) ∧
    url.fragment = none ∧
    "/a/changes/".toList <:+ url.path.render ∧
    url.query.bind FormEncoding.readFields? =
      some (("q", query) :: options.sent.map fun option => ("o", option.name))

theorem toList_dropSlash (text : String) : (dropSlash text).toList = joinedBase text.toList := by
  simp only [dropSlash, joinedBase]
  split
  · exact String.toList_ofList
  · rfl

/-- An address is the base, the endpoint and the form of the fields. -/
theorem toList_address (base : String) (query : String) (options : Query.Options) :
    (Query.address (dropSlash base) query options).toList =
      joinedBase base.toList ++
        (endpointPath ++ '?' :: FormEncoding.write (Query.fields query options)) := by
  have lead : "/a/changes/?".toList = endpointPath ++ ['?'] := by decide
  rw [Query.address_eq, String.toList_append, String.toList_append, toList_dropSlash, lead,
    String.toList_ofList, List.append_assoc, List.append_assoc, List.singleton_append]

/--
The queries of a client reach its server exactly if neither a query nor a fragment starts in the
base URL and the endpoint that is joined to it has its site: the same authority and the same host
hidden, if any.  A lone mark of a user without a name is no authority that a path can follow.
-/
theorem reaches_iff
    {config : Config}
    {client : Client}
    (made : Client.new config = .ok client)
    (query : String)
    (options : Query.Options) :
    client.Reaches query options ↔
      ('?' ∉ config.baseUrl.toList ∧ '#' ∉ config.baseUrl.toList) ∧
      site? (client.base ++ "/a/changes/").toList = site? config.baseUrl.toList ∧
      ∀ site ∈ site? config.baseUrl.toList, site.authority ≠ ['@'] := by
  rcases new_eq_ok_iff.mp made with ⟨⟨base, parsed⟩, rfl⟩
  have fields : Query.fields query options ≠ [] := List.cons_ne_nil _ _
  have joined : (dropSlash config.baseUrl ++ "/a/changes/").toList =
      joinedBase config.baseUrl.toList ++ endpointPath := by
    rw [String.toList_append, toList_dropSlash, endpointPath_eq]
  rw [joined, ← hasNoTail_iff, ← endpoint_reads_iff parsed fields, Reaches]
  constructor
  · rintro ⟨base', url, parsed', reread, ⟨scheme, host, port⟩, noFragment, path, readBack⟩
    rw [parsed] at parsed'
    cases parsed'
    rw [← endpointPath_eq] at path
    rw [address, toList_address] at reread
    exact ⟨url, reread, ⟨scheme, host, port, path⟩, noFragment, readBack⟩
  · rintro ⟨url, reread, below, noFragment, readBack⟩
    refine ⟨base, url, parsed, ?_, ⟨below.scheme, below.host, below.port⟩, noFragment, ?_, readBack⟩
    · rw [address, toList_address]
      exact reread
    · rw [← endpointPath_eq]
      exact below.path

/-! ## Two bases -/

/-- A client for a server with a user and a port, below a path that ends in a slash. -/
def pathClient : Client :=
  ⟨.new "https://u@h:8443/r/" ⟨"u", "p"⟩, "https://u@h:8443/r"⟩

theorem pathClient_accepted : Client.new pathClient.config = .ok pathClient :=
  new_eq_ok (by decide +kernel) (by decide)

/-- The slash at the end is that of the endpoint. -/
theorem reaches_below_path :
    Client.new pathClient.config = .ok pathClient ∧
      pathClient.Reaches "owner:self&o=#1" .standard := by
  refine ⟨pathClient_accepted, (reaches_iff pathClient_accepted _ _).mpr ?_⟩
  refine ⟨by decide, ?_, ?_⟩
  · show site? (pathClient.base ++ "/a/changes/").toList = site? "https://u@h:8443/r/".toList
    decide +kernel
  · show ∀ site ∈ site? "https://u@h:8443/r/".toList, site.authority ≠ ['@']
    decide +kernel

/-- A client for a base URL with a blank at its end, which is not read as long as it is last. -/
def blankClient : Client :=
  ⟨.new "http://h " ⟨"u", "p"⟩, "http://h "⟩

/-- In front of the endpoint the blank is read as part of the host, so that the address is no
URL. -/
theorem not_reaches_behind_blank :
    Client.new blankClient.config = .ok blankClient ∧
      blankClient.address "x" .bare = "http://h /a/changes/?q=x" ∧
      ¬ blankClient.Reaches "x" .bare := by
  have base : dropSlash "http://h " = "http://h " := by decide
  have parsed : (Url.parse "http://h ".toList).isOk = true := by decide +kernel
  refine ⟨new_eq_ok_iff.mpr ⟨exists_ok_of_isOk parsed, ?_⟩, by decide +kernel, ?_⟩
  · rw [blankClient, Config.new, base]
  · rintro ⟨_, url, _, read, _⟩
    have refused : (Url.parse (blankClient.address "x" .bare).toList).isOk = false := by
      decide +kernel
    rw [read] at refused
    cases refused

end Client

end ReviewQuery
