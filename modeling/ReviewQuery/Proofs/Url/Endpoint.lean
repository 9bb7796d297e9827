import ReviewQuery.Proofs.Url.SiteJoin

/-!
# The endpoint below a base

The path of the endpoint is joined to a base, and a form to the path.  The URL of the whole lies
below that of the base exactly if the base and the endpoint have the same site.
-/

namespace ReviewQuery.Url

/-! ## The endpoint -/

/-- The segments of the path that is joined to a base. -/
def endpointSegments : List (List Char) :=
  [['a'], "changes".toList, []]

/-- The path that is joined to a base. -/
def endpointPath : List Char :=
  (Path.segments endpointSegments).render

theorem isOrdinary_endpointSegments : ∀ segment ∈ endpointSegments, Path.IsOrdinary segment := by
  decide

theorem endpointPath_eq : endpointPath = "/a/changes/".toList := by
  decide

theorem hasNoTail_endpointPath : HasNoTail endpointPath := by
  rw [endpointPath_eq]
  decide

/-- Whether a URL is at the server of another one and its path is that of the endpoint. -/
structure LiesBelow (base url : Url) : Prop where
  scheme : url.scheme = base.scheme
  host : url.host = base.host
  port : url.port = base.port
  path : endpointPath <:+ url.path.render

/-- Whether the endpoint below a base has the same site. -/
def KeepsSite (kind : SchemeKind) (rest front : List Char) : Prop :=
  siteBelow? kind (front ++ endpointPath) = siteBelow? kind rest ∧
    ∀ site ∈ siteBelow? kind rest, site.authority ≠ ['@']

section Endpoint

variable
  {kind : SchemeKind}
  {scheme rest front text inner form : List Char}
  {base : Url}

/-! ## Paths that end with it -/

theorem splitTail_endpoint (plain : HasNoTail front) (noSign : '#' ∉ form) :
    splitTail (front ++ (endpointPath ++ '?' :: form)) =
      (front ++ endpointPath, some form, none) := by
  rw [splitTail_append plain, splitTail_append hasNoTail_endpointPath, splitTail_query noSign,
    List.append_nil]

theorem endpointPath_suffix_readPath (kind : SchemeKind) (front : List Char) :
    endpointPath <:+ (Path.segments (readPath kind (front ++ endpointPath))).render :=
  Path.render_suffix (readPath_append isOrdinary_endpointSegments kind front)

theorem endpointPath_suffix_trimFilePath (front : List Char) :
    endpointPath <:+
      (Path.segments (trimFilePath (readPath .file (front ++ endpointPath)))).render := by
  apply Path.render_suffix
  apply trimFilePath_suffix (List.cons_ne_nil _ _)
  exact readPath_append isOrdinary_endpointSegments .file front

theorem endpointPath_suffix_pathWithoutServer (front : List Char) :
    endpointPath <:+ (pathWithoutServer (front ++ endpointPath)).render := by
  have slashed : Path.IsSlashed fun c => decide (c = '/') := by
    refine ⟨rfl, ?_⟩
    intro c notSlash _
    exact decide_eq_false notSlash
  by_cases absolute : ∃ behind, front ++ endpointPath = '/' :: behind
  · rcases absolute with ⟨behind, parts⟩
    rw [parts, pathWithoutServer]
    apply Path.render_suffix
    cases front with
    | nil =>
        have behindSlash : behind = ['a'] ++ (Path.segments ["changes".toList, []]).render :=
          (List.cons.inj parts).2.symm
        rw [behindSlash]
        exact ⟨[], (Path.ofText_render slashed isOrdinary_endpointSegments).symm⟩
    | cons c front =>
        cases parts
        exact Path.ofText_append_render slashed isOrdinary_endpointSegments
          (List.cons_ne_nil _ _) front
  · have kept : ∀ c ∈ endpointPath,
        PercentEncoding.encodeChar PercentEncoding.isControl c = [c] :=
      List.all_iff_forall_prop.mp (by decide)
    rw [pathWithoutServer]
    · show _ <:+ PercentEncoding.encode PercentEncoding.isControl (front ++ endpointPath)
      rw [PercentEncoding.encode, List.flatMap_append]
      apply List.suffix_append_of_suffix
      exact ⟨[], (PercentEncoding.encode_of_kept kept).symm⟩
    · intro behind parts
      exact absolute ⟨behind, parts⟩

/-! ## Sites of the endpoint -/

theorem authorityText_slash (kind : SchemeKind) (front path : List Char) :
    authorityText kind (front ++ '/' :: path) = authorityText kind (front ++ ['/']) := by
  rcases exists_authority kind.isSpecial front with ⟨inside, tail, rfl, stays, ends⟩
  rw [List.append_assoc, List.append_assoc, authorityText_append stays (ends.append_slash path),
    authorityText_append stays (ends.append_slash [])]

/-- If the slashes stay, the site is kept with the authority and with what its path hides. -/
theorem keepsSite_iff
    (found : behindSlashes? kind rest = some text)
    (still : behindSlashes? kind (front ++ endpointPath) = some (inner ++ endpointPath)) :
    KeepsSite kind rest front ↔
      KeepsAuthority kind text inner ∧
        hidesHost kind (inner ++ endpointPath) = hidesHost kind text := by
  have endpoint :
      authorityText kind (inner ++ endpointPath) = authorityText kind (inner ++ ['/']) :=
    authorityText_slash kind inner _
  simp only [KeepsSite, KeepsAuthority, siteBelow?, found, still, Option.map_some, Option.some_inj,
    Site.mk.injEq, Option.mem_def, forall_eq', endpoint]
  constructor
  · rintro ⟨⟨authority, hides⟩, visible⟩
    exact ⟨⟨authority, visible⟩, hides⟩
  · rintro ⟨⟨authority, visible⟩, hides⟩
    exact ⟨⟨authority, hides⟩, visible⟩

/-- Only the path of a file hides something. -/
theorem keepsSite_iff_keepsAuthority
    (notFile : kind ≠ .file)
    (found : behindSlashes? kind rest = some text)
    (still : behindSlashes? kind (front ++ endpointPath) = some (inner ++ endpointPath)) :
    KeepsSite kind rest front ↔ KeepsAuthority kind text inner := by
  have nothing : hidesHost kind (inner ++ endpointPath) = hidesHost kind text := by
    cases kind with
    | file => exact absurd rfl notFile
    | web => rfl
    | other => rfl
  rw [keepsSite_iff found still]
  constructor
  · intro keeps
    exact keeps.1
  · intro keeps
    exact ⟨keeps, nothing⟩

/-- If there are no slashes, there is no site in either text. -/
theorem keepsSite_of_absent
    (missing : behindSlashes? kind rest = none)
    (still : behindSlashes? kind (front ++ endpointPath) = none) :
    KeepsSite kind rest front := by
  constructor
  · rw [siteBelow?, siteBelow?, missing, still]
  · intro site member
    rw [siteBelow?, missing] at member
    cases member

/-- If the path takes the place of an authority, the site is not kept. -/
theorem not_keepsSite_of_merged
    (empty : ∀ text ∈ behindSlashes? kind rest, text = [])
    (now : behindSlashes? kind (front ++ endpointPath) = some ('a' :: '/' :: "changes/".toList)) :
    ¬ KeepsSite kind rest front := by
  rintro ⟨same, _⟩
  have named : authorityText kind ('a' :: '/' :: "changes/".toList) = ['a'] := by
    cases kind <;> decide
  have unnamed : authorityText kind [] = [] := by
    cases kind <;> rfl
  rw [siteBelow?, siteBelow?, now, Option.map_some, named] at same
  cases found : behindSlashes? kind rest with
  | none =>
      rw [found] at same
      cases same
  | some text =>
      rw [found, empty text found, Option.map_some, unnamed, Option.some_inj, Site.mk.injEq] at same
      cases same.1

/-! ## Reading the endpoint -/

/-- The text behind the scheme of the endpoint with a form. -/
def endpointText (front form : List Char) : List Char :=
  front ++ (endpointPath ++ '?' :: form)

/-- What is read at the endpoint lies below a URL. -/
def Reads (read : Except Error Url) (base : Url) : Prop :=
  ∃ url, read = .ok url ∧ LiesBelow base url

/-- A URL with a server lies below its base if the authority is kept. -/
theorem reads_readWithAuthority_iff
    (joins : Joins text inner)
    (read : readWithAuthority kind scheme text = .ok base)
    (plain : HasNoTail inner)
    (noSign : '#' ∉ form) :
    Reads (readWithAuthority kind scheme (endpointText inner form)) base ↔
      KeepsAuthority kind text inner := by
  rw [readWithAuthority_eq] at read
  rcases map_eq_ok_iff.mp read with ⟨server, found, rfl⟩
  constructor
  · rintro ⟨url, reread, below⟩
    rw [readWithAuthority_eq] at reread
    rcases map_eq_ok_iff.mp reread with ⟨server', refound, rfl⟩
    apply Classical.not_not.mp
    intro changes
    exact host_ne_of_readServer_join joins found refound changes below.host
  · intro keeps
    rcases readServer_join joins found keeps with ⟨behind, within, reread⟩
    refine ⟨server.1.url kind scheme (endpointText behind form), ?_, rfl, rfl, rfl, ?_⟩
    · rw [readWithAuthority_eq]
      exact map_eq_ok_iff.mpr ⟨_, reread _, rfl⟩
    · have behindPlain := plain.of_subset within.subset
      show _ <:+ (Path.segments (readPath kind (splitTail (endpointText behind form)).1)).render
      rw [endpointText, splitTail_endpoint behindPlain noSign]
      exact endpointPath_suffix_readPath kind behind

/-! ## Files -/

theorem startsWithDrive_endpointText (plain : HasNoTail front) (noSign : '#' ∉ form) :
    startsWithDrive (endpointText front form) = startsWithDrive (front ++ endpointPath) := by
  have path : HasNoTail (front ++ endpointPath) := plain.append hasNoTail_endpointPath
  rw [startsWithDrive, startsWithDrive, endpointText, splitTail_endpoint plain noSign,
    splitTail_of_hasNoTail path]

theorem hidesHost_of_readFileHost
    {host : Option Host}
    (read : readFileHost text = .ok (host, rest)) :
    hidesHost .file text = (host.isSome && startsWithDrive rest) := by
  simp only [hidesHost, read]
  cases host <;> rfl

/-- The URL of a file at the endpoint lies below every URL of a file at its host. -/
theorem liesBelow_fileUrl_iff
    {host : Option Host}
    (plain : HasNoTail front)
    (noSign : '#' ∉ form) :
    LiesBelow (fileUrl host rest) (fileUrl host (endpointText front form)) ↔
      (host.isSome && startsWithDrive (front ++ endpointPath)) =
        (host.isSome && startsWithDrive rest) := by
  have path :
      endpointPath <:+ (fileUrl host (endpointText front form)).path.render := by
    show _ <:+
      (Path.segments (trimFilePath (readPath .file (splitTail (endpointText front form)).1))).render
    rw [endpointText, splitTail_endpoint plain noSign]
    exact endpointPath_suffix_trimFilePath front
  have sameHost :
      (fileUrl host (endpointText front form)).host = (fileUrl host rest).host ↔
        (host.isSome && startsWithDrive (front ++ endpointPath)) =
          (host.isSome && startsWithDrive rest) := by
    show (if startsWithDrive (endpointText front form) then none else host) =
      (if startsWithDrive rest then none else host) ↔ _
    rw [startsWithDrive_endpointText plain noSign]
    cases host <;> cases startsWithDrive (front ++ endpointPath) <;>
      cases startsWithDrive rest <;> simp
  rw [← sameHost]
  constructor
  · intro below
    exact below.host
  · intro same
    exact ⟨rfl, same, rfl, path⟩

/-- A file lies below its base if the authority is kept and hidden from both or from none. -/
theorem reads_readFileHost_iff
    {host : Option Host}
    (joins : Joins text inner)
    (read : readFileHost text = .ok (host, rest))
    (plain : HasNoTail inner)
    (noSign : '#' ∉ form) :
    Reads ((readFileHost (endpointText inner form)).map fun found => fileUrl found.1 found.2)
        (fileUrl host rest) ↔
      KeepsAuthority .file text inner ∧
        hidesHost .file (inner ++ endpointPath) = hidesHost .file text := by
  by_cases keeps : KeepsAuthority .file text inner
  · rcases readFileHost_join joins read keeps with ⟨behind, within, reread⟩
    have whole : readFileHost (endpointText inner form) = .ok (host, endpointText behind form) :=
      reread _
    have short : readFileHost (inner ++ endpointPath) = .ok (host, behind ++ endpointPath) :=
      reread _
    rw [whole, hidesHost_of_readFileHost short, hidesHost_of_readFileHost read,
      ← liesBelow_fileUrl_iff (plain.of_subset within.subset) noSign]
    constructor
    · rintro ⟨url, ⟨⟩, below⟩
      exact ⟨keeps, below⟩
    · rintro ⟨_, below⟩
      exact ⟨_, rfl, below⟩
  · rcases readFileHost_join_error joins read keeps _ with ⟨e, refused⟩
    have whole : readFileHost (endpointText inner form) = .error e := refused
    rw [whole]
    constructor
    · rintro ⟨url, ⟨⟩, _⟩
    · rintro ⟨kept, _⟩
      exact absurd kept keeps

/-! ## Below a scheme -/

/-- Where a text names no server, the endpoint names none either. -/
theorem reads_withoutServer (plain : HasNoTail front) (noSign : '#' ∉ form) :
    Reads (.ok (withoutServer scheme (endpointText front form))) (withoutServer scheme rest) := by
  refine ⟨_, rfl, rfl, rfl, rfl, ?_⟩
  show _ <:+ (pathWithoutServer (splitTail (endpointText front form)).1).render
  rw [endpointText, splitTail_endpoint plain noSign]
  exact endpointPath_suffix_pathWithoutServer front

/-- The first segment can be taken for an authority. -/
theorem staysInside_firstSegment (special : Bool) : StaysInside special ['a'] := by
  intro c member
  cases List.mem_singleton.mp member
  cases special <;> rfl

/-- An authority that the path takes the place of names a host. -/
theorem not_reads_merged_authority
    (hostless : base.host = none)
    (path : List Char) :
    ¬ Reads (readWithAuthority .other scheme ('a' :: '/' :: path)) base := by
  rintro ⟨url, read, below⟩
  have stays := staysInside_firstSegment (SchemeKind.isSpecial .other)
  have whole : readServer .other scheme (['a'] ++ '/' :: path) = _ :=
    readServer_append_tail stays (endsBefore_slash path) (by rintro ⟨⟩)
  rw [readWithAuthority_eq, ← List.singleton_append, whole] at read
  cases read
  have host := below.host
  rw [hostless] at host
  cases host

/-- Below the schemes of the web. -/
theorem reads_readBelow_iff_web
    (web : SchemeKind.of scheme = .web)
    (joins : Joins rest front)
    (read : readBelow scheme rest = .ok base)
    (plain : HasNoTail front)
    (noSign : '#' ∉ form) :
    Reads (readBelow scheme (endpointText front form)) base ↔ KeepsSite .web rest front := by
  simp only [readBelow, web] at read ⊢
  have nonempty : rest.dropWhile (SchemeKind.isSlash .web) ≠ [] := by
    intro empty
    rw [empty] at read
    cases read
  rcases exists_joins_web joins nonempty with ⟨inner, innerJoins, within, still⟩
  have whole : (endpointText front form).dropWhile (SchemeKind.isSlash .web) =
      endpointText inner form :=
    Option.some.inj (still _)
  rw [whole, keepsSite_iff_keepsAuthority (by decide) rfl (still _)]
  exact reads_readWithAuthority_iff innerJoins read (plain.of_subset within.subset) noSign

/-- Below a scheme without rules of its own. -/
theorem reads_readBelow_iff_other
    (other : SchemeKind.of scheme = .other)
    (joins : Joins rest front)
    (read : readBelow scheme rest = .ok base)
    (plain : HasNoTail front)
    (noSign : '#' ∉ form) :
    Reads (readBelow scheme (endpointText front form)) base ↔ KeepsSite .other rest front := by
  simp only [readBelow, other] at read ⊢
  rw [readOther_eq] at read ⊢
  rcases SlashesJoined.of_joins joins (by decide : SchemeKind.other ≠ .web) with
    ⟨text, inner, found, innerJoins, within, still⟩ | ⟨missing, still⟩ | ⟨empty, now⟩
  · have whole : behindSlashes? .other (endpointText front form) =
        some (endpointText inner form) := still _
    rw [found] at read
    rw [whole, keepsSite_iff_keepsAuthority (by decide) found (still _)]
    exact reads_readWithAuthority_iff innerJoins read (plain.of_subset within.subset) noSign
  · have whole : behindSlashes? .other (endpointText front form) = none :=
      still _ (by rintro c ⟨⟩; rfl)
    rw [missing] at read
    rw [whole]
    cases read
    constructor
    · intro _
      exact keepsSite_of_absent missing (still _ (by rintro c ⟨⟩; rfl))
    · intro _
      exact reads_withoutServer plain noSign
  · have whole : behindSlashes? .other (endpointText front form) =
        some ('a' :: '/' :: _) := now _
    have hostless : base.host = none := by
      cases found : behindSlashes? .other rest with
      | none =>
          rw [found] at read
          cases read
          rfl
      | some text =>
          rw [found, empty text found] at read
          cases read
          rfl
    rw [whole]
    constructor
    · intro reads
      exact absurd reads (not_reads_merged_authority hostless _)
    · intro keeps
      exact absurd keeps (not_keepsSite_of_merged empty (now _))

/-- The same is true of a file, since no drive letter follows that hides the host. -/
theorem not_reads_merged_file (hostless : base.host = none) (noSign : '#' ∉ form) :
    ¬ Reads
      ((readFileHost ('a' :: '/' :: ("changes/".toList ++ '?' :: form))).map fun found =>
        fileUrl found.1 found.2)
      base := by
  rintro ⟨url, read, below⟩
  have stays := staysInside_firstSegment true
  have named : Host.readSpecial ['a'] = .ok (.name ['a']) := by
    decide +kernel
  have whole : readFileHost (['a'] ++ '/' :: ("changes/".toList ++ '?' :: form)) = _ :=
    readFileHost_append stays (endsBefore_slash _)
  have path : HasNoTail ('/' :: "changes/".toList) := by
    decide
  have noDrive : startsWithDrive ('/' :: ("changes/".toList ++ '?' :: form)) = false := by
    rw [startsWithDrive, ← List.cons_append, splitTail_append path, splitTail_query noSign]
    show ((readPath .file ('/' :: "changes/".toList ++ [])).head?.map Path.isDrive).getD false =
      false
    decide +kernel
  rw [if_neg (by decide), named] at whole
  rw [← List.singleton_append, whole] at read
  cases read
  have host := below.host
  rw [hostless] at host
  replace host : (if startsWithDrive ('/' :: ("changes/".toList ++ '?' :: form)) then none
    else some (Host.name ['a'])) = none := host
  rw [noDrive] at host
  cases host

/-- Below the scheme of files. -/
theorem reads_readBelow_iff_file
    (file : SchemeKind.of scheme = .file)
    (joins : Joins rest front)
    (read : readBelow scheme rest = .ok base)
    (plain : HasNoTail front)
    (noSign : '#' ∉ form) :
    Reads (readBelow scheme (endpointText front form)) base ↔ KeepsSite .file rest front := by
  simp only [readBelow, file] at read ⊢
  rw [readFile_eq, fileHost] at read ⊢
  rcases SlashesJoined.of_joins joins (by decide : SchemeKind.file ≠ .web) with
    ⟨text, inner, found, innerJoins, within, still⟩ | ⟨missing, still⟩ | ⟨empty, now⟩
  · have whole : behindSlashes? .file (endpointText front form) =
        some (endpointText inner form) := still _
    rw [found] at read
    rw [whole, keepsSite_iff found (still _)]
    rcases map_eq_ok_iff.mp read with ⟨_, named, rfl⟩
    exact reads_readFileHost_iff innerJoins named (plain.of_subset within.subset) noSign
  · have whole : behindSlashes? .file (endpointText front form) = none :=
      still _ (by rintro c ⟨⟩; rfl)
    rw [missing] at read
    rw [whole]
    cases read
    constructor
    · intro _
      exact keepsSite_of_absent missing (still _ (by rintro c ⟨⟩; rfl))
    · intro _
      exact ⟨_, rfl, (liesBelow_fileUrl_iff plain noSign).mpr rfl⟩
  · have whole : behindSlashes? .file (endpointText front form) =
        some ('a' :: '/' :: _) := now _
    have hostless : base.host = none := by
      cases found : behindSlashes? .file rest with
      | none =>
          rw [found] at read
          cases read
          exact ite_self _
      | some text =>
          rw [found, empty text found] at read
          cases read
          rfl
    rw [whole]
    constructor
    · intro reads
      exact absurd reads (not_reads_merged_file hostless noSign)
    · intro keeps
      exact absurd keeps (not_keepsSite_of_merged empty (now _))

/-- Below every scheme the endpoint lies below its base if the site is kept. -/
theorem reads_readBelow_iff
    (joins : Joins rest front)
    (read : readBelow scheme rest = .ok base)
    (plain : HasNoTail front)
    (noSign : '#' ∉ form) :
    Reads (readBelow scheme (endpointText front form)) base ↔
      KeepsSite (.of scheme) rest front := by
  cases kind : SchemeKind.of scheme with
  | web => exact reads_readBelow_iff_web kind joins read plain noSign
  | file => exact reads_readBelow_iff_file kind joins read plain noSign
  | other => exact reads_readBelow_iff_other kind joins read plain noSign

end Endpoint

end ReviewQuery.Url
