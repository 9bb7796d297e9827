import ReviewQuery.Proofs.Url.Endpoint
import ReviewQuery.Proofs.Url.StrayForm

/-!
# Bases to which the endpoint is joined

A base is read as a text of its own, and once more with the endpoint and a form behind it.  The
second URL lies below the first one and gives the fields of the form exactly if no query and no
fragment start in the base and the endpoint has the site of the base.
-/

namespace ReviewQuery.Url

/-- A base to which a path is joined is left without the slash that the path brings along. -/
def joinedBase (base : List Char) : List Char :=
  if base.getLast? = some '/' then base.dropLast else base

/-! ## Texts without queries and fragments -/

section Plain

variable {text front : List Char}

theorem hasNoTail_of_isOuter (outer : ∀ c ∈ text, isOuter c = true) : HasNoTail text := by
  intro c member
  exact ⟨ne_of_isOuter (outer c member) rfl, ne_of_isOuter (outer c member) rfl⟩

theorem Joins.hasNoTail_iff (joins : Joins text front) : HasNoTail front ↔ HasNoTail text := by
  cases joins with
  | slash =>
      constructor
      · intro plain
        exact plain.append (by decide)
      · intro plain
        exact plain.of_subset (List.subset_append_left _ _)
  | blanks _ trail outer =>
      constructor
      · intro plain
        exact plain.of_subset (List.subset_append_left _ _)
      · intro plain
        exact plain.append (hasNoTail_of_isOuter outer)

theorem hasNoTail_append_iff (plain : HasNoTail front) :
    HasNoTail (front ++ text) ↔ HasNoTail text := by
  constructor
  · intro whole
    exact whole.of_subset (List.subset_append_right _ _)
  · intro textPlain
    exact plain.append textPlain

/-- What is left out around and within a text starts neither a query nor a fragment. -/
theorem hasNoTail_clean_iff (read : clean text ≠ []) : HasNoTail (clean text) ↔ HasNoTail text := by
  rcases exists_core read with
    ⟨lead, core, trail, rfl, leadOuter, trailOuter, nonempty, first, last⟩
  rw [clean_surrounded leadOuter trailOuter nonempty first last,
    hasNoTail_append_iff (hasNoTail_of_isOuter leadOuter)]
  constructor
  · intro plain
    rcases hasNoTail_iff.mp plain with ⟨noMark, noSign⟩
    apply HasNoTail.append _ (hasNoTail_of_isOuter trailOuter)
    apply hasNoTail_iff.mpr
    constructor
    · intro mark
      exact noMark (List.mem_filter.mpr ⟨mark, rfl⟩)
    · intro sign
      exact noSign (List.mem_filter.mpr ⟨sign, rfl⟩)
  · intro plain
    apply plain.of_subset
    intro c member
    exact List.mem_append_left _ (List.mem_filter.mp member).1

end Plain

/-! ## Fields of a form behind a query -/

theorem not_isOuter_of_isFormChar {c : Char} (inForm : FormEncoding.isFormChar c = true) :
    isOuter c = false := by
  rw [← Bool.not_eq_true]
  intro outer
  have all : ∀ code < 33, FormEncoding.isFormChar (Char.ofNat code) = false := by decide
  have foreign := of_isOuter (p := fun c => FormEncoding.isFormChar c = false) all outer
  rw [inForm] at foreign
  cases foreign

theorem not_mem_write (fields : List (String × String)) : '#' ∉ FormEncoding.write fields := by
  intro member
  cases FormEncoding.isFormChar_of_mem_write member

/-- The endpoint and a form stand in a query as they are written, behind whatever precedes them. -/
theorem encodeQuery_endpointText
    (kind : SchemeKind)
    (front : List Char)
    (fields : List (String × String)) :
    encodeQuery kind (endpointText front (FormEncoding.write fields)) =
      (encodeQuery kind front ++ endpointPath) ++ '?' :: FormEncoding.write fields := by
  have endpoint : encodeQuery kind (endpointPath ++ ['?']) = endpointPath ++ ['?'] := by
    rw [endpointPath_eq]
    cases kind <;> decide
  have form : encodeQuery kind (FormEncoding.write fields) = FormEncoding.write fields := by
    apply encodeQuery_form
    intro c member
    exact FormEncoding.isFormChar_of_mem_write member
  have parts : endpointText front (FormEncoding.write fields) =
      front ++ (endpointPath ++ ['?'] ++ FormEncoding.write fields) := by
    rw [endpointText, List.append_assoc, List.singleton_append]
  have append (left right : List Char) :
      encodeQuery kind (left ++ right) = encodeQuery kind left ++ encodeQuery kind right :=
    List.flatMap_append
  rw [parts, append, append, endpoint, form, List.append_assoc, List.append_assoc,
    List.singleton_append]

section Stray

variable
  {front : List Char}
  {url : Url}
  {kind : SchemeKind}
  {fields : List (String × String)}

/-- A fragment that starts in front of the endpoint is one of the URL. -/
theorem sign_not_mem_of_endsAs
    (ends : EndsAs url kind (endpointText front (FormEncoding.write fields)))
    (noFragment : url.fragment = none) :
    '#' ∉ front := by
  intro member
  have fragment := ends.2
  rw [noFragment] at fragment
  have some : (splitTail (endpointText front (FormEncoding.write fields))).2.2 ≠ none :=
    fragment_of_mem (List.mem_append_left _ member)
  exact some (Option.map_eq_none_iff.mp fragment.symm)

theorem sign_not_mem_endpointText (noSign : '#' ∉ front) :
    '#' ∉ endpointText front (FormEncoding.write fields) := by
  rw [endpointText, List.mem_append, List.mem_append, List.mem_cons]
  rintro (inFront | inEndpoint | mark | inForm)
  · exact noSign inFront
  · revert inEndpoint
    decide
  · cases mark
  · exact not_mem_write fields inForm

/-- If a query starts in front of the endpoint, the fields of the form are not what is read. -/
theorem mark_not_mem_of_endsAs
    (ends : EndsAs url kind (endpointText front (FormEncoding.write fields)))
    (nonempty : fields ≠ [])
    (noSign : '#' ∉ front)
    (readBack : url.query.bind FormEncoding.readFields? = some fields) :
    '?' ∉ front := by
  intro member
  rcases List.eq_append_cons_of_mem member with ⟨path, stray, rfl, noMark⟩
  have pathPlain : HasNoTail path := by
    apply hasNoTail_iff.mpr
    refine ⟨noMark, ?_⟩
    intro inPath
    exact noSign (List.mem_append_left _ inPath)
  have strayPlain : '#' ∉ stray := by
    intro inStray
    exact noSign (List.mem_append_right _ (List.mem_cons_of_mem _ inStray))
  have parts : endpointText (path ++ '?' :: stray) (FormEncoding.write fields) =
      path ++ '?' :: endpointText stray (FormEncoding.write fields) := by
    rw [endpointText, List.append_assoc]
    rfl
  rw [ends.1, parts, splitTail_append pathPlain,
    splitTail_query (sign_not_mem_endpointText strayPlain), Option.map_some, Option.bind_some,
    encodeQuery_endpointText] at readBack
  exact FormEncoding.readFields?_append_ne nonempty _ readBack

/-- So neither starts in front of the endpoint if there is no fragment and the fields are read. -/
theorem hasNoTail_of_endsAs
    (ends : EndsAs url kind (endpointText front (FormEncoding.write fields)))
    (nonempty : fields ≠ [])
    (noFragment : url.fragment = none)
    (readBack : url.query.bind FormEncoding.readFields? = some fields) :
    HasNoTail front := by
  have noSign := sign_not_mem_of_endsAs ends noFragment
  exact hasNoTail_iff.mpr ⟨mark_not_mem_of_endsAs ends nonempty noSign readBack, noSign⟩

end Stray

/-! ## Reading a base twice -/

/-- What is read of a base stands behind its scheme, also if a path is joined to the base. -/
theorem exists_joined
    {text : List Char}
    {base : Url}
    (parsed : parse text = .ok base) :
    ∃ scheme rest front,
      splitScheme? (clean text) = some (scheme, rest) ∧
      readBelow scheme rest = .ok base ∧
      Joins rest front ∧
      (HasNoTail front ↔ HasNoTail text) ∧
      ∀ path : List Char, (∀ c ∈ path, isOuter c = false) → path ≠ [] →
        splitScheme? (clean (joinedBase text ++ path)) = some (scheme, front ++ path) := by
  rcases parse_eq_ok_iff.mp parsed with ⟨scheme, rest, found, read⟩
  rcases splitScheme?_eq_some found with ⟨letters, cleaned, lettersPlain, anyRest⟩
  have nonempty : clean text ≠ [] := by
    intro empty
    rw [empty] at found
    cases found
  rcases clean_join nonempty with ⟨whole, joins, wholeClean⟩
  have schemePlain : HasNoTail (letters ++ [':']) := lettersPlain.append (by decide)
  have marked : clean text = (letters ++ [':']) ++ rest := by
    rw [cleaned, List.append_assoc, List.singleton_append]
  have noSlash : ∀ c ∈ (letters ++ [':']).getLast?, c ≠ '/' := by
    intro c last
    rw [List.getLast?_concat] at last
    cases last
    decide
  rw [marked] at joins
  rcases joins.of_append (Or.inr noSlash) with ⟨front, rfl, frontJoins⟩
  refine ⟨scheme, rest, front, found, read, frontJoins, ?_, ?_⟩
  · rw [← hasNoTail_clean_iff nonempty, marked, hasNoTail_append_iff schemePlain,
      frontJoins.hasNoTail_iff]
  · intro path visible some
    rw [joinedBase, wholeClean path visible some, List.append_assoc, List.append_assoc,
      List.singleton_append]
    exact anyRest _

/--
The endpoint and a form that are joined to a base are read as a URL that lies below that of the base
and gives the fields of the form, exactly if neither a query nor a fragment starts in the base and
the endpoint has the site of the base, which is no lone mark.
-/
theorem endpoint_reads_iff
    {text : List Char}
    {base : Url}
    {fields : List (String × String)}
    (parsed : parse text = .ok base)
    (nonempty : fields ≠ []) :
    (∃ url,
      parse (joinedBase text ++ (endpointPath ++ '?' :: FormEncoding.write fields)) = .ok url ∧
      LiesBelow base url ∧ url.fragment = none ∧
      url.query.bind FormEncoding.readFields? = some fields) ↔
    HasNoTail text ∧ site? (joinedBase text ++ endpointPath) = site? text ∧
      ∀ site ∈ site? text, site.authority ≠ ['@'] := by
  rcases exists_joined parsed with ⟨scheme, rest, front, found, read, joins, plainIff, joined⟩
  have endpointVisible : ∀ c ∈ endpointPath, isOuter c = false :=
    List.all_iff_forall_prop.mp (by decide)
  have formVisible : ∀ c ∈ endpointPath ++ '?' :: FormEncoding.write fields,
      isOuter c = false := by
    intro c member
    rcases List.mem_append.mp member with inEndpoint | inForm
    · exact endpointVisible c inEndpoint
    · rcases List.mem_cons.mp inForm with rfl | inForm
      · rfl
      · exact not_isOuter_of_isFormChar (FormEncoding.isFormChar_of_mem_write inForm)
  have address : parse (joinedBase text ++ (endpointPath ++ '?' :: FormEncoding.write fields)) =
      readBelow scheme (endpointText front (FormEncoding.write fields)) :=
    parse_of_splitScheme? (joined _ formVisible (List.cons_ne_nil _ _))
  have sites : (site? (joinedBase text ++ endpointPath) = site? text ∧
      ∀ site ∈ site? text, site.authority ≠ ['@']) ↔ KeepsSite (.of scheme) rest front := by
    rw [site?, site?, joined _ endpointVisible (List.cons_ne_nil _ _), found]
    rfl
  rw [address, sites]
  constructor
  · rintro ⟨url, reread, below, noFragment, readBack⟩
    have plain := hasNoTail_of_endsAs (endsAs_of_readBelow reread) nonempty noFragment readBack
    exact ⟨plainIff.mp plain,
      (reads_readBelow_iff joins read plain (not_mem_write fields)).mp ⟨url, reread, below⟩⟩
  · rintro ⟨textPlain, keeps⟩
    have plain := plainIff.mpr textPlain
    rcases (reads_readBelow_iff joins read plain (not_mem_write fields)).mpr keeps with
      ⟨url, reread, below⟩
    rcases endsAs_of_readBelow reread with ⟨query, fragment⟩
    rw [endpointText, splitTail_endpoint plain (not_mem_write fields)] at query fragment
    refine ⟨url, reread, below, fragment, ?_⟩
    rw [query, Option.map_some, Option.bind_some, encodeQuery_form]
    · exact FormEncoding.readFields?_write nonempty
    · intro c member
      exact FormEncoding.isFormChar_of_mem_write member

end ReviewQuery.Url
