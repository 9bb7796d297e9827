import ReviewQuery.Proofs.Url.Site

/-!
# Joining a path to a site

If a path is joined to a base, the URL that is read is at the server of the base exactly if the two
texts have the same site.  The slashes in front of an authority are looked at first: they stay where
they are, are missing from both texts, or become one with the slash of the path.
-/

namespace ReviewQuery.Url

/-! ## What stands in front -/

/-- What stands in front of a text is not touched by what is joined to the text. -/
theorem Joins.of_append
    {lead text front : List Char}
    (joins : Joins (lead ++ text) front)
    (within : text ≠ [] ∨ ∀ c ∈ lead.getLast?, c ≠ '/') :
    ∃ inner, front = lead ++ inner ∧ Joins text inner := by
  induction lead generalizing front with
  | nil => exact ⟨front, rfl, joins⟩
  | cons c lead ih =>
      have first : c ≠ '/' ∨ lead ++ text ≠ [] := by
        rcases within with nonempty | noSlash
        · exact Or.inr (List.append_ne_nil_of_right_ne_nil lead nonempty)
        · cases lead with
          | nil => exact Or.inl (noSlash c rfl)
          | cons d lead => exact Or.inr (List.cons_ne_nil _ _)
      have others : text ≠ [] ∨ ∀ d ∈ lead.getLast?, d ≠ '/' := by
        apply within.imp_right
        intro noSlash d last
        apply noSlash d
        rw [List.getLast?_cons, Option.mem_def.mp last]
        rfl
      rcases joins.of_cons_append first with ⟨rest, rfl, restJoins⟩
      rcases ih restJoins others with ⟨inner, rfl, innerJoins⟩
      exact ⟨inner, rfl, innerJoins⟩

/-- What becomes of the slashes in front of an authority. -/
inductive SlashesJoined (kind : SchemeKind) (rest front : List Char) : Prop where
  /-- They stay where they are. -/
  | kept (text inner : List Char)
      (found : behindSlashes? kind rest = some text)
      (joins : Joins text inner)
      (within : inner <:+ front)
      (still : ∀ path, behindSlashes? kind (front ++ '/' :: path) = some (inner ++ '/' :: path))
  /-- There are none, and there will be none. -/
  | absent
      (missing : behindSlashes? kind rest = none)
      (still : ∀ path, (∀ c ∈ path.head?, kind.isSlash c = false) →
        behindSlashes? kind (front ++ '/' :: path) = none)
  /-- The slash of the path becomes one of them, and the path takes the place of an authority. -/
  | merged
      (empty : ∀ text ∈ behindSlashes? kind rest, text = [])
      (now : ∀ path, behindSlashes? kind (front ++ '/' :: path) = some path)

section Slashes

variable
  {kind : SchemeKind}
  {rest front : List Char}

/-- Below the schemes of the web they stay in front of a text that is not empty. -/
theorem exists_joins_web
    (joins : Joins rest front)
    (nonempty : rest.dropWhile (SchemeKind.isSlash .web) ≠ []) :
    ∃ inner, Joins (rest.dropWhile (SchemeKind.isSlash .web)) inner ∧ inner <:+ front ∧
      ∀ path, behindSlashes? .web (front ++ '/' :: path) = some (inner ++ '/' :: path) := by
  have slashes : ∀ c ∈ rest.takeWhile (SchemeKind.isSlash .web),
      SchemeKind.isSlash .web c = true := by
    intro c member
    exact List.mem_takeWhile_imp member
  have first := Text.stops_dropWhile (p := SchemeKind.isSlash .web) rest
  rw [← List.takeWhile_append_dropWhile (p := SchemeKind.isSlash .web) (l := rest)] at joins
  rcases joins.of_append (Or.inl nonempty) with ⟨inner, rfl, innerJoins⟩
  refine ⟨inner, innerJoins, List.suffix_append _ inner, ?_⟩
  intro path
  rw [behindSlashes?, List.append_assoc, Text.dropWhile_append_of_stops slashes]
  cases text : rest.dropWhile (SchemeKind.isSlash .web) with
  | nil => exact absurd text nonempty
  | cons c text =>
      rw [text] at innerJoins first
      have notSlash := first c rfl
      rcases innerJoins.of_cons with ⟨rfl, _, _⟩ | ⟨more, rfl, _⟩
      · cases notSlash
      · intro d head
        cases head
        exact notSlash

theorem behindSlashes?_of_slashes
    {first second : Char}
    (notWeb : kind ≠ .web)
    (firstSlash : kind.isSlash first = true)
    (secondSlash : kind.isSlash second = true)
    (text : List Char) :
    behindSlashes? kind (first :: second :: text) = some text :=
  (behindSlashes?_eq_some_iff notWeb).mpr ⟨first, second, rfl, firstSlash, secondSlash⟩

theorem not_isOuter_of_isSlash {c : Char} (slash : kind.isSlash c = true) : isOuter c = false := by
  rw [SchemeKind.isSlash, Bool.or_eq_true, Bool.and_eq_true, decide_eq_true_eq,
    decide_eq_true_eq] at slash
  rcases slash with rfl | ⟨_, rfl⟩ <;> rfl

/-- Below other schemes all three can happen. -/
theorem SlashesJoined.of_joins
    (joins : Joins rest front)
    (notWeb : kind ≠ .web) :
    SlashesJoined kind rest front := by
  cases found : behindSlashes? kind rest with
  | some text =>
      rcases (behindSlashes?_eq_some_iff notWeb).mp found with
        ⟨first, second, rfl, firstSlash, secondSlash⟩
      rcases joins.of_cons_append (Or.inr (List.cons_ne_nil second text)) with ⟨inner, rfl, rest⟩
      rcases rest.of_cons with ⟨rfl, rfl, rfl⟩ | ⟨behind, rfl, behindJoins⟩
      · apply SlashesJoined.merged
        · intro text member
          rw [found] at member
          cases member
          rfl
        · intro path
          exact behindSlashes?_of_slashes notWeb firstSlash rfl path
      · have behindSlashes := List.suffix_append [first, second] behind
        apply SlashesJoined.kept text behind found behindJoins behindSlashes
        intro path
        exact behindSlashes?_of_slashes notWeb firstSlash secondSlash _
  | none =>
      have noSlashes {text : List Char} {first second : Char}
          (firstSlash : kind.isSlash first = true)
          (secondSlash : kind.isSlash second = true) :
          front ≠ first :: second :: text := by
        rintro rfl
        rcases joins.of_front_cons (not_isOuter_of_isSlash firstSlash) with ⟨more, rfl, moreJoins⟩
        rcases moreJoins.of_front_cons (not_isOuter_of_isSlash secondSlash) with ⟨text, rfl, _⟩
        rw [behindSlashes?_of_slashes notWeb firstSlash secondSlash] at found
        cases found
      by_cases single : ∃ slash, front = [slash] ∧ kind.isSlash slash = true
      · rcases single with ⟨slash, rfl, isSlash⟩
        apply SlashesJoined.merged
        · intro text member
          rw [found] at member
          cases member
        · intro path
          exact behindSlashes?_of_slashes notWeb isSlash rfl path
      · apply SlashesJoined.absent found
        intro path noSlash
        apply Option.eq_none_iff_forall_ne_some.mpr
        intro text behind
        rcases (behindSlashes?_eq_some_iff notWeb).mp behind with
          ⟨first, second, parts, firstSlash, secondSlash⟩
        rcases front with _ | ⟨c, _ | ⟨d, front⟩⟩
        · cases parts
          rw [noSlash second rfl] at secondSlash
          cases secondSlash
        · cases parts
          exact single ⟨first, rfl, firstSlash⟩
        · cases parts
          exact noSlashes firstSlash secondSlash rfl

end Slashes

/-! ## Files -/

section File

variable {base front rest inside trail tail : List Char} {host : Option Host}

/-- No backslash stands in the authority of a file. -/
theorem authorityText_file
    (stays : StaysInside true inside)
    (ends : EndsBefore true tail) :
    authorityText .file (inside ++ tail) = inside := by
  have whole : authorityText .file (inside ++ tail) = trimAuthority .file inside :=
    authorityText_append stays ends
  simp only [whole, trimAuthority]
  split
  · rename_i backslash
    have member := (behindPort_suffix .file inside).subset (List.mem_of_mem_head? backslash)
    cases stays '\\' member
  · rfl

theorem not_isDrive_append
    (outer : ∀ c ∈ trail, isOuter c = true)
    (nonempty : trail ≠ []) :
    Path.isDrive (inside ++ trail) = false := by
  rw [← Bool.not_eq_true]
  intro drive
  unfold Path.isDrive at drive
  split at drive
  · rename_i letter mark parts
    have last := congrArg List.getLast? parts
    rw [List.getLast?_append_of_ne_nil inside nonempty] at last
    have blank := outer mark (List.mem_of_getLast? last)
    rw [Bool.and_eq_true, Bool.or_eq_true, decide_eq_true_eq, decide_eq_true_eq] at drive
    rcases drive.2 with rfl | rfl <;> cases blank
  · cases drive

/-- If the authority of a file is kept, so is its host. -/
theorem readFileHost_join
    (joins : Joins base front)
    (read : readFileHost base = .ok (host, rest))
    (keeps : KeepsAuthority .file base front) :
    ∃ behind, behind <:+ front ∧
      ∀ path, readFileHost (front ++ '/' :: path) = .ok (host, behind ++ '/' :: path) := by
  rcases joins.authority true with
    ⟨inside, stays, ⟨tail, tail', rfl, ends, rfl, ends'⟩ | ⟨rfl, trail, rfl, nonempty, outer⟩⟩
  · rw [readFileHost_append stays ends] at read
    split at read
    · rename_i hostless
      cases read
      refine ⟨inside ++ tail', List.suffix_rfl, ?_⟩
      intro path
      rw [List.append_assoc, readFileHost_append stays (ends'.append_slash path), if_pos hostless]
    · rename_i named
      rcases map_eq_ok_iff.mp read with ⟨_, found, same⟩
      cases same
      refine ⟨tail', List.suffix_append inside tail', ?_⟩
      intro path
      rw [List.append_assoc, readFileHost_append stays (ends'.append_slash path), if_neg named,
        found]
      rfl
  · exfalso
    have bothStay := stays.append (staysInside_of_outer outer true)
    have kept := keeps.1
    have alone := authorityText_file stays endsBefore_nil
    rw [List.append_nil] at alone
    rw [authorityText_file bothStay (endsBefore_slash []), alone] at kept
    exact nonempty (List.append_right_eq_self.mp kept)

/-- If it is not kept, no file is named. -/
theorem readFileHost_join_error
    (joins : Joins base front)
    (read : readFileHost base = .ok (host, rest))
    (changes : ¬ KeepsAuthority .file base front)
    (path : List Char) :
    ∃ e, readFileHost (front ++ '/' :: path) = .error e := by
  rcases joins.authority true with
    ⟨inside, stays, ⟨tail, tail', rfl, ends, rfl, ends'⟩ | ⟨rfl, trail, rfl, nonempty, outer⟩⟩
  · have same : authorityText .file (inside ++ tail' ++ ['/']) =
        authorityText .file (inside ++ tail) := by
      rw [List.append_assoc, authorityText_file stays (ends'.append_slash []),
        authorityText_file stays ends]
    have bare : inside = ['@'] := by
      rw [← authorityText_file stays ends]
      exact Decidable.not_not.mp fun visible => changes ⟨same, visible⟩
    subst bare
    rw [readFileHost_append stays ends] at read
    cases read
  · have bothStay := stays.append (staysInside_of_outer outer true)
    have named : ¬ (base ++ trail = [] ∨ Path.isDrive (base ++ trail) = true) := by
      rintro (empty | drive)
      · exact nonempty (List.append_eq_nil_iff.mp empty).2
      · rw [not_isDrive_append outer nonempty] at drive
        cases drive
    rcases Host.readSpecial_append outer nonempty with ⟨e, refused⟩
    refine ⟨e, ?_⟩
    rw [readFileHost_append bothStay (endsBefore_slash path), if_neg named, refused]
    rfl

end File

end ReviewQuery.Url
