import ReviewQuery.Proofs.Url.Server

/-!
# The text of an authority

Where an authority ends can be seen from its text: in front of a slash, a question mark or a number
sign, and also at a backslash behind a port.  If a path is joined to a text, the server stays what
it was exactly if that part of the text does, the one exception being a lone mark for a user who has
no name.
-/

namespace ReviewQuery.Url

/-! ## Where an authority ends -/

/-- What stands behind the port of an authority. -/
def behindPort (kind : SchemeKind) (authority : List Char) : List Char :=
  ((spanHost kind.isSpecial false (hostText authority)).2.drop 1).dropWhile Char.isDigit

/-- An authority without what stands behind its port, if a backslash ends the port. -/
def trimAuthority (kind : SchemeKind) (authority : List Char) : List Char :=
  let behind := behindPort kind authority
  if behind.head? = some '\\' then authority.take (authority.length - behind.length)
  else authority

/-- The authority at the start of a text. -/
def authorityText (kind : SchemeKind) (text : List Char) : List Char :=
  trimAuthority kind (text.takeWhile fun c => !endsAuthority kind.isSpecial c)

section Text

variable
  {kind : SchemeKind}
  {scheme inside trail tail rest : List Char}
  {server : Server}

theorem authorityText_append
    (stays : StaysInside kind.isSpecial inside)
    (ends : EndsBefore kind.isSpecial tail) :
    authorityText kind (inside ++ tail) = trimAuthority kind inside := by
  rw [authorityText, takeWhile_authority stays ends]

theorem authorityText_of_stays (stays : StaysInside kind.isSpecial inside) :
    authorityText kind inside = trimAuthority kind inside := by
  have whole := authorityText_append stays endsBefore_nil
  rwa [List.append_nil] at whole

theorem endsBefore_slash {special : Bool} (path : List Char) :
    EndsBefore special ('/' :: path) := by
  intro c first
  cases first
  rfl

theorem EndsBefore.append_slash
    {special : Bool}
    (ends : EndsBefore special tail)
    (path : List Char) :
    EndsBefore special (tail ++ '/' :: path) := by
  cases tail with
  | nil => exact endsBefore_slash path
  | cons c rest => exact ends

theorem hostText_suffix (authority : List Char) : hostText authority <:+ authority := by
  rw [hostText, ← List.reverse_prefix, List.reverse_reverse]
  exact List.takeWhile_prefix _

theorem spanHost_suffix (special inBrackets : Bool) (text : List Char) :
    (spanHost special inBrackets text).2 <:+ text := by
  cases spanned : spanHost special inBrackets text with
  | mk shown rest => exact ⟨shown, (spanHost_parts spanned).1.symm⟩

theorem behindPort_suffix (kind : SchemeKind) (authority : List Char) :
    behindPort kind authority <:+ authority :=
  (List.dropWhile_suffix _).trans ((List.drop_suffix _ _).trans
    ((spanHost_suffix _ _ _).trans (hostText_suffix authority)))

/-- What stands behind the port is what the server leaves over. -/
theorem behindPort_of_readServer
    (stays : StaysInside kind.isSpecial inside)
    (read : readServer kind scheme inside = .ok (server, rest)) :
    behindPort kind inside = rest ∧ EndsBefore true rest := by
  rcases readServer_eq_ok_iff.mp read with
    ⟨info, ⟨host, behind⟩, port, infoRead, hostRead, portRead, made⟩
  have infoRest := rest_of_readUserInfo stays infoRead
  have restPort := (serverOf_eq_ok made).2.2
  have hostStays : StaysInside kind.isSpecial info.rest := by
    rw [infoRest]
    exact stays.hostText
  have form := rest_of_readHost hostStays hostRead
  cases spanned : spanHost kind.isSpecial false info.rest with
  | mk shown after =>
      rw [readHost_of_span spanned] at hostRead
      cases rest_of_readSpannedHost hostRead
      rw [behindPort, ← infoRest, spanned, restPort]
      rcases form with rfl | ⟨digits, rfl⟩
      · cases portRead
        exact ⟨rfl, endsBefore_nil⟩
      · rcases rest_of_readPort portRead with ⟨ends, portRest⟩
        rw [portRest]
        exact ⟨rfl, ends⟩

/-! ## Blanks at the end -/

/-- What is left over within an authority starts with a backslash. -/
theorem head?_of_readServer
    (stays : StaysInside kind.isSpecial inside)
    (read : readServer kind scheme inside = .ok (server, rest))
    (ended : rest ≠ []) :
    rest.head? = some '\\' := by
  rcases behindPort_of_readServer stays read with ⟨behind, ends⟩
  have within : rest <:+ inside := by
    rw [← behind]
    exact behindPort_suffix kind inside
  cases rest with
  | nil => exact absurd rfl ended
  | cons c rest =>
      have ender := ends c rfl
      have stay := stays c (within.subset List.mem_cons_self)
      simp only [endsAuthority, Bool.or_eq_true, Bool.or_eq_false_iff, decide_eq_true_eq,
        decide_eq_false_iff_not, Bool.true_and] at ender stay
      rcases ender with ((slash | mark) | sign) | backslash
      · exact absurd slash stay.1.1.1
      · exact absurd mark stay.1.1.2
      · exact absurd sign stay.1.2
      · rw [backslash]
        rfl

/-- Behind a port that has ended, blanks do not belong to an authority. -/
theorem trimAuthority_append_of_ended
    (outer : ∀ c ∈ trail, isOuter c = true)
    (stays : StaysInside kind.isSpecial inside)
    (read : readServer kind scheme inside = .ok (server, rest))
    (ended : rest ≠ []) :
    trimAuthority kind (inside ++ trail) = trimAuthority kind inside := by
  have backslash := head?_of_readServer stays read ended
  have both := readServer_append_blanks outer stays read ended
  have bothStay := stays.append (staysInside_of_outer outer kind.isSpecial)
  have behind := (behindPort_of_readServer stays read).1
  have within : rest <:+ inside := by
    rw [← behind]
    exact behindPort_suffix kind inside
  have size : (inside ++ trail).length - (rest ++ trail).length = inside.length - rest.length := by
    rw [List.length_append, List.length_append, Nat.add_sub_add_right]
  simp only [trimAuthority, (behindPort_of_readServer bothStay both).1, behind, backslash,
    List.head?_append_of_ne_nil rest ended, size, if_true]
  exact List.take_append_of_le_length (Nat.sub_le _ _)

/-- Everywhere else they do: a part that is cut off would be the blanks, and starts with no
backslash. -/
theorem trimAuthority_append_ne
    (outer : ∀ c ∈ trail, isOuter c = true)
    (nonempty : trail ≠ [])
    (stays : StaysInside kind.isSpecial inside)
    (read : readServer kind scheme inside = .ok (server, [])) :
    trimAuthority kind (inside ++ trail) ≠ trimAuthority kind inside := by
  have alone : trimAuthority kind inside = inside := by
    simp [trimAuthority, (behindPort_of_readServer stays read).1]
  have longer : inside ++ trail ≠ inside := by
    intro same
    exact nonempty (List.append_right_eq_self.mp same)
  rw [alone, trimAuthority]
  split
  · rename_i backslash
    intro same
    have within := behindPort_suffix kind (inside ++ trail)
    have size : (behindPort kind (inside ++ trail)).length = trail.length := by
      have short := within.length_le
      have taken := congrArg List.length same
      rw [List.length_take, List.length_append] at taken
      rw [List.length_append] at short
      omega
    have blanks : behindPort kind (inside ++ trail) = trail :=
      List.IsSuffix.eq_of_length
        (List.suffix_of_suffix_length_le within (List.suffix_append inside trail) size.le) size
    rw [blanks] at backslash
    cases outer '\\' (List.mem_of_mem_head? backslash)
  · exact longer

/-- In front of what stands behind a port there is the colon of the port. -/
theorem length_behindPort_lt {authority : List Char} (nonempty : behindPort kind authority ≠ []) :
    (behindPort kind authority).length < (hostText authority).length := by
  have digits := (List.dropWhile_suffix (l := (spanHost kind.isSpecial false
    (hostText authority)).2.drop 1) Char.isDigit).length_le
  have host := (spanHost_suffix kind.isSpecial false (hostText authority)).length_le
  have some := List.length_pos_iff.mpr nonempty
  rw [List.length_drop] at digits
  unfold behindPort at some ⊢
  omega

/-- Only a lone mark is cut down to one. -/
theorem eq_of_trimAuthority_eq_mark (bare : trimAuthority kind inside = ['@']) :
    inside = ['@'] := by
  simp only [trimAuthority] at bare
  split at bare
  · rename_i backslash
    have nonempty : behindPort kind inside ≠ [] := by
      intro empty
      rw [empty] at backslash
      cases backslash
    have marked : '@' ∈ inside := by
      apply List.mem_of_mem_take
      rw [bare]
      exact List.mem_cons_self
    have shorter := length_behindPort_lt nonempty
    have taken := congrArg List.length bare
    rw [List.length_take, List.length_singleton] at taken
    rcases exists_last_mark marked with ⟨info, host, rfl, noMark⟩
    rw [hostText_append_mark noMark] at shorter
    rw [List.length_append, List.length_cons] at taken
    omega
  · exact bare

/-! ## Joining a path -/

/-- How a base and what stands in front of a path begin: with the same authority, or with one that
is followed by blanks. -/
theorem Joins.authority
    {base front : List Char}
    (joins : Joins base front)
    (special : Bool) :
    ∃ inside, StaysInside special inside ∧
      ((∃ tail tail', base = inside ++ tail ∧ EndsBefore special tail ∧
          front = inside ++ tail' ∧ EndsBefore special tail') ∨
        (base = inside ∧ ∃ trail, front = inside ++ trail ∧ trail ≠ [] ∧
          ∀ c ∈ trail, isOuter c = true)) := by
  cases joins with
  | slash =>
      rcases exists_authority special front with ⟨inside, tail, rfl, stays, ends⟩
      refine ⟨inside, stays, Or.inl ⟨tail ++ ['/'], tail, ?_, ends.append_slash [], rfl, ends⟩⟩
      rw [List.append_assoc]
  | blanks _ trail outer =>
      rcases exists_authority special base with ⟨inside, tail, rfl, stays, ends⟩
      cases tail with
      | nil =>
          rw [List.append_nil]
          refine ⟨inside, stays, ?_⟩
          by_cases empty : trail = []
          · subst empty
            exact Or.inl ⟨[], [], (List.append_nil inside).symm, ends, rfl, ends⟩
          · exact Or.inr ⟨rfl, trail, rfl, empty, outer⟩
      | cons c tail =>
          refine ⟨inside, stays, Or.inl ⟨c :: tail, c :: tail ++ trail, rfl, ends, ?_, ends⟩⟩
          rw [List.append_assoc]

/-- A lone mark names no server in front of a path. -/
theorem readServer_bare (ends : EndsBefore kind.isSpecial tail) (nonempty : tail ≠ []) :
    readServer kind scheme ('@' :: tail) = .error .emptyHost := by
  have stays : StaysInside kind.isSpecial ([] ++ '@' :: []) := by
    intro c member
    cases List.mem_singleton.mp member
    cases kind.isSpecial <;> rfl
  have refused : readUserInfo kind.isSpecial ('@' :: tail) = _ :=
    readUserInfo_of_mark stays ends List.not_mem_nil
  rw [if_pos ⟨rfl, rfl, nonempty⟩] at refused
  rw [readServer, refused]
  rfl

/-- A server is that of the authority as a whole. -/
theorem readServer_inside
    (stays : StaysInside kind.isSpecial inside)
    (ends : EndsBefore kind.isSpecial tail)
    (read : readServer kind scheme (inside ++ tail) = .ok (server, rest)) :
    ∃ behind, behind <:+ inside ∧ rest = behind ++ tail ∧
      readServer kind scheme inside = .ok (server, behind) := by
  have notBare : inside = ['@'] → tail = [] := by
    rintro rfl
    apply Decidable.not_not.mp
    intro nonempty
    rw [List.singleton_append, readServer_bare ends nonempty] at read
    cases read
  rw [readServer_append_tail stays ends notBare] at read
  rcases map_eq_ok_iff.mp read with ⟨found, alone, same⟩
  cases same
  refine ⟨found.2, ?_, rfl, alone⟩
  rw [← (behindPort_of_readServer stays alone).1]
  exact behindPort_suffix kind inside

theorem append_blanks_ne_mark
    (inside : List Char)
    (outer : ∀ c ∈ trail, isOuter c = true)
    (nonempty : trail ≠ []) :
    inside ++ trail ≠ ['@'] := by
  intro bare
  have last := congrArg List.getLast? bare
  rw [List.getLast?_append_of_ne_nil inside nonempty] at last
  cases outer '@' (List.mem_of_getLast? last)

/-- Whether a path can be joined to a base without a change of its authority. -/
def KeepsAuthority (kind : SchemeKind) (base front : List Char) : Prop :=
  authorityText kind (front ++ ['/']) = authorityText kind base ∧ authorityText kind base ≠ ['@']

/-- If the authority is kept, so is the server. -/
theorem readServer_join
    {base front : List Char}
    (joins : Joins base front)
    (read : readServer kind scheme base = .ok (server, rest))
    (keeps : KeepsAuthority kind base front) :
    ∃ behind, behind <:+ front ∧
      ∀ path, readServer kind scheme (front ++ '/' :: path) =
        .ok (server, behind ++ '/' :: path) := by
  rcases joins.authority kind.isSpecial with
    ⟨inside, stays, ⟨tail, tail', rfl, ends, rfl, ends'⟩ | ⟨rfl, trail, rfl, nonempty, outer⟩⟩
  · have notBare : inside ≠ ['@'] := by
      rintro rfl
      apply keeps.2
      rw [authorityText_append stays ends]
      rfl
    rcases readServer_inside stays ends read with ⟨behind, within, _, alone⟩
    refine ⟨behind ++ tail', List.suffix_append_self_iff.mpr within, ?_⟩
    intro path
    rw [List.append_assoc, readServer_append_tail stays (ends'.append_slash path)
      fun bare => absurd bare notBare, alone, List.append_assoc]
    rfl
  · have bothStay := stays.append (staysInside_of_outer outer kind.isSpecial)
    have kept := keeps.1
    rw [authorityText_append bothStay (endsBefore_slash []), authorityText_of_stays stays] at kept
    have ended : rest ≠ [] := by
      rintro rfl
      exact trimAuthority_append_ne outer nonempty stays read kept
    have notBare := append_blanks_ne_mark base outer nonempty
    refine ⟨rest ++ trail, ?_, ?_⟩
    · apply List.suffix_append_self_iff.mpr
      rw [← (behindPort_of_readServer stays read).1]
      exact behindPort_suffix kind base
    · intro path
      rw [readServer_append_tail bothStay (endsBefore_slash path)
        fun bare => absurd bare notBare, readServer_append_blanks outer stays read ended]
      rfl

/-- If the authority is not kept, a server that is read is at another host. -/
theorem host_ne_of_readServer_join
    {base front path rest' : List Char}
    {server' : Server}
    (joins : Joins base front)
    (read : readServer kind scheme base = .ok (server, rest))
    (reread : readServer kind scheme (front ++ '/' :: path) = .ok (server', rest'))
    (changes : ¬ KeepsAuthority kind base front) :
    server'.host ≠ server.host := by
  rcases joins.authority kind.isSpecial with
    ⟨inside, stays, ⟨tail, tail', rfl, ends, rfl, ends'⟩ | ⟨rfl, trail, rfl, nonempty, outer⟩⟩
  · have same : authorityText kind (inside ++ tail' ++ ['/']) =
        authorityText kind (inside ++ tail) := by
      rw [List.append_assoc, authorityText_append stays (ends'.append_slash []),
        authorityText_append stays ends]
    have bare : inside = ['@'] := by
      apply eq_of_trimAuthority_eq_mark
      rw [← authorityText_append stays ends]
      exact Decidable.not_not.mp fun visible => changes ⟨same, visible⟩
    subst bare
    rw [List.append_assoc, List.singleton_append,
      readServer_bare (ends'.append_slash path) (by simp)] at reread
    cases reread
  · have bothStay := stays.append (staysInside_of_outer outer kind.isSpecial)
    by_cases ended : rest = []
    · subst ended
      rcases readServer_inside bothStay (endsBefore_slash path) reread with ⟨_, _, _, longer⟩
      exact host_ne_of_readServer_append_blanks outer nonempty stays read longer
    · exfalso
      apply changes
      constructor
      · rw [authorityText_append bothStay (endsBefore_slash []), authorityText_of_stays stays]
        exact trimAuthority_append_of_ended outer stays read ended
      · rw [authorityText_of_stays stays]
        intro bare
        cases eq_of_trimAuthority_eq_mark bare
        exact ended (behindPort_of_readServer stays read).1.symm

end Text

end ReviewQuery.Url
