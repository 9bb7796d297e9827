import Mathlib.Data.List.Basic
import ReviewQuery.Url.Parse

/-!
# Paths joined to a text

Segments that nothing in a path changes or takes back stand at its end, whatever the text is that
they are joined to.  `IsOrdinary` says which segments those are, and `readPath_append` that the path
ends with them.
-/

namespace ReviewQuery.Url

/-- A text of characters that need no encoding stays as it is. -/
theorem PercentEncoding.encode_of_kept
    {isEncoded : Char → Bool}
    {text : List Char}
    (kept : ∀ c ∈ text, encodeChar isEncoded c = [c]) :
    encode isEncoded text = text := by
  rw [encode, List.flatMap_congr kept, List.flatMap_singleton']

namespace Path

/-! ## Ordinary segments -/

/-- Whether a segment is read as it stands and stays where it is. -/
def IsOrdinary (segment : List Char) : Prop :=
  (∀ c ∈ segment,
    (c ≠ '/' ∧ c ≠ '\\') ∧ PercentEncoding.encodeChar PercentEncoding.inPath c = [c]) ∧
    isDot segment = false ∧ isDoubleDot segment = false ∧ isDrive segment = false

instance (segment : List Char) : Decidable (IsOrdinary segment) :=
  @instDecidableAnd _ _ (List.decidableBAll _ segment) inferInstance

section Segments

variable
  {isSeparator : Char → Bool}
  {isFile : Bool}
  {segment : List Char}
  {before segments : List (List Char)}

theorem split_append_separator
    {c : Char}
    (separates : isSeparator c = true)
    (front rest : List Char) :
    split isSeparator (front ++ c :: rest) =
      split isSeparator front ++ split isSeparator rest := by
  induction front with
  | nil =>
      rw [List.nil_append, split.eq_2, if_pos separates]
      rfl
  | cons d front ih =>
      rw [List.cons_append, split, split, ih]
      cases parts : split isSeparator front with
      | nil =>
          exfalso
          cases front with
          | nil => cases parts
          | cons e front =>
              rw [split] at parts
              split at parts
              · cases parts
              · split at parts <;> cases parts
      | cons part others =>
          split <;> rfl

/-- A text without separators is a part of its own. -/
theorem split_of_no_separator {part : List Char} (plain : ∀ c ∈ part, isSeparator c = false) :
    split isSeparator part = [part] := by
  induction part with
  | nil => rfl
  | cons c part ih =>
      have others : ∀ d ∈ part, isSeparator d = false := by
        intro d member
        exact plain d (List.mem_cons_of_mem c member)
      rw [split, plain c List.mem_cons_self, ih others]
      rfl

/-- Which characters may separate segments. -/
def IsSlashed (isSeparator : Char → Bool) : Prop :=
  isSeparator '/' = true ∧ ∀ c, c ≠ '/' → c ≠ '\\' → isSeparator c = false

theorem IsOrdinary.no_separator
    (ordinary : IsOrdinary segment)
    (slashed : IsSlashed isSeparator) :
    ∀ c ∈ segment, isSeparator c = false := by
  intro c member
  rcases (ordinary.1 c member).1 with ⟨notSlash, notBackslash⟩
  exact slashed.2 c notSlash notBackslash

theorem IsOrdinary.encode (ordinary : IsOrdinary segment) :
    PercentEncoding.encode PercentEncoding.inPath segment = segment := by
  apply PercentEncoding.encode_of_kept
  intro c member
  exact (ordinary.1 c member).2

/-! ## Reading them -/

/-- Ordinary segments behind a text are parts of their own. -/
theorem split_append_render
    (slashed : IsSlashed isSeparator)
    (ordinary : ∀ segment ∈ segments, IsOrdinary segment)
    (front : List Char) :
    split isSeparator (front ++ (Path.segments segments).render) =
      split isSeparator front ++ segments := by
  induction segments generalizing front with
  | nil => simp [render]
  | cons segment segments ih =>
      have first := ordinary segment List.mem_cons_self
      have others : ∀ segment ∈ segments, IsOrdinary segment := by
        intro other member
        exact ordinary other (List.mem_cons_of_mem segment member)
      have rendered : (Path.segments (segment :: segments)).render =
          '/' :: (segment ++ (Path.segments segments).render) := rfl
      rw [rendered, split_append_separator slashed.1, ih others segment,
        split_of_no_separator (first.no_separator slashed), List.singleton_append]

theorem push_ordinary
    (ordinary : IsOrdinary segment)
    (isLast : Bool) :
    push isFile isLast before segment = before ++ [segment] := by
  rcases ordinary with ⟨_, notDot, notDoubleDot, notDrive⟩
  simp [push, notDot, notDoubleDot, notDrive]

theorem pushAll_ordinary (ordinary : ∀ segment ∈ segments, IsOrdinary segment) :
    pushAll isFile before segments = before ++ segments := by
  induction segments generalizing before with
  | nil => exact (List.append_nil before).symm
  | cons segment segments ih =>
      have first := ordinary segment List.mem_cons_self
      have others : ∀ segment ∈ segments, IsOrdinary segment := by
        intro other member
        exact ordinary other (List.mem_cons_of_mem segment member)
      cases segments with
      | nil => exact push_ordinary first true
      | cons next segments =>
          rw [pushAll, push_ordinary first, ih others, List.append_assoc, List.singleton_append]
          intro empty
          cases empty

/-- What follows a segment is read behind it. -/
theorem pushAll_append (front : List (List Char)) (nonempty : segments ≠ []) :
    pushAll isFile before (front ++ segments) =
      pushAll isFile (front.foldl (push isFile false) before) segments := by
  induction front generalizing before with
  | nil => rfl
  | cons segment front ih =>
      rw [List.cons_append, pushAll, ih, List.foldl_cons]
      intro empty
      exact nonempty (List.append_eq_nil_iff.mp empty).2

theorem map_encode_ordinary (ordinary : ∀ segment ∈ segments, IsOrdinary segment) :
    segments.map (PercentEncoding.encode PercentEncoding.inPath) = segments := by
  have same : ∀ segment ∈ segments,
      PercentEncoding.encode PercentEncoding.inPath segment = id segment := by
    intro segment member
    exact (ordinary segment member).encode
  rw [List.map_congr_left same, List.map_id]

/-- A text that ordinary segments are joined to ends with them. -/
theorem ofText_append_render
    (slashed : IsSlashed isSeparator)
    (ordinary : ∀ segment ∈ segments, IsOrdinary segment)
    (nonempty : segments ≠ [])
    (front : List Char) :
    segments <:+ ofText isFile isSeparator (front ++ (Path.segments segments).render) := by
  rw [ofText, split_append_render slashed ordinary, List.map_append, map_encode_ordinary ordinary,
    pushAll_append _ nonempty, pushAll_ordinary ordinary]
  exact List.suffix_append _ _

/-- Behind a slash of their own they are all of a path. -/
theorem ofText_render
    (slashed : IsSlashed isSeparator)
    (ordinary : ∀ other ∈ segment :: segments, IsOrdinary other) :
    ofText isFile isSeparator (segment ++ (Path.segments segments).render) =
      segment :: segments := by
  have others : ∀ other ∈ segments, IsOrdinary other := by
    intro other member
    exact ordinary other (List.mem_cons_of_mem segment member)
  have first := (ordinary segment List.mem_cons_self).no_separator slashed
  rw [ofText, split_append_render slashed others, split_of_no_separator first,
    List.singleton_append, map_encode_ordinary ordinary, pushAll_ordinary ordinary,
    List.nil_append]

theorem render_suffix {list : List (List Char)} (within : segments <:+ list) :
    (Path.segments segments).render <:+ (Path.segments list).render := by
  rcases within with ⟨front, rfl⟩
  rw [render, render, List.flatMap_append]
  exact List.suffix_append _ _

end Segments

end Path

/-! ## Reading a path -/

section Reading

variable
  {segment : List Char}
  {segments : List (List Char)}

theorem isSlashed_separator (special : Bool) :
    Path.IsSlashed fun c => c = '/' || (special && c = '\\') := by
  refine ⟨rfl, ?_⟩
  intro c notSlash notBackslash
  simp [notSlash, notBackslash]

/-- A path ends with the ordinary segments that its text ends with. -/
theorem readPath_append
    (ordinary : ∀ other ∈ segment :: segments, Path.IsOrdinary other)
    (kind : SchemeKind)
    (front : List Char) :
    segment :: segments <:+
      readPath kind (front ++ (Path.segments (segment :: segments)).render) := by
  have slashed := isSlashed_separator kind.isSpecial
  cases front with
  | nil =>
      show _ <:+ Path.ofText _ _ (segment ++ (Path.segments segments).render)
      exact ⟨[], (Path.ofText_render slashed ordinary).symm⟩
  | cons c front =>
      rw [List.cons_append, readPath]
      split
      · exact Path.ofText_append_render slashed ordinary (List.cons_ne_nil _ _) front
      · rw [← List.cons_append]
        exact Path.ofText_append_render slashed ordinary (List.cons_ne_nil _ _) (c :: front)

/-- What a file path leaves out at its start ends in front of a segment that is not empty. -/
theorem trimFilePath_suffix
    {list : List (List Char)}
    (nonempty : segment ≠ [])
    (within : segment :: segments <:+ list) :
    segment :: segments <:+ trimFilePath list := by
  rcases within with ⟨front, rfl⟩
  have kept : segment :: segments <:+
      (front ++ segment :: segments).dropWhile fun other => decide (other = []) := by
    rw [List.dropWhile_append]
    split
    · exact ⟨[], (List.dropWhile_cons_of_neg (by simpa using nonempty)).symm⟩
    · exact List.suffix_append _ _
  rw [trimFilePath]
  split
  · rename_i empty
    rw [empty] at kept
    cases List.suffix_nil.mp kept
  · exact kept

end Reading

end ReviewQuery.Url
