import Mathlib.Data.List.Basic
import Mathlib.Data.List.TakeWhile
import ReviewQuery.Proofs.Text.Span
import ReviewQuery.Url.Parse

/-!
# Texts that are joined before they are read

A URL is read without the blanks around its text, but a path is joined to the text as it stands.  So
the blanks at the end of a base, which are not read as long as they are last, come to stand in front
of the path.  `Joins text front` says what is read in front of a path if `text` is what was read
before: the text without the slash that the path brings along, or the text and some blanks.
-/

namespace ReviewQuery.Url

/-! ## Blanks around a text -/

/-- Whether a character is not read at the start and at the end of a text. -/
def isOuter (c : Char) : Bool :=
  c.toNat ≤ 0x20

/-- Whether a character is read within a text. -/
def isInner (c : Char) : Bool :=
  c ≠ '\t' && c ≠ '\n' && c ≠ '\r'

theorem ne_of_isOuter
    {c d : Char}
    (outer : isOuter c = true)
    (visible : isOuter d = false) :
    c ≠ d := by
  rintro rfl
  rw [outer] at visible
  cases visible

/-- What holds of the first codes holds of every character that is not read at the start. -/
theorem of_isOuter
    {p : Char → Prop}
    (all : ∀ code < 33, p (Char.ofNat code))
    {c : Char}
    (outer : isOuter c = true) :
    p c := by
  have known := all c.toNat (Nat.lt_succ_of_le (of_decide_eq_true outer))
  rw [Char.ofNat_toNat] at known
  exact known

theorem not_isDigit_of_isOuter {c : Char} (outer : isOuter c = true) : c.isDigit = false := by
  have all : ∀ code < 33, (Char.ofNat code).isDigit = false := by decide
  exact of_isOuter (p := fun c => c.isDigit = false) all outer

theorem not_endsAuthority_of_isOuter
    {c : Char}
    (outer : isOuter c = true)
    (special : Bool) :
    endsAuthority special c = false := by
  have slash := ne_of_isOuter outer (show isOuter '/' = false from rfl)
  have mark := ne_of_isOuter outer (show isOuter '?' = false from rfl)
  have sign := ne_of_isOuter outer (show isOuter '#' = false from rfl)
  have backslash := ne_of_isOuter outer (show isOuter '\\' = false from rfl)
  simp [endsAuthority, slash, mark, sign, backslash]

theorem isInner_of_not_isOuter {c : Char} (inside : isOuter c = false) : isInner c = true := by
  rw [← Bool.not_eq_false]
  intro skipped
  simp only [isInner, Bool.and_eq_false_iff, decide_eq_false_iff_not, Decidable.not_not] at skipped
  rcases skipped with (rfl | rfl) | rfl <;> cases inside

theorem filter_isInner {text : List Char} (inside : ∀ c ∈ text, isOuter c = false) :
    text.filter isInner = text := by
  apply List.filter_eq_self.mpr
  intro c member
  exact isInner_of_not_isOuter (inside c member)

/-- Blanks around a text are not read. -/
theorem clean_surrounded
    {lead core trail : List Char}
    (leadOuter : ∀ c ∈ lead, isOuter c = true)
    (trailOuter : ∀ c ∈ trail, isOuter c = true)
    (nonempty : core ≠ [])
    (first : ∀ c ∈ core.head?, isOuter c = false)
    (last : ∀ c ∈ core.getLast?, isOuter c = false) :
    clean (lead ++ (core ++ trail)) = core.filter isInner := by
  have firstOfBoth : ∀ c ∈ (core ++ trail).head?, isOuter c = false := by
    rw [List.head?_append_of_ne_nil core nonempty]
    exact first
  have trailReversed : ∀ c ∈ trail.reverse, isOuter c = true := by
    intro c member
    exact trailOuter c (List.mem_reverse.mp member)
  have lastReversed : ∀ c ∈ core.reverse.head?, isOuter c = false := by
    rw [List.head?_reverse]
    exact last
  show (((lead ++ (core ++ trail)).dropWhile isOuter).reverse.dropWhile isOuter).reverse.filter
    isInner = _
  rw [Text.dropWhile_append_of_stops leadOuter firstOfBoth, List.reverse_append,
    Text.dropWhile_append_of_stops trailReversed lastReversed, List.reverse_reverse]

/-- A text that is not blank is a text without outer blanks between blanks. -/
theorem exists_core {text : List Char} (read : clean text ≠ []) :
    ∃ lead core trail : List Char,
      text = lead ++ (core ++ trail) ∧
      (∀ c ∈ lead, isOuter c = true) ∧
      (∀ c ∈ trail, isOuter c = true) ∧
      core ≠ [] ∧
      (∀ c ∈ core.head?, isOuter c = false) ∧
      ∀ c ∈ core.getLast?, isOuter c = false := by
  let rest := text.dropWhile isOuter
  let core := (rest.reverse.dropWhile isOuter).reverse
  let trail := (rest.reverse.takeWhile isOuter).reverse
  have restParts : rest = core ++ trail := by
    rw [← List.reverse_append, List.takeWhile_append_dropWhile, List.reverse_reverse]
  have nonempty : core ≠ [] := by
    intro empty
    apply read
    show core.filter isInner = []
    rw [empty, List.filter_nil]
  refine ⟨text.takeWhile isOuter, core, trail, ?_, ?_, ?_, nonempty, ?_, ?_⟩
  · rw [← restParts, List.takeWhile_append_dropWhile]
  · intro c member
    exact List.mem_takeWhile_imp member
  · intro c member
    exact List.mem_takeWhile_imp (List.mem_reverse.mp member)
  · intro c first
    apply Text.stops_dropWhile text c
    show c ∈ rest.head?
    rw [restParts, List.head?_append_of_ne_nil core nonempty]
    exact first
  · intro c last
    apply Text.stops_dropWhile rest.reverse c
    rw [← List.getLast?_reverse]
    exact last

/-! ## What comes to stand in front of a path -/

/-- What is read in front of a path, if `text` is what was read of its base. -/
inductive Joins : List Char → List Char → Prop where
  /-- The slash at the end of the base is that of the path. -/
  | slash (front : List Char) : Joins (front ++ ['/']) front
  /-- The blanks at the end of the base are read after all. -/
  | blanks (text trail : List Char) (outer : ∀ c ∈ trail, isOuter c = true) :
      Joins text (text ++ trail)

namespace Joins

/-- Behind a first character the rest is joined, unless that character is the slash of the path. -/
theorem of_cons
    {c : Char}
    {text front : List Char}
    (joins : Joins (c :: text) front) :
    (c = '/' ∧ text = [] ∧ front = []) ∨ ∃ inner, front = c :: inner ∧ Joins text inner := by
  generalize whole : c :: text = base at joins
  cases joins with
  | slash =>
      cases front with
      | nil =>
          cases whole
          exact Or.inl ⟨rfl, rfl, rfl⟩
      | cons d inner =>
          cases whole
          exact Or.inr ⟨inner, rfl, .slash inner⟩
  | blanks _ trail outer =>
      subst whole
      exact Or.inr ⟨text ++ trail, rfl, .blanks text trail outer⟩

/-- Within a text the first character stays where it is. -/
theorem of_cons_append
    {c : Char}
    {text front : List Char}
    (joins : Joins (c :: text) front)
    (within : c ≠ '/' ∨ text ≠ []) :
    ∃ inner, front = c :: inner ∧ Joins text inner := by
  rcases of_cons joins with ⟨slash, empty, _⟩ | inner
  · rcases within with other | nonempty
    · exact absurd slash other
    · exact absurd empty nonempty
  · exact inner

/-- A first character in front of a path that is no blank was first before. -/
theorem of_front_cons
    {c : Char}
    {text inner : List Char}
    (joins : Joins text (c :: inner))
    (visible : isOuter c = false) :
    ∃ rest, text = c :: rest ∧ Joins rest inner := by
  generalize whole : c :: inner = front at joins
  cases joins with
  | slash =>
      subst whole
      exact ⟨inner ++ ['/'], rfl, .slash inner⟩
  | blanks _ trail outer =>
      cases text with
      | nil =>
          rw [List.nil_append] at whole
          subst whole
          rw [outer c List.mem_cons_self] at visible
          cases visible
      | cons d rest =>
          cases whole
          exact ⟨rest, rfl, .blanks rest trail outer⟩

end Joins

/-- Blanks in front of a text are not read, and those in front of a path are. -/
theorem clean_append_path
    {lead inner path : List Char}
    (leadOuter : ∀ c ∈ lead, isOuter c = true)
    (first : ∀ c ∈ inner.head?, isOuter c = false)
    (visible : ∀ c ∈ path, isOuter c = false)
    (nonempty : path ≠ []) :
    clean (lead ++ (inner ++ path)) = inner.filter isInner ++ path := by
  have noTrail : ∀ c ∈ ([] : List Char), isOuter c = true := by
    intro c member
    cases member
  have firstOfBoth : ∀ c ∈ (inner ++ path).head?, isOuter c = false := by
    intro c firstOf
    cases inner with
    | nil => exact visible c (List.mem_of_mem_head? firstOf)
    | cons d inner => exact first c firstOf
  have last : ∀ c ∈ (inner ++ path).getLast?, isOuter c = false := by
    intro c lastOf
    rw [List.getLast?_append_of_ne_nil inner nonempty] at lastOf
    exact visible c (List.mem_of_getLast? lastOf)
  have whole :=
    clean_surrounded leadOuter noTrail (List.append_ne_nil_of_right_ne_nil inner nonempty)
      firstOfBoth last
  rw [List.append_nil] at whole
  rw [whole, List.filter_append, filter_isInner visible]

/-- What is read of a base to which a path is joined. -/
theorem clean_join
    {base : List Char}
    (read : clean base ≠ []) :
    ∃ front, Joins (clean base) front ∧
      ∀ path : List Char, (∀ c ∈ path, isOuter c = false) → path ≠ [] →
        clean ((if base.getLast? = some '/' then base.dropLast else base) ++ path) =
          front ++ path := by
  rcases exists_core read with
    ⟨lead, core, trail, rfl, leadOuter, trailOuter, nonempty, first, last⟩
  rw [clean_surrounded leadOuter trailOuter nonempty first last]
  by_cases slash : (lead ++ (core ++ trail)).getLast? = some '/'
  · have noTrail : trail = [] := by
      rw [List.eq_nil_iff_forall_not_mem]
      intro c member
      have inTrail : trail.getLast? = some '/' := by
        rw [← slash, ← List.append_assoc,
          List.getLast?_append_of_ne_nil _ (List.ne_nil_of_mem member)]
      cases trailOuter '/' (List.mem_of_getLast? inTrail)
    subst noTrail
    rw [List.append_nil, List.getLast?_append_of_ne_nil _ nonempty] at slash
    rcases List.getLast?_eq_some_iff.mp slash with ⟨inner, rfl⟩
    refine ⟨inner.filter isInner, ?_, ?_⟩
    · rw [List.filter_append]
      exact .slash _
    · intro path visible some
      rw [List.append_nil, if_pos (by simp), ← List.append_assoc, List.dropLast_concat,
        List.append_assoc]
      apply clean_append_path leadOuter _ visible some
      intro c firstOf
      apply first c
      rw [List.head?_append, Option.mem_def.mp firstOf, Option.some_or]
      rfl
  · refine ⟨core.filter isInner ++ trail.filter isInner, .blanks _ _ ?_, ?_⟩
    · intro c member
      exact trailOuter c (List.mem_filter.mp member).1
    · intro path visible some
      rw [if_neg slash, List.append_assoc, ← List.filter_append]
      apply clean_append_path leadOuter _ visible some
      rw [List.head?_append_of_ne_nil core nonempty]
      exact first

end ReviewQuery.Url
