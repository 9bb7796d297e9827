import Mathlib.Tactic.SplitIfs
import ReviewQuery.Json.Reader
import ReviewQuery.Proofs.Text.Utf8

/-!
# Faults lie in the text

Reading goes forward.  What a scanner leaves behind a value, or at a fault, is never more than what
it was given: `octetsLeft` counts it for both outcomes, and there is one bound for every scanner.
So the number of octets in front of a fault, which gives its place, is a true difference.
-/

namespace ReviewQuery.Json

open Text.Utf8 (length_le_size size size_append size_le_of_suffix size_lt_size_cons)

/-- The number of octets that are left at a fault, or behind what was read.  `unread` adds those of
what was read that a later fault may still count as left, as the digits of an exponent. -/
def octetsLeftWith {α : Type} (unread : α → Nat) : Except Failure (Reading α) → Nat
  | .error failure => failure.remaining
  | .ok (value, rest) => size rest + unread value

/-- The number of octets that are left behind what was read, or at the fault. -/
def octetsLeft {α : Type} (result : Except Failure (Reading α)) : Nat :=
  octetsLeftWith (fun _ => 0) result

section OctetsLeft

variable
  {α β : Type}
  {unread : α → Nat}
  {result : Except Failure (Reading α)}
  {limit : Nat}

/-- What becomes of the value does not change what is left behind it. -/
theorem octetsLeft_map_le
    {f : Reading α → Reading β}
    (keeps : ∀ reading, (f reading).2 = reading.2)
    (bound : octetsLeft result ≤ limit) :
    octetsLeft (result.map f) ≤ limit := by
  cases result with
  | error failure => exact bound
  | ok reading => exact (congrArg size (keeps reading)).trans_le bound

/-- A step that follows starts with what the first step left. -/
theorem octetsLeftWith_bind_le
    {unread' : β → Nat}
    {next : Reading α → Except Failure (Reading β)}
    (first : octetsLeftWith unread result ≤ limit)
    (second :
      ∀ value rest, octetsLeftWith unread' (next (value, rest)) ≤ size rest + unread value) :
    octetsLeftWith unread' (result >>= next) ≤ limit := by
  cases result with
  | error failure => exact first
  | ok reading => exact (second reading.1 reading.2).trans first

theorem remaining_le_of_eq_error
    (bound : octetsLeftWith unread result ≤ limit)
    {failure : Failure}
    (failed : result = .error failure) :
    failure.remaining ≤ limit := by
  rw [failed] at bound
  exact bound

theorem size_le_of_eq_ok
    (bound : octetsLeft result ≤ limit)
    {value : α}
    {rest : List Char}
    (done : result = .ok (value, rest)) :
    size rest ≤ limit := by
  rw [done] at bound
  exact bound

end OctetsLeft

/-! ## Blanks, words and colons -/

theorem size_le_of_dropBlanks_eq_cons
    {text rest : List Char}
    {c : Char}
    (start : dropBlanks text = c :: rest) :
    size (c :: rest) ≤ size text := by
  rw [← start]
  exact size_le_of_suffix (List.dropWhile_suffix isBlank)

theorem octetsLeft_scanWord_le {α : Type} (value : α) (word text : List Char) :
    octetsLeft ((scanWord word text).map fun rest => (value, rest)) ≤ size text := by
  fun_induction scanWord word text with
  | case1 text => exact Nat.le_refl _
  | case2 => exact Nat.zero_le _
  | case3 _ c rest ih => exact ih.trans (size_lt_size_cons c rest).le
  | case4 _ _ c rest => exact Nat.sub_le _ _

theorem octetsLeft_scanColon_le {α : Type} (value : α) (text : List Char) :
    octetsLeft ((scanColon text).map fun rest => (value, rest)) ≤ size text := by
  unfold scanColon
  split
  · exact Nat.zero_le _
  · rename_i c rest start
    have bound := size_le_of_dropBlanks_eq_cons start
    split
    · exact (size_lt_size_cons c rest).le.trans bound
    · exact (Nat.sub_le _ _).trans bound

/-! ## Strings -/

theorem remaining_badUnit_le (text : List Char) : (badUnit text).remaining ≤ size text := by
  unfold badUnit
  split
  · exact Nat.zero_le _
  · exact Nat.sub_le _ _

theorem octetsLeft_scanUnit_le (text : List Char) : octetsLeft (scanUnit text) ≤ size text := by
  unfold scanUnit
  split
  · rename_i a b c d rest
    split
    · exact size_le_of_suffix (List.suffix_append [a, b, c, d] rest)
    · exact remaining_badUnit_le _
  · exact remaining_badUnit_le _

theorem octetsLeft_scanTrailing_le (leading : Nat) (text : List Char) :
    octetsLeft (scanTrailing leading text) ≤ size text := by
  unfold scanTrailing
  split
  · exact Nat.zero_le _
  · rename_i c rest
    have behind := size_lt_size_cons c rest
    split
    · split
      · exact Nat.zero_le _
      · rename_i d rest
        have further := size_lt_size_cons d rest
        split
        · have unit := octetsLeft_scanUnit_le rest
          split
          · rename_i failed
            exact (remaining_le_of_eq_error unit failed).trans (further.trans behind).le
          · rename_i scanned
            have left := size_le_of_eq_ok unit scanned
            split <;> exact left.trans (further.trans behind).le
        · exact (Nat.sub_le _ _).trans behind.le
    · exact Nat.sub_le _ _

theorem octetsLeft_scanEscape_le (text : List Char) :
    octetsLeft (scanEscape text) ≤ size text := by
  unfold scanEscape
  split
  · exact Nat.zero_le _
  · rename_i c rest
    have behind := size_lt_size_cons c rest
    split
    · have unit := octetsLeft_scanUnit_le rest
      split
      · rename_i failed
        exact (remaining_le_of_eq_error unit failed).trans behind.le
      · rename_i scanned
        have left := (size_le_of_eq_ok unit scanned).trans behind.le
        split
        · exact left
        · split
          · exact (octetsLeft_scanTrailing_le _ _).trans left
          · exact left
    · split
      · exact behind.le
      · exact Nat.sub_le _ _

/-- An escape may fail by itself, or stand in front of a fault or of the rest of a string; any other
character leaves both to what is behind it. -/
theorem octetsLeft_scanString_le (text : List Char) :
    octetsLeft (scanString text) ≤ size text := by
  have escape (rest : List Char) : octetsLeft (scanEscape rest) ≤ size ('\\' :: rest) :=
    (octetsLeft_scanEscape_le rest).trans (size_lt_size_cons '\\' rest).le
  fun_induction scanString text with
  | case1 => exact Nat.zero_le _
  | case2 rest => exact (size_lt_size_cons '"' rest).le
  | case3 rest failure failed => exact remaining_le_of_eq_error (escape rest) failed
  | case4 rest _ _ scanned _ failed _ ih =>
      have left := size_le_of_eq_ok (escape rest) scanned
      exact (remaining_le_of_eq_error ih failed).trans left
  | case5 rest _ _ scanned _ _ recursion _ ih =>
      have left := size_le_of_eq_ok (escape rest) scanned
      exact (size_le_of_eq_ok ih recursion).trans left
  | case6 c rest => exact (size_lt_size_cons c rest).le
  | case7 c rest _ _ _ _ failed ih =>
      exact (remaining_le_of_eq_error ih failed).trans (size_lt_size_cons c rest).le
  | case8 c rest _ _ _ _ _ recursion ih =>
      exact (size_le_of_eq_ok ih recursion).trans (size_lt_size_cons c rest).le

theorem octetsLeft_scanKey_le (text : List Char) : octetsLeft (scanKey text) ≤ size text := by
  unfold scanKey
  have name := octetsLeft_scanString_le text
  split
  · rename_i failed
    exact remaining_le_of_eq_error name failed
  · rename_i scanned
    exact (octetsLeft_scanColon_le _ _).trans (size_le_of_eq_ok name scanned)

/-! ## Numbers -/

namespace Literal

/-- The digits of a written exponent. -/
def exponentLength : Option (Bool × List Char) → Nat
  | none => 0
  | some (_, digits) => digits.length

theorem size_add_length_spanDigits_le (text : List Char) :
    size (spanDigits text).2 + (spanDigits text).1.length ≤ size text := by
  have digits := length_le_size (spanDigits text).1
  have whole : size (spanDigits text).1 + size (spanDigits text).2 = size text := by
    rw [← size_append]
    exact congrArg size List.takeWhile_append_dropWhile
  omega

theorem octetsLeft_scanWhole_le (atEnd : Reason) (text : List Char) :
    octetsLeft (scanWhole atEnd text) ≤ size text := by
  unfold scanWhole
  split
  · exact Nat.zero_le _
  · rename_i c rest
    have behind := size_lt_size_cons c rest
    split
    · split
      · exact (Nat.sub_le _ _).trans behind.le
      · exact behind.le
    · split
      · exact (Nat.le_add_right _ _).trans (size_add_length_spanDigits_le (c :: rest))
      · exact Nat.sub_le _ _

theorem octetsLeft_scanFraction_le (atEnd : Reason) (text : List Char) :
    octetsLeft (scanFraction atEnd text) ≤ size text := by
  unfold scanFraction
  split
  · rename_i rest
    have behind := size_lt_size_cons '.' rest
    have digits := size_add_length_spanDigits_le rest
    split
    · exact Nat.zero_le _
    · rename_i spanned
      rw [spanned] at digits
      exact (Nat.sub_le _ _).trans (digits.trans behind.le)
    · rename_i spanned
      rw [spanned] at digits
      exact (Nat.le_add_right _ _).trans (digits.trans behind.le)
  · exact Nat.le_refl _

theorem size_scanSign_le (text : List Char) : size (scanSign text).2 ≤ size text := by
  unfold scanSign
  split
  · exact (size_lt_size_cons _ _).le
  · exact (size_lt_size_cons _ _).le
  · exact Nat.le_refl _

theorem octetsLeft_scanExponentDigits_le (atEnd : Reason) (text : List Char) :
    octetsLeftWith List.length (scanExponentDigits atEnd text) ≤ size text := by
  unfold scanExponentDigits
  have digits := size_add_length_spanDigits_le text
  split
  · exact Nat.zero_le _
  · rename_i spanned
    rw [spanned] at digits
    exact (Nat.sub_le _ _).trans digits
  · rename_i spanned
    rw [spanned] at digits
    exact digits

theorem octetsLeft_scanExponent_le (atEnd : Reason) (text : List Char) :
    octetsLeftWith exponentLength (scanExponent atEnd text) ≤ size text := by
  unfold scanExponent
  split
  · exact Nat.zero_le _
  · rename_i c rest
    split
    · have sign := size_scanSign_le rest
      have behind := size_lt_size_cons c rest
      refine octetsLeftWith_bind_le
        ((octetsLeft_scanExponentDigits_le atEnd _).trans (sign.trans behind.le)) ?_
      intro digits rest
      exact Nat.le_refl _
    · exact Nat.le_refl _

/-- What is left behind a literal, with the digits of its exponent. -/
theorem octetsLeft_scan_le (atEnd : Reason) (isNegative : Bool) (text : List Char) :
    octetsLeftWith (fun literal => exponentLength literal.exponent) (scan atEnd isNegative text) ≤
      size text := by
  refine octetsLeftWith_bind_le (octetsLeft_scanWhole_le atEnd text) ?_
  intro whole rest
  refine octetsLeftWith_bind_le (octetsLeft_scanFraction_le atEnd rest) ?_
  intro fraction rest
  refine octetsLeftWith_bind_le (octetsLeft_scanExponent_le atEnd rest) ?_
  intro exponent rest
  exact Nat.le_refl _

theorem unread_le_of_exponentValue
    {total unread : Nat}
    {digits : List Char}
    (tooLarge : exponentValue total digits = .error unread) :
    unread ≤ digits.length := by
  fun_induction exponentValue total digits with
  | case1 => cases tooLarge
  | case2 _ _ _ _ ih => exact Nat.le_succ_of_le (ih tooLarge)
  | case3 =>
      cases tooLarge
      exact Nat.le_succ _

theorem unread_eq_zero_of_scaled
    {isNegative : Bool}
    {significand unread : Nat}
    {exponent : Int}
    (tooLarge : scaled isNegative significand exponent = .error unread) :
    unread = 0 := by
  unfold scaled at tooLarge
  split at tooLarge
  · cases tooLarge
  · cases tooLarge
    rfl

theorem unread_le_of_withExponent
    {isNegative isSmall : Bool}
    {significand unread : Nat}
    {places : Int}
    {digits : List Char}
    (tooLarge : withExponent isNegative significand places isSmall digits = .error unread) :
    unread ≤ digits.length := by
  unfold withExponent at tooLarge
  split at tooLarge
  · rw [unread_eq_zero_of_scaled tooLarge]
    exact Nat.zero_le _
  · rename_i beyond
    split at tooLarge
    · cases tooLarge
      exact unread_le_of_exponentValue beyond
    · cases tooLarge

/-- A number turns out to be too large at the end of its literal or at a digit of the exponent. -/
theorem unread_le_of_value
    {literal : Literal}
    {unread : Nat}
    (tooLarge : literal.value = .error unread) :
    unread ≤ exponentLength literal.exponent := by
  rcases literal with ⟨isNegative, whole, fraction, exponent⟩
  cases exponent with
  | some exponent =>
      cases fraction <;> exact unread_le_of_withExponent tooLarge
  | none =>
      have atEnd : unread = 0 := by
        cases fraction with
        | some fraction => exact unread_eq_zero_of_scaled tooLarge
        | none =>
            simp only [value] at tooLarge
            split at tooLarge
            · cases tooLarge
            · exact unread_eq_zero_of_scaled tooLarge
      exact atEnd.le

end Literal

theorem octetsLeft_scanNumber_le (isNegative : Bool) (text : List Char) :
    octetsLeft (scanNumber isNegative text) ≤ size text := by
  refine octetsLeftWith_bind_le (Literal.octetsLeft_scan_le .unfinishedValue isNegative text) ?_
  intro literal rest
  dsimp only
  split
  · exact Nat.le_add_right _ _
  · rename_i tooLarge
    exact Nat.add_le_add_left (Literal.unread_le_of_value tooLarge) _

/-! ## Scalars -/

theorem octetsLeft_scanScalar_le (text : List Char) :
    octetsLeft (scanScalar text) ≤ size text := by
  unfold scanScalar
  split
  · exact Nat.zero_le _
  · rename_i c rest
    have behind := size_lt_size_cons c rest
    split_ifs
    · exact (octetsLeft_scanWord_le _ _ rest).trans behind.le
    · exact (octetsLeft_scanWord_le _ _ rest).trans behind.le
    · exact (octetsLeft_scanWord_le _ _ rest).trans behind.le
    · have string := (octetsLeft_scanString_le rest).trans behind.le
      exact octetsLeft_map_le (fun _ => rfl) string
    · have number := (octetsLeft_scanNumber_le true rest).trans behind.le
      exact octetsLeft_map_le (fun _ => rfl) number
    · have number := octetsLeft_scanNumber_le false (c :: rest)
      exact octetsLeft_map_le (fun _ => rfl) number
    · exact Nat.sub_le _ _

/-! ## Values -/

mutual

/-- Reading a value leaves no more than the text that it starts in.  The lengths end the recursion,
and the sizes carry the bound. -/
theorem octetsLeft_readValue_le (frames : List Frame) (text : List Char) :
    octetsLeft (readValue frames text) ≤ size text := by
  rw [readValue]
  split
  · exact Nat.zero_le _
  · rename_i c rest opened
    have short := length_lt_of_dropBlanks_eq_cons opened
    have start := size_le_of_dropBlanks_eq_cons opened
    have behind := (size_lt_size_cons c rest).le.trans start
    split
    · split
      · split
        · exact Nat.zero_le _
        · rename_i d rest' first
          have shorter := length_lt_of_dropBlanks_eq_cons first
          have further := (size_lt_size_cons d rest').le.trans (size_le_of_dropBlanks_eq_cons first)
          split
          · exact (octetsLeft_resume_le frames _ rest').trans (further.trans behind)
          · exact (octetsLeft_readValue_le _ rest).trans behind
      · exact (Nat.sub_le _ _).trans start
    · split
      · split
        · split
          · exact Nat.zero_le _
          · rename_i d rest' first
            have shorter := length_lt_of_dropBlanks_eq_cons first
            have found := size_le_of_dropBlanks_eq_cons first
            have further := (size_lt_size_cons d rest').le.trans found
            split
            · exact (octetsLeft_resume_le frames _ rest').trans (further.trans behind)
            · split
              · have name := (octetsLeft_scanKey_le rest').trans (further.trans behind)
                split
                · rename_i failed
                  exact remaining_le_of_eq_error name failed
                · rename_i rest'' key
                  have shortest := length_lt_of_scanKey key
                  exact (octetsLeft_readValue_le _ rest'').trans (size_le_of_eq_ok name key)
              · exact (Nat.sub_le _ _).trans (found.trans behind)
        · exact (Nat.sub_le _ _).trans start
      · have scalar := (octetsLeft_scanScalar_le (c :: rest)).trans start
        split
        · rename_i failed
          exact remaining_le_of_eq_error scalar failed
        · rename_i value rest' scanned
          have shorter := length_lt_of_scanScalar scanned
          exact (octetsLeft_resume_le frames value rest').trans (size_le_of_eq_ok scalar scanned)
termination_by text.length
decreasing_by
  all_goals
    simp only [List.length_cons] at *
    omega

/-- Going on behind a value leaves no more than what was left behind it. -/
theorem octetsLeft_resume_le (frames : List Frame) (value : Value) (text : List Char) :
    octetsLeft (resume frames value text) ≤ size text := by
  rw [resume.eq_def]
  split
  · exact Nat.le_refl _
  · split
    · exact Nat.zero_le _
    · rename_i c rest next
      have short := length_lt_of_dropBlanks_eq_cons next
      have start := size_le_of_dropBlanks_eq_cons next
      have behind := (size_lt_size_cons c rest).le.trans start
      split
      · exact (octetsLeft_resume_le _ _ rest).trans behind
      · split
        · split
          · exact Nat.zero_le _
          · rename_i second
            have found := size_le_of_dropBlanks_eq_cons second
            split
            · exact (Nat.sub_le _ _).trans (found.trans behind)
            · exact (octetsLeft_readValue_le _ rest).trans behind
        · exact (Nat.sub_le _ _).trans start
  · split
    · exact Nat.zero_le _
    · rename_i c rest next
      have short := length_lt_of_dropBlanks_eq_cons next
      have start := size_le_of_dropBlanks_eq_cons next
      have behind := (size_lt_size_cons c rest).le.trans start
      split
      · exact (octetsLeft_resume_le _ _ rest).trans behind
      · split
        · split
          · exact Nat.zero_le _
          · rename_i d rest' second
            have shorter := length_lt_of_dropBlanks_eq_cons second
            have found := (size_le_of_dropBlanks_eq_cons second).trans behind
            have further := (size_lt_size_cons d rest').le.trans found
            split
            · have name := (octetsLeft_scanKey_le rest').trans further
              split
              · rename_i failed
                exact remaining_le_of_eq_error name failed
              · rename_i rest'' key
                have shortest := length_lt_of_scanKey key
                exact (octetsLeft_readValue_le _ rest'').trans (size_le_of_eq_ok name key)
            · split <;> exact (Nat.sub_le _ _).trans found
        · exact (Nat.sub_le _ _).trans start
termination_by text.length
decreasing_by
  all_goals omega

end

/-! ## Whole texts -/

theorem octetsLeft_scanFound_le (text : List Char) : octetsLeft (scanFound text) ≤ size text := by
  unfold scanFound
  split
  · exact Nat.le_refl _
  · exact Nat.le_refl _
  · have scalar := octetsLeft_scanScalar_le text
    split
    · rename_i failed
      exact remaining_le_of_eq_error scalar failed
    all_goals
      rename_i scanned
      exact size_le_of_eq_ok scalar scanned

theorem remaining_wrongType_le (expected : String) (text : List Char) :
    (wrongType expected text).remaining ≤ size text := by
  unfold wrongType
  have found := octetsLeft_scanFound_le text
  split
  · rename_i failed
    exact remaining_le_of_eq_error found failed
  · rename_i scanned
    exact size_le_of_eq_ok found scanned

theorem remaining_le_of_finish
    {α : Type}
    {value : α}
    {rest : List Char}
    {failure : Failure}
    (failed : finish (value, rest) = .error failure) :
    failure.remaining ≤ size rest := by
  unfold finish at failed
  dsimp only at failed
  split at failed
  · cases failed
  · rename_i start
    cases failed
    exact (Nat.sub_le _ _).trans (size_le_of_dropBlanks_eq_cons start)

/-- A fault of an array lies in the text. -/
theorem remaining_le_of_readItems
    {text : List Char}
    {failure : Failure}
    (failed : readItems text = .error failure) :
    failure.remaining ≤ size text := by
  unfold readItems at failed
  split at failed
  · cases failed
    exact Nat.zero_le _
  · rename_i c rest opened
    have start := size_le_of_dropBlanks_eq_cons opened
    split at failed
    · have value := (octetsLeft_readValue_le [] (c :: rest)).trans start
      split at failed
      · rename_i unread
        cases failed
        exact remaining_le_of_eq_error value unread
      · rename_i whole
        exact (remaining_le_of_finish failed).trans (size_le_of_eq_ok value whole)
    · cases failed
      exact (remaining_wrongType_le _ _).trans start

/-- On a single line the place of a fault is the number of octets in front of it. -/
theorem Failure.locate_of_no_feed
    {text : List Char}
    (noFeed : '\n' ∉ text)
    (failure : Failure) :
    failure.locate text = ⟨failure.reason, ⟨1, size text - failure.remaining⟩⟩ := by
  rw [locate, Text.Position.after_of_no_feed noFeed (Nat.sub_le _ _)]

end ReviewQuery.Json
