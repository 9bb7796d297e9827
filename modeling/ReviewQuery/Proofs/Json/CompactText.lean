import Mathlib.Tactic.SplitIfs
import ReviewQuery.Json.Scalar

/-!
# What compact JSON text looks like

A value is taken apart by one induction principle, `Value.induct`, whose cases for arrays and
objects speak about their parts.  It shows that compact text holds graphic characters only: strings
escape the controls, and everything else is written without them.  Compact text therefore stays on
one line, whatever strings it holds.
-/

namespace ReviewQuery.Json

/-! ## Induction on values -/

/-- Induction on a value, in which the parts of arrays and objects come with their hypothesis. -/
@[induction_eliminator]
theorem Value.induct
    {motive : Value → Prop}
    (null : motive .null)
    (bool : ∀ value, motive (.bool value))
    (number : ∀ value, motive (.number value))
    (string : ∀ text, motive (.string text))
    (array : ∀ items, (∀ item ∈ items, motive item) → motive (.array items))
    (object : ∀ members : Members,
      (∀ member ∈ members, motive member.2) → motive (.object members))
    (value : Value) : motive value := by
  refine @Value.rec motive
    (fun items => ∀ item ∈ items, motive item)
    (fun members => ∀ member ∈ members, motive member.2)
    (fun member => motive member.2)
    null bool number string array object ?noItem ?firstItem ?noMember ?firstMember
    (fun _ _ part => part) value
  · intro item member
    cases member
  · intro first rest firstPart restParts item member
    rcases List.mem_cons.mp member with same | later
    · exact same ▸ firstPart
    · exact restParts item later
  · intro item member
    cases member
  · intro first rest firstPart restParts item member
    rcases List.mem_cons.mp member with same | later
    · exact same ▸ firstPart
    · exact restParts item later

/-! ## Graphic characters -/

/-- Whether a character is no control, and so ends no line. -/
def isGraphic (c : Char) : Bool :=
  0x20 ≤ c.toNat

theorem isGraphic_of_isDigit {c : Char} (digit : c.isDigit = true) : isGraphic c = true := by
  simp only [Char.isDigit, Bool.and_eq_true, decide_eq_true_eq] at digit
  have lower : 48 ≤ c.toNat := digit.1
  simp only [isGraphic, decide_eq_true_eq]
  omega

theorem isGraphic_lower (value : Nat) (small : value < 16) :
    isGraphic (Text.Hexadecimal.lower value) = true := by
  revert value
  decide

/-! ## Characters inside a string -/

/-- The three forms in which a character stands inside a string: behind a backslash, as a letter or
as the digits of its code, or as itself. -/
inductive EscapeForm (c : Char) : Prop where
  | letter
      {letter : Char}
      (written : escapeChar c = ['\\', letter])
      (stands : simpleEscape? letter = some c)
  | digits
      (written : escapeChar c = ['\\', 'u', '0', '0', Text.Hexadecimal.lower (c.toNat / 16),
        Text.Hexadecimal.lower (c.toNat % 16)])
      (control : c.toNat < 0x20)
  | plain
      (written : escapeChar c = [c])
      (notQuote : c ≠ '"')
      (notBackslash : c ≠ '\\')
      (graphic : ¬ c.toNat < 0x20)

/-- The table of escapes has no other form. -/
theorem escapeForm (c : Char) : EscapeForm c := by
  obtain ⟨written, same⟩ : ∃ written, escapeChar c = written := ⟨_, rfl⟩
  have table := same
  unfold escapeChar at table
  split_ifs at table with quote backslash _ _ _ _ _ control
  iterate 7
    · subst c
      exact .letter (same.trans table.symm) rfl
  · exact .digits (same.trans table.symm) control
  · exact .plain (same.trans table.symm) quote backslash control

/-- The letter of an escape with digits stands for nothing by itself. -/
theorem ne_of_simpleEscape?
    {letter c : Char}
    (stands : simpleEscape? letter = some c) :
    letter ≠ 'u' := by
  rintro rfl
  cases stands

theorem isGraphic_of_simpleEscape?
    {letter c : Char}
    (stands : simpleEscape? letter = some c) :
    isGraphic letter = true := by
  unfold simpleEscape? at stands
  split_ifs at stands <;> (subst letter; rfl)

theorem isGraphic_of_mem_escapeChar
    {c d : Char}
    (member : d ∈ escapeChar c) :
    isGraphic d = true := by
  cases escapeForm c with
  | letter written stands =>
      simp only [written, List.mem_cons, List.not_mem_nil, or_false] at member
      rcases member with rfl | rfl
      · rfl
      · exact isGraphic_of_simpleEscape? stands
  | digits written control =>
      have high : c.toNat / 16 < 16 := by omega
      have low : c.toNat % 16 < 16 := by omega
      simp only [written, List.mem_cons, List.not_mem_nil, or_false] at member
      rcases member with rfl | rfl | rfl | rfl | rfl | rfl
      · rfl
      · rfl
      · rfl
      · rfl
      · exact isGraphic_lower _ high
      · exact isGraphic_lower _ low
  | plain written notQuote notBackslash graphic =>
      rw [written] at member
      cases List.mem_singleton.mp member
      simpa [isGraphic] using graphic

/-- A quoted string holds no control, whatever its text holds. -/
theorem isGraphic_of_mem_renderString
    {text : String}
    {c : Char}
    (member : c ∈ renderString text) :
    isGraphic c = true := by
  simp only [renderString, List.cons_append, List.mem_cons, List.mem_append, List.mem_flatMap,
    List.not_mem_nil, or_false] at member
  rcases member with rfl | ⟨d, _, inside⟩ | rfl
  · rfl
  · exact isGraphic_of_mem_escapeChar inside
  · rfl

/-! ## Graphic text of numbers -/

namespace Number

theorem isDigit_of_mem_digits
    {n : Nat}
    {c : Char}
    (member : c ∈ digits n) :
    c.isDigit = true :=
  Nat.isDigit_of_mem_toDigits (by decide) (by decide) member

theorem isGraphic_of_mem_digits
    {n : Nat}
    {c : Char}
    (member : c ∈ digits n) :
    isGraphic c = true :=
  isGraphic_of_isDigit (isDigit_of_mem_digits member)

theorem isGraphic_of_mem_renderInteger
    {value : Int}
    {c : Char}
    (member : c ∈ renderInteger value) :
    isGraphic c = true := by
  unfold renderInteger at member
  split at member
  · rcases List.mem_cons.mp member with rfl | digit
    · rfl
    · exact isGraphic_of_mem_digits digit
  · exact isGraphic_of_mem_digits member

theorem isGraphic_of_mem_renderPositional
    {number : Decimal.Numeral}
    {c : Char}
    (member : c ∈ renderPositional number) :
    isGraphic c = true := by
  unfold renderPositional at member
  dsimp only at member
  split_ifs at member
  · simp only [List.mem_append, List.mem_replicate, List.mem_cons, List.not_mem_nil,
      or_false] at member
    rcases member with (digit | ⟨_, rfl⟩) | rfl | rfl
    · exact isGraphic_of_mem_digits digit
    · rfl
    · rfl
    · rfl
  · simp only [List.mem_append, List.mem_singleton] at member
    rcases member with (digit | rfl) | digit
    · exact isGraphic_of_mem_digits (List.mem_of_mem_take digit)
    · rfl
    · exact isGraphic_of_mem_digits (List.mem_of_mem_drop digit)
  · simp only [List.mem_append, List.mem_replicate, List.mem_cons, List.not_mem_nil,
      or_false] at member
    rcases member with ((rfl | rfl) | ⟨_, rfl⟩) | digit
    · rfl
    · rfl
    · rfl
    · exact isGraphic_of_mem_digits digit

theorem isGraphic_of_mem_renderScientific
    {number : Decimal.Numeral}
    {c : Char}
    (member : c ∈ renderScientific number) :
    isGraphic c = true := by
  simp only [renderScientific, List.mem_append, List.mem_cons, List.not_mem_nil, or_false] at member
  rcases member with ((digit | fraction) | rfl | sign) | digit
  · exact isGraphic_of_mem_digits (List.mem_of_mem_take digit)
  · split at fraction
    · cases fraction
    · rcases List.mem_cons.mp fraction with rfl | digit
      · rfl
      · exact isGraphic_of_mem_digits (List.mem_of_mem_drop digit)
  · rfl
  · split at sign <;> subst sign <;> rfl
  · exact isGraphic_of_mem_digits digit

theorem isGraphic_of_mem_renderDouble
    {x : Float}
    {c : Char}
    (member : c ∈ renderDouble x) :
    isGraphic c = true := by
  have graphicSign (sign : c ∈ if Decimal.Double.isNegative x then ['-'] else []) :
      isGraphic c = true := by
    split at sign
    · cases List.mem_singleton.mp sign
      rfl
    · cases sign
  unfold renderDouble at member
  dsimp only at member
  split at member
  · simp only [List.mem_cons, List.not_mem_nil, or_false] at member
    rcases member with rfl | rfl | rfl | rfl <;> rfl
  · split at member
    · rcases List.mem_append.mp member with sign | zero
      · exact graphicSign sign
      · simp only [List.mem_cons, List.not_mem_nil, or_false] at zero
        rcases zero with rfl | rfl | rfl <;> rfl
    · rcases List.mem_append.mp member with sign | magnitude
      · exact graphicSign sign
      · unfold renderMagnitude at magnitude
        dsimp only at magnitude
        split at magnitude
        · exact isGraphic_of_mem_renderPositional magnitude
        · exact isGraphic_of_mem_renderScientific magnitude

theorem isGraphic_of_mem_render
    {number : Number}
    {c : Char}
    (member : c ∈ number.render) :
    isGraphic c = true := by
  cases number with
  | integer value =>
      exact isGraphic_of_mem_renderInteger member
  | double value =>
      exact isGraphic_of_mem_renderDouble member

end Number

/-! ## Graphic text of values -/

namespace Value

/-- The text of some items is their texts with commas between them. -/
theorem renderItems_eq_intercalate (items : List Value) :
    renderItems items = [','].intercalate (items.map render) := by
  induction items with
  | nil => rfl
  | cons first rest ih =>
      cases rest with
      | nil => simp [renderItems]
      | cons second others =>
          rw [renderItems, ih]
          · simp [List.intercalate]
          · exact List.cons_ne_nil second others

/-- What stands in the text of some items is a comma or stands in the text of one of them. -/
theorem mem_renderItems
    {items : List Value}
    {c : Char}
    (member : c ∈ renderItems items) :
    c = ',' ∨ ∃ item ∈ items, c ∈ item.render := by
  induction items with
  | nil => cases member
  | cons first rest ih =>
      cases rest with
      | nil => exact Or.inr ⟨first, List.mem_singleton_self first, member⟩
      | cons second others =>
          simp only [renderItems, List.mem_append, List.mem_cons] at member
          rcases member with inFirst | comma | later
          · exact Or.inr ⟨first, List.mem_cons_self, inFirst⟩
          · exact Or.inl comma
          · rcases ih later with comma | ⟨item, among, inside⟩
            · exact Or.inl comma
            · exact Or.inr ⟨item, List.mem_cons_of_mem first among, inside⟩

/-- What stands in the text of some members is a mark between them or stands in the name or the
value of one of them. -/
theorem mem_renderMembers
    {members : Members}
    {c : Char}
    (member : c ∈ renderMembers members) :
    c = ',' ∨ c = ':' ∨
      ∃ part ∈ members, c ∈ renderString part.1 ∨ c ∈ part.2.render := by
  induction members with
  | nil => cases member
  | cons first rest ih =>
      rcases first with ⟨name, value⟩
      have ofFirst (inside : c ∈ renderString name ∨ c ∈ value.render) :
          c = ',' ∨ c = ':' ∨
            ∃ part ∈ (name, value) :: rest, c ∈ renderString part.1 ∨ c ∈ part.2.render :=
        Or.inr (Or.inr ⟨(name, value), List.mem_cons_self, inside⟩)
      cases rest with
      | nil =>
          simp only [renderMembers, List.mem_append, List.mem_cons] at member
          rcases member with inName | colon | inValue
          · exact ofFirst (Or.inl inName)
          · exact Or.inr (Or.inl colon)
          · exact ofFirst (Or.inr inValue)
      | cons second others =>
          simp only [renderMembers, List.mem_append, List.mem_cons] at member
          rcases member with (inName | colon | inValue) | comma | later
          · exact ofFirst (Or.inl inName)
          · exact Or.inr (Or.inl colon)
          · exact ofFirst (Or.inr inValue)
          · exact Or.inl comma
          · rcases ih later with comma | colon | ⟨part, among, inside⟩
            · exact Or.inl comma
            · exact Or.inr (Or.inl colon)
            · exact Or.inr (Or.inr ⟨part, List.mem_cons_of_mem _ among, inside⟩)

/-- Compact text holds no control. -/
theorem isGraphic_of_mem_render
    {value : Value}
    {c : Char}
    (member : c ∈ value.render) :
    isGraphic c = true := by
  induction value with
  | null =>
      simp only [render, List.mem_cons, List.not_mem_nil, or_false] at member
      rcases member with rfl | rfl | rfl | rfl <;> rfl
  | bool value =>
      cases value <;> simp only [render, List.mem_cons, List.not_mem_nil, or_false] at member
      · rcases member with rfl | rfl | rfl | rfl | rfl <;> rfl
      · rcases member with rfl | rfl | rfl | rfl <;> rfl
  | number value =>
      exact Number.isGraphic_of_mem_render member
  | string text =>
      exact isGraphic_of_mem_renderString member
  | array items ih =>
      simp only [render, List.cons_append, List.mem_cons, List.mem_append, List.not_mem_nil,
        or_false] at member
      rcases member with rfl | inItems | rfl
      · rfl
      · rcases mem_renderItems inItems with rfl | ⟨item, among, inside⟩
        · rfl
        · exact ih item among inside
      · rfl
  | object members ih =>
      simp only [render, List.cons_append, List.mem_cons, List.mem_append, List.not_mem_nil,
        or_false] at member
      rcases member with rfl | inMembers | rfl
      · rfl
      · rcases mem_renderMembers inMembers with rfl | rfl | ⟨part, among, inName | inValue⟩
        · rfl
        · rfl
        · exact isGraphic_of_mem_renderString inName
        · exact ih part among inValue
      · rfl

end Value

end ReviewQuery.Json
