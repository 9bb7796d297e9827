import ReviewQuery.Proofs.Json.ValueText

/-!
# What is decoded

Whatever a text holds, the value that is read from it lies within bounds: its integers have
sixty-four bits, no object has two members of one name, and it nests no deeper than the limit.  The
stack of open arrays and objects carries this from step to step: everything that has been collected
in a frame fits at the level of the frame.

A decoded value without doubles is therefore one of those that are known by their compact text.
-/

namespace ReviewQuery.Json

namespace Value

/-- A value as it is decoded: its integers have sixty-four bits, and its objects have no two members
of one name. -/
inductive IsDecoded : Value → Prop where
  | null : IsDecoded .null
  | bool (value : Bool) : IsDecoded (.bool value)
  | integer
      {value : Int}
      (lower : -9223372036854775808 ≤ value)
      (upper : value < 18446744073709551616) :
      IsDecoded (.number (.integer value))
  | double (value : Float) : IsDecoded (.number (.double value))
  | string (text : String) : IsDecoded (.string text)
  | array
      {items : List Value}
      (parts : ∀ item ∈ items, IsDecoded item) :
      IsDecoded (.array items)
  | object
      {members : List (String × Value)}
      (distinct : (members.map Prod.fst).Nodup)
      (parts : ∀ member ∈ members, IsDecoded member.2) :
      IsDecoded (.object members)

/-- A value in which every number is an integer. -/
inductive IsWhole : Value → Prop where
  | null : IsWhole .null
  | bool (value : Bool) : IsWhole (.bool value)
  | integer (value : Int) : IsWhole (.number (.integer value))
  | string (text : String) : IsWhole (.string text)
  | array
      {items : List Value}
      (parts : ∀ item ∈ items, IsWhole item) :
      IsWhole (.array items)
  | object
      {members : List (String × Value)}
      (parts : ∀ member ∈ members, IsWhole member.2) :
      IsWhole (.object members)

/-- A decoded value without doubles is known by its compact text. -/
theorem IsDecoded.isPlain
    {value : Value}
    (decoded : value.IsDecoded)
    (whole : value.IsWhole) :
    value.IsPlain := by
  induction value with
  | null => exact .null
  | bool value => exact .bool value
  | number value =>
      cases whole with
      | integer value =>
          cases decoded with
          | integer lower upper => exact .integer lower upper
  | string text => exact .string text
  | array items ih =>
      cases decoded with
      | array decodedItems =>
          cases whole with
          | array wholeItems =>
              exact .array fun item member =>
                ih item member (decodedItems item member) (wholeItems item member)
  | object members ih =>
      cases decoded with
      | object distinct decodedMembers =>
          cases whole with
          | object wholeMembers =>
              exact .object distinct fun part member =>
                ih part member (decodedMembers part member) (wholeMembers part member)

/-- A decoded value that may stand where `level` arrays and objects are open. -/
def FitsAt (level : Nat) (value : Value) : Prop :=
  value.IsDecoded ∧ level + value.depth ≤ nestingLimit

theorem fitsAt_array
    {level : Nat}
    (room : level < nestingLimit)
    {items : List Value}
    (parts : ∀ item ∈ items, item.FitsAt (level + 1)) :
    (Value.array items).FitsAt level := by
  refine ⟨.array fun item member => (parts item member).1, ?_⟩
  have inner : depthOfItems items ≤ nestingLimit - (level + 1) := by
    apply depthOfItems_le_iff.mpr
    intro item member
    have fits := (parts item member).2
    omega
  rw [depth]
  omega

theorem fitsAt_object
    {level : Nat}
    (room : level < nestingLimit)
    {members : Members}
    (distinct : (members.map Prod.fst).Nodup)
    (parts : ∀ member ∈ members, member.2.FitsAt (level + 1)) :
    (Value.object members).FitsAt level := by
  refine ⟨.object distinct fun part member => (parts part member).1, ?_⟩
  have inner : depthOfMembers members ≤ nestingLimit - (level + 1) := by
    apply depthOfMembers_le_iff.mpr
    intro part member
    have fits := (parts part member).2
    omega
  rw [depth]
  omega

theorem fitsAt_emptyObject
    {level : Nat}
    (room : level < nestingLimit) :
    (Value.object []).FitsAt level :=
  fitsAt_object room List.nodup_nil (List.forall_mem_nil _)

end Value

/-! ## Scalars -/

/-- The digits of a significand never go beyond sixty-four bits. -/
theorem absorb_lt
    {total : Nat}
    (small : total < 18446744073709551616)
    (digits : List Char) :
    (Literal.absorb total digits).1 < 18446744073709551616 := by
  induction digits generalizing total with
  | nil => exact small
  | cons c digits ih =>
      rw [Literal.absorb]
      split
      · rename_i next
        exact ih next
      · exact small

theorem isDecoded_wholeNumber
    (isNegative : Bool)
    {significand : Nat}
    (small : significand < 18446744073709551616) :
    (Value.number (Literal.wholeNumber isNegative significand)).IsDecoded := by
  unfold Literal.wholeNumber
  split_ifs with positive bounds
  · exact .integer (by omega) (by omega)
  · exact .integer (by omega) (by omega)
  · exact .double _

theorem isDecoded_scaled
    {isNegative : Bool}
    {significand : Nat}
    {exponent : Int}
    {number : Number}
    (scaled : Literal.scaled isNegative significand exponent = .ok number) :
    (Value.number number).IsDecoded := by
  unfold Literal.scaled at scaled
  split at scaled
  · cases scaled
    exact .double _
  · cases scaled

theorem isDecoded_withExponent
    {isNegative isSmall : Bool}
    {significand : Nat}
    {places : Int}
    {digits : List Char}
    {number : Number}
    (scaled : Literal.withExponent isNegative significand places isSmall digits = .ok number) :
    (Value.number number).IsDecoded := by
  unfold Literal.withExponent at scaled
  split at scaled
  · exact isDecoded_scaled scaled
  · split at scaled
    · cases scaled
    · cases scaled
      exact .double _

theorem isDecoded_value
    {literal : Literal}
    {number : Number}
    (valued : literal.value = .ok number) :
    (Value.number number).IsDecoded := by
  have small := absorb_lt (by decide : 0 < 18446744073709551616) literal.whole
  unfold Literal.value at valued
  dsimp only at valued
  split at valued
  · split at valued
    · cases valued
      exact isDecoded_wholeNumber literal.isNegative small
    · exact isDecoded_scaled valued
  · exact isDecoded_withExponent valued
  · split at valued
    · exact isDecoded_scaled valued
    · exact isDecoded_withExponent valued

theorem isDecoded_of_scanNumber
    {isNegative : Bool}
    {text rest : List Char}
    {number : Number}
    (scanned : scanNumber isNegative text = .ok (number, rest)) :
    (Value.number number).IsDecoded := by
  rcases bind_eq_ok_iff.mp scanned with ⟨⟨literal, behind⟩, _, valued⟩
  dsimp only at valued
  split at valued
  · rename_i value
    cases valued
    exact isDecoded_value value
  · cases valued

/-- Every scalar is decoded, and nothing nests in it. -/
theorem isDecoded_of_scanScalar
    {text rest : List Char}
    {value : Value}
    (scanned : scanScalar text = .ok (value, rest)) :
    value.IsDecoded ∧ value.depth = 0 := by
  unfold scanScalar at scanned
  split at scanned
  · cases scanned
  · split_ifs at scanned
    · rcases map_eq_ok_iff.mp scanned with ⟨_, _, same⟩
      cases same
      exact ⟨.null, rfl⟩
    · rcases map_eq_ok_iff.mp scanned with ⟨_, _, same⟩
      cases same
      exact ⟨.bool true, rfl⟩
    · rcases map_eq_ok_iff.mp scanned with ⟨_, _, same⟩
      cases same
      exact ⟨.bool false, rfl⟩
    · rcases map_eq_ok_iff.mp scanned with ⟨⟨chars, _⟩, _, same⟩
      cases same
      exact ⟨.string _, rfl⟩
    · rcases map_eq_ok_iff.mp scanned with ⟨⟨number, _⟩, read, same⟩
      cases same
      exact ⟨isDecoded_of_scanNumber read, rfl⟩
    · rcases map_eq_ok_iff.mp scanned with ⟨⟨number, _⟩, read, same⟩
      cases same
      exact ⟨isDecoded_of_scanNumber read, rfl⟩

/-! ## Members -/

theorem Members.mem_insert
    {name : String}
    {value : Value}
    {done : Members}
    {member : String × Value}
    (among : member ∈ Members.insert name value done) :
    member = (name, value) ∨ member ∈ done := by
  induction done with
  | nil => exact Or.inl (List.mem_singleton.mp among)
  | cons first rest ih =>
      rcases first with ⟨other, old⟩
      rw [Members.insert] at among
      split at among
      · rcases List.mem_cons.mp among with same | later
        · exact Or.inl same
        · exact Or.inr (List.mem_cons_of_mem _ later)
      · rcases List.mem_cons.mp among with same | later
        · exact Or.inr (same ▸ List.mem_cons_self)
        · rcases ih later with same | old
          · exact Or.inl same
          · exact Or.inr (List.mem_cons_of_mem _ old)

/-- A repeated name adds no name. -/
theorem Members.nodup_insert
    (name : String)
    (value : Value)
    {done : Members}
    (distinct : (done.map Prod.fst).Nodup) :
    ((Members.insert name value done).map Prod.fst).Nodup := by
  induction done with
  | nil => exact List.nodup_cons.mpr ⟨List.not_mem_nil, List.nodup_nil⟩
  | cons first rest ih =>
      rcases first with ⟨other, old⟩
      rw [List.map_cons, List.nodup_cons] at distinct
      rw [Members.insert]
      split
      · rename_i same
        rw [List.map_cons, List.nodup_cons, ← same]
        exact distinct
      · rename_i differs
        rw [List.map_cons, List.nodup_cons]
        refine ⟨?_, ih distinct.2⟩
        intro again
        rcases List.mem_map.mp again with ⟨member, among, same⟩
        rcases Members.mem_insert among with rfl | inRest
        · exact differs same.symm
        · exact distinct.1 (List.mem_map.mpr ⟨member, inRest, same⟩)

/-! ## The stack of open arrays and objects -/

/-- Everything collected in a frame fits where `level` arrays and objects are open. -/
def Frame.IsSound (level : Nat) : Frame → Prop
  | .array done => ∀ item ∈ done, item.FitsAt level
  | .object done _ => (done.map Prod.fst).Nodup ∧ ∀ member ∈ done, member.2.FitsAt level

/-- Every frame of a stack is sound, and there was room for it. -/
def AreSound : List Frame → Prop
  | [] => True
  | frame :: frames =>
    frames.length < nestingLimit ∧ frame.IsSound (frames.length + 1) ∧ AreSound frames

theorem AreSound.length_le
    {frames : List Frame}
    (sound : AreSound frames) :
    frames.length ≤ nestingLimit := by
  cases frames with
  | nil => exact Nat.zero_le _
  | cons frame frames => exact sound.1

section Stack

variable
  {frames : List Frame}
  {done : List Value}
  {members : Members}
  {name : String}
  {value : Value}

theorem AreSound.openArray (sound : AreSound frames) (room : frames.length < nestingLimit) :
    AreSound (.array [] :: frames) :=
  ⟨room, List.forall_mem_nil _, sound⟩

theorem AreSound.openObject
    (sound : AreSound frames)
    (room : frames.length < nestingLimit)
    (name : String) :
    AreSound (.object [] name :: frames) :=
  ⟨room, ⟨List.nodup_nil, List.forall_mem_nil _⟩, sound⟩

theorem AreSound.addItem
    (sound : AreSound (.array done :: frames))
    (fits : value.FitsAt (frames.length + 1)) :
    AreSound (.array (value :: done) :: frames) :=
  ⟨sound.1, List.forall_mem_cons.mpr ⟨fits, sound.2.1⟩, sound.2.2⟩

theorem AreSound.closeArray
    (sound : AreSound (.array done :: frames))
    (fits : value.FitsAt (frames.length + 1)) :
    (Value.array (value :: done).reverse).FitsAt frames.length := by
  apply Value.fitsAt_array sound.1
  intro item member
  exact (sound.addItem fits).2.1 item (List.mem_reverse.mp member)

theorem AreSound.addMember
    (sound : AreSound (.object members name :: frames))
    (fits : value.FitsAt (frames.length + 1))
    (next : String) :
    AreSound (.object (Members.insert name value members) next :: frames) := by
  refine ⟨sound.1, ⟨Members.nodup_insert name value sound.2.1.1, ?_⟩, sound.2.2⟩
  intro member among
  rcases Members.mem_insert among with rfl | old
  · exact fits
  · exact sound.2.1.2 member old

theorem AreSound.closeObject
    (sound : AreSound (.object members name :: frames))
    (fits : value.FitsAt (frames.length + 1)) :
    (Value.object (Members.insert name value members)).FitsAt frames.length :=
  have added := sound.addMember fits name
  Value.fitsAt_object sound.1 added.2.1.1 added.2.1.2

end Stack

/-! ## Values -/

mutual

/-- What is read inside sound frames fits at the outermost level. -/
theorem fitsAt_of_readValue
    (frames : List Frame)
    (text : List Char)
    (sound : AreSound frames)
    {value : Value}
    {rest : List Char}
    (read : readValue frames text = .ok (value, rest)) :
    value.FitsAt 0 := by
  rw [readValue] at read
  split at read
  · cases read
  · rename_i c tail opened
    have short := length_lt_of_dropBlanks_eq_cons opened
    split at read
    · split at read
      · rename_i room
        split at read
        · cases read
        · rename_i first
          have shorter := length_lt_of_dropBlanks_eq_cons first
          split at read
          · exact fitsAt_of_resume _ _ _ sound
              (Value.fitsAt_array room (List.forall_mem_nil _)) read
          · exact fitsAt_of_readValue _ _ (sound.openArray room) read
      · cases read
    · split at read
      · split at read
        · rename_i room
          split at read
          · cases read
          · rename_i first
            have shorter := length_lt_of_dropBlanks_eq_cons first
            split at read
            · exact fitsAt_of_resume _ _ _ sound
                (Value.fitsAt_emptyObject room) read
            · split at read
              · split at read
                · cases read
                · rename_i key
                  have shortest := length_lt_of_scanKey key
                  exact fitsAt_of_readValue _ _ (sound.openObject room _) read
              · cases read
        · cases read
      · split at read
        · cases read
        · rename_i scanned
          have shorter := length_lt_of_scanScalar scanned
          rcases isDecoded_of_scanScalar scanned with ⟨decoded, flat⟩
          refine fitsAt_of_resume _ _ _ sound ⟨decoded, ?_⟩ read
          rw [flat]
          exact sound.length_le
termination_by text.length
decreasing_by
  all_goals
    simp only [List.length_cons] at *
    omega

/-- Behind a value that fits, the value that is completed at last fits at the outermost level. -/
theorem fitsAt_of_resume
    (frames : List Frame)
    (value : Value)
    (text : List Char)
    (sound : AreSound frames)
    (fits : value.FitsAt frames.length)
    {result : Value}
    {rest : List Char}
    (read : resume frames value text = .ok (result, rest)) :
    result.FitsAt 0 := by
  rw [resume.eq_def] at read
  split at read
  · cases read
    exact fits
  · split at read
    · cases read
    · rename_i next
      have short := length_lt_of_dropBlanks_eq_cons next
      split at read
      · exact fitsAt_of_resume _ _ _ sound.2.2 (sound.closeArray fits) read
      · split at read
        · split at read
          · cases read
          · split at read
            · cases read
            · exact fitsAt_of_readValue _ _ (sound.addItem fits) read
        · cases read
  · split at read
    · cases read
    · rename_i next
      have short := length_lt_of_dropBlanks_eq_cons next
      split at read
      · exact fitsAt_of_resume _ _ _ sound.2.2 (sound.closeObject fits) read
      · split at read
        · split at read
          · cases read
          · rename_i second
            have shorter := length_lt_of_dropBlanks_eq_cons second
            split at read
            · split at read
              · cases read
              · rename_i key
                have shortest := length_lt_of_scanKey key
                exact fitsAt_of_readValue _ _ (sound.addMember fits _) read
            · split at read <;> cases read
        · cases read
termination_by text.length
decreasing_by
  all_goals omega

end

/-! ## Items of an array -/

/-- The parts of a value that fits fit one level further in. -/
theorem Value.FitsAt.items
    {level : Nat}
    {value : Value}
    (fits : value.FitsAt level) :
    ∀ item ∈ value.items, item.FitsAt (level + 1) := by
  intro item member
  rcases fits with ⟨decoded, shallow⟩
  cases decoded with
  | array parts =>
      have inner := Value.depthOfItems_le_iff.mp (Nat.le_refl _) item member
      rw [Value.depth] at shallow
      rw [Value.items] at inner
      exact ⟨parts item member, by omega⟩
  | null | bool | integer | double | string | object => cases member

theorem eq_of_finish
    {α : Type}
    {reading : Reading α}
    {value : α}
    (finished : finish reading = .ok value) :
    reading.1 = value := by
  rcases reading with ⟨found, rest⟩
  unfold finish at finished
  dsimp only at finished
  split at finished
  · exact Except.ok.inj finished
  · cases finished

/-- The items that are decoded fit inside the array around them. -/
theorem fitsAt_of_decodeItems
    {text : String}
    {items : List Value}
    (decoded : decodeItems text = .ok items) :
    ∀ item ∈ items, item.FitsAt 1 := by
  have read := mapError_eq_ok_iff.mp decoded
  unfold readItems at read
  split at read
  · cases read
  · split at read
    · split at read
      · cases read
      · rename_i value rest whole
        rw [← eq_of_finish read]
        exact (fitsAt_of_readValue [] _ trivial whole).items
    · cases read

end ReviewQuery.Json
