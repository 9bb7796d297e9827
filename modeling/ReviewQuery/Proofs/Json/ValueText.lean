import ReviewQuery.Proofs.Json.ReaderSteps

/-!
# Reading back values

`Value.IsPlain` singles out the values that are known by their compact text: their numbers are
integers of sixty-four bits and no object has two members of one name.  The text of such a value is
read back as the value itself, with the order of its members, as long as the arrays and objects
around it and inside it stay within the nesting limit.  One level more and the text is refused.

An induction on the items of an array, one on the members of an object, and one on values put the
single steps of the reader together.
-/

namespace ReviewQuery.Json

namespace Value

/-- A value whose numbers are integers of sixty-four bits and whose objects have no two members of
one name. -/
inductive IsPlain : Value → Prop where
  | null : IsPlain .null
  | bool (value : Bool) : IsPlain (.bool value)
  | integer
      {value : Int}
      (lower : -9223372036854775808 ≤ value)
      (upper : value < 18446744073709551616) :
      IsPlain (.number (.integer value))
  | string (text : String) : IsPlain (.string text)
  | array
      {items : List Value}
      (parts : ∀ item ∈ items, IsPlain item) :
      IsPlain (.array items)
  | object
      {members : List (String × Value)}
      (distinct : (members.map Prod.fst).Nodup)
      (parts : ∀ member ∈ members, IsPlain member.2) :
      IsPlain (.object members)

mutual

/-- The greatest number of arrays and objects in a value that lie inside one another. -/
def depth : Value → Nat
  | .array items => 1 + depthOfItems items
  | .object members => 1 + depthOfMembers members
  | .null | .bool _ | .number _ | .string _ => 0

/-- The greatest depth of some items. -/
def depthOfItems : List Value → Nat
  | [] => 0
  | item :: rest => max (depth item) (depthOfItems rest)

/-- The greatest depth of the values of some members. -/
def depthOfMembers : List (String × Value) → Nat
  | [] => 0
  | (_, item) :: rest => max (depth item) (depthOfMembers rest)

end

/-- The text of a plain value starts neither with a blank nor with a closing bracket. -/
theorem IsPlain.render_eq_cons
    {value : Value}
    (plain : value.IsPlain) :
    ∃ c rest, value.render = c :: rest ∧ isBlank c = false ∧ c ≠ ']' := by
  cases plain with
  | null => exact ⟨'n', _, rfl, rfl, by decide⟩
  | bool value =>
      cases value with
      | false => exact ⟨'f', _, rfl, rfl, by decide⟩
      | true => exact ⟨'t', _, rfl, rfl, by decide⟩
  | @integer value lower upper =>
      simp only [render, Number.render, Number.renderInteger]
      split
      · exact ⟨'-', _, rfl, rfl, by decide⟩
      · cases shown : Number.digits value.natAbs with
        | nil => exact absurd shown Nat.toDigits_ne_nil
        | cons d others =>
            have digit : d.isDigit = true :=
              Number.isDigit_of_mem_digits (n := value.natAbs)
                (by rw [shown]; exact List.mem_cons_self)
            refine ⟨d, others, rfl, isBlank_of_isDigit digit, ?_⟩
            rintro rfl
            cases digit
  | string text => exact ⟨'"', _, rfl, rfl, by decide⟩
  | array parts => exact ⟨'[', _, rfl, rfl, by decide⟩
  | object distinct parts => exact ⟨'\x7b', _, rfl, rfl, by decide⟩

/-! ## Items and members one after another -/

/-- What follows the first of some items. -/
def itemsTail : List Value → List Char
  | [] => []
  | item :: rest => ',' :: renderItems (item :: rest)

theorem renderItems_cons (item : Value) (rest : List Value) :
    renderItems (item :: rest) = item.render ++ itemsTail rest := by
  cases rest with
  | nil => exact (List.append_nil _).symm
  | cons second others => rfl

/-- What follows the first of some members. -/
def membersTail : List (String × Value) → List Char
  | [] => []
  | member :: rest => ',' :: renderMembers (member :: rest)

theorem renderMembers_cons (name : String) (item : Value) (rest : List (String × Value)) :
    renderMembers ((name, item) :: rest) =
      renderString name ++ ':' :: (item.render ++ membersTail rest) := by
  cases rest with
  | nil => rw [renderMembers, membersTail, List.append_nil]
  | cons second others =>
      rw [renderMembers, membersTail, List.append_assoc, List.cons_append]
      exact List.cons_ne_nil second others

theorem depthOfItems_le_iff {items : List Value} {bound : Nat} :
    depthOfItems items ≤ bound ↔ ∀ item ∈ items, item.depth ≤ bound := by
  induction items with
  | nil => simp [depthOfItems]
  | cons first rest ih => rw [depthOfItems, Nat.max_le, ih, List.forall_mem_cons]

theorem depthOfMembers_le_iff {members : Members} {bound : Nat} :
    depthOfMembers members ≤ bound ↔ ∀ member ∈ members, member.2.depth ≤ bound := by
  induction members with
  | nil => simp [depthOfMembers]
  | cons first rest ih => rw [depthOfMembers, Nat.max_le, ih, List.forall_mem_cons]

/-- A value whose text is read back as the value wherever `level` arrays and objects are open. -/
def ReadsBackAt (level : Nat) (value : Value) : Prop :=
  ∀ (frames : List Frame) (rest : List Char),
    frames.length = level → EndsNumber rest →
      readValue frames (value.render ++ rest) = resume frames value rest

/-- A value whose text is refused for its nesting wherever `level` arrays and objects are open. -/
def IsTooDeepAt (level : Nat) (value : Value) : Prop :=
  ∀ (frames : List Frame) (rest : List Char),
    frames.length = level → EndsNumber rest →
      ∃ remaining, readValue frames (value.render ++ rest) = .error ⟨.tooDeep, remaining⟩

theorem endsNumber_cons
    {c : Char}
    (mark : c = ',' ∨ c = ']' ∨ c = '\x7d')
    (rest : List Char) :
    EndsNumber (c :: rest) := by
  intro d first
  cases first
  rcases mark with rfl | rfl | rfl <;> decide

theorem endsNumber_itemsTail (others : List Value) (rest : List Char) :
    EndsNumber (itemsTail others ++ ']' :: rest) := by
  cases others with
  | nil => exact endsNumber_cons (Or.inr (Or.inl rfl)) rest
  | cons second others => exact endsNumber_cons (Or.inl rfl) _

theorem endsNumber_membersTail (others : Members) (rest : List Char) :
    EndsNumber (membersTail others ++ '\x7d' :: rest) := by
  cases others with
  | nil => exact endsNumber_cons (Or.inr (Or.inr rfl)) rest
  | cons second others => exact endsNumber_cons (Or.inl rfl) _

/-- Behind an item the reader goes on with the next one. -/
theorem resume_itemsTail
    (frames : List Frame)
    (done : List Value)
    (value second : Value)
    (plain : second.IsPlain)
    (others : List Value)
    (rest : List Char) :
    resume (.array done :: frames) value (itemsTail (second :: others) ++ rest) =
      readValue (.array (value :: done) :: frames) (renderItems (second :: others) ++ rest) := by
  rcases plain.render_eq_cons with ⟨c, tail, shown, noBlank, noEnd⟩
  rw [itemsTail, renderItems_cons, shown]
  exact resume_nextItem frames done value noBlank noEnd _

/-- Items that are read back one by one are read back together. -/
theorem readValue_renderItems
    {frames : List Frame}
    {first : Value}
    {others : List Value}
    (plain : ∀ item ∈ first :: others, item.IsPlain)
    (parts : ∀ item ∈ first :: others, item.ReadsBackAt (frames.length + 1))
    (done : List Value)
    (rest : List Char) :
    readValue (.array done :: frames) (renderItems (first :: others) ++ ']' :: rest) =
      resume frames (.array (done.reverse ++ first :: others)) rest := by
  induction others generalizing first done with
  | nil =>
      have head := parts first List.mem_cons_self (.array done :: frames) (']' :: rest) rfl
        (endsNumber_itemsTail [] rest)
      rw [renderItems, head, resume_closeArray, List.reverse_cons]
  | cons second others ih =>
      have head := parts first List.mem_cons_self (.array done :: frames)
        (itemsTail (second :: others) ++ ']' :: rest) rfl (endsNumber_itemsTail _ rest)
      have tail := ih (fun item member => plain item (List.mem_cons_of_mem first member))
        (fun item member => parts item (List.mem_cons_of_mem first member)) (first :: done)
      have secondPlain := plain second (List.mem_cons_of_mem first List.mem_cons_self)
      rw [renderItems_cons, List.append_assoc, head,
        resume_itemsTail frames done first second secondPlain, tail, List.reverse_cons,
        List.append_assoc, List.singleton_append]

/-- Items are refused for the nesting of the first one that is too deep. -/
theorem readValue_renderItems_tooDeep
    {frames : List Frame}
    {first : Value}
    {others : List Value}
    (plain : ∀ item ∈ first :: others, item.IsPlain)
    (parts : ∀ item ∈ first :: others,
      item.ReadsBackAt (frames.length + 1) ∨ item.IsTooDeepAt (frames.length + 1))
    (deep : ∃ item ∈ first :: others, item.IsTooDeepAt (frames.length + 1))
    (done : List Value)
    (rest : List Char) :
    ∃ remaining,
      readValue (.array done :: frames) (renderItems (first :: others) ++ ']' :: rest) =
        .error ⟨.tooDeep, remaining⟩ := by
  rcases deep with ⟨item, among, tooDeep⟩
  induction others generalizing first done with
  | nil =>
      cases List.mem_singleton.mp among
      exact tooDeep (.array done :: frames) (']' :: rest) rfl (endsNumber_itemsTail [] rest)
  | cons second others ih =>
      rw [renderItems_cons, List.append_assoc]
      rcases List.mem_cons.mp among with rfl | later
      · exact tooDeep (.array done :: frames) _ rfl (endsNumber_itemsTail _ rest)
      rcases parts first List.mem_cons_self with readsBack | firstTooDeep
      · have head := readsBack (.array done :: frames)
          (itemsTail (second :: others) ++ ']' :: rest) rfl (endsNumber_itemsTail _ rest)
        have secondPlain := plain second (List.mem_cons_of_mem first List.mem_cons_self)
        rw [head, resume_itemsTail frames done first second secondPlain]
        exact ih (fun item member => plain item (List.mem_cons_of_mem first member))
          (fun item member => parts item (List.mem_cons_of_mem first member)) (first :: done) later
      · exact firstTooDeep (.array done :: frames) _ rfl (endsNumber_itemsTail _ rest)

/-- Behind a member the reader goes on with the value of the next one. -/
theorem resume_membersTail
    (frames : List Frame)
    (done : Members)
    (name : String)
    (value : Value)
    (next : String)
    (second : Value)
    (others : Members)
    (rest : List Char) :
    resume (.object done name :: frames) value (membersTail ((next, second) :: others) ++ rest) =
      readValue (.object (Members.insert name value done) next :: frames)
        (second.render ++ (membersTail others ++ rest)) := by
  obtain ⟨body, shown, scanned⟩ :=
    scanKey_renderString next (second.render ++ (membersTail others ++ rest))
  rw [membersTail, renderMembers_cons, shown]
  simp only [List.cons_append, List.append_assoc]
  exact resume_nextMember frames done name value scanned

theorem not_mem_of_nodup_append_cons
    {done others : Members}
    {name : String}
    {value : Value}
    (distinct : ((done ++ (name, value) :: others).map Prod.fst).Nodup) :
    name ∉ done.map Prod.fst := by
  rw [List.map_append, List.map_cons, List.nodup_append] at distinct
  intro member
  exact distinct.2.2 name member name List.mem_cons_self rfl

/-- Members that are read back one by one are read back together, in their order. -/
theorem readValue_renderMembers
    {frames : List Frame}
    {name : String}
    {value : Value}
    {others : Members}
    (parts : ∀ member ∈ (name, value) :: others, member.2.ReadsBackAt (frames.length + 1))
    {done : Members}
    (distinct : ((done ++ (name, value) :: others).map Prod.fst).Nodup)
    (rest : List Char) :
    readValue (.object done name :: frames)
        (value.render ++ (membersTail others ++ '\x7d' :: rest)) =
      resume frames (.object (done ++ (name, value) :: others)) rest := by
  induction others generalizing name value done with
  | nil =>
      have head := parts (name, value) List.mem_cons_self (.object done name :: frames)
        ('\x7d' :: rest) rfl (endsNumber_membersTail [] rest)
      have fresh := not_mem_of_nodup_append_cons distinct
      rw [membersTail, List.nil_append, head, resume_closeObject,
        Members.insert_of_not_mem fresh]
  | cons second others ih =>
      rcases second with ⟨next, item⟩
      have head := parts (name, value) List.mem_cons_self (.object done name :: frames)
        (membersTail ((next, item) :: others) ++ '\x7d' :: rest) rfl
        (endsNumber_membersTail _ rest)
      have fresh := not_mem_of_nodup_append_cons distinct
      have moved :
          done ++ (name, value) :: (next, item) :: others =
            (done ++ [(name, value)]) ++ (next, item) :: others := by
        rw [List.append_assoc, List.singleton_append]
      rw [moved] at distinct ⊢
      rw [head, resume_membersTail, Members.insert_of_not_mem fresh]
      exact ih (fun member among => parts member (List.mem_cons_of_mem _ among)) distinct

/-- Members are refused for the nesting of the first one that is too deep. -/
theorem readValue_renderMembers_tooDeep
    {frames : List Frame}
    {name : String}
    {value : Value}
    {others : Members}
    (parts : ∀ member ∈ (name, value) :: others,
      member.2.ReadsBackAt (frames.length + 1) ∨ member.2.IsTooDeepAt (frames.length + 1))
    (deep : ∃ member ∈ (name, value) :: others, member.2.IsTooDeepAt (frames.length + 1))
    (done : Members)
    (rest : List Char) :
    ∃ remaining,
      readValue (.object done name :: frames)
          (value.render ++ (membersTail others ++ '\x7d' :: rest)) =
        .error ⟨.tooDeep, remaining⟩ := by
  rcases deep with ⟨member, among, tooDeep⟩
  induction others generalizing name value done with
  | nil =>
      cases List.mem_singleton.mp among
      exact tooDeep (.object done name :: frames) _ rfl (endsNumber_membersTail [] rest)
  | cons second others ih =>
      rcases second with ⟨next, item⟩
      rcases List.mem_cons.mp among with rfl | later
      · exact tooDeep (.object done name :: frames) _ rfl (endsNumber_membersTail _ rest)
      rcases parts (name, value) List.mem_cons_self with readsBack | firstTooDeep
      · have head := readsBack (.object done name :: frames)
          (membersTail ((next, item) :: others) ++ '\x7d' :: rest) rfl
          (endsNumber_membersTail _ rest)
        rw [head, resume_membersTail]
        exact ih (fun member among => parts member (List.mem_cons_of_mem _ among)) _ later
      · exact firstTooDeep (.object done name :: frames) _ rfl (endsNumber_membersTail _ rest)

/-! ## Values -/

theorem readsBackAt_array
    {level : Nat}
    (room : level < nestingLimit)
    {items : List Value}
    (plain : ∀ item ∈ items, item.IsPlain)
    (parts : ∀ item ∈ items, item.ReadsBackAt (level + 1)) :
    (Value.array items).ReadsBackAt level := by
  rintro frames rest rfl _
  rw [render, List.cons_append, List.cons_append, List.append_assoc, List.singleton_append]
  cases items with
  | nil => exact readValue_emptyArray room rest
  | cons first others =>
      rcases (plain first List.mem_cons_self).render_eq_cons with ⟨c, tail, shown, noBlank, noEnd⟩
      have inside := readValue_renderItems plain parts [] rest
      rw [renderItems_cons, shown] at inside ⊢
      exact (readValue_openArray room noBlank noEnd _).trans inside

theorem isTooDeepAt_array
    {level : Nat}
    (room : level < nestingLimit)
    {items : List Value}
    (plain : ∀ item ∈ items, item.IsPlain)
    (parts : ∀ item ∈ items,
      item.ReadsBackAt (level + 1) ∨ item.IsTooDeepAt (level + 1))
    (deep : ∃ item ∈ items, item.IsTooDeepAt (level + 1)) :
    (Value.array items).IsTooDeepAt level := by
  rintro frames rest rfl _
  rw [render, List.cons_append, List.cons_append, List.append_assoc, List.singleton_append]
  cases items with
  | nil =>
      rcases deep with ⟨item, among, _⟩
      cases among
  | cons first others =>
      rcases (plain first List.mem_cons_self).render_eq_cons with ⟨c, tail, shown, noBlank, noEnd⟩
      have inside := readValue_renderItems_tooDeep plain parts deep [] rest
      rw [renderItems_cons, shown] at inside ⊢
      simp only [List.cons_append, List.append_assoc] at inside ⊢
      rw [readValue_openArray room noBlank noEnd]
      exact inside

theorem readsBackAt_object
    {level : Nat}
    (room : level < nestingLimit)
    {members : Members}
    (distinct : (members.map Prod.fst).Nodup)
    (parts : ∀ member ∈ members, member.2.ReadsBackAt (level + 1)) :
    (Value.object members).ReadsBackAt level := by
  rintro frames rest rfl _
  rw [render, List.cons_append, List.cons_append, List.append_assoc, List.singleton_append]
  cases members with
  | nil => exact readValue_emptyObject room rest
  | cons first others =>
      rcases first with ⟨name, value⟩
      obtain ⟨body, shown, scanned⟩ :=
        scanKey_renderString name (value.render ++ (membersTail others ++ '\x7d' :: rest))
      rw [renderMembers_cons, shown]
      simp only [List.cons_append, List.append_assoc]
      rw [readValue_openObject room scanned]
      exact readValue_renderMembers parts distinct rest

theorem isTooDeepAt_object
    {level : Nat}
    (room : level < nestingLimit)
    {members : Members}
    (parts : ∀ member ∈ members,
      member.2.ReadsBackAt (level + 1) ∨ member.2.IsTooDeepAt (level + 1))
    (deep : ∃ member ∈ members, member.2.IsTooDeepAt (level + 1)) :
    (Value.object members).IsTooDeepAt level := by
  rintro frames rest rfl _
  rw [render, List.cons_append, List.cons_append, List.append_assoc, List.singleton_append]
  cases members with
  | nil =>
      rcases deep with ⟨member, among, _⟩
      cases among
  | cons first others =>
      rcases first with ⟨name, value⟩
      obtain ⟨body, shown, scanned⟩ :=
        scanKey_renderString name (value.render ++ (membersTail others ++ '\x7d' :: rest))
      rw [renderMembers_cons, shown]
      simp only [List.cons_append, List.append_assoc]
      rw [readValue_openObject room scanned]
      exact readValue_renderMembers_tooDeep parts deep [] rest

theorem isTooDeepAt_of_full
    {level : Nat}
    (full : ¬ level < nestingLimit)
    {value : Value}
    {c : Char}
    {tail : List Char}
    (shown : value.render = c :: tail)
    (opens : c = '[' ∨ c = '\x7b') :
    value.IsTooDeepAt level := by
  rintro frames rest rfl _
  rw [shown, List.cons_append]
  exact ⟨_, readValue_tooDeep full opens _⟩

/-- A part is read back or too deep, according to its depth, and one of the two holds. -/
def DecidedAt (level : Nat) (value : Value) : Prop :=
  (level + value.depth ≤ nestingLimit → value.ReadsBackAt level) ∧
    (nestingLimit < level + value.depth → value.IsTooDeepAt level)

theorem DecidedAt.or {level : Nat} {value : Value} (decided : value.DecidedAt level) :
    value.ReadsBackAt level ∨ value.IsTooDeepAt level := by
  rcases Nat.lt_or_ge nestingLimit (level + value.depth) with deep | fits
  · exact Or.inr (decided.2 deep)
  · exact Or.inl (decided.1 fits)

theorem decidedAt_of_scanScalar
    {value : Value}
    (flat : value.depth = 0)
    (scans : ∀ rest, EndsNumber rest → scanScalar (value.render ++ rest) = .ok (value, rest))
    {level : Nat}
    (bounded : level ≤ nestingLimit) :
    value.DecidedAt level := by
  constructor
  · intro _ frames rest _ ends
    exact readValue_of_scanScalar (scans rest ends) frames
  · intro deep
    omega

/-- What holds of the parts of a value one level further in decides what becomes of the value. -/
theorem decidedAt_of_parts
    {level inner : Nat}
    {value : Value}
    {parts : List Value}
    (depth : value.depth = 1 + inner)
    (inner_le_iff : ∀ bound, inner ≤ bound ↔ ∀ part ∈ parts, part.depth ≤ bound)
    (decided : level < nestingLimit → ∀ part ∈ parts, part.DecidedAt (level + 1))
    (readsBack : level < nestingLimit → (∀ part ∈ parts, part.ReadsBackAt (level + 1)) →
      value.ReadsBackAt level)
    (tooDeep : level < nestingLimit →
      (∀ part ∈ parts, part.ReadsBackAt (level + 1) ∨ part.IsTooDeepAt (level + 1)) →
      (∃ part ∈ parts, part.IsTooDeepAt (level + 1)) → value.IsTooDeepAt level)
    (full : ¬ level < nestingLimit → value.IsTooDeepAt level) :
    value.DecidedAt level := by
  rw [DecidedAt, depth]
  constructor
  · intro fits
    have room : level < nestingLimit := by omega
    have shallow := (inner_le_iff (nestingLimit - (level + 1))).mp (by omega)
    apply readsBack room
    intro part among
    have fitsPart := shallow part among
    exact (decided room part among).1 (by omega)
  · intro deep
    by_cases room : level < nestingLimit
    · have deepPart : ¬ ∀ part ∈ parts, part.depth ≤ nestingLimit - (level + 1) := by
        rw [← inner_le_iff]
        omega
      simp only [not_forall, Nat.not_le] at deepPart
      rcases deepPart with ⟨part, among, deepPart⟩
      apply tooDeep room
      · intro part among
        exact (decided room part among).or
      · exact ⟨part, among, (decided room part among).2 (by omega)⟩
    · exact full room

theorem decidedAt_array
    {level : Nat}
    {items : List Value}
    (plain : ∀ item ∈ items, item.IsPlain)
    (parts : level < nestingLimit → ∀ item ∈ items, item.DecidedAt (level + 1)) :
    (Value.array items).DecidedAt level := by
  apply decidedAt_of_parts rfl (fun _ => depthOfItems_le_iff) parts
  · intro room
    exact readsBackAt_array room plain
  · intro room
    exact isTooDeepAt_array room plain
  · intro full
    exact isTooDeepAt_of_full full rfl (Or.inl rfl)

theorem decidedAt_object
    {level : Nat}
    {members : Members}
    (distinct : (members.map Prod.fst).Nodup)
    (parts : level < nestingLimit → ∀ member ∈ members, member.2.DecidedAt (level + 1)) :
    (Value.object members).DecidedAt level := by
  have inner_le_iff (bound : Nat) : depthOfMembers members ≤ bound ↔
      ∀ part ∈ members.map Prod.snd, part.depth ≤ bound := by
    rw [depthOfMembers_le_iff, List.forall_mem_map]
  apply decidedAt_of_parts rfl inner_le_iff
  · intro room
    exact List.forall_mem_map.mpr (parts room)
  · intro room readBack
    exact readsBackAt_object room distinct (List.forall_mem_map.mp readBack)
  · rintro room either ⟨part, among, deepPart⟩
    rcases List.mem_map.mp among with ⟨member, amongMembers, rfl⟩
    exact isTooDeepAt_object room (List.forall_mem_map.mp either) ⟨member, amongMembers, deepPart⟩
  · intro full
    exact isTooDeepAt_of_full full rfl (Or.inr rfl)

/-- What becomes of the text of a plain value is decided by the depth of the value alone. -/
theorem IsPlain.decidedAt
    {value : Value}
    (plain : value.IsPlain)
    {level : Nat}
    (bounded : level ≤ nestingLimit) :
    value.DecidedAt level := by
  induction value generalizing level with
  | null => exact decidedAt_of_scanScalar rfl (fun rest _ => rfl) bounded
  | bool value =>
      cases value with
      | false => exact decidedAt_of_scanScalar rfl (fun rest _ => rfl) bounded
      | true => exact decidedAt_of_scanScalar rfl (fun rest _ => rfl) bounded
  | number value =>
      cases plain with
      | integer lower upper =>
          exact decidedAt_of_scanScalar rfl
            (fun rest ends => by exact scanScalar_renderInteger lower upper ends) bounded
  | string text =>
      exact decidedAt_of_scanScalar rfl
        (fun rest _ => by exact scanScalar_renderString text rest) bounded
  | array items ih =>
      cases plain with
      | array plainItems =>
          exact decidedAt_array plainItems fun room item among =>
            ih item among (plainItems item among) room
  | object members ih =>
      cases plain with
      | object distinct plainMembers =>
          exact decidedAt_object distinct fun room member among =>
            ih member among (plainMembers member among) room

end Value

/-! ## Arrays between blanks -/

theorem dropBlanks_append_of_blank
    {blanks : List Char}
    (blank : ∀ c ∈ blanks, isBlank c = true)
    (rest : List Char) :
    dropBlanks (blanks ++ rest) = dropBlanks rest :=
  List.dropWhile_append_of_pos blank

theorem dropBlanks_of_blank
    {blanks : List Char}
    (blank : ∀ c ∈ blanks, isBlank c = true) :
    dropBlanks blanks = [] :=
  List.dropWhile_eq_nil_iff.mpr blank

theorem endsNumber_of_blank
    {blanks : List Char}
    (blank : ∀ c ∈ blanks, isBlank c = true) :
    EndsNumber blanks := by
  intro c first
  have blankFirst := blank c (List.mem_of_mem_head? first)
  simp only [isBlank, Bool.or_eq_true, decide_eq_true_eq] at blankFirst
  rcases blankFirst with ((rfl | rfl) | rfl) | rfl <;> decide

section Array

variable
  {items : List Value}
  {before after : List Char}
  (blankBefore : ∀ c ∈ before, isBlank c = true)
  (blankAfter : ∀ c ∈ after, isBlank c = true)
  (plain : ∀ item ∈ items, item.IsPlain)

include blankBefore

/-- Behind the blanks in front of it, an array is read as a value. -/
theorem readItems_eq (rest : List Char) :
    readItems (before ++ (Value.array items).render ++ rest) =
      match readValue [] ((Value.array items).render ++ rest) with
      | .error failure => .error failure
      | .ok (value, rest) => finish (value.items, rest) := by
  rw [readItems, List.append_assoc, dropBlanks_append_of_blank blankBefore]
  rfl

include blankAfter plain

/-- The items of an array are read back if each of them stays within the limit. -/
theorem readItems_render
    (shallow : ∀ item ∈ items, item.depth < nestingLimit) :
    readItems (before ++ (Value.array items).render ++ after) = .ok items := by
  have fits : 0 + (Value.array items).depth ≤ nestingLimit := by
    have bound : Value.depthOfItems items ≤ nestingLimit - 1 :=
      Value.depthOfItems_le_iff.mpr fun item among => Nat.le_sub_one_of_lt (shallow item among)
    simp only [Value.depth]
    simp only [nestingLimit] at bound ⊢
    omega
  have decided := (Value.IsPlain.array plain).decidedAt (Nat.zero_le nestingLimit)
  rw [readItems_eq blankBefore, decided.1 fits [] after rfl (endsNumber_of_blank blankAfter)]
  simp only [resume, Value.items, finish, dropBlanks_of_blank blankAfter]

/-- An array is refused for its nesting if one of its items goes to the limit. -/
theorem readItems_render_tooDeep
    (deep : ∃ item ∈ items, nestingLimit ≤ item.depth) :
    ∃ remaining,
      readItems (before ++ (Value.array items).render ++ after) = .error ⟨.tooDeep, remaining⟩ := by
  rcases deep with ⟨item, among, deepItem⟩
  have tooDeep : nestingLimit < 0 + (Value.array items).depth := by
    have bound := Value.depthOfItems_le_iff.mp (Nat.le_refl _) item among
    simp only [Value.depth]
    omega
  have decided := (Value.IsPlain.array plain).decidedAt (Nat.zero_le nestingLimit)
  obtain ⟨remaining, refused⟩ :=
    decided.2 tooDeep [] after rfl (endsNumber_of_blank blankAfter)
  rw [readItems_eq blankBefore, refused]
  exact ⟨remaining, rfl⟩

end Array

end ReviewQuery.Json
