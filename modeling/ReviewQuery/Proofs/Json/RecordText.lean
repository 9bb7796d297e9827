import ReviewQuery.Json.Record
import ReviewQuery.Proofs.Json.Skipping

/-!
# Records from documents

What a record is read as depends on the document alone: `Record.ofDocument?` takes the record from
the tree, without looking at any text, and reading the compact text gives the same.  The members of
an object are put into a draft one after another; those that nobody asks for leave the draft as it
is.  The items of an array are put in the order of the record.
-/

namespace ReviewQuery.Json

/-! ## What is read of a document -/

/-- Whether a reader finds in the text of each document what the document means, and goes no
further. -/
def Reader.Reads {α : Type} (reader : Reader α) (meaning : Document → Option α) : Prop :=
  ∀ (document : Document) (rest : List Char),
    EndsNumber rest →
      (reader.read (document.render ++ rest)).toOption =
        (meaning document).map fun value => (value, rest)

namespace Member

variable {α δ : Type}

/-- The draft with the value that a document stands for. -/
def put? (member : Member δ) (draft : δ) (document : Document) : Option δ :=
  (member.read draft document.render).toOption.map Prod.fst

/-- Whether what is put into a draft depends only on the document, and not on what follows. -/
def IsLocal (member : Member δ) : Prop :=
  ∀ (draft : δ) (document : Document) (rest : List Char),
    EndsNumber rest →
      (member.read draft (document.render ++ rest)).toOption =
        (member.put? draft document).map fun draft => (draft, rest)

section Of

variable
  {reader : Reader α}
  {meaning : Document → Option α}
  (reads : reader.Reads meaning)
  (name : String)
  (isOptional : Bool)
  (get? : δ → Option α)
  (set : δ → α → δ)

include reads

theorem put?_of (draft : δ) (document : Document) :
    (Member.of name isOptional reader get? set).put? draft document =
      (meaning document).map (set draft) := by
  have read := reads document [] endsNumber_nil
  rw [List.append_nil] at read
  show (((reader.read document.render).map _).toOption).map Prod.fst = _
  rw [toOption_map, read, Option.map_map, Option.map_map]
  rfl

theorem isLocal_of : (Member.of name isOptional reader get? set).IsLocal := by
  intro draft document rest ends
  rw [put?_of reads]
  show ((reader.read (document.render ++ rest)).map _).toOption = _
  rw [toOption_map, reads document rest ends, Option.map_map, Option.map_map]
  rfl

end Of

end Member

/-! ## Strings -/

namespace Document

/-- The text of a string. -/
def string? : Document → Option String
  | .string text => some text
  | _ => none

/-- The text of a string, or nothing for a null. -/
def optionalString? : Document → Option (Option String)
  | .null => some none
  | .string text => some (some text)
  | _ => none

end Document

theorem readText_renderString (text : String) (rest : List Char) :
    readText (renderString text ++ rest) = .ok (text, rest) := by
  have scanned := scanString_escaped text.toList rest
  rw [renderString, List.append_assoc, List.singleton_append]
  show (scanString (text.toList.flatMap escapeChar ++ '"' :: rest)).map _ = _
  rw [scanned]
  simp only [Except.map, String.ofList_toList]

theorem Reader.reads_text : Reader.text.Reads Document.string? := by
  intro document rest _
  show (readText (document.render ++ rest)).toOption = _
  cases document with
  | null => rfl
  | bool value => cases value <;> rfl
  | number text =>
      rcases text.render_eq_cons with ⟨c, tail, shown, noBlank, noMark⟩
      rw [Document.render, shown, List.cons_append, readText, dropBlanks_cons noBlank]
      dsimp only
      rw [if_neg (noMark '"' (by decide))]
      rfl
  | string text =>
      rw [Document.render, readText_renderString]
      rfl
  | array items => rfl
  | object members => rfl

theorem Reader.reads_optionalText : Reader.optionalText.Reads Document.optionalString? := by
  intro document rest _
  show (readOptionalText (document.render ++ rest)).toOption = _
  cases document with
  | null => rfl
  | bool value => cases value <;> rfl
  | number text =>
      rcases text.render_eq_cons with ⟨c, tail, shown, noBlank, noMark⟩
      rw [Document.render, shown, List.cons_append, readOptionalText, dropBlanks_cons noBlank]
      dsimp only
      rw [if_neg (noMark 'n' (by decide)), readText, dropBlanks_cons noBlank]
      dsimp only
      rw [if_neg (noMark '"' (by decide))]
      rfl
  | string text =>
      have read := readText_renderString text rest
      show ((readText (renderString text ++ rest)).map _).toOption = _
      rw [read]
      rfl
  | array items => rfl
  | object members => rfl

/-! ## Records from the tree -/

namespace Record

variable
  {δ ρ : Type}
  (record : Record δ ρ)

/-- The draft with a member of an object.  A member of the record may come once; a member with
another name leaves the draft as it is. -/
def addMember? (draft : δ) (part : String × Document) : Option δ :=
  match record.members.find? (·.name = part.1) with
  | some member => if member.isSet draft then none else member.put? draft part.2
  | none => some draft

/-- The draft with the members of an object, one after another. -/
def addMembers? (draft : δ) : List (String × Document) → Option δ
  | [] => some draft
  | part :: parts => (record.addMember? draft part).bind fun draft => addMembers? draft parts

/-- The draft with the items of an array as the values of the given members.  Only optional members
may be left without a value. -/
def addItems? : List (Member δ) → δ → List Document → Option δ
  | [], draft, [] => some draft
  | [], _, _ :: _ => none
  | member :: members, draft, [] => if member.isOptional then addItems? members draft [] else none
  | member :: members, draft, item :: items =>
    (member.put? draft item).bind fun draft => addItems? members draft items

/-- The draft of a document in one of the two forms. -/
def draft? : Document → Option δ
  | .array items => addItems? record.members record.blank items
  | .object members => record.addMembers? record.blank members
  | _ => none

/-- The record that a document stands for. -/
def ofDocument? (document : Document) : Option ρ :=
  (record.draft? document).bind fun draft => (record.build draft).toOption

variable
  {record}
  (isLocal : ∀ member ∈ record.members, member.IsLocal)
  {rest : List Char}

/-! ## The object form -/

include isLocal in
theorem toOption_readMember
    (draft : δ)
    (part : String × Document)
    (ends : EndsNumber rest) :
    (record.readMember draft (Document.behindQuote part ++ rest)).toOption =
      (record.addMember? draft part).map fun draft => (draft, rest) := by
  have scanned := scanString_escaped part.1.toList (':' :: (part.2.render ++ rest))
  rw [Document.behindQuote, List.append_assoc, List.cons_append, List.cons_append, readMember,
    scanned, addMember?]
  dsimp only
  rw [String.ofList_toList]
  cases found : record.members.find? fun member => member.name = part.1 with
  | none =>
      show ((skipValue [] (part.2.render ++ rest)).map _).toOption = _
      rw [skipValue_render part.2 ends]
      rfl
  | some member =>
      dsimp only
      split
      · rfl
      · exact isLocal member (List.mem_of_find?_eq_some found) draft part.2 rest ends

theorem readMembers_of_error
    {draft : δ}
    {text : List Char}
    {failure : Failure}
    (failed : record.readMember draft text = .error failure) :
    record.readMembers draft text = .error failure := by
  rw [readMembers]
  split
  · rename_i again
    rw [failed] at again
    cases again
    rfl
  · rename_i read
    rw [failed] at read
    cases read

theorem readMembers_closing
    {draft draft' : δ}
    {text : List Char}
    (read : record.readMember draft text = .ok (draft', '\x7d' :: rest)) :
    record.readMembers draft text = .ok (draft', rest) := by
  rw [readMembers]
  split
  · rename_i failed
    rw [read] at failed
    cases failed
  · rename_i again
    rw [read] at again
    cases again
    split
    · rename_i empty
      cases empty
    · rename_i start
      rw [dropBlanks_cons rfl] at start
      cases start
      rw [if_pos rfl]

theorem readMembers_comma
    {draft draft' : δ}
    {text : List Char}
    (read : record.readMember draft text = .ok (draft', ',' :: '"' :: rest)) :
    record.readMembers draft text = record.readMembers draft' rest := by
  rw [readMembers.eq_def record draft text]
  split
  · rename_i failed
    rw [read] at failed
    cases failed
  · rename_i again
    rw [read] at again
    cases again
    split
    · rename_i empty
      cases empty
    · rename_i start
      rw [dropBlanks_cons rfl] at start
      cases start
      rw [if_neg (by decide), if_pos rfl]
      split
      · rename_i empty
        cases empty
      · rename_i start
        rw [dropBlanks_cons rfl] at start
        cases start
        rw [if_pos rfl]

section Member

variable
  {draft : δ}
  {part : String × Document}
  (ends : EndsNumber rest)

include isLocal ends

theorem readMember_of_added {next : δ} (added : record.addMember? draft part = some next) :
    record.readMember draft (Document.behindQuote part ++ rest) = .ok (next, rest) := by
  have read := toOption_readMember isLocal draft part ends
  rw [added] at read
  exact eq_ok_of_toOption read

/-- The members behind one that is refused are not read any more. -/
theorem toOption_readMembers_of_refused (refused : record.addMember? draft part = none) :
    (record.readMembers draft (Document.behindQuote part ++ rest)).toOption = none := by
  have read := toOption_readMember isLocal draft part ends
  rw [refused] at read
  rcases exists_error_of_toOption read with ⟨failure, failed⟩
  rw [readMembers_of_error failed]
  rfl

end Member

include isLocal in
/-- The members of an object are put into the draft one after another. -/
theorem toOption_readMembers
    (draft : δ)
    (first : String × Document)
    (others : List (String × Document)) :
    (record.readMembers draft (Document.behindQuote first ++
        Document.partsTail (Document.memberTexts others) '\x7d' rest)).toOption =
      (record.addMembers? draft (first :: others)).map fun draft => (draft, rest) := by
  induction others generalizing draft first with
  | nil =>
      have ends := Document.endsNumber_partsTail (Document.memberTexts []) (Or.inr rfl) rest
      rw [addMembers?]
      cases added : record.addMember? draft first with
      | none =>
          rw [toOption_readMembers_of_refused isLocal ends added]
          rfl
      | some next =>
          rw [readMembers_closing (readMember_of_added isLocal ends added)]
          rfl
  | cons second others ih =>
      have ends :=
        Document.endsNumber_partsTail (Document.memberTexts (second :: others)) (Or.inr rfl) rest
      have shown :
          Document.partsTail (Document.memberTexts (second :: others)) '\x7d' rest =
            ',' :: '"' :: (Document.behindQuote second ++
              Document.partsTail (Document.memberTexts others) '\x7d' rest) := by
        rw [Document.memberTexts_eq_map, Document.memberTexts_eq_map, List.map_cons,
          Document.partsTail_cons, List.cons_append]
      rw [addMembers?]
      cases added : record.addMember? draft first with
      | none =>
          rw [toOption_readMembers_of_refused isLocal ends added]
          rfl
      | some next =>
          have read := readMember_of_added isLocal ends added
          rw [shown] at read ⊢
          rw [readMembers_comma read]
          exact ih next second

include isLocal in
theorem toOption_readObject (members : List (String × Document)) (rest : List Char) :
    ∃ text,
      Document.render (.object members) ++ rest = '\x7b' :: text ∧
        (record.readObject text).toOption =
          (record.addMembers? record.blank members).map fun draft => (draft, rest) := by
  cases members with
  | nil => exact ⟨_, rfl, rfl⟩
  | cons first others =>
      refine ⟨'"' :: (Document.behindQuote first ++
        Document.partsTail (Document.memberTexts others) '\x7d' rest), ?_, ?_⟩
      · rw [Document.render, Document.memberTexts_eq_map, List.map_cons,
          Document.renderParts_cons_append, Document.memberTexts_eq_map, List.cons_append]
      · exact toOption_readMembers isLocal record.blank first others

/-! ## The array form -/

/-- The values of the given members and the bracket behind them. -/
def readThrough
    (record : Record δ ρ)
    (members : List (Member δ))
    (index : Nat)
    (draft : δ)
    (text : List Char) : Except Failure (Reading δ) :=
  match record.readElements members index draft text with
  | .error failure => .error failure
  | .ok (draft, rest) => (closeArray rest).map fun rest => (draft, rest)

/-- An array that ends early is completed by optional members. -/
theorem toOption_readThrough_closing
    (member : Member δ)
    (members : List (Member δ))
    (index : Nat)
    (draft : δ) :
    (record.readThrough (member :: members) index draft (']' :: rest)).toOption =
      if member.isOptional then
        (record.readThrough members (index + 1) draft (']' :: rest)).toOption
      else none := by
  by_cases optional : member.isOptional = true
  · have elements :
        record.readElements (member :: members) index draft (']' :: rest) =
          record.readElements members (index + 1) draft (']' :: rest) := by
      rw [readElements]
      exact if_pos optional
    rw [readThrough, elements, if_pos optional, readThrough]
  · have elements :
        record.readElements (member :: members) index draft (']' :: rest) =
          .error (.before (.wrongLength index record.arrayTitle) rest) := by
      rw [readElements]
      exact if_neg optional
    rw [readThrough, elements, if_neg optional]
    rfl

/-- Where the array does not end, the value of the next member comes next. -/
theorem toOption_readThrough_item
    {member : Member δ}
    (isLocal : member.IsLocal)
    (members : List (Member δ))
    (index : Nat)
    (draft : δ)
    {text : List Char}
    {item : Document}
    (noClosing : ∀ tail, dropBlanks text ≠ ']' :: tail)
    (behind : behindComma (index = 0) text = .ok (item.render ++ rest))
    (ends : EndsNumber rest) :
    (record.readThrough (member :: members) index draft text).toOption =
      (member.put? draft item).bind fun draft =>
        (record.readThrough members (index + 1) draft rest).toOption := by
  have read := isLocal draft item rest ends
  have elements :
      record.readElements (member :: members) index draft text =
        (member.read draft (item.render ++ rest)).bind fun reading =>
          record.readElements members (index + 1) reading.1 reading.2 := by
    rw [readElements]
    split
    · rename_i tail closing
      exact absurd closing (noClosing tail)
    · rw [behind]
      dsimp only
      cases member.read draft (item.render ++ rest) <;> rfl
  cases added : member.put? draft item with
  | none =>
      rw [added] at read
      rcases exists_error_of_toOption read with ⟨failure, failed⟩
      rw [readThrough, elements, failed]
      rfl
  | some next =>
      rw [added] at read
      rw [readThrough, elements, eq_ok_of_toOption read]
      rfl

/-- Behind a full record the array must end. -/
theorem toOption_closeArray_of_start
    {c : Char}
    (noBlank : isBlank c = false)
    (noClosing : c ≠ ']')
    (text : List Char) :
    (closeArray (c :: text)).toOption = none := by
  rw [closeArray, dropBlanks_cons noBlank]
  dsimp only
  rw [if_neg noClosing]
  split
  · split
    · rfl
    · split <;> rfl
  · rfl

theorem toOption_readThrough_nil
    {c : Char}
    (noBlank : isBlank c = false)
    (noClosing : c ≠ ']')
    (index : Nat)
    (draft : δ)
    (text : List Char) :
    (record.readThrough [] index draft (c :: text)).toOption = none := by
  show ((closeArray (c :: text)).map _).toOption = none
  rw [toOption_map, toOption_closeArray_of_start noBlank noClosing]
  rfl

/-- The first item stands where the array starts. -/
theorem behindComma_first (item : Document) :
    behindComma true (item.render ++ rest) = .ok (item.render ++ rest) := by
  rcases item.render_eq_cons with ⟨c, tail, shown, _⟩
  rw [behindComma, item.dropBlanks_render_append, shown]
  rfl

/-- Every other item stands behind a comma. -/
theorem behindComma_comma (item : Document) :
    behindComma false (',' :: (item.render ++ rest)) = .ok (item.render ++ rest) := by
  rcases item.render_eq_cons with ⟨c, tail, shown, noBlank, noClosing⟩
  rw [behindComma, dropBlanks_cons rfl]
  dsimp only
  rw [if_neg Bool.false_ne_true, if_pos rfl, shown, List.cons_append, dropBlanks_cons noBlank]
  exact if_neg noClosing

/-- At the end of the array only optional members may be left. -/
theorem toOption_readThrough_end
    (members : List (Member δ))
    (index : Nat)
    (draft : δ) :
    (record.readThrough members index draft (']' :: rest)).toOption =
      (addItems? members draft []).map fun draft => (draft, rest) := by
  induction members generalizing index with
  | nil => rfl
  | cons member members ih =>
      rw [toOption_readThrough_closing, addItems?]
      split
      · exact ih (index + 1)
      · rfl

/-- Behind a value the other items are taken for the other members. -/
theorem toOption_readThrough_partsTail
    {members : List (Member δ)}
    (isLocal : ∀ member ∈ members, member.IsLocal)
    (index : Nat)
    (draft : δ)
    (items : List Document) :
    (record.readThrough members (index + 1) draft
        (Document.partsTail (Document.itemTexts items) ']' rest)).toOption =
      (addItems? members draft items).map fun draft => (draft, rest) := by
  induction items generalizing members index draft with
  | nil => exact toOption_readThrough_end members (index + 1) draft
  | cons item items ih =>
      rw [Document.itemTexts, Document.partsTail_cons]
      cases members with
      | nil =>
          rw [toOption_readThrough_nil rfl (by decide)]
          rfl
      | cons member members =>
          have ends := Document.endsNumber_partsTail (Document.itemTexts items) (Or.inl rfl) rest
          rw [toOption_readThrough_item (isLocal member List.mem_cons_self) members (index + 1)
            draft (by rintro tail ⟨⟩) (behindComma_comma item) ends, addItems?]
          cases member.put? draft item with
          | none => rfl
          | some next =>
              exact ih (fun other among => isLocal other (List.mem_cons_of_mem member among))
                (index + 1) next

include isLocal in
theorem toOption_readArray (items : List Document) (rest : List Char) :
    ∃ text,
      Document.render (.array items) ++ rest = '[' :: text ∧
        (record.readArray text).toOption =
          (addItems? record.members record.blank items).map fun draft => (draft, rest) := by
  cases items with
  | nil => exact ⟨_, rfl, toOption_readThrough_end record.members 0 record.blank⟩
  | cons item items =>
      refine ⟨item.render ++ Document.partsTail (Document.itemTexts items) ']' rest, ?_, ?_⟩
      · rw [Document.render, Document.itemTexts, Document.renderParts_cons_append]
      show (record.readThrough record.members 0 record.blank _).toOption = _
      rcases item.render_eq_cons with ⟨c, tail, shown, noBlank, noClosing⟩
      generalize record.members = members at isLocal
      cases members with
      | nil =>
          rw [shown, List.cons_append, toOption_readThrough_nil noBlank noClosing]
          rfl
      | cons member members =>
          have ends := Document.endsNumber_partsTail (Document.itemTexts items) (Or.inl rfl) rest
          have goesOn :
              ∀ more, dropBlanks (item.render ++
                Document.partsTail (Document.itemTexts items) ']' rest) ≠ ']' :: more := by
            intro more closing
            rw [item.dropBlanks_render_append, shown] at closing
            exact noClosing (List.cons.inj closing).1
          rw [toOption_readThrough_item (isLocal member List.mem_cons_self) members 0 record.blank
            goesOn (behindComma_first item) ends, addItems?]
          cases member.put? record.blank item with
          | none => rfl
          | some next =>
              exact toOption_readThrough_partsTail
                (fun other among => isLocal other (List.mem_cons_of_mem member among)) 0 next items

/-! ## Both forms -/

theorem read_openArray (text : List Char) :
    record.read ('[' :: text) = (record.readArray text).bind record.complete := by
  rw [read, dropBlanks_cons rfl]
  dsimp only
  rw [if_pos rfl]
  cases record.readArray text <;> rfl

theorem read_openObject (text : List Char) :
    record.read ('\x7b' :: text) = (record.readObject text).bind record.complete := by
  rw [read, dropBlanks_cons rfl]
  dsimp only
  rw [if_neg (by decide), if_pos rfl]
  cases record.readObject text <;> rfl

/-- A draft that has been read is completed in front of the same text. -/
theorem toOption_bind_complete
    {result : Except Failure (Reading δ)}
    {draft? : Option δ}
    (drafted : result.toOption = draft?.map fun draft => (draft, rest)) :
    (result.bind record.complete).toOption =
      (draft?.bind fun draft => (record.build draft).toOption).map fun value => (value, rest) := by
  rw [toOption_bind, drafted]
  cases draft? with
  | none => rfl
  | some draft =>
      show (record.complete (draft, rest)).toOption = (record.build draft).toOption.map _
      rw [complete]
      cases record.build draft <;> rfl

include isLocal in
/-- A record is read from a text as it is taken from the document. -/
theorem reads_reader : record.reader.Reads record.ofDocument? := by
  intro document rest _
  show (record.read (document.render ++ rest)).toOption = _
  cases document with
  | null => rfl
  | bool value => cases value <;> rfl
  | number text =>
      rcases text.render_eq_cons with ⟨c, tail, shown, noBlank, noMark⟩
      rw [Document.render, shown, List.cons_append, read, dropBlanks_cons noBlank]
      dsimp only
      rw [if_neg (noMark '[' (by decide)), if_neg (noMark '\x7b' (by decide))]
      rfl
  | string text => rfl
  | array items =>
      rcases toOption_readArray isLocal items rest with ⟨text, shown, drafted⟩
      rw [shown, read_openArray]
      exact toOption_bind_complete drafted
  | object members =>
      rcases toOption_readObject isLocal members rest with ⟨text, shown, drafted⟩
      rw [shown, read_openObject]
      exact toOption_bind_complete drafted

include isLocal in
/-- The record of a whole text is that of its document. -/
theorem toOption_decode_text (document : Document) :
    (record.decode document.text).toOption = record.ofDocument? document := by
  have read := reads_reader isLocal document [] endsNumber_nil
  rw [List.append_nil] at read
  change (record.read document.render).toOption = _ at read
  rw [decode, Document.text, String.toList_ofList]
  cases meant : record.ofDocument? document with
  | none =>
      rw [meant] at read
      rcases exists_error_of_toOption read with ⟨failure, failed⟩
      rw [failed]
      rfl
  | some value =>
      rw [meant] at read
      rw [eq_ok_of_toOption read]
      rfl

end Record

end ReviewQuery.Json
