import Mathlib.Data.List.Basic
import Mathlib.Tactic.SplitIfs
import ReviewQuery.Proofs.Url.Host
import ReviewQuery.Result
import ReviewQuery.Url.Parse

/-!
# What follows an authority

The user information, the host and the port of a URL are read from the text up to a slash, a
question mark or a number sign.  What follows that text does not matter to them, but what is put at
its end does.
-/

namespace ReviewQuery.Url

/-! ## Texts within an authority and behind it -/

section Texts

variable (special : Bool)

/-- Whether nothing in a text ends an authority. -/
def StaysInside (text : List Char) : Prop :=
  ∀ c ∈ text, endsAuthority special c = false

/-- Whether an authority ends in front of a text. -/
def EndsBefore (text : List Char) : Prop :=
  ∀ c ∈ text.head?, endsAuthority special c = true

end Texts

/-- What stands behind the user information of an authority. -/
def hostText (authority : List Char) : List Char :=
  (authority.reverse.takeWhile (· ≠ '@')).reverse

theorem hostText_append {authority trail : List Char} (noMark : '@' ∉ trail) :
    hostText (authority ++ trail) = hostText authority ++ trail := by
  have plain : ∀ c ∈ trail.reverse, decide (c ≠ '@') = true := by
    rintro c member
    rw [decide_eq_true_eq]
    rintro rfl
    exact noMark (List.mem_reverse.mp member)
  rw [hostText, List.reverse_append, List.takeWhile_append_of_pos plain, List.reverse_append,
    List.reverse_reverse]
  rfl

theorem hostText_of_not_mem {authority : List Char} (noMark : '@' ∉ authority) :
    hostText authority = authority := by
  have whole : hostText ([] ++ authority) = hostText [] ++ authority := hostText_append noMark
  exact whole

theorem hostText_append_mark {info host : List Char} (noMark : '@' ∉ host) :
    hostText (info ++ '@' :: host) = host := by
  have split : info ++ '@' :: host = (info ++ ['@']) ++ host := by
    rw [List.append_assoc, List.singleton_append]
  rw [split, hostText_append noMark, hostText, List.reverse_append]
  rfl

/-- User information ends at the last mark. -/
theorem exists_last_mark {authority : List Char} (marked : '@' ∈ authority) :
    ∃ info host : List Char, authority = info ++ '@' :: host ∧ '@' ∉ host := by
  rcases List.eq_append_cons_of_mem (List.mem_reverse.mpr marked) with
    ⟨behind, before, parts, noMark⟩
  refine ⟨before.reverse, behind.reverse, ?_, ?_⟩
  · rw [← List.reverse_reverse authority, parts, List.reverse_append, List.reverse_cons,
      List.append_assoc, List.singleton_append]
  · intro member
    exact noMark (List.mem_reverse.mp member)

section Append

variable
  {special : Bool}
  {inside trail tail : List Char}

theorem StaysInside.append
    (stays : StaysInside special inside)
    (trailStays : StaysInside special trail) :
    StaysInside special (inside ++ trail) := by
  intro c member
  rcases List.mem_append.mp member with first | second
  · exact stays c first
  · exact trailStays c second

theorem endsBefore_nil : EndsBefore special [] := by
  intro c first
  cases first

/-- A port belongs to an authority. -/
theorem head?_ne_colon (ends : EndsBefore special tail) : tail.head? ≠ some ':' := by
  intro colon
  have ender := ends ':' colon
  cases special <;> cases ender

theorem takeWhile_authority
    (stays : StaysInside special inside)
    (ends : EndsBefore special tail) :
    (inside ++ tail).takeWhile (fun c => !endsAuthority special c) = inside := by
  apply Text.takeWhile_append_of_stops
  · intro c member
    rw [stays c member]
    rfl
  · intro c first
    rw [ends c first]
    rfl

/-- Every text starts with an authority, which may be empty. -/
theorem exists_authority (special : Bool) (text : List Char) :
    ∃ inside tail,
      text = inside ++ tail ∧ StaysInside special inside ∧ EndsBefore special tail := by
  let goesOn (c : Char) : Bool := !endsAuthority special c
  have parts := (List.takeWhile_append_dropWhile (p := goesOn) (l := text)).symm
  refine ⟨text.takeWhile goesOn, text.dropWhile goesOn, parts, ?_, ?_⟩
  · intro c member
    have inside : goesOn c = true := List.mem_takeWhile_imp member
    exact (Bool.not_eq_true' _).mp inside
  · intro c first
    have stops : goesOn c = false := Text.stops_dropWhile text c first
    exact (Bool.not_eq_false' _).mp stops

/-! ## User information -/

theorem readUserInfo_of_not_mem
    (stays : StaysInside special inside)
    (ends : EndsBefore special tail)
    (noMark : '@' ∉ inside) :
    readUserInfo special (inside ++ tail) = .ok ⟨[], [], inside ++ tail⟩ := by
  have shown := hostText_of_not_mem noMark
  rw [hostText] at shown
  simp only [readUserInfo, takeWhile_authority stays ends, shown, if_true]

/-- The user information in front of a mark. -/
def UserInfo.ofText (info rest : List Char) : UserInfo :=
  let encode := PercentEncoding.encode PercentEncoding.inUserInfo
  ⟨encode (info.takeWhile (· ≠ ':')), encode ((info.dropWhile (· ≠ ':')).drop 1), rest⟩

theorem readUserInfo_of_mark
    {info host : List Char}
    (stays : StaysInside special (info ++ '@' :: host))
    (ends : EndsBefore special tail)
    (noMark : '@' ∉ host) :
    readUserInfo special (info ++ '@' :: (host ++ tail)) =
      if info = [] ∧ host = [] ∧ tail ≠ [] then .error .emptyHost
      else .ok (.ofText info (host ++ tail)) := by
  have shown : hostText (info ++ '@' :: host) = host := hostText_append_mark noMark
  have whole := takeWhile_authority stays ends
  rw [List.append_assoc, List.cons_append] at whole
  rw [hostText] at shown
  have size : (info ++ '@' :: host).length - host.length - 1 = info.length := by
    rw [List.length_append, List.length_cons]
    omega
  have shorter : host.length ≠ (info ++ '@' :: host).length := by
    rw [List.length_append, List.length_cons]
    omega
  have infoText :
      (info ++ '@' :: host).take ((info ++ '@' :: host).length - host.length - 1) = info := by
    rw [size, List.take_left]
  have restText : (info ++ '@' :: (host ++ tail)).drop (info.length + 1) = host ++ tail := by
    rw [List.drop_length_add_append, List.drop_one, List.tail_cons]
  have bare :
      (info.isEmpty && ((host ++ tail).head?.map (endsAuthority special)).getD false) = true ↔
        info = [] ∧ host = [] ∧ tail ≠ [] := by
    rw [Bool.and_eq_true, List.isEmpty_iff]
    apply and_congr_right
    intro _
    cases host with
    | nil =>
        cases tail with
        | nil => simp
        | cons c rest => simp [ends c rfl]
    | cons c rest =>
        simp [stays c (by simp)]
  simp only [readUserInfo, whole, shown, if_neg shorter, infoText, restText, bare]
  rfl

/-- What is put at the end of an authority, and what follows it, is left for the host. -/
theorem readUserInfo_append
    (stays : StaysInside special inside)
    (trailStays : StaysInside special trail)
    (noMark : '@' ∉ trail)
    (ends : EndsBefore special tail)
    (notBare : inside ++ trail = ['@'] → tail = []) :
    readUserInfo special (inside ++ (trail ++ tail)) =
      (readUserInfo special inside).map fun info =>
        { info with rest := info.rest ++ (trail ++ tail) } := by
  by_cases marked : '@' ∈ inside
  · rcases exists_last_mark marked with ⟨info, host, rfl, noMarkBehind⟩
    have alone := readUserInfo_of_mark stays endsBefore_nil noMarkBehind
    rw [List.append_nil, if_neg (by simp)] at alone
    have noMarkInBoth : '@' ∉ host ++ trail := by
      intro member
      rcases List.mem_append.mp member with first | second
      · exact noMarkBehind first
      · exact noMark second
    have bothStay : StaysInside special (info ++ '@' :: (host ++ trail)) := by
      rw [← List.cons_append, ← List.append_assoc]
      exact stays.append trailStays
    have notEmpty : ¬ (info = [] ∧ host ++ trail = [] ∧ tail ≠ []) := by
      rintro ⟨rfl, empty, some⟩
      rcases List.append_eq_nil_iff.mp empty with ⟨rfl, rfl⟩
      exact some (notBare rfl)
    have whole := readUserInfo_of_mark bothStay ends noMarkInBoth
    rw [if_neg notEmpty, List.append_assoc] at whole
    rw [alone, List.append_assoc, List.cons_append, whole]
    rfl
  · have noMarkInBoth : '@' ∉ inside ++ trail := by
      intro member
      rcases List.mem_append.mp member with first | second
      · exact marked first
      · exact noMark second
    have alone := readUserInfo_of_not_mem stays endsBefore_nil marked
    have whole := readUserInfo_of_not_mem (stays.append trailStays) ends noMarkInBoth
    rw [List.append_nil] at alone
    rw [List.append_assoc] at whole
    rw [alone, whole]
    rfl

theorem rest_of_readUserInfo
    {info : UserInfo}
    (stays : StaysInside special inside)
    (read : readUserInfo special inside = .ok info) :
    info.rest = hostText inside := by
  by_cases marked : '@' ∈ inside
  · rcases exists_last_mark marked with ⟨before, host, rfl, noMark⟩
    have alone := readUserInfo_of_mark stays endsBefore_nil noMark
    rw [List.append_nil, if_neg (by simp), read] at alone
    cases alone
    exact (hostText_append_mark noMark).symm
  · have alone := readUserInfo_of_not_mem stays endsBefore_nil marked
    rw [List.append_nil, read] at alone
    cases alone
    exact (hostText_of_not_mem marked).symm

theorem StaysInside.hostText (stays : StaysInside special inside) :
    StaysInside special (hostText inside) := by
  intro c member
  apply stays
  exact List.mem_reverse.mp ((List.takeWhile_subset _) (List.mem_reverse.mp member))

/-! ## Hosts -/

/-- The text of a host goes on over what is put behind it, unless a port stands between. -/
theorem spanHost_append
    {behind front rest : List Char}
    (known : ∀ inBrackets, spanHost special inBrackets behind = (front, rest))
    (inBrackets : Bool)
    (text : List Char) :
    spanHost special inBrackets (text ++ behind) =
      match spanHost special inBrackets text with
      | (shown, []) => (shown ++ front, rest)
      | (shown, c :: more) => (shown, c :: more ++ behind) := by
  induction text generalizing inBrackets with
  | nil => exact known inBrackets
  | cons c text ih =>
      rw [List.cons_append, spanHost, spanHost]
      split
      · rfl
      · rw [ih]
        cases spanHost special (c = '[' || (inBrackets && c ≠ ']')) text with
        | mk shown rest =>
            cases rest with
            | nil => rfl
            | cons d more => rfl

theorem spanHost_parts
    {inBrackets : Bool}
    {text shown rest : List Char}
    (spanned : spanHost special inBrackets text = (shown, rest)) :
    text = shown ++ rest ∧
      StaysInside special shown ∧
      (StaysInside special text → rest = [] ∨ ∃ port, rest = ':' :: port) := by
  induction text generalizing inBrackets shown with
  | nil =>
      cases spanned
      refine ⟨rfl, ?_, ?_⟩
      · intro c member
        cases member
      · intro _
        exact Or.inl rfl
  | cons c text ih =>
      rw [spanHost] at spanned
      split at spanned
      · rename_i stop
        cases spanned
        refine ⟨rfl, ?_, ?_⟩
        · intro c member
          cases member
        · intro stays
          rw [stays c List.mem_cons_self, Bool.or_false, Bool.and_eq_true, decide_eq_true_eq]
            at stop
          rw [stop.1]
          exact Or.inr ⟨text, rfl⟩
      · rename_i goesOn
        rw [Bool.not_eq_true, Bool.or_eq_false_iff] at goesOn
        cases inner : spanHost special (c = '[' || (inBrackets && c ≠ ']')) text with
        | mk front behind =>
            rw [inner] at spanned
            cases spanned
            rcases ih inner with ⟨parts, frontStays, port⟩
            refine ⟨?_, ?_, ?_⟩
            · rw [parts]
              rfl
            · intro d member
              rcases List.mem_cons.mp member with rfl | among
              · exact goesOn.2
              · exact frontStays d among
            · intro stays
              apply port
              intro d member
              exact stays d (List.mem_cons_of_mem c member)

theorem spanHost_of_endsBefore (ends : EndsBefore special tail) (inBrackets : Bool) :
    spanHost special inBrackets tail = ([], tail) := by
  cases tail with
  | nil => rfl
  | cons c rest =>
      rw [spanHost, ends c rfl, Bool.or_true]
      rfl

/-- The host that a text stands for below some kind of scheme. -/
def Host.readFor (kind : SchemeKind) (shown : List Char) : Except Error Host :=
  if kind.isSpecial then readSpecial shown else readPlain shown

/-- What comes of the text of a host and what follows it. -/
def readSpannedHost
    (kind : SchemeKind)
    (shown rest : List Char) : Except Error (Option Host × List Char) :=
  if shown = [] then
    if kind = .web ∨ rest.head? = some ':' then .error .emptyHost else .ok (none, rest)
  else (Host.readFor kind shown).map fun host => (some host, rest)

theorem readHost_of_span
    {kind : SchemeKind}
    {text shown rest : List Char}
    (spanned : spanHost kind.isSpecial false text = (shown, rest)) :
    readHost kind text = readSpannedHost kind shown rest := by
  rw [readHost, spanned]
  unfold readSpannedHost Host.readFor
  cases shown with
  | nil => simp
  | cons c shown =>
      cases kind.isSpecial with
      | true =>
          simp only [List.isEmpty_cons, Bool.false_eq_true, reduceCtorEq, if_false, if_true]
          cases Host.readSpecial (c :: shown) <;> rfl
      | false =>
          simp only [List.isEmpty_cons, Bool.false_eq_true, reduceCtorEq, if_false]
          cases Host.readPlain (c :: shown) <;> rfl

/-- What follows a host does not matter to it, unless it starts with a colon. -/
theorem readSpannedHost_append
    (kind : SchemeKind)
    {shown rest behind : List Char}
    (noColon : rest = [] → behind.head? ≠ some ':') :
    readSpannedHost kind shown (rest ++ behind) =
      (readSpannedHost kind shown rest).map fun host => (host.1, host.2 ++ behind) := by
  have sameColon : (rest ++ behind).head? = some ':' ↔ rest.head? = some ':' := by
    cases rest with
    | nil => simp [noColon rfl]
    | cons c rest => rfl
  unfold readSpannedHost
  simp only [sameColon]
  split
  · split <;> rfl
  · cases Host.readFor kind shown <;> rfl

/-- What follows an authority does not matter to its host. -/
theorem readHost_append_tail
    {kind : SchemeKind}
    {text : List Char}
    (ends : EndsBefore kind.isSpecial tail) :
    readHost kind (text ++ tail) =
      (readHost kind text).map fun host => (host.1, host.2 ++ tail) := by
  have noColon := head?_ne_colon ends
  cases spanned : spanHost kind.isSpecial false text with
  | mk shown rest =>
      have whole := spanHost_append (spanHost_of_endsBefore ends) false text
      rw [spanned] at whole
      cases rest with
      | nil =>
          simp only [List.append_nil] at whole
          rw [readHost_of_span whole, readHost_of_span spanned,
            ← readSpannedHost_append kind (fun _ => noColon)]
          rfl
      | cons c more =>
          rw [readHost_of_span whole, readHost_of_span spanned,
            ← readSpannedHost_append kind (fun _ => noColon)]

end Append

end ReviewQuery.Url
