import Mathlib.Data.List.Basic
import ReviewQuery.Proofs.Query.Address

/-!
# The last setting of an option counts

Options are set one after another, in any order and as often as one likes.  In the end an option is
wanted as its last setting says, and as it was at the start if it is never set.  A request is made
out behind all settings and from nothing else: it asks for files and commits if a choice of
revisions is left by then, wherever among the settings that was made.
-/

namespace ReviewQuery.Query

/-- An option and whether it is wanted from then on. -/
abbrev Setting : Type :=
  ListOption × Bool

namespace Options

/-- The settings of one option, in the order in which they are made. -/
def settingsOf (option : ListOption) (settings : List Setting) : List Setting :=
  settings.filter (·.1 = option)

/-- The last setting of an option, if there is one. -/
def lastSetting? (settings : List Setting) (option : ListOption) : Option Bool :=
  (settingsOf option settings).getLast?.map Prod.snd

/-- Whether an option is wanted in the end: its last setting tells, and without one the start. -/
def isWanted (start : Options) (settings : List Setting) (option : ListOption) : Bool :=
  (lastSetting? settings option).getD (start.get option)

/-! ## Settings behind one another -/

/-- Settings of an option hide those in front of them. -/
theorem lastSetting?_append (front rest : List Setting) (option : ListOption) :
    lastSetting? (front ++ rest) option =
      (lastSetting? rest option).or (lastSetting? front option) := by
  rw [lastSetting?, settingsOf, List.filter_append, List.getLast?_append, Option.map_or]
  rfl

/-- A setting counts for its own option, unless that is set again behind it. -/
theorem lastSetting?_cons (setting : Setting) (rest : List Setting) (option : ListOption) :
    lastSetting? (setting :: rest) option =
      (lastSetting? rest option).or (if setting.1 = option then some setting.2 else none) := by
  have alone :
      lastSetting? [setting] option = if setting.1 = option then some setting.2 else none := by
    by_cases same : setting.1 = option <;> simp [lastSetting?, settingsOf, same]
  rw [← List.singleton_append, lastSetting?_append, alone]

/-- An option that is set has a last setting. -/
theorem exists_lastSetting?_of_mem
    {settings : List Setting}
    {option : ListOption}
    {wanted : Bool}
    (member : (option, wanted) ∈ settings) :
    ∃ last, lastSetting? settings option = some last := by
  have among : (option, wanted) ∈ settingsOf option settings :=
    List.mem_filter.mpr ⟨member, decide_eq_true rfl⟩
  cases found : (settingsOf option settings).getLast? with
  | none => exact absurd (List.getLast?_eq_none_iff.mp found) (List.ne_nil_of_mem among)
  | some last =>
      refine ⟨last.2, ?_⟩
      rw [lastSetting?, found, Option.map_some]

/-- A setting does not matter if the same option is set again behind it. -/
theorem lastSetting?_of_overwritten
    {setting : Setting}
    {rest : List Setting}
    {again : Bool}
    (overwritten : (setting.1, again) ∈ rest)
    (front : List Setting)
    (option : ListOption) :
    lastSetting? (front ++ rest) option = lastSetting? (front ++ setting :: rest) option := by
  rw [lastSetting?_append, lastSetting?_append, lastSetting?_cons]
  by_cases same : setting.1 = option
  · rw [same] at overwritten
    rcases exists_lastSetting?_of_mem overwritten with ⟨last, found⟩
    simp only [found, Option.some_or]
  · rw [if_neg same, Option.or_none]

/-! ## Options in the end -/

theorem eq_of_get
    {left right : Options}
    (same : ∀ option, left.get option = right.get option) :
    left = right := by
  rcases left with ⟨_, _, _, _, _⟩
  rcases right with ⟨_, _, _, _, _⟩
  exact (Options.mk.injEq ..).mpr
    ⟨same .allRevisions, same .currentRevision, same .currentFiles, same .currentCommit,
      same .messages⟩

theorem get_set (options : Options) (setting : Setting) (option : ListOption) :
    (options.set setting.1 setting.2).get option =
      if setting.1 = option then setting.2 else options.get option := by
  split
  · rename_i same
    rw [← same, get_set_self]
  · rename_i different
    exact get_set_of_ne options (Ne.symm different) setting.2

/-- After any settings an option is as the last of them left it: what the first one leaves is the
start of the others. -/
theorem get_setAll (start : Options) (settings : List Setting) (option : ListOption) :
    (start.setAll settings).get option = isWanted start settings option := by
  induction settings generalizing start with
  | nil => rfl
  | cons setting rest ih =>
      rw [setAll, List.foldl_cons, ← setAll, ih, isWanted, isWanted, lastSetting?_cons, get_set]
      cases lastSetting? rest option with
      | some last => rfl
      | none => split <;> rfl

/-- Settings that agree on the last one of every option have the same effect. -/
theorem setAll_eq_of_lastSetting?
    (start : Options)
    {left right : List Setting}
    (agree : ∀ option, lastSetting? left option = lastSetting? right option) :
    start.setAll left = start.setAll right := by
  apply eq_of_get
  intro option
  rw [get_setAll, get_setAll, isWanted, isWanted, agree]

/-! ## What is asked for -/

/-- Files and commits are asked for with a choice of revisions, all else without. -/
theorem name_mem_sent_iff (options : Options) (option : ListOption) :
    option.name ∈ options.sent.map ListOption.name ↔
      options.get option = true ∧
        (option = .currentFiles ∨ option = .currentCommit →
          options.get .allRevisions = true ∨ options.get .currentRevision = true) := by
  have listed : option ∈ ListOption.all := by
    cases option <;> decide
  rw [List.mem_map_of_injective fun _ _ => name_injective, sent, List.mem_filter,
    and_iff_right listed]
  cases option <;> simp [isSent, hasRevision, get]

/-- The names stand in the order of all options, each of them once at most. -/
theorem names_sent_sublist (options : Options) :
    (options.sent.map ListOption.name).Sublist (ListOption.all.map ListOption.name) :=
  List.filter_sublist.map _

end Options

/-! ## Addresses -/

/-- A form that is read back as some names of options tells the options that are sent. -/
theorem exists_form_address (base query : String) (options : Options) :
    ∃ form : List Char,
      address base query options = base ++ "/a/changes/?" ++ String.ofList form ∧
        Url.FormEncoding.readFields? form =
          some (("q", query) ::
            (options.sent.map ListOption.name).map fun name => ("o", name)) := by
  refine ⟨Url.FormEncoding.write (fields query options), address_eq base query options, ?_⟩
  rw [fields, Url.FormEncoding.readFields?_write (List.cons_ne_nil _ _), List.map_map]
  rfl

/--
In the end every option is as its last setting says, or as it was at the start.  So settings that
agree on the last one of every option give the same options and the same addresses; they agree if
each option has the same settings in the same order, or if one lacks a setting that is overwritten
in the other.  The names in an address stand in one order, each of them once at most: those of the
options that are wanted in the end, files and commits only if a choice of revisions is wanted then.
-/
theorem address_of_last_settings (start : Options) (settings : List Setting) :
    (∀ option, (start.setAll settings).get option = start.isWanted settings option) ∧
      (∀ other : List Setting,
        (∀ option, Options.lastSetting? other option = Options.lastSetting? settings option) →
          start.setAll other = start.setAll settings ∧
            ∀ base query,
              address base query (start.setAll other) =
                address base query (start.setAll settings)) ∧
      (∀ other : List Setting,
        (∀ option, Options.settingsOf option other = Options.settingsOf option settings) →
          ∀ option, Options.lastSetting? other option = Options.lastSetting? settings option) ∧
      (∀ (front rest : List Setting) (setting : Setting) (again : Bool),
        settings = front ++ setting :: rest → (setting.1, again) ∈ rest →
          ∀ option,
            Options.lastSetting? (front ++ rest) option = Options.lastSetting? settings option) ∧
      ∀ base query, ∃ (form : List Char) (names : List String),
        address base query (start.setAll settings) =
            base ++ "/a/changes/?" ++ String.ofList form ∧
          Url.FormEncoding.readFields? form =
            some (("q", query) :: names.map fun name => ("o", name)) ∧
          names.Sublist
            ["ALL_REVISIONS", "CURRENT_REVISION", "CURRENT_FILES", "CURRENT_COMMIT", "MESSAGES"] ∧
          names.Nodup ∧
          ∀ option : ListOption,
            option.name ∈ names ↔
              start.isWanted settings option = true ∧
                (option = .currentFiles ∨ option = .currentCommit →
                  start.isWanted settings .allRevisions = true ∨
                    start.isWanted settings .currentRevision = true) := by
  refine ⟨Options.get_setAll start settings, ?_, ?_, ?_, ?_⟩
  · intro other agree
    have same := Options.setAll_eq_of_lastSetting? start agree
    refine ⟨same, ?_⟩
    intro base query
    rw [same]
  · intro other sameSettings option
    rw [Options.lastSetting?, Options.lastSetting?, sameSettings]
  · rintro front rest setting again rfl overwritten option
    exact Options.lastSetting?_of_overwritten overwritten front option
  · intro base query
    obtain ⟨form, shown, read⟩ := exists_form_address base query (start.setAll settings)
    have inOrder := Options.names_sent_sublist (start.setAll settings)
    refine ⟨form, _, shown, read, inOrder, inOrder.nodup (by decide), ?_⟩
    intro option
    simp only [← Options.get_setAll]
    exact Options.name_mem_sent_iff (start.setAll settings) option

/-- Options that are set in another order, and without the setting that is overwritten, ask for the
commit of a revision that is chosen behind it. -/
theorem address_of_last_settings_of_late_revision :
    let settings : List Setting :=
      [(.currentCommit, true), (.messages, true), (.currentRevision, true), (.messages, false)]
    let reordered : List Setting :=
      [(.messages, true), (.currentRevision, true), (.messages, false), (.currentCommit, true)]
    let thinned : List Setting :=
      [(.currentCommit, true), (.currentRevision, true), (.messages, false)]
    Options.bare.setAll reordered = Options.bare.setAll settings ∧
      Options.bare.setAll thinned = Options.bare.setAll settings ∧
      ∃ (form : List Char) (names : List String),
        address "http://h" "x" (Options.bare.setAll settings) =
            "http://h" ++ "/a/changes/?" ++ String.ofList form ∧
          Url.FormEncoding.readFields? form =
            some (("q", "x") :: names.map fun name => ("o", name)) ∧
          "CURRENT_COMMIT" ∈ names := by
  intro settings reordered thinned
  obtain ⟨-, agree, sameSettings, overwritten, shown⟩ := address_of_last_settings .bare settings
  have order (option : ListOption) :
      Options.settingsOf option reordered = Options.settingsOf option settings := by
    cases option <;> rfl
  have removed :=
    overwritten [(.currentCommit, true)] [(.currentRevision, true), (.messages, false)]
      (.messages, true) false rfl (by decide)
  obtain ⟨form, names, sent, read, -, -, among⟩ := shown "http://h" "x"
  refine ⟨(agree reordered (sameSettings reordered order)).1, (agree thinned removed).1,
    form, names, sent, read, ?_⟩
  exact (among .currentCommit).mpr (by decide)

end ReviewQuery.Query
