import ReviewQuery.Text.Outline
import ReviewQuery.Url.Encoding

/-!
# What a change query asks for

Besides the changes themselves a query can ask for five kinds of extra data.  `Options` records
which of them are wanted; `Options.sent` lists those that are asked for.  Files and commits belong
to revisions, so they are asked for only together with a choice of revisions.  The address of a
query has its text as the form field `q` and every option that is asked for as a field `o`.
-/

namespace ReviewQuery.Query

/-- A kind of extra data that a query can ask for. -/
inductive ListOption where
  /-- All revisions of a change. -/
  | allRevisions
  /-- The current revision of a change. -/
  | currentRevision
  /-- The files that a revision touches. -/
  | currentFiles
  /-- The commit of a revision. -/
  | currentCommit
  /-- The review messages of a change. -/
  | messages
  deriving DecidableEq, Repr

namespace ListOption

/-- Every option, in the order in which options are sent. -/
def all : List ListOption :=
  [.allRevisions, .currentRevision, .currentFiles, .currentCommit, .messages]

/-- The name of an option in a request. -/
def name : ListOption → String
  | .allRevisions => "ALL_REVISIONS"
  | .currentRevision => "CURRENT_REVISION"
  | .currentFiles => "CURRENT_FILES"
  | .currentCommit => "CURRENT_COMMIT"
  | .messages => "MESSAGES"

/-- The option as it is shown for diagnosis. -/
def outline : ListOption → Text.Outline
  | .allRevisions => .leaf "AllRevisions"
  | .currentRevision => .leaf "CurrentRevision"
  | .currentFiles => .leaf "CurrentFiles"
  | .currentCommit => .leaf "CurrentCommit"
  | .messages => .leaf "Messages"

end ListOption

/-- Which kinds of extra data are wanted. -/
structure Options where
  allRevisions : Bool
  currentRevision : Bool
  currentFiles : Bool
  currentCommit : Bool
  messages : Bool
  deriving DecidableEq, Repr

namespace Options

/-! ## Ready-made choices -/

/-- Nothing but the bare changes. -/
def bare : Options :=
  ⟨false, false, false, false, false⟩

/-- All revisions and the current one. -/
def standard : Options :=
  ⟨true, true, false, false, false⟩

/-- The current revision with its files. -/
def files : Options :=
  ⟨false, true, true, false, false⟩

/-- The current revision. -/
def currentPatchSets : Options :=
  ⟨false, true, false, false, false⟩

/-! ## Single settings -/

/-- Whether an option is wanted. -/
def get (options : Options) : ListOption → Bool
  | .allRevisions => options.allRevisions
  | .currentRevision => options.currentRevision
  | .currentFiles => options.currentFiles
  | .currentCommit => options.currentCommit
  | .messages => options.messages

/-- The same choice but for one option. -/
def set (options : Options) (option : ListOption) (wanted : Bool) : Options :=
  match option with
  | .allRevisions => { options with allRevisions := wanted }
  | .currentRevision => { options with currentRevision := wanted }
  | .currentFiles => { options with currentFiles := wanted }
  | .currentCommit => { options with currentCommit := wanted }
  | .messages => { options with messages := wanted }

/-- The choice after several settings, made from left to right. -/
def setAll (options : Options) (settings : List (ListOption × Bool)) : Options :=
  settings.foldl (fun options setting => options.set setting.1 setting.2) options

@[simp]
theorem get_set_self (options : Options) (option : ListOption) (wanted : Bool) :
    (options.set option wanted).get option = wanted := by
  cases option <;> rfl

theorem get_set_of_ne
    (options : Options)
    {option other : ListOption}
    (different : other ≠ option)
    (wanted : Bool) :
    (options.set option wanted).get other = options.get other := by
  cases option <;> cases other <;> simp_all [set, get]

/-! ## What is asked for -/

/-- Whether any choice of revisions is made. -/
def hasRevision (options : Options) : Bool :=
  options.allRevisions || options.currentRevision

/-- Whether an option is asked for: it is wanted, and files and commits come with a choice of
revisions. -/
def isSent (options : Options) (option : ListOption) : Bool :=
  match option with
  | .currentFiles => options.currentFiles && options.hasRevision
  | .currentCommit => options.currentCommit && options.hasRevision
  | other => options.get other

/-- The options that are asked for, in the order in which they are sent. -/
def sent (options : Options) : List ListOption :=
  ListOption.all.filter options.isSent

/-- The choice as it is shown for diagnosis. -/
def outline (options : Options) : Text.Outline :=
  .record "QueryOptions"
    [("all_revisions", .ofBool options.allRevisions),
      ("current_revision", .ofBool options.currentRevision),
      ("current_files", .ofBool options.currentFiles),
      ("current_commit", .ofBool options.currentCommit),
      ("messages", .ofBool options.messages)]

end Options

/-! ## The address of a query -/

/-- The path of the change endpoint, relative to the base URL. -/
def endpoint : String := "/a/changes/"

/-- The address that a query is sent to; the base URL is taken as it stands. -/
def address (base query : String) (options : Options) : String :=
  let fields := options.sent.flatMap fun option => "&o=".toList ++ option.name.toList
  base ++ endpoint ++ "?q=" ++ String.ofList (Url.FormEncoding.encode query ++ fields)

end ReviewQuery.Query
