import DeviceParameters.CommandLine.Arguments
import DeviceParameters.Opening
import DeviceParameters.Report.Layout
import DeviceParameters.Report.Listing
import DeviceParameters.Report.Usage

/-!
# The program

A run of the program as a function: from the file tree and an invocation to the file tree that
is left and what the user sees. A run ends with code 0, with code 1 and the cause, or with code 2
where the arguments are at fault and nothing was done.

Events are kept apart from the output. Those of the debug level are only reported to a user
who asks for them.
-/

namespace DeviceParameters.CommandLine

/-- The version of the program. -/
def version : String := "0.3.0"

/-- What a run comes to. -/
structure Exit where
  code : Nat
  output : String
  errors : String
  events : List Event
  deriving DecidableEq

namespace Exit

/-- A run that succeeded. -/
def success (lines : List String) (events : List Event) : Exit :=
  ⟨0, String.join (lines.map (· ++ "\n")), "", events⟩

/-- A run that failed with a cause. -/
def failure (cause : String) (events : List Event) : Exit :=
  ⟨1, "", s!"Error: {cause}\n", events⟩

/-- A run that was halted while its arguments were read. -/
def halted : Halt → Exit
  | .version => success [s!"paramstore {version}"] []
  | .help => success ["Usage: paramstore [OPTIONS] <COMMAND>"] []
  | .usage fault => ⟨2, "", s!"error: {fault.message}\n", []⟩

/-- A run as a user sees it, with or without the events of the debug level. -/
def reported (exit : Exit) (verbose : Bool) : Exit :=
  { exit with events := exit.events.filter fun event => verbose || event.level ≠ .debug }

end Exit

/-- A text with spaces behind it up to a width. -/
def padRight (width : Nat) (text : String) : String :=
  text ++ String.ofList (List.replicate (width - text.toList.length) ' ')

/-- A text with spaces in front of it up to a width. -/
def padLeft (width : Nat) (text : String) : String :=
  String.ofList (List.replicate (width - text.toList.length) ' ') ++ text

/-- The confirmation of a set. -/
def confirmation (key : String) : SetOutcome → String
  | .stored => s!"✓ {key} set"
  | .truncated valueLength storedLength =>
    s!"✓ {key} set (truncated from {valueLength} to {storedLength} bytes)"

/-- The lines of a listing. -/
def listingLines (form : Form) (backend : String) (entries : List Listed) : List String :=
  match form with
  | .json => [Json.renderRecords (entries.map Listed.toRecord)]
  | .text =>
    [s!"Parameters ({backend})", "=========="] ++ entries.map fun entry =>
      "  " ++ padRight 12 entry.key ++ " " ++ entry.value.getD "<unset>"

/-- The lines of a usage report. -/
def usageLines (form : Form) (usage : Usage) : List String :=
  match form with
  | .json => [Json.renderRecord 0 usage.toRecord]
  | .text =>
    ["Parameter Storage", "=================", s!"  Backend: {usage.backend}",
      s!"  Path: {usage.path}", s!"  Total: {usage.totalBytes} bytes",
      s!"  Used: {usage.usedBytes} bytes"]

/-- The columns of a row of the slot table. -/
def layoutLine (slot key offset value maximum : String) : String :=
  s!"  {padRight 5 slot} {padRight 12 key} {padLeft 6 offset} {padLeft 6 value} {padLeft 4 maximum}"

/-- The lines of the slot table. -/
def layoutLines (form : Form) : List String :=
  match form with
  | .json => [Json.renderRecords (SlotRow.table.map SlotRow.toRecord)]
  | .text =>
    [s!"NVM Slot Layout ({Slot.tableSize} bytes)",
      layoutLine "slot" "key" "offset" "value" "max"] ++
    SlotRow.table.map fun row =>
      layoutLine (toString row.index) row.key (toString row.offset) (toString row.valueOffset)
        (toString row.maximumLength)

/-- Set a parameter. -/
def runSet (tree : FileTree) (store : ParameterStore) (key value : String) : FileTree × Exit :=
  let reply := store.set tree key value
  let events := .setting key store.backend :: reply.events
  match reply.result with
  | .ok outcome => (reply.state.1, .success [confirmation key outcome] events)
  | .error error => (reply.state.1, .failure error.detailed events)

/-- Print a parameter. -/
def runGet (tree : FileTree) (store : ParameterStore) (key : String) : Exit :=
  let answer := store.get tree key
  let events := .reading key store.backend :: answer.events
  match answer.result with
  | .ok value => .success [value] events
  | .error error => .failure error.detailed events

/-- Print every parameter. -/
def runList (tree : FileTree) (store : ParameterStore) (form : Form) : Exit :=
  let answer := store.collect tree
  match answer.result with
  | .ok entries => .success (listingLines form store.backend entries) answer.events
  | .error error => .failure error.detailed answer.events

/-- Open the store of a platform for an invocation and use it; the events of opening come first. -/
def withStore (tree : FileTree) (invocation : Invocation) (platform : Platform)
    (use : FileTree → ParameterStore → FileTree × Exit) : FileTree × Exit :=
  let opened := ParameterStore.openFor tree platform invocation.config
  match opened.result with
  | .error error => (opened.state, .failure error.detailed opened.events)
  | .ok store =>
    let (reached, exit) := use opened.state store
    (reached, { exit with events := opened.events ++ exit.events })

/-- Report the usage of the medium of a platform. -/
def runInfo (tree : FileTree) (invocation : Invocation) (platform : Platform) (form : Form) : Exit :=
  match Usage.gather tree platform invocation.config with
  | .ok usage => .success (usageLines form usage) []
  | .error cause => .failure cause.detailed []

/-- The failure of an invocation that names no medium, in a build without one. -/
def missingMedium : Exit :=
  .failure (Quoted.quote "no backend in this build; pass --root or --nvm") []

/-- Carry out an invocation in a build; every event is kept. -/
def Invocation.perform (invocation : Invocation) (build : Build) (tree : FileTree) :
    FileTree × Exit :=
  let onMedium (use : Platform → FileTree × Exit) : FileTree × Exit :=
    match invocation.platform? build with
    | none => (tree, missingMedium)
    | some platform => use platform
  match invocation.command with
  | .set key value => onMedium fun platform =>
    withStore tree invocation platform fun reached store => runSet reached store key value
  | .get key => onMedium fun platform =>
    withStore tree invocation platform fun reached store => (reached, runGet reached store key)
  | .list form => onMedium fun platform =>
    withStore tree invocation platform fun reached store => (reached, runList reached store form)
  | .info form => onMedium fun platform => (tree, runInfo tree invocation platform form)
  | .layout form => (tree, .success (layoutLines form) [])
  | .version =>
    (tree, .success [s!"ParamStore CLI v{version}", s!"ParamStore Core v{version}"] [])

/-- A run of the program in a build, once its arguments are read. -/
def Invocation.run (invocation : Invocation) (build : Build) (tree : FileTree) : FileTree × Exit :=
  let (reached, exit) := invocation.perform build tree
  (reached, exit.reported invocation.verbose)

/-- Run the program, in the standard build. -/
def run (tree : FileTree) (arguments : List String) : FileTree × Exit :=
  match Invocation.ofArguments arguments with
  | .error halt => (tree, .halted halt)
  | .ok invocation => invocation.run .standard tree

end DeviceParameters.CommandLine
