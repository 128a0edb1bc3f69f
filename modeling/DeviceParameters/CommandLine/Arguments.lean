import DeviceParameters.CommandLine.Invocation

/-!
# Command line arguments

Options stand before or after the command. Before it they belong to the program, after it to
the command; on either side an option is given at most once, and where both sides give one,
the later counts. A long option takes its value after an equals sign or as the next argument;
a short one also without a separator, and short flags can be bundled. An argument that starts
with a dash is never a value, except the dash alone; after two dashes everything is a word.

Reading arguments either yields an invocation or halts: with a usage fault, or because the
version or the help text is asked for. What halts first counts. What is done with an invocation
does not depend on how it was read; an invocation whose paths are no text is never read here, but is
carried out like any other.
-/

namespace DeviceParameters.CommandLine

/-- What is to be done. -/
inductive Verb where
  | set
  | get
  | list
  | info
  | layout
  | version
  deriving DecidableEq, Repr

namespace Verb

/-- Every verb. -/
def all : List Verb := [.set, .get, .list, .info, .layout, .version]

/-- The word for a verb. -/
def word : Verb → String
  | .set => "set"
  | .get => "get"
  | .list => "list"
  | .info => "info"
  | .layout => "layout"
  | .version => "version"

/-- The verb of a word. -/
def ofWord? (word : String) : Option Verb := all.find? fun verb => verb.word = word

/-- How many words follow a verb. -/
def wordCount : Verb → Nat
  | .set => 2
  | .get => 1
  | _ => 0

/-- Whether the output of a verb has a choice of form. -/
def hasForm : Verb → Bool
  | .list | .info | .layout => true
  | _ => false

end Verb

/-- An option without a value. -/
inductive Flag where
  | noFormat
  | verbose
  deriving DecidableEq, Repr

/-- An option with a value. -/
inductive Setting where
  | root
  | image
  | capacity
  | form
  deriving DecidableEq, Repr

/-- What an option stands for. -/
inductive Meaning where
  | flag (flag : Flag)
  | setting (setting : Setting)
  | version
  | help
  deriving DecidableEq, Repr

/-- What is wrong with the arguments. -/
inductive UsageFault where
  | unknownOption
  | repeatedOption
  | missingValue
  | unexpectedValue
  | emptyPath
  | notANumber
  | twoMedia
  | missingCommand
  | unknownCommand
  | missingWord
  | extraWord
  deriving DecidableEq, Repr

/-- The wording of a usage fault. -/
def UsageFault.message : UsageFault → String
  | .unknownOption => "unknown option"
  | .repeatedOption => "option given more than once"
  | .missingValue => "option without its value"
  | .unexpectedValue => "flag with a value"
  | .emptyPath => "empty path"
  | .notANumber => "not a number"
  | .twoMedia => "root and nvm cannot be used together"
  | .missingCommand => "command missing"
  | .unknownCommand => "unknown command"
  | .missingWord => "argument missing"
  | .extraWord => "argument not expected"

/-- Why reading the arguments ends early. -/
inductive Halt where
  | usage (fault : UsageFault)
  | version
  | help
  deriving DecidableEq, Repr

/-- The options given on one side of the command. -/
structure Given where
  root : Option Path
  image : Option Path
  capacity : Option Nat
  form : Option String
  noFormat : Bool
  verbose : Bool
  deriving DecidableEq

namespace Given

/-- No option given. -/
def none : Given := ⟨.none, .none, .none, .none, false, false⟩

/-- Note a flag. -/
def raise (given : Given) : Flag → Except Halt Given
  | .noFormat =>
    if given.noFormat then .error (.usage .repeatedOption) else .ok { given with noFormat := true }
  | .verbose =>
    if given.verbose then .error (.usage .repeatedOption) else .ok { given with verbose := true }

end Given

/-- A path that is not empty. -/
def readPath (text : String) : Except Halt Path :=
  if text.toList = [] then .error (.usage .emptyPath) else .ok (.ofText text)

/-- The value of a decimal digit. -/
def digit? (char : Char) : Option Nat :=
  if '0' ≤ char ∧ char ≤ '9' then some (char.toNat - '0'.toNat) else none

/-- The number that decimal digits spell, after those already read. -/
def readDigits (soFar : Nat) : List Char → Option Nat
  | [] => some soFar
  | char :: rest =>
    match digit? char with
    | some digit => readDigits (10 * soFar + digit) rest
    | none => none

/-- A number below 2 ^ 64: decimal digits, with a plus sign in front if wanted. -/
def readNumber (text : String) : Except Halt Nat :=
  let digits := match text.toList with
    | '+' :: digits => digits
    | digits => digits
  match digits, readDigits 0 digits with
  | _ :: _, some value =>
    if value < 18446744073709551616 then .ok value else .error (.usage .notANumber)
  | _, _ => .error (.usage .notANumber)

namespace Given

/-- Note the value of an option. -/
def assign (given : Given) (setting : Setting) (text : String) : Except Halt Given :=
  match setting with
  | .root => do
    let path ← readPath text
    if given.root.isSome then .error (.usage .repeatedOption)
    else .ok { given with root := some path }
  | .image => do
    let path ← readPath text
    if given.image.isSome then .error (.usage .repeatedOption)
    else .ok { given with image := some path }
  | .capacity => do
    let value ← readNumber text
    if given.capacity.isSome then .error (.usage .repeatedOption)
    else .ok { given with capacity := some value }
  | .form =>
    if given.form.isSome then .error (.usage .repeatedOption)
    else .ok { given with form := some text }

/-- The options of both sides; a value after the command counts more. -/
def combine (inner outer : Given) : Given where
  root := inner.root.or outer.root
  image := inner.image.or outer.image
  capacity := inner.capacity.or outer.capacity
  form := inner.form.or outer.form
  noFormat := inner.noFormat || outer.noFormat
  verbose := inner.verbose || outer.verbose

/-- The two media are not chosen on the same side. -/
def checkMedia (given : Given) : Except Halt Unit :=
  if given.root.isSome ∧ given.image.isSome then .error (.usage .twoMedia) else .ok ()

end Given

/-- The side of the command on which an argument stands: in front of it, where its verb is not
known yet, or behind its verb. -/
abbrev Side := Option Verb

/-- The meaning of a long option on a side of the command. -/
def longMeaning? (side : Side) (name : String) : Option Meaning :=
  if name = "root" then some (.setting .root)
  else if name = "nvm" then some (.setting .image)
  else if name = "capacity" then some (.setting .capacity)
  else if name = "no-format" then some (.flag .noFormat)
  else if name = "verbose" then some (.flag .verbose)
  else if name = "help" then some .help
  else match side with
    | none => if name = "version" then some .version else none
    | some verb => if name = "format" ∧ verb.hasForm then some (.setting .form) else none

/-- The meaning of a short option on a side of the command. -/
def shortMeaning? (side : Side) (letter : Char) : Option Meaning :=
  if letter = 'r' then some (.setting .root)
  else if letter = 'n' then some (.setting .image)
  else if letter = 'v' then some (.flag .verbose)
  else if letter = 'h' then some .help
  else match side with
    | none => if letter = 'V' then some .version else none
    | some verb => if letter = 'f' ∧ verb.hasForm then some (.setting .form) else none

/-- The shape of an argument. -/
inductive Shape where
  | terminator
  | long (text : List Char)
  | bundle (letters : List Char)
  | word
  deriving DecidableEq, Repr

/-- The shape of an argument. -/
def shape (argument : String) : Shape :=
  match argument.toList with
  | ['-', '-'] => .terminator
  | '-' :: '-' :: text => .long text
  | ['-'] => .word
  | '-' :: letters => .bundle letters
  | _ => .word

/-- Read a long option: what is given then, and the option that still waits for its value. -/
def readLong (side : Side) (given : Given) (text : List Char) :
    Except Halt (Given × Option Setting) :=
  let name := String.ofList (text.takeWhile (· ≠ '='))
  let attached := text.dropWhile (· ≠ '=')
  match longMeaning? side name, attached with
  | none, _ => .error (.usage .unknownOption)
  | some (.setting setting), [] => .ok (given, some setting)
  | some (.setting setting), _ :: value => do
    let next ← given.assign setting (String.ofList value)
    .ok (next, none)
  | some _, _ :: _ => .error (.usage .unexpectedValue)
  | some (.flag flag), [] => do
    let next ← given.raise flag
    .ok (next, none)
  | some .version, [] => .error .version
  | some .help, [] => .error .help

/-- Read bundled short options. The first that takes a value takes the rest of the bundle, or
waits for its value where nothing is left. -/
def readBundle (side : Side) (given : Given) : List Char → Except Halt (Given × Option Setting)
  | [] => .ok (given, none)
  | letter :: rest =>
    match shortMeaning? side letter with
    | none => .error (.usage .unknownOption)
    | some .version => .error .version
    | some .help => .error .help
    | some (.flag flag) => do
      let next ← given.raise flag
      readBundle side next rest
    | some (.setting setting) =>
      match rest with
      | [] => .ok (given, some setting)
      | '=' :: value => do
        let next ← given.assign setting (String.ofList value)
        .ok (next, none)
      | value => do
        let next ← given.assign setting (String.ofList value)
        .ok (next, none)

/-- What stands on one side of the command, and the command with what follows it. -/
structure SideReading where
  given : Given
  words : List String
  next : Option (Verb × List String)

/-- Take one more word behind a verb. A word that the verb has no place for is refused there and
then, whatever follows it. -/
def takeWord (verb : Verb) (words : List String) (word : String) : Except Halt (List String) :=
  if words.length < verb.wordCount then .ok (words ++ [word]) else .error (.usage .extraWord)

/-- A request for help names a command or nothing. -/
def helpRequest (topics : List String) : Halt :=
  match topics with
  | [] => .help
  | [topic] =>
    if topic = "help" ∨ (Verb.ofWord? topic).isSome then .help else .usage .unknownCommand
  | _ => .usage .unknownCommand

/-- Read the arguments of one side. An option may be waiting for its value. -/
def readSide (side : Side) (given : Given) (words : List String) (waiting : Option Setting) :
    List String → Except Halt SideReading
  | [] =>
    match waiting with
    | some _ => .error (.usage .missingValue)
    | none => .ok ⟨given, words, none⟩
  | argument :: rest =>
    match waiting, shape argument with
    | some setting, .word => do
      let next ← given.assign setting argument
      readSide side next words none rest
    | some _, _ => .error (.usage .missingValue)
    | none, .long text => do
      let (next, pending) ← readLong side given text
      readSide side next words pending rest
    | none, .bundle letters => do
      let (next, pending) ← readBundle side given letters
      readSide side next words pending rest
    | none, .terminator =>
      match side, rest with
      | some verb, _ => do
        let taken ← rest.foldlM (takeWord verb) words
        .ok ⟨given, taken, none⟩
      | none, [] => .error (.usage .missingCommand)
      | none, _ :: _ => .error (.usage .unknownCommand)
    | none, .word =>
      match side with
      | some verb => do
        let taken ← takeWord verb words argument
        readSide side given taken none rest
      | none =>
        match Verb.ofWord? argument with
        | some verb => .ok ⟨given, words, some (verb, rest)⟩
        | none =>
          if argument = "help" then .error (helpRequest rest)
          else .error (.usage .unknownCommand)

/-- A verb with its words and its form. -/
def Command.ofVerb (verb : Verb) (words : List String) (form : Form) : Except Halt Command :=
  if words.length < verb.wordCount then .error (.usage .missingWord)
  else match verb, words with
    | .set, [key, value] => .ok (.set key value)
    | .get, [key] => .ok (.get key)
    | .list, [] => .ok (.list form)
    | .info, [] => .ok (.info form)
    | .layout, [] => .ok (.layout form)
    | .version, [] => .ok .version
    | _, _ => .error (.usage .extraWord)

/-- Read the arguments of the program. -/
def Invocation.ofArguments (arguments : List String) : Except Halt Invocation := do
  let outer ← readSide none .none [] none arguments
  match outer.next with
  | none => .error (.usage .missingCommand)
  | some (verb, rest) =>
    let inner ← readSide (some verb) .none [] none rest
    let command ← Command.ofVerb verb inner.words (Form.ofWord (inner.given.form.getD "text"))
    inner.given.checkMedia
    outer.given.checkMedia
    let given := inner.given.combine outer.given
    .ok {
      root := given.root
      image := given.image
      capacity := given.capacity.getD defaultCapacity
      mayFormat := !given.noFormat
      verbose := given.verbose
      command := command }

end DeviceParameters.CommandLine
