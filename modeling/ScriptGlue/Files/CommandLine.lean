import ScriptGlue.Config.Reader
import ScriptGlue.Files.Generation

/-!
# The command line

The arguments of the program and what it does with them. Options may stand anywhere; the first run of
other arguments names the documentation, the output directory, the source directory and the classes. Long
options may be shortened as long as they stay unique, and short options may be written together.
-/

namespace ScriptGlue.CommandLine

open ScriptGlue.Text ScriptGlue.Files

/-! ### Options -/

/-- An option. -/
inductive Flag where
  | help
  | config
  | verbose
  | quiet
  deriving DecidableEq, Repr

/-- The spellings of the options, in the order in which they are listed. -/
def spellings : List (String × Flag) :=
  [("-h", .help), ("--help", .help), ("-C", .config), ("--config", .config),
    ("-v", .verbose), ("--verbose", .verbose), ("-q", .quiet), ("--quiet", .quiet)]

/-- The option as it is named in messages. -/
def Flag.label : Flag → String
  | help => "-h/--help"
  | config => "-C/--config"
  | verbose => "-v/--verbose"
  | quiet => "-q/--quiet"

/-- What can be wrong with the arguments. -/
inductive Misuse where
  /-- A shortened option may stand for several. -/
  | ambiguous (written : String) (candidates : List String)
  /-- An option lacks its value. -/
  | missingValue (flag : Flag)
  /-- An option is given a value that it does not take. -/
  | unwantedValue (flag : Flag) (value : String)
  /-- An option comes after one that it excludes. -/
  | conflict (flag earlier : Flag)
  /-- Arguments are left over. -/
  | unrecognized (left : List String)
  deriving DecidableEq, Repr

/-- What is said about the misuse. -/
def Misuse.message : Misuse → String
  | ambiguous written candidates =>
    "ambiguous option: " ++ written ++ " could match " ++ ", ".intercalate candidates
  | missingValue flag => "argument " ++ flag.label ++ ": expected one argument"
  | unwantedValue flag value => "argument " ++ flag.label ++ ": ignored explicit argument " ++ quoted value
  | conflict flag earlier => "argument " ++ flag.label ++ ": not allowed with argument " ++ earlier.label
  | unrecognized left => "unrecognized arguments: " ++ " ".intercalate left

/-! ### Kinds of arguments -/

/-- What is written together with an option. -/
inductive Attached where
  /-- Nothing. -/
  | nothing
  /-- A text right after the letter of the option or, if the letter stands alone, after an equals sign. -/
  | letters (text : String)
  /-- A value after a long option and an equals sign. -/
  | value (text : String)
  deriving DecidableEq, Repr

/-- The kind of an argument. -/
inductive Kind where
  /-- It stands for itself. -/
  | plain
  /-- The first pair of dashes: no option comes after it. -/
  | dashes
  /-- A known option and what is written together with it. -/
  | option (flag : Flag) (attached : Attached)
  /-- An option that is not known. -/
  | unknown
  deriving DecidableEq, Repr

/-- What stands before and after the first equals sign. -/
def cutValue? (written : String) : Option (String × String) :=
  (cutFirst ['='] written.toList).map fun (a, b) => (String.ofList a, String.ofList b)

/-- A decimal digit of any script. -/
def isDigit (c : Char) : Bool := (digitValue? 10 (asciiForm c)).isSome

/-- The argument is a negative number; a line break at its end does not count. -/
def isNegativeNumber (written : List Char) : Bool :=
  match if written.getLast? == some '\n' then written.dropLast else written with
  | '-' :: rest =>
    match rest.dropWhile isDigit with
    | [] => !rest.isEmpty
    | '.' :: fraction => !fraction.isEmpty && fraction.all isDigit
    | _ => false
  | _ => false

/-- The known options that an argument may stand for though it spells none, with their spellings: long ones
that it begins, or a short one followed by letters. -/
def candidates (written : String) : List (String × Kind) :=
  if startsWith written "--" then
    let (start, attached) := match cutValue? written with
      | some (start, value) => (start, Attached.value value)
      | none => (written, .nothing)
    (spellings.filter fun (s, _) => startsWith s start).map fun (s, flag) => (s, .option flag attached)
  else
    (spellings.filter fun (s, _) => s == String.ofList (written.toList.take 2)).map fun (s, flag) =>
      (s, .option flag (.letters (dropStart written 2)))

/-- The kind of an argument. -/
def kindOf (written : String) : Except Misuse Kind :=
  if !startsWith written "-" || written == "-" then .ok .plain
  else
    let spelled? := (spellings.lookup written).map (Kind.option · .nothing)
    let assigned? := (cutValue? written).bind fun (start, value) =>
      (spellings.lookup start).map (Kind.option · (if start.length == 2 then .letters value else .value value))
    match spelled?.or assigned? with
    | some kind => .ok kind
    | none =>
      match candidates written with
      | [(_, kind)] => .ok kind
      | [] =>
        .ok (if isNegativeNumber written.toList || written.toList.contains ' ' then .plain else .unknown)
      | several => .error (.ambiguous written (several.map (·.1)))

/-- The arguments with their kinds. -/
def kinds : List String → Except Misuse (List (String × Kind))
  | [] => .ok []
  | written :: rest =>
    if written == "--" then .ok ((written, .dashes) :: rest.map (·, .plain))
    else do
      let kind ← kindOf written
      let later ← kinds rest
      pure ((written, kind) :: later)

/-! ### Reading the arguments -/

/-- What the arguments say. -/
structure Arguments where
  /-- The directory with the documentation. -/
  documentation : Option String := none
  /-- The directory for the bindings. -/
  output : Option String := none
  /-- The source directory. -/
  sourceRoot : Option String := none
  /-- The classes asked for. -/
  classes : List String := []
  /-- The configuration file. -/
  config : Option String := none
  /-- All messages are shown. -/
  verbose : Bool := false
  /-- Only warnings are shown. -/
  quiet : Bool := false
  deriving DecidableEq, Repr

/-- Why reading the arguments ends before they are all read. -/
inductive Stop where
  /-- Help is asked for. -/
  | help
  /-- They cannot be understood. -/
  | misuse (m : Misuse)
  deriving DecidableEq, Repr

/-- The kind is not that of an option. -/
def Kind.isPositional : Kind → Bool
  | plain | dashes => true
  | option _ _ | unknown => false

/-- The arguments that may make up one value, a pair of dashes before it or after it included, and the
rest. -/
def takeOne (run : List (String × Kind)) : List String × List (String × Kind) :=
  let before := run.takeWhile (·.2 == .dashes)
  let rest := run.dropWhile (·.2 == .dashes)
  let value := rest.take 1
  let after := rest.drop 1
  (((before ++ value ++ after.takeWhile (·.2 == .dashes)).map (·.1)).erase "--",
    after.dropWhile (·.2 == .dashes))

/-- The arguments with the values of the first run of arguments that are no options. -/
def takePositional (a : Arguments) (run : List (String × Kind)) : Arguments :=
  let (documentation, run) := takeOne run
  let (output, run) := takeOne run
  let (sourceRoot, run) := takeOne run
  { a with
    documentation := documentation.head?
    output := output.head?
    sourceRoot := sourceRoot.head?
    classes := (run.map (·.1)).erase "--" }

/-- The arguments after an option that takes no value has been met. -/
def Arguments.mark (a : Arguments) : Flag → Except Stop Arguments
  | .help => .error .help
  | .verbose => if a.quiet then .error (.misuse (.conflict .verbose .quiet)) else .ok { a with verbose := true }
  | .quiet => if a.verbose then .error (.misuse (.conflict .quiet .verbose)) else .ok { a with quiet := true }
  | .config => .error (.misuse (.missingValue .config))

/-- The options that an argument holds. -/
structure Cluster where
  /-- The options in order; only the last can take a value. -/
  flags : List Flag
  /-- The value written with the last one. -/
  value? : Option String := none
  deriving DecidableEq, Repr

/-- The cluster of an option with letters right after it: the value of the option if it takes one, or else
more options, of which every letter must be one. -/
def Cluster.ofLetters (flag : Flag) : List Char → Except Misuse Cluster
  | [] => .ok { flags := [flag] }
  | c :: rest =>
    if flag == .config then .ok { flags := [flag], value? := some (String.ofList (c :: rest)) }
    else
      match spellings.lookup (String.ofList ['-', c]) with
      | some next => do
        let later ← ofLetters next rest
        pure { later with flags := flag :: later.flags }
      | none => .error (.unwantedValue flag (String.ofList (c :: rest)))

/-- The cluster of an option with what is written together with it. -/
def Cluster.of (flag : Flag) : Attached → Except Misuse Cluster
  | .nothing => .ok { flags := [flag] }
  | .letters text =>
    if text.isEmpty || flag == .config then ofValue text else ofLetters flag text.toList
  | .value text => ofValue text
where
  /-- The cluster of the option with a value, which only one option takes. -/
  ofValue (value : String) : Except Misuse Cluster :=
    if flag == .config then .ok { flags := [flag], value? := some value } else .error (.unwantedValue flag value)

/-- The value of an option and the arguments after it: the value written with it, or else the next
argument if that is no option. -/
def takeValue? (written? : Option String) (rest : List (String × Kind)) :
    Option (String × List (String × Kind)) :=
  match written?, rest with
  | some value, _ => some (value, rest)
  | none, (value, .plain) :: later => some (value, later)
  | none, _ => none

theorem takeValue?_length {written? : Option String} {rest later : List (String × Kind)} {value : String}
    (h : takeValue? written? rest = some (value, later)) : later.length ≤ rest.length := by
  unfold takeValue? at h
  split at h <;> simp_all

/-- The arguments and those left over after some more, `read` telling whether the run of arguments that
are no options has been met. A value of two dashes counts as none. -/
def readFrom (a : Arguments) (left : List String) (read : Bool) (args : List (String × Kind)) :
    Except Stop (Arguments × List String) :=
  match args with
  | [] => .ok (a, left)
  | (written, .unknown) :: rest => readFrom a (left ++ [written]) read rest
  | (_, .option flag attached) :: rest =>
    match Cluster.of flag attached with
    | .error m => .error (.misuse m)
    | .ok c =>
      let marks := c.flags.filter (· != .config)
      if c.flags.contains .config then
        match h : takeValue? c.value? rest with
        | none => .error (.misuse (.missingValue .config))
        | some (value, later) =>
          have := takeValue?_length h
          match marks.foldlM Arguments.mark a with
          | .error stop => .error stop
          | .ok a => readFrom { a with config := (some value).filter (· != "--") } left read later
      else
        match marks.foldlM Arguments.mark a with
        | .error stop => .error stop
        | .ok a => readFrom a left read rest
  | (written, kind) :: rest =>
    let run := (written, kind) :: rest.takeWhile (·.2.isPositional)
    have := (List.dropWhile_suffix (l := rest) (·.2.isPositional)).length_le
    let later := rest.dropWhile (·.2.isPositional)
    if read then readFrom a (left ++ run.map (·.1)) read later
    else readFrom (takePositional a run) left true later
termination_by args.length
decreasing_by all_goals simp_all; try omega

/-- What the arguments say, if they can be understood. -/
def readArguments (argv : List String) : Except Stop Arguments :=
  match kinds argv with
  | .error m => .error (.misuse m)
  | .ok args =>
    match readFrom {} [] false args with
    | .error stop => .error stop
    | .ok (a, left) => if left.isEmpty then .ok a else .error (.misuse (.unrecognized left))

/-! ### Running -/

/-- How the program is called. -/
def usage : String :=
  block ["usage: duk-binding-generator [-h] [-C CONFIG_FILE] [-v | -q]",
    "                             [INPUT_XML_DIR] [OUTPUT_DIR] [SOURCE_ROOT]",
    "                             [CLASS ...]"]

/-- What the program does and how it is called. -/
def help : String :=
  usage ++ block ["",
    "Generate Duktape JavaScript bindings from Doxygen XML documentation", "",
    "positional arguments:",
    "  INPUT_XML_DIR         Directory containing the Doxygen XML output",
    "  OUTPUT_DIR            Directory for the generated <Class>Bindings.cpp files",
    "  SOURCE_ROOT           Source tree searched for class headers",
    "  CLASS                 Classes to bind (default: every class in the",
    "                        documentation)", "",
    "options:",
    "  -h, --help            show this help message and exit",
    "  -C CONFIG_FILE, --config CONFIG_FILE",
    "                        XML configuration file extending the built-in type",
    "                        tables",
    "  -v, --verbose         Show debug diagnostics",
    "  -q, --quiet           Only show warnings and errors", "",
    "Examples:",
    "  duk-binding-generator doc/xml generated src Scene Entity _IComponent",
    "  duk-binding-generator -C bindings.xml doc/xml generated src float3 Quat", "",
    "A class name starting with _ is registered as a dependency only and gets no",
    "bindings file of its own.",
    "        "]

/-- How a run of the program ends. -/
structure Outcome where
  /-- The exit status, zero for success. -/
  status : Nat
  /-- What is shown as output. -/
  output : String
  /-- What is shown as errors. -/
  errors : String
  /-- The files afterwards. -/
  tree : Tree

/-- The least severity of the messages that are shown. -/
def Arguments.threshold (a : Arguments) : Nat :=
  if a.verbose then Level.debug.severity
  else if a.quiet then Level.warning.severity
  else Level.info.severity

/-- The configuration in a file, what is said where it cannot be used, or the failure where a file that is
there cannot be read or decoded at all. -/
def readConfig (t : Tree) (name : String) : Except Failure (Except String Config) :=
  match t.read name with
  | .ok text =>
    match Config.ofText text with
    | .ok config => .ok (.ok config)
    | .error (.coding (.unknown name)) => .error (.coding (.unknown name))
    | .error (.coding (.noText name)) => .error (.coding (.noText name))
    | .error e => .ok (.error e.message)
  | .error (.notFound _) => .ok (.error ("Configuration file not found: " ++ name))
  | .error .nullCharacter => .ok (.error FileError.nullCharacter.message)
  | .error refusal => .error (.file refusal)

/-- The run of the generator that the arguments ask for. -/
def generate (t : Tree) (a : Arguments) (config : Config) (documentation output : String) : Outcome :=
  let run := ((Step.generate documentation output a.sourceRoot a.classes).run.run { config, tree := t })
  let (result, w) := run.value
  let shown := showMessages a.threshold run.log
  match result with
  | .ok _ => ⟨0, shown, "", w.tree⟩
  | .error failure =>
    ⟨1, shown, "Error: " ++ failure.message ++ "\n" ++
      (if a.verbose then "Traceback (most recent call last):\n" else ""), w.tree⟩

/-- What the program does with its arguments over a file tree, unless the configuration file cannot be read. -/
def run (t : Tree) (argv : List String) : Except Failure Outcome :=
  match readArguments argv with
  | .error .help => .ok ⟨0, help, "", t⟩
  | .error (.misuse m) => .ok ⟨2, "", usage ++ "duk-binding-generator: error: " ++ m.message ++ "\n", t⟩
  | .ok a =>
    match a.documentation.filter (!·.isEmpty), a.output.filter (!·.isEmpty) with
    | some documentation, some output =>
      match a.config.filter (!·.isEmpty) with
      | none => .ok (generate t a .default documentation output)
      | some name => do
        match ← readConfig t name with
        | .ok config => pure (generate t a config documentation output)
        | .error message => pure ⟨1, "", "Error reading config file: " ++ message ++ "\n", t⟩
    | _, _ => .ok ⟨0, usage, "", t⟩

end ScriptGlue.CommandLine
