import PatternBook.Text.Basic

/-!
# Command-line options

The arguments are read from left to right.  An option takes its value from the same argument or
from the next one, which must not look like an option; short options may share an argument.  The
first mistake ends the reading, and so does asking for the version or for help; whether options
contradict each other is seen at the end.
-/

namespace PatternBook.CommandLine

/-- The options of a run. -/
structure Options where
  config  : Option Text := none
  dest    : Option Text := none
  format  : Option Text := none
  root    : Option Text := none
  verbose : Bool := false
  quiet   : Bool := false
  deriving DecidableEq, Repr

/-- The configuration file of a run that names none. -/
def defaultConfig : Text := "sugarcoat.json"

/-- The format of a run that names none. -/
def defaultFormat : Text := "html"

/-- What the arguments ask for. -/
inductive Request where
  | run (options : Options)
  | version
  | help
  /-- The arguments make no sense. -/
  | misuse
  deriving DecidableEq, Repr

/-- An option, by what it does. -/
inductive Flag where
  | dest
  | format
  | root
  | verbose
  | quiet
  | version
  | help
  deriving DecidableEq, Repr

namespace Flag

/-- The option with a long name. -/
def ofLong? (name : Text) : Option Flag :=
  if name = "dest" then some .dest
  else if name = "format" then some .format
  else if name = "root" then some .root
  else if name = "verbose" then some .verbose
  else if name = "quiet" then some .quiet
  else if name = "version" then some .version
  else if name = "help" then some .help
  else none

/-- The option with a short name. -/
def ofShort? : Char → Option Flag
  | 'd' => some .dest
  | 'f' => some .format
  | 'v' => some .verbose
  | 'q' => some .quiet
  | 'V' => some .version
  | 'h' => some .help
  | _ => none

/-- The option has a value. -/
def takesValue : Flag → Bool
  | .dest | .format | .root => true
  | _ => false

end Flag

namespace Options

/-- A value is given to an option: only once, and a directory has a name. -/
def give (o : Options) (flag : Flag) (value : Text) : Option Options :=
  match flag with
  | .dest => if o.dest.isSome then none else some { o with dest := some value }
  | .format => if o.format.isSome then none else some { o with format := some value }
  | .root => if o.root.isSome ∨ value.isEmpty then none else some { o with root := some value }
  | _ => none

/-- A switch is set: only once. -/
def switch (o : Options) (flag : Flag) : Option Options :=
  match flag with
  | .verbose => if o.verbose then none else some { o with verbose := true }
  | .quiet => if o.quiet then none else some { o with quiet := true }
  | _ => none

/-- An argument without a hyphen is the configuration file: only one, and it has a name. -/
def position (o : Options) (value : Text) : Option Options :=
  if o.config.isSome ∨ value.isEmpty then none else some { o with config := some value }

end Options

/-- What reading an argument leads to. -/
inductive Progress where
  | go (options : Options)
  /-- The next argument is the value of an option. -/
  | await (options : Options) (flag : Flag)
  | stop (request : Request)

/-- The progress with options, or a mistake. -/
def Progress.ofOptions : Option Options → Progress
  | some o => .go o
  | none => .stop .misuse

/-- Short options that share an argument. -/
def readShort (o : Options) : Text → Progress
  | [] => .go o
  | c :: rest =>
    match Flag.ofShort? c with
    | none => .stop .misuse
    | some .version => .stop .version
    | some .help => .stop .help
    | some flag =>
      if flag.takesValue then
        match rest with
        | [] => .await o flag
        | '=' :: value => .ofOptions (o.give flag value)
        | value => .ofOptions (o.give flag value)
      else
        match o.switch flag with
        | some o => readShort o rest
        | none => .stop .misuse

/-- A long option, with its value if that is in the same argument. -/
def readLong (o : Options) (t : Text) : Progress :=
  let name := t.takeWhile (· != '=')
  match Flag.ofLong? name, t.dropWhile (· != '=') with
  | none, _ => .stop .misuse
  | some flag, [] =>
    match flag with
    | .version => .stop .version
    | .help => .stop .help
    | flag => if flag.takesValue then .await o flag else .ofOptions (o.switch flag)
  | some flag, _ :: value =>
    if flag.takesValue then .ofOptions (o.give flag value) else .stop .misuse

/-- The argument looks like an option. -/
def looksLikeOption : Text → Bool
  | '-' :: _ :: _ => true
  | _ => false

/-- An argument that is not the value of an option. -/
def readArgument (o : Options) (t : Text) : Progress :=
  match t with
  | '-' :: '-' :: rest => readLong o rest
  | '-' :: c :: rest => readShort o (c :: rest)
  | t => .ofOptions (o.position t)

/-- Arguments that are all positions. -/
def readPositions (o : Options) : List Text → Option Options
  | [] => some o
  | t :: rest =>
    match o.position t with
    | some o => readPositions o rest
    | none => none

/-- The request of options that have all been read: a run is not both verbose and quiet. -/
def finish : Option Options → Request
  | some o => if o.verbose && o.quiet then .misuse else .run o
  | none => .misuse

/-- Arguments after some have been read; `awaiting` wants the next one. -/
def readFrom (o : Options) (awaiting : Option Flag) : List Text → Request
  | [] => if awaiting.isSome then .misuse else finish (some o)
  | t :: rest =>
    match awaiting with
    | some flag =>
      if looksLikeOption t then .misuse
      else
        match o.give flag t with
        | some o => readFrom o none rest
        | none => .misuse
    | none =>
      if t = "--" then finish (readPositions o rest)
      else
        match readArgument o t with
        | .go o => readFrom o none rest
        | .await o flag => readFrom o (some flag) rest
        | .stop request => request

/-- What the arguments ask for. -/
def readArguments (arguments : List Text) : Request := readFrom {} none arguments

end PatternBook.CommandLine
