import PatternBook.CommandLine.Options
import PatternBook.Run.Basic
import PatternBook.Text.Tamed

/-!
# The program

What the program does with its arguments on a disk: the exit code, what it prints, what it logs,
and the disk it leaves behind.
-/

namespace PatternBook.CommandLine

/-- What the program leaves behind. -/
structure Outcome where
  code   : Nat
  /-- The text on standard output. -/
  output : Text
  /-- The complaint on standard error, if there is one. -/
  error  : Option Text
  log    : List Notice
  disk   : Disk

/-- The name and the version of the program. -/
def versionText : Text := "sugarcoat 0.1.0\n"

/-- How the program is used. -/
def helpText : Text :=
  "Build a pattern library from annotated CSS, markup and script comments\n\n" ++
  "Usage: sugarcoat [OPTIONS] [CONFIG]\n\n" ++
  "Arguments:\n" ++
  "  [CONFIG]  JSON configuration file [default: sugarcoat.json]\n\n" ++
  "Options:\n" ++
  "  -d, --dest <DEST>      Override the configured destination directory " ++
  "(\"none\" skips writing)\n" ++
  "  -f, --format <FORMAT>  Output format: html (default), json [default: html]\n" ++
  "      --root <ROOT>      Directory that relative patterns and dest resolve against\n" ++
  "  -v, --verbose          Log debug detail (overridden by RUST_LOG)\n" ++
  "  -q, --quiet            Only log errors\n" ++
  "  -h, --help             Print help\n" ++
  "  -V, --version          Print version\n"

/-- What the program says about arguments that make no sense. -/
def usageText : Text := "usage"

/-! ### Settings -/

/-- Why the configuration file cannot be used. -/
inductive ConfigFault where
  | unreadable (path : Path) (error : FileError)
  | invalid (path : Path) (refusal : Refusal)
  deriving DecidableEq, Repr

/-- The wording of the fault. -/
def ConfigFault.message : ConfigFault → Text
  | .unreadable path error => "failed to read config: " ++ path.toText ++ ": " ++ error.message
  | .invalid path refusal => "invalid config: " ++ path.toText ++ ": " ++ refusal.message

/-- The settings of a configuration file. -/
def loadSettings (d : Disk) (path : Path) : Except ConfigFault Settings :=
  match d.readText path with
  | .error e => .error (.unreadable path e)
  | .ok t =>
    match Settings.ofText t with
    | .ok s => .ok s
    | .error r => .error (.invalid path r)

/-- A destination as looked up from a root; the word for writing nothing stays. -/
def rebase (root : Path) (dest : Text) : Text :=
  if dest = Destination.nowhereName ∨ dest.isEmpty ∨ (Path.ofText dest).isAbsolute then dest
  else (root.join (Path.ofText dest)).toText

namespace Options

/-- The file that holds the settings. -/
def configPath (o : Options) : Path := Path.ofText (o.config.getD defaultConfig)

/-- The root, if one is given. -/
def rootPath (o : Options) : Option Path := o.root.map Path.ofText

/-- The settings with what the options say instead. -/
def apply (o : Options) (s : Settings) : Settings :=
  let dest := o.dest.or s.dest
  match o.rootPath with
  | some root => { s with dest := dest.map (rebase root) }
  | none => { s with dest := dest }

/-- The notice is shown. -/
def shows (o : Options) (notice : Notice) : Bool :=
  match notice.level with
  | .error => true
  | .warn | .info => !o.quiet
  | .debug => o.verbose

end Options

/-! ### Execution -/

/-- A notice as the program logs it.  The reason of a rejection is not part of the message but
stands beside it, as it is. -/
def logLine (n : Notice) : Text :=
  match n.level with
  | .error => n.level.name ++ " run failed error=" ++ n.message
  | _ => n.level.name ++ " " ++ n.message.tamed

/-- The program fails before the run. -/
def failed (message : Text) (d : Disk) : Outcome :=
  ⟨1, [], some ("error: " ++ message), [], d⟩

/-- What a report comes down to. -/
def ofReport (o : Options) (r : Report) : Outcome :=
  let log := r.log.filter o.shows
  match r.result with
  | .ok l =>
    let output :=
      match l.output with
      | some path => path.toText ++ "\n"
      | none => []
    ⟨0, output, none, log, r.disk⟩
  | .error e => ⟨1, [], some ("error[" ++ e.kind ++ "]: " ++ e.message), log, r.disk⟩

/-- A run with options, whose tasks finish in the order of the schedule. -/
def execute (o : Options) (d : Disk) (schedule : Schedule := {}) : Outcome :=
  match loadSettings d o.configPath with
  | .error fault => failed fault.message d
  | .ok settings =>
    let format := o.format.getD defaultFormat
    match Renderer.ofName? format with
    | none => failed (Renderer.unknownMessage format) d
    | some renderer =>
      ofReport o (run (.onDisk d o.rootPath renderer) schedule (o.apply settings) d)

/-- Where a run looks: the document, and where the patterns start. -/
def Options.placesOf (o : Options) (config : Config) : List Path :=
  let starts := config.sections.flatMap fun s => s.files.map (Discovery.start o.rootPath)
  match config.destination, Renderer.ofName? (o.format.getD defaultFormat) with
  | .directory folder, some renderer => Run.documentPath folder renderer.extension :: starts
  | _, _ => starts

/-- Where the program looks with these arguments, as far as a disk with the configuration file
tells. -/
def places (arguments : List Text) (d : Disk) : List Path :=
  match readArguments arguments with
  | .run o =>
    o.configPath ::
      match loadSettings d o.configPath with
      | .error _ => []
      | .ok settings =>
        match (o.apply settings).validate with
        | .error _ => []
        | .ok config => o.placesOf config
  | _ => []

/-- The program. -/
def program (arguments : List Text) (d : Disk) (schedule : Schedule := {}) : Outcome :=
  match readArguments arguments with
  | .run o => execute o d schedule
  | .version => ⟨0, versionText, none, [], d⟩
  | .help => ⟨0, helpText, none, [], d⟩
  | .misuse => ⟨2, [], some usageText, [], d⟩

end PatternBook.CommandLine
