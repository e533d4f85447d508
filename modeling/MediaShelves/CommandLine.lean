import MediaShelves.Catalog.Outline
import MediaShelves.Configuration.Document
import MediaShelves.FileTree
import MediaShelves.Scan

/-!
# The command line

What the program prints for its arguments and the files at hand: the outline of the shelves that a
directory is sorted onto, or an error.
-/

namespace MediaShelves.CommandLine

/-! ## Arguments -/

/-- What the arguments ask for. -/
structure Request where
  directory : String
  configuration : Option String
  tags : Bool
  verbose : Bool
deriving DecidableEq, Repr

/-- The arguments that have been read so far. -/
structure Arguments where
  directory : Option String
  configuration : Option String
  tags : Bool
  verbose : Bool
deriving DecidableEq, Repr

/-- No arguments. -/
def Arguments.blank : Arguments :=
  ⟨none, none, false, false⟩

/-- Why arguments do not make sense, or that help is asked for. -/
inductive UsageError where
  | help
  | usage
deriving DecidableEq, Repr

/-- The directory, which may be given once. -/
def Arguments.setDirectory (p : Arguments) (value : String) : Except UsageError Arguments :=
  if p.directory.isSome then .error .usage else .ok { p with directory := some value }

/-- The path of the configuration, which may be given once. -/
def Arguments.setConfiguration (p : Arguments) (value : String) : Except UsageError Arguments :=
  if p.configuration.isSome then .error .usage else .ok { p with configuration := some value }

/-- Asks for tags, which may be done once. -/
def Arguments.setTags (p : Arguments) : Except UsageError Arguments :=
  if p.tags then .error .usage else .ok { p with tags := true }

/-- Asks for more messages, which may be done once. -/
def Arguments.setVerbose (p : Arguments) : Except UsageError Arguments :=
  if p.verbose then .error .usage else .ok { p with verbose := true }

/-- What an argument leaves to be done. -/
inductive Step where
  | done (p : Arguments)
  /-- The next argument is the path of the configuration. -/
  | wantsPath (p : Arguments)

/-- Reads a group of one-letter options; the path of the configuration may follow its letter. -/
def readLetters (p : Arguments) : List Char → Except UsageError Step
  | [] => .ok (.done p)
  | 't' :: rest => do readLetters (← p.setTags) rest
  | 'v' :: rest => do readLetters (← p.setVerbose) rest
  | ['c'] => .ok (.wantsPath p)
  | 'c' :: '=' :: rest => return .done (← p.setConfiguration (String.ofList rest))
  | 'c' :: rest => return .done (← p.setConfiguration (String.ofList rest))
  | 'h' :: _ => .error .help
  | _ :: _ => .error .usage

/-- Reads an option with a name, given what follows its dashes. -/
def readNamed (p : Arguments) (s : List Char) : Except UsageError Step :=
  let name := String.ofList (s.takeWhile (· != '='))
  match s.dropWhile (· != '=') with
  | [] =>
    if name = "tags" then return .done (← p.setTags)
    else if name = "verbose" then return .done (← p.setVerbose)
    else if name = "config" then .ok (.wantsPath p)
    else if name = "help" then .error .help
    else .error .usage
  | _ :: value =>
    if name = "config" then return .done (← p.setConfiguration (String.ofList value))
    else .error .usage

/-- Reads arguments none of which is an option. -/
def readPlain (p : Arguments) (args : List String) : Except UsageError Arguments :=
  args.foldlM Arguments.setDirectory p

/-- Reads all arguments; after two dashes there are no options any more. -/
def readArguments (p : Arguments) : List String → Except UsageError Arguments
  | [] => .ok p
  | arg :: rest =>
    match arg.toList with
    -- Two dashes alone end the options.
    | ['-', '-'] => readPlain p rest
    | '-' :: '-' :: s => do
      match ← readNamed p s with
      | .done p => readArguments p rest
      | .wantsPath p => readPath p rest
    | '-' :: c :: s => do
      match ← readLetters p (c :: s) with
      | .done p => readArguments p rest
      | .wantsPath p => readPath p rest
    -- One dash alone is no option.
    | _ => do readArguments (← p.setDirectory arg) rest
where
  /-- Reads the path of the configuration, which is no option, and then the other arguments. -/
  readPath (p : Arguments) : List String → Except UsageError Arguments
    | [] => .error .usage
    | path :: rest =>
      match path.toList with
      | '-' :: _ :: _ => .error .usage
      | _ => do readArguments (← p.setConfiguration path) rest

/-- What the arguments ask for; a directory must be there. -/
def Request.ofArguments (args : List String) : Except UsageError Request := do
  let p ← readArguments Arguments.blank args
  match p.directory with
  | some directory => return ⟨directory, p.configuration, p.tags, p.verbose⟩
  | none => throw .usage

/-! ## Runs -/

/-- What can go wrong after the arguments have been read. -/
inductive RunError where
  | configuration (path : String) (cause : ConfigError)
  | builtin (cause : ConfigError)
  | scan (directory : String) (cause : Scan.ScanError)
  | imported (cause : Scan.ScanError)
deriving DecidableEq, Repr

/-- The text of an error. -/
def RunError.message : RunError → String
  | .configuration path _ => "Failed to load layout configuration: " ++ path
  | .builtin _ => "Built-in layout configuration is invalid"
  | .scan directory _ => "Failed to scan " ++ directory
  | .imported cause => cause.message

/-- The configuration at a path, or the built-in one. -/
def loadConfiguration (t : FileTree) (path : Option String) : Except RunError Configuration :=
  match path with
  | some path =>
    let path := t.expandTilde path
    (Configuration.ofFile (t.content? path)).mapError (RunError.configuration path)
  | none => Configuration.builtin.mapError RunError.builtin

/-- The catalog that a request asks for. -/
def Request.catalog (r : Request) (t : FileTree) : Except RunError Catalog := do
  let c ← loadConfiguration t r.configuration
  let root := t.expandTilde r.directory
  let read := if r.tags then Scan.readTags else Scan.readName
  let files ← (Scan.scanDirectory t read root).mapError (RunError.scan root)
  let job : Scan.Job := ⟨c, Origin.ofRoot root, t.text?⟩
  let (catalog, _) ← (job.importFiles files Catalog.empty).mapError RunError.imported
  return catalog

/-- What a run leaves behind. -/
structure Outcome where
  exitCode : UInt32
  output : String
  /-- The text for the channel of errors. -/
  error : Option String
deriving DecidableEq, Repr

/-- How the program is called. -/
def usageText : String :=
  "Usage: media-shelves [--config FILE] [--tags] [--verbose] DIR\n"

/-- What arguments leave behind that ask for no run. -/
def UsageError.outcome : UsageError → Outcome
  | .help => ⟨0, usageText, none⟩
  | .usage => ⟨2, "", some usageText⟩

/-- What a request leaves behind. -/
def Request.run (r : Request) (t : FileTree) : Outcome :=
  match r.catalog t with
  | .ok c => ⟨0, c.outline, none⟩
  | .error e => ⟨1, "", some ("Error: " ++ e.message ++ "\n")⟩

/-- Runs the program. -/
def run (args : List String) (t : FileTree) : Outcome :=
  match Request.ofArguments args with
  | .error e => e.outcome
  | .ok r => r.run t

end MediaShelves.CommandLine
