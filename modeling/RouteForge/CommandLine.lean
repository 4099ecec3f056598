import RouteForge.Run

/-!
The command line. Arguments are read from left to right, and the first that is wrong or that asks
for the version or for help decides. A value may stand after `=` or in the next argument, where it
may not start with a dash unless it is one; after `--` there are only paths.
-/

namespace RouteForge.CommandLine

inductive Flag where
  | dryRun
  | buildConfig
  | strict
  deriving DecidableEq, Repr

inductive Setting where
  | variant
  | userConfig
  | logLevel
  deriving DecidableEq, Repr

inductive Switch where
  | flag (flag : Flag)
  | setting (setting : Setting)
  | version
  | help
  deriving DecidableEq, Repr

def switchNames : List (String × Switch) := [
  ("variant", .setting .variant),
  ("dry-run", .flag .dryRun),
  ("build-config", .flag .buildConfig),
  ("user-config", .setting .userConfig),
  ("strict", .flag .strict),
  ("log-level", .setting .logLevel),
  ("version", .version),
  ("help", .help)]

structure Given where
  base : Option String
  flags : List Flag
  variant : Option Variant
  userConfig : Option String
  logLevel : Option String
  deriving DecidableEq, Repr

def Given.nothing : Given := ⟨none, [], none, none, none⟩

inductive Stop where
  | usage
  | version
  | help
  deriving DecidableEq, Repr

namespace Given

def setFlag (given : Given) (flag : Flag) : Except Stop Given :=
  if given.flags.contains flag then .error .usage
  else .ok { given with flags := flag :: given.flags }

/-- No setting is given twice; a variant must be one, and a path may not be empty. -/
def set (given : Given) (setting : Setting) (value : String) : Except Stop Given :=
  match setting with
  | .variant =>
      match given.variant, Variant.ofWord? value with
      | none, some variant => .ok { given with variant := some variant }
      | _, _ => .error .usage
  | .userConfig =>
      if given.userConfig.isSome || value.isEmpty then .error .usage
      else .ok { given with userConfig := some value }
  | .logLevel =>
      if given.logLevel.isSome then .error .usage
      else .ok { given with logLevel := some value }

def setBase (given : Given) (path : String) : Except Stop Given :=
  if given.base.isSome || path.isEmpty then .error .usage
  else .ok { given with base := some path }

end Given

def looksLikeOption (argument : List Char) : Bool :=
  match argument with
  | '-' :: _ :: _ => true
  | _ => false

def splitAtEquals (argument : List Char) : String × Option String :=
  let name := argument.takeWhile (· ≠ '=')
  match argument.dropWhile (· ≠ '=') with
  | [] => (String.ofList name, none)
  | _ :: value => (String.ofList name, some (String.ofList value))

/-- Short options run together in one argument, and the first of them decides. -/
def shortOption : List Char → Stop
  | 'V' :: _ => .version
  | 'h' :: _ => .help
  | _ => .usage

def setBases (given : Given) : List String → Except Stop Given
  | [] => .ok given
  | path :: rest => do
      let given ← given.setBase path
      setBases given rest

def applySwitch (given : Given) (switch : Switch) (value : Option String) :
    Except Stop (Option Given) :=
  match switch, value with
  | .flag flag, none => do return some (← given.setFlag flag)
  | .setting setting, some value => do return some (← given.set setting value)
  | .setting _, none => .ok none
  | .version, none => .error .version
  | .help, none => .error .help
  | _, some _ => .error .usage

/-- Reads arguments. `waiting` is a setting whose value is due. -/
def read : Given → Option Setting → List String → Except Stop Given
  | given, none, [] => .ok given
  | _, some _, [] => .error .usage
  | given, some setting, argument :: rest => do
      if looksLikeOption argument.toList then
        throw .usage
      let given ← given.set setting argument
      read given none rest
  | given, none, argument :: rest =>
      match argument.toList with
      | ['-', '-'] => setBases given rest
      | '-' :: '-' :: long =>
          let (name, value) := splitAtEquals long
          match switchNames.lookup name with
          | none => .error .usage
          | some switch => do
              match ← applySwitch given switch value with
              | some given => read given none rest
              | none =>
                  match switch with
                  | .setting setting => read given (some setting) rest
                  | _ => .error .usage
      | '-' :: short :: others => .error (shortOption (short :: others))
      | _ => do
          let given ← given.setBase argument
          read given none rest

structure Command where
  options : RunOptions
  isStrict : Bool
  deriving DecidableEq, Repr

/-- A base path is required, and a user's layer is only taken with a bundle configuration. -/
def Given.command (given : Given) : Except Stop Command :=
  match given.base with
  | none => .error .usage
  | some base =>
      let withBundle := given.flags.contains .buildConfig
      if given.userConfig.isSome && !withBundle then
        .error .usage
      else
        .ok {
          options := {
            base
            variant := given.variant
            isDry := given.flags.contains .dryRun
            withBundle
            userLayer := given.userConfig }
          isStrict := given.flags.contains .strict }

def parse (arguments : List String) : Except Stop Command := do
  let given ← read Given.nothing none arguments
  given.command

def versionText : String := "ecat 0.3.0\n"

def helpText : String :=
  "Generate module route files from module-config.json\n\n" ++
  "Usage: ecat [OPTIONS] <BASE_PATH>\n\n" ++
  "Options:\n" ++
  "      --variant <VARIANT>        Route shape to generate\n" ++
  "      --dry-run                  Print the generated files without writing to disk\n" ++
  "      --build-config             Also write the merged webpack configuration\n" ++
  "      --user-config <FILE>       JSON file merged into the webpack configuration\n" ++
  "      --strict                   Exit with an error when any module fails\n" ++
  "      --log-level <LOG_LEVEL>    Log level for diagnostics on stderr\n" ++
  "  -h, --help                     Print help\n" ++
  "  -V, --version                  Print version\n"

def usageText : String :=
  "error: the arguments do not fit\n\nUsage: ecat [OPTIONS] <BASE_PATH>\n"

def errorText (chain : List String) : String :=
  let lines := chain.flatMap Text.lines
  "Error:\n" ++ String.join (lines.map fun line => "    " ++ line ++ "\n")

structure Result where
  exitCode : Nat
  shown : Shown
  deriving DecidableEq, Repr

def stopped : Stop → Result
  | .usage => ⟨2, ⟨"", usageText⟩⟩
  | .version => ⟨0, ⟨versionText, ""⟩⟩
  | .help => ⟨0, ⟨helpText, ""⟩⟩

def reported (isStrict : Bool) (report : Report) : Result :=
  if isStrict && decide (0 < report.failedCount) then
    let failure := toString report.failedCount ++ " module(s) failed to generate"
    ⟨1, report.shown.append ⟨"", errorText [failure]⟩⟩
  else
    ⟨0, report.shown⟩

def execute (command : Command) (disk : Disk) : Result × Disk :=
  match Manifest.discover disk command.options.base with
  | .error error => (⟨1, ⟨"", errorText [error.message]⟩⟩, disk)
  | .ok manifest =>
      match manifest.run command.options disk with
      | (.error error, after) => (⟨1, ⟨"", errorText error.chain⟩⟩, after)
      | (.ok report, after) => (reported command.isStrict report, after)

def run (arguments : List String) (disk : Disk) : Result × Disk :=
  match parse arguments with
  | .error stop => (stopped stop, disk)
  | .ok command => execute command disk

end RouteForge.CommandLine
