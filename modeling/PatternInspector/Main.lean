import PatternInspector.Server.Launch

/-!
The command: reads the settings from the environment and the configuration from its directory, and
says which server they describe.
-/
namespace PatternInspector.Command

section Environment

def settingNames : List String := [
  "PATTERN_POLICE_CONFIG_DIR", "PATTERN_POLICE_HOST", "PATTERN_POLICE_PORT",
  "PATTERN_POLICE_URL_TOKEN", "PATTERN_POLICE_TRANSPORT", "PATTERN_POLICE_LOG_LEVEL"]

def environment : IO Server.Environment :=
  settingNames.filterMapM fun name => do
    return (← IO.getEnv name).map (name, ·)

end Environment

section Configuration

/-- The content of a file, none if it cannot be read. -/
def contentAt (path : String) : IO (Option Files.Content) := do
  try
    return some (.file (← IO.FS.readBinFile path).toList)
  catch _ => return none

def configuration (directory : String) : IO Files.Tree :=
  Config.Shipped.contents.foldlM (fun tree entry => do
    return tree.put entry.1 (← contentAt (directory ++ "/" ++ entry.1))) {}

/-- The directory that the settings name, if they are valid and name one. -/
def namedDirectory (environment : Server.Environment) : Option String :=
  match Server.Settings.ofEnvironment environment with
  | .ok settings => settings.configDir
  | .error _ => none

end Configuration

section Messages

def describe : Server.Launch → String
  | .stdio level => "stdio (" ++ level.label ++ ")"
  | .http level host port _ => "http " ++ host ++ ":" ++ toString port ++ " (" ++ level.label ++ ")"

def faultMessage : Server.LaunchFault → String
  | .settings issues =>
      "invalid settings: " ++ joinWith ", " (issues.map fun issue => issue.kind.label)
  | .unknownLevel => "unknown log level"
  | .configuration (.missing file) => "missing rules: " ++ file
  | .configuration (.malformed file) => "malformed rules: " ++ file
  | .configuration (.invalid file _) => "invalid rules: " ++ file
  | .configuration _ => "unreadable rules"

end Messages

end PatternInspector.Command

open PatternInspector in
def main : IO UInt32 := do
  let environment ← Command.environment
  let files ← match Command.namedDirectory environment with
    | some directory => Command.configuration directory
    | none => pure {}
  match Server.launch environment fun _ => files with
  | .ok launch =>
      IO.println (Command.describe launch)
      return 0
  | .error fault =>
      IO.eprintln (Command.faultMessage fault)
      return 1
