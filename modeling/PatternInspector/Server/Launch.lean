import PatternInspector.Config.Shipped
import PatternInspector.Server.Auth
import PatternInspector.Server.Settings

/-!
What is started in an environment: a server on the standard streams, or one that listens and checks
tokens.
-/
namespace PatternInspector.Server

open PatternInspector.Inspection (Service)

section Levels

inductive LogLevel where
  | critical
  | error
  | warning
  | info
  | debug
  | notset
  deriving DecidableEq

def LogLevel.label : LogLevel → String
  | .critical => "CRITICAL"
  | .error => "ERROR"
  | .warning => "WARNING"
  | .info => "INFO"
  | .debug => "DEBUG"
  | .notset => "NOTSET"

/-- The level of that name, in any letter case. Two levels have a second name. -/
def LogLevel.ofName? (name : String) : Option LogLevel :=
  match upperString name with
  | "CRITICAL" | "FATAL" => some .critical
  | "ERROR" => some .error
  | "WARNING" | "WARN" => some .warning
  | "INFO" => some .info
  | "DEBUG" => some .debug
  | "NOTSET" => some .notset
  | _ => none

end Levels

section Launching

inductive Launch where
  | stdio (level : LogLevel)
  | http (level : LogLevel) (host : String) (port : Int) (app : App)

inductive LaunchFault where
  | settings (issues : List Config.Issue)
  | unknownLevel
  | configuration (fault : Config.LoadFault)

/-- The configuration directory of the settings, given what stands in other directories. -/
def configFiles (directory : String → Files.Tree) (settings : Settings) : Files.Tree :=
  match settings.configDir with
  | none => Config.Shipped.files
  | some path => directory path

def launch (environment : Environment) (directory : String → Files.Tree) :
    Except LaunchFault Launch :=
  match Settings.ofEnvironment environment with
  | .error issues => .error (.settings issues)
  | .ok settings =>
      match LogLevel.ofName? settings.logLevel with
      | none => .error .unknownLevel
      | some level =>
          match Service.build (configFiles directory settings) with
          | .error fault => .error (.configuration fault)
          | .ok service =>
              match settings.transport with
              | .stdio => .ok (.stdio level)
              | .http => .ok (.http level settings.host settings.port
                  (guarded settings.token (healthApp service)))

end Launching

end PatternInspector.Server
