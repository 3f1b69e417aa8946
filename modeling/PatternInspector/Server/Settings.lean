import PatternInspector.Config.Check
import PatternInspector.Files.Path
import PatternInspector.Text.Case

/-!
Settings of a server, from the environment. Names of variables are read in any letter case.
-/
namespace PatternInspector.Server

open PatternInspector.Config (Checked Issue)

inductive Transport where
  | stdio
  | http
  deriving DecidableEq

def Transport.label : Transport → String
  | .stdio => "stdio"
  | .http => "streamable-http"

def Transport.all : List Transport := [.stdio, .http]

def Transport.ofLabel? (label : String) : Option Transport :=
  Transport.all.find? fun transport => transport.label == label

structure Settings where
  /-- The configuration directory, none for the one that is delivered. -/
  configDir : Option String := none
  host : String := "0.0.0.0"
  port : Int := 8000
  token : String := ""
  transport : Transport := .stdio
  logLevel : String := "INFO"

section Environment

abbrev Environment := List (String × String)

def variableLead : String := "pattern_police_"

/-- The value of a setting, the last one if several variables give it. -/
def lookup? (environment : Environment) (name : String) : Option String :=
  (environment.reverse.find? fun entry => lowerString entry.1 == variableLead ++ name).map (·.2)

/-- A setting that is read from a variable, or its default. -/
def setting {α : Type} (environment : Environment) (name : String) (default : α)
    (check : α → Value → Checked α) : Checked α :=
  match lookup? environment name with
  | none => pure default
  | some text => (check default (.string text)).under (.string name)

def settingText (environment : Environment) (name default : String) : String :=
  (lookup? environment name).getD default

def Settings.ofEnvironment (environment : Environment) : Except (List Issue) Settings :=
  let default : Settings := {}
  Checked.toExcept do
    let port ← setting environment "port" default.port Config.checkInteger
    let transport ← setting environment "transport" default.transport
      (Config.checkChoice Transport.ofLabel?)
    return {
      configDir := (lookup? environment "config_dir").map fun directory =>
        (Path.normalized directory).display
      host := settingText environment "host" default.host
      port
      token := settingText environment "url_token" default.token
      transport
      logLevel := settingText environment "log_level" default.logLevel }

end Environment

end PatternInspector.Server
