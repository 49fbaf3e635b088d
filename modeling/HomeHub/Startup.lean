import HomeHub.Bridge.Basic
import HomeHub.Gateway.Config
import HomeHub.Settings
import HomeHub.Text.Digits

/-!
Starting the program: the configuration file is read, and what it asks for is set up. All that is
done is noted in a log.
-/

namespace HomeHub

def firstLine (text : List Char) : List Char :=
  let line := text.takeWhile (· != '\n')
  if line.getLast? = some '\r' then line.dropLast else line

structure LogLine where
  level : String
  origin : String
  message : String
  deriving DecidableEq, Repr

namespace LogLine

def shown (c : Char) : List Char :=
  if ['\x07', '\x08', '\x0c', '\x1b', '\x7f'].contains c then
    ['\\', 'x'] ++ Text.paddedHex 2 c.toNat
  else if 0x80 ≤ c.toNat ∧ c.toNat < 0xa0 then
    ['\\', 'u', '\x7b'] ++ Text.paddedHex 2 c.toNat ++ ['\x7d']
  else [c]

def text (line : LogLine) : String :=
  line.level ++ " " ++ line.origin ++ ": " ++ String.ofList (line.message.toList.flatMap shown)

def head (line : LogLine) : String :=
  String.ofList (firstLine line.text.toList)

def info (message : String) : LogLine :=
  ⟨"INFO", "homeassistant", message⟩

def warning (message : String) : LogLine :=
  ⟨"WARN", "homeassistant", message⟩

end LogLine

namespace Startup

def defaultPath : String := "configuration.yaml"

inductive Error where
  | settings (error : Settings.Error)
  | config (error : ConfigError)
  | bridge (error : Bridge.Error)

def Error.message : Error → String
  | .settings error => error.message
  | .config error => error.message
  | .bridge error => error.message

abbrev Setup (α : Type) := ExceptT Error (StateM (List LogLine)) α

def log (line : LogLine) : Setup Unit :=
  modify (· ++ [line])

def orFail {ε α : Type} (error : ε → Error) : Except ε α → Setup α
  | .ok a => pure a
  | .error e => throw (error e)

def readSettings (path : String) (file : File) : Setup Settings := do
  match file with
  | .absent =>
    log (.warning (path ++ " not found, starting without integrations"))
    return {}
  | file => orFail .settings (Settings.load path file)

def setUpGateway (v : Yaml) : Setup Unit := do
  let config ← orFail .config (Gateway.Config.ofYaml v)
  log (.warning ("No Tradfri gateway client available for " ++ config.host ++
    ", lights will not be added"))

def setUpBridge (hub : Hub) (v : Yaml) : Setup Bridge := do
  let config ← orFail .config (Bridge.Config.ofYaml v)
  let bridge ← orFail .bridge (Bridge.build Bridge.builtinTypes config hub.states.values)
  log ⟨"INFO", "ha_homekit::homekit", "HomeKit bridge on port " ++ toString config.tcpPort.toNat ++
    " with " ++ toString bridge.followers.size ++ " accessories"⟩
  return bridge.start hub

def start (hub : Hub) (path : String) (file : File) : Setup (Option Bridge) := do
  log (.info "Starting Home Assistant (Rust)")
  let settings ← readSettings path file
  let _ ← settings.gateway.mapM setUpGateway
  let bridge ← settings.bridge.mapM (setUpBridge hub)
  log (.info "Home Assistant is running")
  return bridge

def farewell : LogLine :=
  .info "Shutting down..."

def complaint (error : Error) : String :=
  "Error: " ++ String.ofList (firstLine error.message.toList)

def run (hub : Hub) (path : String) (file : File) :
    List LogLine × Option String :=
  match (start hub path file).run.run [] with
  | (.ok _, lines) => (lines ++ [farewell], none)
  | (.error error, lines) => (lines, some (complaint error))

end Startup

end HomeHub
