import ReactionLedger.Connection.Dialect
import ReactionLedger.Connection.FileParameters
import ReactionLedger.Connection.HostParameters
import ReactionLedger.Settings

set_option autoImplicit false

namespace ReactionLedger

structure ConnectArguments where
  -- seconds
  commandTimeout : Nat
  applicationName : String
deriving DecidableEq

structure Engine where
  driver : String
  echo : Bool
  arguments : Option ConnectArguments
deriving DecidableEq

namespace Engine

def pool : String := "NullPool"

def connectArguments (settings : Settings) (address : Address) : Option ConnectArguments :=
  if address.driver.startsWith "postgresql" then
    some ⟨settings.commandTimeout, settings.projectName⟩
  else none

inductive Fault where
  | settings (complaints : List Complaint)
  | noAddress
  | address (fault : Address.Fault)
  | plugin (name : String)
  | driver (fault : Driver.Fault)
  | file (fault : FileParameters.Fault)
  | hosts (fault : HostParameters.Fault)
  | notAsync (name : String)

namespace Fault

def message : Fault → String
  | .settings complaints =>
      String.intercalate "\n" (complaints.map fun c => c.objection.message)
  | .noAddress =>
      "DATABASE_URL environment variable is not set. " ++
        "Please set it in your .env file or environment."
  | .address fault => fault.message
  | .plugin name => "Can't load plugin: sqlalchemy.plugins:" ++ name
  | .driver fault => fault.message
  | .file fault => fault.message
  | .hosts fault => fault.message
  | .notAsync name =>
      "The asyncio extension requires an async driver to be used. The loaded '" ++ name ++
        "' is not async."

end Fault

-- there are no plugins, so the first that is asked for is missing
def checkPlugins (address : Address) : Except Fault Unit :=
  match address.options.given "plugin" with
  | [] => .ok ()
  | name :: _ => .error (.plugin name)

def checkDriver (address : Address) : Driver → Except Fault Unit
  | .file blocking => do
    (FileParameters.check address).mapError .file
    match blocking with
    | some name => throw (.notAsync name)
    | none => pure ()
  | .served => (HostParameters.check address).mapError .hosts
  | .absent module => .error (.driver (.absent module))

def ofSettings (settings : Settings) : Except Fault Engine := do
  if settings.databaseUrl.isEmpty then throw .noAddress
  let address ← (Address.read settings.databaseUrl).mapError .address
  checkPlugins address
  checkDriver address (← (Driver.find address.driver).mapError .driver)
  return ⟨address.driver, settings.sqlEcho, connectArguments settings address⟩

def settingsFor (env : Settings.Environment) (url : String) : Except Fault Settings :=
  (Settings.load ((Settings.Variable.databaseUrl, url) :: env) none).mapError .settings

def load (env : Settings.Environment) (url : String) : Except Fault Engine := do
  ofSettings (← settingsFor env url)

def argumentsFor (env : Settings.Environment) (url : String) :
    Except Fault (Option ConnectArguments) := do
  let settings ← settingsFor env url
  let address ← (Address.read url).mapError .address
  return connectArguments settings address

end Engine

end ReactionLedger
