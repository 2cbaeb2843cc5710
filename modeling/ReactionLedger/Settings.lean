import ReactionLedger.Settings.EnvFile
import ReactionLedger.Settings.Reading

set_option autoImplicit false

namespace ReactionLedger

structure Settings where
  projectName : String
  databaseUrl : String
  sqlEcho : Bool
  -- seconds
  commandTimeout : Nat
  logLevel : LogLevel
deriving DecidableEq

namespace Settings

namespace Variable

def projectName : String := "PROJECT_NAME"
def databaseUrl : String := "DATABASE_URL"
def sqlEcho : String := "SQL_ECHO"
def commandTimeout : String := "DB_COMMAND_TIMEOUT"
def logLevel : String := "LOG_LEVEL"

end Variable

abbrev Environment := List (String × String)

def bound? (env : Environment) (file : List EnvFile.Binding) (name : String) : Option String :=
  match env.lookup name with
  | some v => some v
  | none => (file.lookup name).join

def setting {α : Type} (name : String) (read : String → Except Objection α)
    (missing : Except Objection α) (value : Option String) : Except (List Complaint) α :=
  Complaint.about name <| match value with
    | some v => read v
    | none => missing

def load (env : Environment) (file : Option String) : Except (List Complaint) Settings :=
  let above := match file with
    | some source => EnvFile.read env source
    | none => []
  let value (name : String) : Option String := bound? env above name
  let projectName := (value Variable.projectName).getD "comment_reactions"
  let databaseUrl := setting Variable.databaseUrl .ok (.error .missing) (value Variable.databaseUrl)
  let sqlEcho := setting Variable.sqlEcho readSwitch (.ok false) (value Variable.sqlEcho)
  let commandTimeout :=
    setting Variable.commandTimeout readPositive (.ok 60) (value Variable.commandTimeout)
  let logLevel := setting Variable.logLevel readLevel (.ok .info) (value Variable.logLevel)
  match databaseUrl, sqlEcho, commandTimeout, logLevel with
  | .ok databaseUrl, .ok sqlEcho, .ok commandTimeout, .ok logLevel =>
    .ok ⟨projectName, databaseUrl, sqlEcho, commandTimeout, logLevel⟩
  | databaseUrl, sqlEcho, commandTimeout, logLevel =>
    .error (Complaint.listOf databaseUrl ++ Complaint.listOf sqlEcho ++
      Complaint.listOf commandTimeout ++ Complaint.listOf logLevel)

end Settings

end ReactionLedger
