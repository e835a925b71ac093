import HttpContract.Config.Shape
import HttpContract.Definitions.Block
import HttpContract.FileTree.Fault
import HttpContract.Report.Format
import HttpContract.Run.Pool
import HttpContract.Time.Duration

/-! The configuration of a run, its defaults, and what makes it invalid. -/
namespace HttpContract

inductive StrategyKind where
  | sequential | pool
  deriving DecidableEq, Inhabited

namespace StrategyKind

def all : List StrategyKind := [sequential, pool]

def name : StrategyKind → Text
  | sequential => "sequential"
  | pool => "pool"

end StrategyKind

structure ExecutionConfig where
  strategy : StrategyKind := .sequential
  workers : Nat := 4
  deriving DecidableEq, Inhabited

structure Config where
  apiUrl : Text := "http://localhost:5225"
  httpFile : Text := "TestFiles/endpoints.http"
  outputDir : Text := "Reports"
  timeoutMillis : Nat := 100000
  execution : ExecutionConfig := {}
  protectedHeads : List Text := Block.defaultProtected
  formats : List ReportFormat := ReportFormat.all
  deriving DecidableEq, Inhabited

inductive ConfigError where
  | unreadable (path : Text) (fault : FileFault)
  | malformed (path : Option Text)
  | misshapen (path : Option Text) (fault : ShapeFault)
  | emptyApiUrl
  | zeroTimeout
  | zeroWorkers
  deriving Inhabited

namespace ConfigError

def located (path : Option Text) (complaint : Text) : Text :=
  match path with
  | none => complaint
  | some path => Text.ticked path ++ ": " ++ complaint

def message : ConfigError → Text
  | unreadable path fault => "failed to read " ++ Text.ticked path ++ ": " ++ fault.message
  | malformed path => located path "the document is not well-formed"
  | misshapen path fault => located path fault.message
  | emptyApiUrl => "api_url must not be empty"
  | zeroTimeout => "timeout_ms must be greater than 0"
  | zeroWorkers => "execution.workers must be greater than 0"

end ConfigError

namespace Config

/-- What every run needs: a base address, time, and at least one worker. -/
def validate (config : Config) : Except ConfigError Unit :=
  if Text.isBlank config.apiUrl then .error .emptyApiUrl
  else if config.timeoutMillis = 0 then .error .zeroTimeout
  else if config.execution.workers = 0 then .error .zeroWorkers
  else .ok ()

def timeout (config : Config) : Duration := .ofMillis config.timeoutMillis

def strategy (config : Config) : Strategy :=
  match config.execution.strategy with
  | .sequential => .sequential
  | .pool => .pool config.execution.workers

end Config
end HttpContract
