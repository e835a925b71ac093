import HttpContract.Config.Basic

/-! What the command line says: flags, and how they override a configuration. -/
namespace HttpContract

structure Flags where
  config : Option Text := none
  apiUrl : Option Text := none
  httpFile : Option Text := none
  output : Option Text := none
  timeoutMillis : Option Nat := none
  strategy : Option StrategyKind := none
  workers : Option Nat := none
  noColor : Bool := false
  verbose : Bool := false
  quiet : Bool := false
  deriving DecidableEq, Inhabited

namespace Flags

def apply (flags : Flags) (config : Config) : Config :=
  { config with
    apiUrl := flags.apiUrl.getD config.apiUrl
    httpFile := flags.httpFile.getD config.httpFile
    outputDir := flags.output.getD config.outputDir
    timeoutMillis := flags.timeoutMillis.getD config.timeoutMillis
    execution :=
      { strategy := flags.strategy.getD config.execution.strategy
        workers := flags.workers.getD config.execution.workers } }

/-- What is worth a line in the log. -/
def logFilter (flags : Flags) : Text :=
  if flags.verbose then "contractman=debug"
  else if flags.quiet then "contractman=warn"
  else "contractman=info"

end Flags
end HttpContract
