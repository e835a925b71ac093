import HttpContract.Config.Basic
import HttpContract.Url.Error

/-! What stops a run as a whole, by an error or by breaking off. What goes wrong with a single case
stands in its result. -/
namespace HttpContract

/-- What breaks a run off. It is no error of a case or of the run, and nothing is reported. -/
inductive Crash where
  | linesOverflow
  | dotsBehindDrive
  | timesOverflow
  deriving DecidableEq, Inhabited

namespace Crash

def message : Crash → Text
  | linesOverflow => "a line number exceeds its range"
  | dotsBehindDrive => "double dots behind a drive letter have no meaning"
  | timesOverflow => "overflow when adding durations"

def exitCode : Nat := 101

end Crash

/-- The errors that input can lead to. The other two kinds, an HTTP client that cannot be built and
a report that cannot be serialized, are left out: neither depends on what the run is given. -/
inductive RunError where
  | inputNotFound (path : Text)
  | unreadableInput (path : Text) (fault : FileFault)
  | invalidConfig (cause : ConfigError)
  | invalidBaseUrl (address : Text) (cause : UrlError)
  | unwritableReport (path : Text) (fault : FileFault)
  | crashedWorker (crash : Crash)
  | lostResult (index : Nat)
  deriving Inhabited

namespace RunError

def message : RunError → Text
  | inputNotFound path => "request definition file not found: " ++ path
  | unreadableInput path fault => "failed to read " ++ Text.ticked path ++ ": " ++ fault.message
  | invalidConfig cause => "invalid configuration: " ++ cause.message
  | invalidBaseUrl address cause =>
    "invalid base API address " ++ Text.ticked address ++ ": " ++ cause.message
  | unwritableReport path fault =>
    "failed to write report " ++ Text.ticked path ++ ": " ++ fault.message
  | crashedWorker crash =>
    "test worker crashed: Contract worker crashed: " ++ crash.message
  | lostResult index =>
    "test worker crashed: no result recorded for case " ++ Text.decimal index

end RunError
end HttpContract
