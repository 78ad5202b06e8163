import LogSpool.Logging.Directory
import LogSpool.Logging.Filter
import LogSpool.Logging.Options

/-!
# Installing the logger

This module says how setting up the logging of a process fails.  The filter is checked first, then
the directory of log files, and last whether the process has a logger already.

The filter of the options comes first; without one the filter of the environment counts, and
without that one the standard filter.
-/

namespace LogSpool.Logging

/-- The filter when nothing is said. -/
def standardFilter : String := "info"

/-- Why logging could not be set up. -/
inductive InstallError where
  | invalidFilter (filter : String)
  | rollingFile (dir : String)
  | installSubscriber
  deriving Repr, DecidableEq

namespace InstallError

/-- The name of the error's kind. -/
def kind : InstallError → String
  | .invalidFilter _ => "invalid_filter"
  | .rollingFile _ => "rolling_file"
  | .installSubscriber => "install_subscriber"

/-- The text of the error. -/
def message : InstallError → String
  | .invalidFilter filter => "Invalid log level filter '" ++ filter ++ "'"
  | .rollingFile dir => "Failed to create rolling log file in " ++ dir
  | .installSubscriber => "Failed to install global subscriber"

end InstallError

/-- The filter that counts. -/
def Options.filter (o : Options) (ofEnvironment : Option String) : String :=
  match o.level with
  | some filter => filter
  | none => ofEnvironment.getD standardFilter

/-- Sets up logging; `installed` tells whether the process has a logger already. -/
def install (o : Options) (ofEnvironment : Option String) (installed : Bool) :
    Except InstallError Unit :=
  let filter := o.filter ofEnvironment
  if (filterOf? filter).isNone then .error (.invalidFilter filter)
  else if o.dir ≠ "" ∧ canHoldFiles o.dir = false then .error (.rollingFile o.dir)
  else if installed then .error .installSubscriber
  else .ok ()

end LogSpool.Logging
