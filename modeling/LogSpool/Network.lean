/-!
# The network

This module says whether there is a way to other hosts, and how an attempt to reach one fails where
there is none.  What is sent over the network is not described here.
-/

namespace LogSpool

/-- Whether other hosts can be reached. -/
inductive Network where
  | up
  | down
  deriving Repr, DecidableEq

/-- Why an attempt to reach another host fails, if it does. -/
def Network.fault? : Network → Option String
  | .up => none
  | .down => some "Network is unreachable (os error 101)"

end LogSpool
