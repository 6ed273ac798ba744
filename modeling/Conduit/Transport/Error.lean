/-!
# Failures of the transport

The failures that a transport reports to the connections on top of it.
-/

namespace Conduit

/-- What went wrong below a connection. -/
inductive TransportError where
  /-- The connection is closed in both directions. -/
  | closed
  /-- The underlying input or output failed. -/
  | io (detail : String)
  /-- The transport refused the operation, for instance because a queue is full. -/
  | rejected (reason : String)
  deriving DecidableEq, Repr, Inhabited

namespace TransportError

/-- The message of a transport failure. -/
def message : TransportError → String
  | closed => "connection is closed"
  | io detail => "transport i/o failure: " ++ detail
  | rejected reason => "transport rejected the operation: " ++ reason

end TransportError

end Conduit
