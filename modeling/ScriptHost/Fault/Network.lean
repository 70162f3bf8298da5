import ScriptHost.Fault.Io

/-!
# Failures of network operations

Losing a connection and meeting a closed handle are the two failures in which the operation's handle
is gone; after any other the handle, if there was one, is still open.
-/

namespace ScriptHost

/-- Why a network operation failed. -/
inductive NetworkFault where
  /-- No handle of the right kind has this number. -/
  | unknownHandle (handle : Nat)
  /-- The connection broke, and its handle has been closed. -/
  | lost (cause : IoFault)
  /-- The handle was closed while the operation waited. -/
  | closed (handle : Nat)
  | io (cause : IoFault)
  | badAddress (text : String)
  /-- A request that cannot be expressed, such as one with a malformed header. -/
  | unsupported (text : String)
  | http (text : String)
  deriving DecidableEq, Inhabited

namespace NetworkFault

/-- The text of a failure. -/
def message : NetworkFault → String
  | unknownHandle handle => "Unknown network handle " ++ toString handle
  | lost cause => "Connection lost: " ++ cause.message
  | closed handle => "Network handle " ++ toString handle ++ " closed"
  | io cause => "I/O error: " ++ cause.message
  | badAddress text => "Invalid address: " ++ text
  | unsupported text => "Unsupported request: " ++ text
  | http text => "HTTP error: " ++ text

/-- Whether the failure came from the handle leaving the set of open ones. -/
def isLoss : NetworkFault → Bool
  | lost _ | closed _ => true
  | _ => false

end NetworkFault
end ScriptHost
