/-
# Failures of a sink

A write or a flush that fails says why: with a kind, and with a message in words. An interruption is
a failure apart, because whoever writes simply tries again after one.
-/

namespace TerminalDecoration

/-- Why an operation on a sink failed for good. -/
inductive FailureKind where
  | addressInUse | addressNotAvailable | alreadyExists | argumentListTooLong | brokenPipe
  | connectionAborted | connectionRefused | connectionReset | deadlock | directoryNotEmpty
  | executableFileBusy | fileTooLarge | hostUnreachable | invalidData | invalidInput
  | isADirectory | networkDown | networkUnreachable | notADirectory | notConnected | notFound
  | notSeekable | outOfMemory | permissionDenied | quotaExceeded | readOnlyFilesystem
  | resourceBusy | staleNetworkFileHandle | storageFull | timedOut | tooManyLinks
  | unexpectedEnd | unsupported | wouldBlock | writeZero | other
  deriving DecidableEq, Repr

/-- A failed operation on a sink. -/
inductive Failure where
  /-- The operation did nothing and may be tried again. -/
  | interrupted (message : List Char)
  /-- The operation failed for good. -/
  | final (kind : FailureKind) (message : List Char)
  deriving DecidableEq, Repr

namespace Failure

/-- The failure in words. -/
def message : Failure → List Char
  | interrupted message => message
  | final _ message => message

/-- A sink that takes nothing of what it is offered will never take all of it. -/
def nothingTaken : Failure := final .writeZero "failed to write whole buffer".toList

end Failure

end TerminalDecoration
