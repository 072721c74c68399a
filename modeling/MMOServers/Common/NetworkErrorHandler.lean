/-
MMOServers.Common.NetworkErrorHandler — error classes of asynchronous
operations, from `NetworkErrorHandler.h`.

Only the error codes the classification tells apart have a name; `other` is any
remaining code. Logging is left out.
-/
import Mathlib.Algebra.Group.Nat.Defs

namespace MMOServers.Common

/-- `boost::system::error_code`, as far as `ClassifyError` distinguishes it. -/
inductive ErrorCode where
  | success
  | operationAborted
  | connectionReset
  | connectionRefused
  | brokenPipe
  | notConnected
  | eof
  | wouldBlock
  | tryAgain
  | timedOut
  | hostUnreachable
  | networkUnreachable
  | other
  deriving DecidableEq

inductive ErrorSeverity where
  | recoverable
  | fatal
  | ignoredError
  deriving DecidableEq

/-- `NetworkUtils::ClassifyError`; an unlisted code is fatal. -/
def classifyError : ErrorCode → ErrorSeverity
  | .success => .ignoredError
  | .operationAborted => .ignoredError
  | .connectionReset => .fatal
  | .connectionRefused => .fatal
  | .brokenPipe => .fatal
  | .notConnected => .fatal
  | .eof => .fatal
  | .wouldBlock => .recoverable
  | .tryAgain => .recoverable
  | .timedOut => .recoverable
  | .hostUnreachable => .recoverable
  | .networkUnreachable => .recoverable
  | .other => .fatal

structure ErrorHandleResult where
  shouldRetry : Bool
  shouldDisconnect : Bool
  retryDelayMs : Nat

/-- `NetworkUtils::HandleError`. -/
def handleError (ec : ErrorCode) (currentRetryCount maxRetries : Nat) : ErrorHandleResult :=
  match classifyError ec with
  | .ignoredError => ⟨false, false, 0⟩
  | .recoverable =>
      if currentRetryCount < maxRetries then ⟨true, false, 100 * 2 ^ currentRetryCount⟩
      else ⟨false, true, 0⟩
  | .fatal => ⟨false, true, 0⟩

/-- `HandleError` as every session calls it, with the default retry counts. -/
def shouldDisconnect (ec : ErrorCode) : Bool := (handleError ec 0 3).shouldDisconnect

end MMOServers.Common
