import Honeywatch.Foundation.Text

/-!
# Failures of the Redis client and of the code around it

The client library raises its own `ConnectionError`, which is not the builtin
one, and lets operating-system errors through. `TimeoutError` and
`ResponseError` belong to the library's own hierarchy only. The builtin
`ConnectionError` is an `OSError`. Two except clauses of the source therefore
name different families: the queue retries on the library's `ConnectionError`
and on `OSError`, the honeypot buffers on the builtin `ConnectionError` and on
`OSError`.
-/

namespace Honeywatch.Collector

open Text

/-- What an awaited Redis command raises. -/
inductive RedisFailure
  | connectionError
  | osError
  | timeoutError
  | responseError (message : Str)
  | otherError
deriving DecidableEq, Repr

/-- What leaves a coroutine of the honeypot process. -/
inductive Raised
  | redis (failure : RedisFailure)
  | connectionError
  | serializationError
  | assertionError
  | indexError
deriving DecidableEq, Repr

/-- The answer to an awaited Redis command. A failure may strike before the
server executed the command or after it did. -/
inductive RedisReply
  | answered
  | failed (failure : RedisFailure) (executed : Bool)
deriving DecidableEq, Repr

/-- `except (aioredis.ConnectionError, OSError)` around a Redis command. -/
def RedisFailure.isConnectionLoss : RedisFailure → Bool
  | .connectionError => true
  | .osError => true
  | .timeoutError => false
  | .responseError _ => false
  | .otherError => false

/-- `except aioredis.ResponseError` with the given marker in the message. -/
def RedisFailure.isResponse (marker : Str) : RedisFailure → Bool
  | .responseError message => decide (marker <:+: message)
  | _ => false

/-- The group already exists, which the source takes for success. -/
def RedisFailure.isBusyGroup (failure : RedisFailure) : Bool :=
  failure.isResponse (literal "BUSYGROUP")

/-- The consumer group has gone missing. -/
def RedisFailure.isNoGroup (failure : RedisFailure) : Bool :=
  failure.isResponse (literal "NOGROUP")

/-- `except (ConnectionError, OSError)` with the builtin names. -/
def Raised.isOSError : Raised → Bool
  | .connectionError => true
  | .redis .osError => true
  | _ => false

/-- A lost connection is never a message of the server. -/
theorem loss_not_busy (failure : RedisFailure) (lost : failure.isConnectionLoss = true) :
    failure.isBusyGroup = false := by
  cases failure <;> simp_all [RedisFailure.isConnectionLoss, RedisFailure.isBusyGroup,
    RedisFailure.isResponse]

end Honeywatch.Collector
