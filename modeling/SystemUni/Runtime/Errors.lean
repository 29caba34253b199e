import Mathlib

/-!
# Time, exceptions and configuration

What every function of the application shares: clock readings, the exceptions
that can travel through it, the ways a database call can end, the settings and
the third-party libraries the code calls.
-/

set_option autoImplicit false

namespace SystemUni.Runtime.Errors

/-- Seconds since the epoch; `timedelta` arithmetic is exact. -/
abbrev Time := ℚ

/-- The classes of `sqlalchemy.exc.SQLAlchemyError` the code tells apart;
`operationalError` stands for all others. -/
inductive SqlError where
  | integrityError
  | dataError
  | staleDataError
  | operationalError
  deriving DecidableEq

inductive Exc where
  | sql (kind : SqlError) (text : String)
  | httpException (statusCode : Nat) (detail : String)
  | permanentJobError (message : String)
  | leaseLostError (jobId : String)
  | overflowError
  | other (name text : String)
  deriving DecidableEq

def Exc.isSqlAlchemyError : Exc → Bool
  | .sql _ _ => true
  | _ => false

def Exc.isIntegrityError : Exc → Bool
  | .sql .integrityError _ => true
  | _ => false

def SqlError.typeName : SqlError → String
  | .integrityError => "IntegrityError"
  | .dataError => "DataError"
  | .staleDataError => "StaleDataError"
  | .operationalError => "OperationalError"

/-- `type(error).__name__`. -/
def Exc.typeName : Exc → String
  | .sql kind _ => kind.typeName
  | .httpException _ _ => "HTTPException"
  | .permanentJobError _ => "PermanentJobError"
  | .leaseLostError _ => "LeaseLostError"
  | .overflowError => "OverflowError"
  | .other name _ => name

/-- `str(error)`. -/
def Exc.text : Exc → String
  | .sql _ text => text
  | .httpException _ detail => detail
  | .permanentJobError message => message
  | .leaseLostError jobId => jobId
  | .overflowError => ""
  | .other _ text => text

/-- How a statement and its commit end: done; failed with nothing written; or
lost, where the commit took effect and the caller still sees an error. -/
inductive CallOutcome where
  | done
  | failed (kind : SqlError) (text : String)
  | lost (kind : SqlError) (text : String)
  deriving DecidableEq

/-- `Settings`, with the bounds its fields declare. -/
structure Settings where
  accessTokenExpireMinutes : Nat
  jobLeaseSeconds : Nat
  jobHeartbeatSeconds : Nat
  jobMaxAttempts : Nat
  jobRetryBaseSeconds : Nat
  workerRetryAttempts : Nat
  expireBound : 1 ≤ accessTokenExpireMinutes
  leaseBound : 5 ≤ jobLeaseSeconds
  heartbeatBound : 1 ≤ jobHeartbeatSeconds
  attemptsBound : 1 ≤ jobMaxAttempts
  retryBaseBound : 1 ≤ jobRetryBaseSeconds
  workerRetryBound : 1 ≤ workerRetryAttempts

def Settings.default : Settings where
  accessTokenExpireMinutes := 30
  jobLeaseSeconds := 120
  jobHeartbeatSeconds := 30
  jobMaxAttempts := 3
  jobRetryBaseSeconds := 5
  workerRetryAttempts := 3
  expireBound := by decide
  leaseBound := by decide
  heartbeatBound := by decide
  attemptsBound := by decide
  retryBaseBound := by decide
  workerRetryBound := by decide

end SystemUni.Runtime.Errors
