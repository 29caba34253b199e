import SystemUni.Workers.Tasks

/-!
# The worker process

`app/workers/runner.py`.  `main` repairs reported jobs once and then calls
`run_once` for ever, whatever the previous call raised.
-/

set_option autoImplicit false

namespace SystemUni.Workers.Runner

open SystemUni.Runtime.Errors
open SystemUni.Runtime.Statements
open SystemUni.Models.Jobs
open SystemUni.Workers.Tasks

def reconcileOnce : Py Unit :=
  tryCatch
    (do
      let _ ← reconcileReportedJobs
      return ())
    fun exc => if exc.isSqlAlchemyError then return () else throw exc

/-- `_claim_with_retry` with this many attempts left. -/
def claimWithRetry (settings : Settings) : Nat → Py (Option ClaimedJob)
  | 0 => return none
  | remaining + 1 =>
      tryCatch (claimNextJob settings) fun exc =>
        if exc.isSqlAlchemyError && decide (remaining ≠ 0) then
          claimWithRetry settings remaining
        else throw exc

/-- What one turn of the worker did: the claim it executed, if any. -/
def runOnce (settings : Settings) :
    Py (Option (ClaimedJob × ExecutionResult)) := do
  let claim ← claimWithRetry settings settings.workerRetryAttempts
  match claim with
  | none => return none
  | some claim =>
      let result ← processClaimedReport settings claim
      return some (claim, result)

end SystemUni.Workers.Runner
