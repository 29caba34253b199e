import SystemUni.Runtime.Errors

/-!
# Error responses

`app/main.py`: what the client is answered when an exception leaves an
endpoint.
-/

set_option autoImplicit false

namespace SystemUni.Routers.Main

open SystemUni.Runtime.Errors

structure ErrorResponse where
  statusCode : Nat
  detail : String
  deriving DecidableEq

def dataErrorHandler : ErrorResponse := ⟨422, "Invalid request data"⟩

def internalServerError : ErrorResponse := ⟨500, "Internal Server Error"⟩

/-- A payload that its schema refuses. -/
def requestValidationError (detail : String) : Exc :=
  .other "RequestValidationError" detail

/-- FastAPI answers its own exceptions, `main.py` a `DataError`; what nobody
handles is a server error. -/
def errorResponse : Exc → ErrorResponse
  | .httpException statusCode detail => ⟨statusCode, detail⟩
  | .sql .dataError _ => dataErrorHandler
  | .other name detail =>
      if name = "RequestValidationError" then ⟨422, detail⟩
      else internalServerError
  | _ => internalServerError

def ClientError (exc : Exc) : Prop :=
  400 ≤ (errorResponse exc).statusCode ∧ (errorResponse exc).statusCode < 500

instance (exc : Exc) : Decidable (ClientError exc) :=
  inferInstanceAs (Decidable (_ ∧ _))

end SystemUni.Routers.Main
