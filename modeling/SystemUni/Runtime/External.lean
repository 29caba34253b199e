import SystemUni.Models.Changes
import SystemUni.Models.Schema

/-!
# Third-party libraries

The functions of `pwdlib`, `jwt`, `pydantic` and of Python's Unicode tables
that the code calls.  Nothing is assumed of them here; a result that relies on
documented behaviour names it.
-/

set_option autoImplicit false

namespace SystemUni.Runtime.External

open SystemUni.Runtime.Errors
open SystemUni.Models.Changes
open SystemUni.Models.Schema

/-- A decoded JSON value, as far as the code tells them apart. -/
inductive JsonValue where
  | int (value : Int)
  | bool (value : Bool)
  | other
  deriving DecidableEq

/-- The claims of a token the code reads.  `jwt` itself refuses a `sub` that is
not a string. -/
structure TokenPayload where
  sub : Option String
  ver : Option JsonValue
  deriving DecidableEq

structure Libraries where
  /-- `PasswordHash.hash`, with the salt it draws. -/
  hashPassword : (salt password : String) → String
  /-- `PasswordHash.verify`; it raises on a hash of unknown form. -/
  verifyPassword : (password passwordHash : String) → Except Exc Bool
  /-- `str.lower`. -/
  lower : String → String
  /-- The predicate of `EmailStr`.  An address it has accepted before is kept as
  it is. -/
  emailStr : String → Bool
  /-- `jwt.encode` of `sub`, `ver` and `exp`. -/
  encodeToken : (sub : String) → (ver : Nat) → (exp : Time) → String
  /-- `jwt.decode` at a time; `none` stands for a `PyJWTError`. -/
  decodeToken : (now : Time) → (token : String) → Option TokenPayload
  /-- `json.dumps` of a dumped response. -/
  dumpStudent : StudentResponse → String
  /-- `json.loads` and `model_validate`; `none` when either raises. -/
  loadStudent : String → Option StudentResponse

/-- An address that contains an `@` and does not end in `.local` or
`.invalid`. -/
def sampleEmailStr (text : String) : Bool :=
  text.toList.contains '@' && !(".local".toList.isSuffixOf text.toList) &&
    !(".invalid".toList.isSuffixOf text.toList)

/-- Libraries for examples: hashes are salted texts, tokens are given to the
first two versions of user 2 only, and only the sample student can be loaded
from a text. -/
def sampleLibraries : Libraries where
  hashPassword salt password := salt ++ password
  verifyPassword password passwordHash := .ok (decide (password = passwordHash))
  lower text := text
  emailStr := sampleEmailStr
  encodeToken sub ver _ :=
    if sub = "2" ∧ ver = 0 then "first"
    else if sub = "2" ∧ ver = 1 then "second"
    else ""
  decodeToken _ token :=
    if token = "first" then some ⟨some "2", some (.int 0)⟩
    else if token = "second" then some ⟨some "2", some (.int 1)⟩
    else none
  dumpStudent response :=
    if response = .ofRow sampleStudent then "mona" else ""
  loadStudent text :=
    if text = "mona" then some (.ofRow sampleStudent) else none

end SystemUni.Runtime.External
