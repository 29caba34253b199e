import SystemUni.Runtime.External
import SystemUni.Runtime.Statements

/-!
# Tokens and the current user

`app/security/jwt.py`, `app/security/password.py` and `app/security/auth.py`.
-/

set_option autoImplicit false

namespace SystemUni.Security.Auth

open SystemUni.Runtime.Errors
open SystemUni.Runtime.External
open SystemUni.Runtime.Statements
open SystemUni.Models.Rows

/-! ## Integers in texts -/

/-- A blank, as `int` takes it. -/
def isSpace (char : Char) : Bool :=
  let code := char.toNat
  decide (9 ≤ code ∧ code ≤ 13 ∨ code = 32 ∨ code = 0x85 ∨ code = 0xA0 ∨
    code = 0x1680 ∨ 0x2000 ≤ code ∧ code ≤ 0x200A ∨ code = 0x2028 ∨
    code = 0x2029 ∨ code = 0x202F ∨ code = 0x205F ∨ code = 0x3000)

def strip (text : List Char) : List Char :=
  ((text.dropWhile isSpace).reverse.dropWhile isSpace).reverse

/-- `int(text)`: blanks around the number and a plus sign are allowed. -/
def int (text : String) : Option Int :=
  match strip text.toList with
  | '+' :: digits => (String.ofList digits).toNat?.map Int.ofNat
  | number => (String.ofList number).toInt?

theorem not_isSpace_of_digit {char : Char}
    (digit : char = '-' ∨ char.isDigit = true) :
    isSpace char = false ∧ char ≠ '+' := by
  rcases digit with rfl | digit
  · decide
  · have bounds : 48 ≤ char.toNat ∧ char.toNat ≤ 57 :=
      Char.isDigit_iff_toNat.mp digit
    constructor
    · refine decide_eq_false ?_
      omega
    · rintro rfl
      exact absurd bounds (by decide)

theorem digit_of_mem_repr {value : Int} {char : Char}
    (member : char ∈ value.repr.toList) :
    char = '-' ∨ char.isDigit = true := by
  rw [Int.repr_eq_if] at member
  split at member
  · rw [Nat.toList_repr] at member
    exact .inr (Nat.isDigit_of_mem_toDigits (by decide) (by decide) member)
  · simp only [String.toList_append, Nat.toList_repr, List.mem_append]
      at member
    rcases member with sign | member
    · exact .inl (List.mem_singleton.mp sign)
    · exact .inr (Nat.isDigit_of_mem_toDigits (by decide) (by decide) member)

theorem dropWhile_eq {text : List Char}
    (solid : ∀ char ∈ text, isSpace char = false) :
    text.dropWhile isSpace = text := by
  cases text with
  | nil => rfl
  | cons first rest =>
      rw [List.dropWhile_cons_of_neg (by simp [solid first])]

theorem int_repr (value : Int) : int value.repr = some value := by
  have solid (char : Char) (member : char ∈ value.repr.toList) :=
    not_isSpace_of_digit (digit_of_mem_repr member)
  have stripped : strip value.repr.toList = value.repr.toList := by
    unfold strip
    rw [dropWhile_eq fun char member => (solid char member).1,
      dropWhile_eq fun char member =>
        (solid char (List.mem_reverse.mp member)).1, List.reverse_reverse]
  unfold int
  rw [stripped]
  split
  · rename_i signed
    exact absurd rfl (solid '+' (by rw [signed]; simp)).2
  · rw [String.ofList_toList, Int.toInt?_repr]

/-! ## Tokens -/

/-- The token `create_access_token` makes at this time. -/
def accessToken (libraries : Libraries) (settings : Settings) (now : Time)
    (userId : Id) (tokenVersion : Nat) : String :=
  libraries.encodeToken userId.repr tokenVersion
    (now + 60 * settings.accessTokenExpireMinutes)

def createAccessToken (libraries : Libraries) (settings : Settings)
    (userId : Id) (tokenVersion : Nat) : Py String := do
  let now ← now
  return accessToken libraries settings now userId tokenVersion

/-- `isinstance(ver, int)`, of which `bool` is a subclass. -/
def asInt : JsonValue → Option Int
  | .int value => some value
  | .bool value => some (if value then 1 else 0)
  | .other => none

def decodeAccessToken (libraries : Libraries) (now : Time) (token : String) :
    Option (Id × Int) :=
  match libraries.decodeToken now token with
  | none => none
  | some payload =>
      match payload.sub, asInt (payload.ver.getD (.int 0)) with
      | some sub, some ver =>
          if ver < 0 then none
          else (int sub).map fun userId => (userId, ver)
      | _, _ => none

/-- A decoded token carries the claims that were encoded; whether it decodes
depends on the time. -/
def KeepsClaims (libraries : Libraries) : Prop :=
  ∀ now sub ver exp payload,
    libraries.decodeToken now (libraries.encodeToken sub ver exp) =
      some payload →
    payload.sub = some sub ∧ payload.ver = some (.int ver)

theorem decode_accessToken {libraries : Libraries}
    (keeps : KeepsClaims libraries) {settings : Settings}
    {minted now : Time} {userId decodedId : Id} {tokenVersion : Nat}
    {decodedVersion : Int}
    (decoded : decodeAccessToken libraries now
      (accessToken libraries settings minted userId tokenVersion) =
        some (decodedId, decodedVersion)) :
    decodedId = userId ∧ decodedVersion = tokenVersion := by
  unfold decodeAccessToken at decoded
  cases found : libraries.decodeToken now
      (accessToken libraries settings minted userId tokenVersion) with
  | none =>
      rw [found] at decoded
      cases decoded
  | some payload =>
      obtain ⟨sub, ver⟩ := keeps _ _ _ _ _ found
      have parsed : int (Int.repr userId) = some userId := int_repr userId
      rw [found] at decoded
      simp only [sub, ver, Option.getD_some, asInt, parsed,
        Option.map_some] at decoded
      split at decoded
      · cases decoded
      · cases decoded
        exact ⟨rfl, rfl⟩

/-! ## Passwords -/

def hashPassword (libraries : Libraries) (password : String) : Py String := do
  let salt ← internal fun _ choice store => (choice.salt, store)
  return libraries.hashPassword salt password

/-! ## The current user -/

def notAuthenticated : Exc := .httpException 401 "not authenticated"

def invalidToken : Exc := .httpException 401 "invalid token"

def forbidden : Exc := .httpException 403 "forbidden"

/-- What `get_current_user` makes of the row it has read. -/
def admitUser (user : Option User) (tokenVersion : Int) : Except Exc User :=
  match user with
  | none => .error invalidToken
  | some user =>
      if (user.tokenVersion : Int) ≠ tokenVersion then .error invalidToken
      else .ok user

/-- `get_current_user` once the clock has been read: at most one statement,
the `SELECT` of the row. -/
def checkToken (libraries : Libraries) (now : Time) (token : String) :
    Py User := do
  match decodeAccessToken libraries now token with
  | none => throw invalidToken
  | some (userId, tokenVersion) =>
      let user ← query fun store => store.db.tables.users.find? userId
      match admitUser user tokenVersion with
      | .error exc => throw exc
      | .ok user => return user

def getCurrentUser (libraries : Libraries) (credentials : Option String) :
    Py User := do
  match credentials with
  | none => throw notAuthenticated
  | some token =>
      let now ← now
      checkToken libraries now token

def requireRoles (libraries : Libraries) (allowedRoles : List UserRole)
    (credentials : Option String) : Py User := do
  let user ← getCurrentUser libraries credentials
  if !allowedRoles.contains user.role then throw forbidden
  return user

def requireAdmin (libraries : Libraries) : Option String → Py User :=
  requireRoles libraries [.admin]

def requireAdminOrUser (libraries : Libraries) : Option String → Py User :=
  requireRoles libraries [.admin, .user]

def requireAuthenticatedUser (libraries : Libraries) :
    Option String → Py User :=
  requireRoles libraries [.admin, .user, .guest]

end SystemUni.Security.Auth
