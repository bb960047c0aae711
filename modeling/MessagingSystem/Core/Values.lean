import MessagingSystem.Foundation.Digits

/-!
# Identifiers, instants and errors

The scalar values every table and every service shares: `uuid.UUID`, the aware
`datetime` values produced by `utcnow`, and the exceptions a request can end
with.
-/

namespace MessagingSystem

open Foundation

/-!
# UUIDs
-/

abbrev Uuid := BitVec 128

instance : LawfulBEq Uuid :=
  inferInstance

/-- `str(uuid)`: thirty-two hexadecimal digits in five groups. -/
def Uuid.str (u : Uuid) : String :=
  let digits := numeral 16 32 u.toNat
  String.ofList
    (digits.take 8 ++ '-' :: ((digits.drop 8).take 4 ++ '-' ::
      ((digits.drop 12).take 4 ++ '-' :: ((digits.drop 16).take 4 ++ '-' ::
        digits.drop 20))))

/-!
# Instants

A `datetime` in UTC is a number of microseconds since the beginning of year 1;
the type ends with year 9999, and arithmetic past the end raises.
-/

def instantBound : Nat :=
  315537897600000000

abbrev Instant := Fin instantBound

instance : NeZero instantBound :=
  ⟨by decide⟩

/-- `value + timedelta(microseconds=delta)`, or `OverflowError`. -/
def Instant.add? (t : Instant) (delta : Nat) : Option Instant :=
  if h : t.val + delta < instantBound then some ⟨t.val + delta, h⟩ else none

/-- `value - timedelta(microseconds=delta)`, or `OverflowError`. -/
def Instant.sub? (t : Instant) (delta : Nat) : Option Instant :=
  if delta ≤ t.val then some ⟨t.val - delta, Nat.lt_of_le_of_lt (Nat.sub_le _ _) t.isLt⟩
  else none

def microsPerSecond : Nat := 1000000

def microsPerMinute : Nat := 60000000

def microsPerHour : Nat := 3600000000

def microsPerDay : Nat := 86400000000

theorem Instant.lt_of_add? {t u : Instant} {delta : Nat} (hdelta : 0 < delta)
    (h : t.add? delta = some u) : t < u := by
  unfold Instant.add? at h
  split at h
  · cases h
    exact Fin.lt_def.mpr (Nat.lt_add_of_pos_right hdelta)
  · cases h

/-!
# Errors

`AppError` carries a message, an HTTP status, a stable code and details; without
an explicit code the status decides it, and absent details are empty.  The other
exceptions are the ones the ORM, the schema constraints and the standard library
raise.
-/

structure AppError where
  message : String
  statusCode : Nat
  code : String
  details : List (String × String)
  deriving DecidableEq, Repr

def defaultErrorCode (statusCode : Nat) : String :=
  if statusCode = 400 then "VALIDATION_ERROR"
  else if statusCode = 401 then "AUTH_INVALID"
  else if statusCode = 403 then "FORBIDDEN"
  else if statusCode = 404 then "NOT_FOUND"
  else if statusCode = 409 then "CONFLICT"
  else if statusCode = 422 then "VALIDATION_ERROR"
  else if statusCode = 429 then "RATE_LIMITED"
  else if 500 ≤ statusCode then "INTERNAL_ERROR"
  else "ERROR"

inductive Failure where
  | app (error : AppError)
  | valueError (message : String)
  | integrityError (constraint : String)
  | multipleResultsFound
  | noResultFound
  | overflowError
  deriving DecidableEq, Repr

def appError (message : String) (statusCode : Nat)
    (code : String := defaultErrorCode statusCode)
    (details : List (String × String) := []) : Failure :=
  Failure.app
    { message := message, statusCode := statusCode, code := code, details := details }

/-!
# Changed columns

A flush writes the columns whose value differs from the one that was loaded.
-/

def changed [DecidableEq α] (loaded new : α) : Option α :=
  if new = loaded then none else some new

theorem changed_getD [DecidableEq α] (loaded new : α) :
    (changed loaded new).getD loaded = new := by
  unfold changed
  split
  · rename_i heq
    exact heq.symm
  · rfl

theorem changed_of_ne [DecidableEq α] {loaded new : α} (h : new ≠ loaded) :
    changed loaded new = some new :=
  if_neg h

end MessagingSystem
