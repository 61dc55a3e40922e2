import EclServer.Library.Transaction

/-!
What the services share: instants and durations, counted in microseconds as Python's
`datetime` does, the error answers of `app/core/exceptions.py`, and `str.strip`.
-/

namespace EclServer

/-- An instant, in microseconds. -/
abbrev Time := ℤ

/-- A `timedelta` of `n` seconds. -/
def seconds (n : ℤ) : Time := n * 1000000

def minutes (n : ℤ) : Time := seconds (n * 60)

def hours (n : ℤ) : Time := minutes (n * 60)

def days (n : ℤ) : Time := hours (n * 24)

/-- `int(t.timestamp())`: whole seconds. -/
def timestamp (t : Time) : ℤ := t / 1000000

/-- `ECLException`: an error answer of the API. -/
structure ECLException where
  code : String
  detail : String
  statusCode : ℕ := 400
  field : Option String := none
  retryAfter : Option ℤ := none
  deriving DecidableEq, Repr

/-- `generic_exception_handler`: the answer to an exception that no handler names. -/
def unexpectedError : ECLException :=
  { code := "INTERNAL_ERROR", detail := "An unexpected error occurred.", statusCode := 500 }

/-- The characters `str.strip` removes: those `str.isspace` accepts. -/
def pySpace (c : Char) : Bool :=
  c.toNat ∈ [0x20, 0x85, 0xA0, 0x1680, 0x2028, 0x2029, 0x202F, 0x205F, 0x3000]
    ∨ (0x09 ≤ c.toNat ∧ c.toNat ≤ 0x0D) ∨ (0x1C ≤ c.toNat ∧ c.toNat ≤ 0x1F)
    ∨ (0x2000 ≤ c.toNat ∧ c.toNat ≤ 0x200A)

/-- `str.strip`. -/
def pyStrip (s : String) : String :=
  String.ofList (((s.toList.dropWhile pySpace).reverse.dropWhile pySpace).reverse)

end EclServer
