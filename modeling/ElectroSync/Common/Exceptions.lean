import Mathlib.Data.Int.Notation
import Mathlib.Data.Nat.Notation

/-!
# Exceptions

What a caller sees of a call that throws (`common/filters`).
-/

namespace ElectroSync

structure HttpException where
  statusCode : ℕ
  message : String
  retryAfterSeconds : Option ℤ := none
  deriving DecidableEq

/-- What the exception filter makes of an error of the database. -/
def internalError : HttpException := ⟨500, "Internal server error", none⟩

end ElectroSync
