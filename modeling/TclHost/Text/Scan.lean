/-!
Reading a byte string from left to right, several bytes at a time where they belong together.
-/

namespace TclHost.Text

/-- `read` sees the byte at the current position and what follows it. It says what they yield, and
how many of the following bytes are used up with it. The number given to `scan` is of bytes that
are used up already. -/
def scan {α : Type} (read : UInt8 → List UInt8 → List α × Nat) : Nat → List UInt8 → List α
  | _, [] => []
  | 0, byte :: rest => (read byte rest).1 ++ scan read (read byte rest).2 rest
  | used + 1, _ :: rest => scan read used rest

variable {α : Type} (read : UInt8 → List UInt8 → List α × Nat)

theorem scan_eq_drop (used : Nat) (bytes : List UInt8) :
    scan read used bytes = scan read 0 (bytes.drop used) := by
  induction bytes generalizing used with
  | nil => cases used <;> simp [scan]
  | cons byte rest ih =>
      cases used with
      | zero => rfl
      | succ used => simpa [scan] using ih used

@[simp] theorem scan_nil (used : Nat) : scan read used [] = [] := by
  cases used <;> rfl

theorem scan_cons (byte : UInt8) (rest : List UInt8) :
    scan read 0 (byte :: rest) =
      (read byte rest).1 ++ scan read 0 (rest.drop (read byte rest).2) := by
  rw [← scan_eq_drop]
  rfl

end TclHost.Text
