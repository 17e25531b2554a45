/-!
# Hexadecimal digits

Digests and escapes of control characters use lower-case digits, percent escapes upper-case
ones; both kinds are read.
-/

namespace QueryCache.Text

def lowerHex (n : Nat) : Char :=
  if n < 10 then Char.ofNat (48 + n) else Char.ofNat (87 + n)

def upperHex (n : Nat) : Char :=
  if n < 10 then Char.ofNat (48 + n) else Char.ofNat (55 + n)

def hexValue? (c : Char) : Option Nat :=
  if '0' ≤ c ∧ c ≤ '9' then some (c.toNat - 48)
  else if 'a' ≤ c ∧ c ≤ 'f' then some (c.toNat - 87)
  else if 'A' ≤ c ∧ c ≤ 'F' then some (c.toNat - 55)
  else none

/-- A digit reads back as its value. -/
theorem hexValue?_lowerHex : ∀ n, n < 16 → hexValue? (lowerHex n) = some n := by decide

end QueryCache.Text
