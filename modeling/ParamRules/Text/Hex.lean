/-!
Digits in base sixteen, and byte strings written with two of them for each byte.
`hexValue?_hexDigit` says that the digit of a value has that value, and `bytesOfHex?_hexOfBytes`
that a written byte string reads back.
-/

namespace ParamRules.Text

/-- The digit of a value below sixteen, letters in lower case. -/
def hexDigit (n : Nat) : Char :=
  if n < 10 then Char.ofNat (0x30 + n) else Char.ofNat (0x57 + n)

/-- The last `width` hexadecimal digits of a number. -/
def hexDigits : Nat → Nat → List Char
  | 0, _ => []
  | width + 1, n => hexDigits width (n / 16) ++ [hexDigit (n % 16)]

/-- The value of a hexadecimal digit, letters in either case. -/
def hexValue? (c : Char) : Option Nat :=
  if c.isDigit then some (c.toNat - 0x30)
  else if 'a' ≤ c ∧ c ≤ 'f' then some (c.toNat - 0x57)
  else if 'A' ≤ c ∧ c ≤ 'F' then some (c.toNat - 0x37)
  else none

def byteOf? (high low : Char) : Option UInt8 := do
  return UInt8.ofNat (16 * (← hexValue? high) + (← hexValue? low))

def hexCharsOf (bytes : List UInt8) : List Char :=
  bytes.flatMap fun b => hexDigits 2 b.toNat

def hexOfBytes (bytes : List UInt8) : String :=
  String.ofList (hexCharsOf bytes)

def bytesOfHexChars? : List Char → Option (List UInt8)
  | [] => some []
  | [_] => none
  | high :: low :: r => do
    return (← byteOf? high low) :: (← bytesOfHexChars? r)

def bytesOfHex? (s : String) : Option (List UInt8) :=
  bytesOfHexChars? s.toList

theorem hexValue?_hexDigit {n : Nat} (hn : n < 16) : hexValue? (hexDigit n) = some n := by
  have all : ∀ m : Fin 16, hexValue? (hexDigit m.val) = some m.val := by decide +kernel
  exact all ⟨n, hn⟩

theorem byteOf?_hexDigit (b : UInt8) :
    byteOf? (hexDigit (b.toNat / 16 % 16)) (hexDigit (b.toNat % 16)) = some b := by
  have hb := b.toNat_lt
  have value : UInt8.ofNat (16 * (b.toNat / 16 % 16) + b.toNat % 16) = b := by
    rw [show 16 * (b.toNat / 16 % 16) + b.toNat % 16 = b.toNat by omega]
    simp
  rw [byteOf?, hexValue?_hexDigit (by omega), hexValue?_hexDigit (by omega)]
  exact congrArg some value

theorem bytesOfHexChars?_hexCharsOf (bytes : List UInt8) :
    bytesOfHexChars? (hexCharsOf bytes) = some bytes := by
  induction bytes with
  | nil => rfl
  | cons b r ih =>
    have step : hexCharsOf (b :: r) =
        hexDigit (b.toNat / 16 % 16) :: hexDigit (b.toNat % 16) :: hexCharsOf r := by
      simp [hexCharsOf, hexDigits]
    simp [step, bytesOfHexChars?, byteOf?_hexDigit, ih]

theorem bytesOfHex?_hexOfBytes (bytes : List UInt8) :
    bytesOfHex? (hexOfBytes bytes) = some bytes := by
  simp [bytesOfHex?, hexOfBytes, bytesOfHexChars?_hexCharsOf]

end ParamRules.Text
