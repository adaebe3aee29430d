/-
  Bytes written in base 64. Characters that are no digits are passed over, and so is everything
  after the padding that completes a group of four.
-/

namespace CaseGrid.Text

/-- The value of a digit. -/
def base64Value? (c : Char) : Option Nat :=
  let n := c.toNat
  if 'A' ≤ c ∧ c ≤ 'Z' then some (n - 0x41)
  else if 'a' ≤ c ∧ c ≤ 'z' then some (n - 0x61 + 26)
  else if '0' ≤ c ∧ c ≤ '9' then some (n - 0x30 + 52)
  else if c = '+' then some 62
  else if c = '/' then some 63
  else none

/-- Why a text writes no bytes. -/
inductive Base64Error where
  /-- One digit too many. -/
  | strayDigit (digits : Nat)
  | padding
  deriving DecidableEq, Repr

/-- The error in words. -/
def Base64Error.message : Base64Error → String
  | strayDigit digits =>
    "Invalid base64-encoded string: number of data characters (" ++ toString digits ++
      ") cannot be 1 more than a multiple of 4"
  | padding => "Incorrect padding"

/-- The bytes after `written` ones, `place` digits into a group of four, with the bits left of
the last digit and the number of padding signs since. -/
def base64From (place left pads written : Nat) : List Char → Except Base64Error (List UInt8)
  | [] =>
    if place = 0 then .ok []
    else if place = 1 then .error (.strayDigit (written / 3 * 4 + 1))
    else .error .padding
  | c :: cs =>
    if c = '=' then
      if place ≥ 2 then
        if place + (pads + 1) ≥ 4 then .ok [] else base64From place left (pads + 1) written cs
      else base64From place left pads written cs
    else
      match base64Value? c with
      | none => base64From place left pads written cs
      | some d =>
        if place = 0 then base64From 1 d 0 written cs
        else if place = 1 then
          (base64From 2 (d % 16) 0 (written + 1) cs).map (UInt8.ofNat (left * 4 + d / 16) :: ·)
        else if place = 2 then
          (base64From 3 (d % 4) 0 (written + 1) cs).map (UInt8.ofNat (left * 16 + d / 4) :: ·)
        else
          (base64From 0 0 0 (written + 1) cs).map (UInt8.ofNat (left * 64 + d) :: ·)

/-- The bytes that a text writes. -/
def base64Decode (cs : List Char) : Except Base64Error (List UInt8) :=
  base64From 0 0 0 0 cs

example : base64Decode "AB=C=".toList = .ok [0, 16] := rfl
example : base64Decode "ABCDE".toList = .error (.strayDigit 5) := rfl
example : base64Decode "A".toList = .error (.strayDigit 1) := rfl
example : base64Decode "AB=".toList = .error .padding := rfl

end CaseGrid.Text
