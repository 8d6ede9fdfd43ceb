import Inferior.Bytes

/-! Numbers and byte strings in hexadecimal. -/

set_option autoImplicit false

namespace Inferior.Text.Hexadecimal

def digit? (char : Char) : Option Nat :=
  if '0' ≤ char ∧ char ≤ '9' then some (char.toNat - 48)
  else if 'a' ≤ char ∧ char ≤ 'f' then some (char.toNat - 87)
  else if 'A' ≤ char ∧ char ≤ 'F' then some (char.toNat - 55)
  else none

/-- Lower-case digits without leading zeros. -/
def digits (number : Nat) : String := String.ofList (Nat.toDigits 16 number)

def ofNat (number : Nat) : String := "0x" ++ digits number

def toNat? (text : String) : Option Nat :=
  match text.toList with
  | '0' :: 'x' :: digits =>
    digits.foldlM (fun number char => do return 16 * number + (← digit? char)) 0
  | _ => none

def ofBytes (bytes : Bytes) : String :=
  String.ofList (bytes.flatMap fun byte =>
    [Nat.digitChar (byte.toNat / 16), Nat.digitChar (byte.toNat % 16)])

def bytesOfDigits? : List Char → Option Bytes
  | [] => some []
  | high :: low :: rest => do
    return UInt8.ofNat (16 * (← digit? high) + (← digit? low)) :: (← bytesOfDigits? rest)
  | [_] => none

def toBytes? (text : String) : Option Bytes := bytesOfDigits? text.toList

end Inferior.Text.Hexadecimal
