import EseManager.Jni
import EseManager.Transcript

/-!
# What the test application shows

`onResume` of its activity asks for the binding status, for the CPLC and for the verdict on the chip, one native method after the other,
and puts the three on the screen. Every native method runs in what the process finds then: both daemons, the TEE and the stack may be
different each time.

A text is the list of its characters, which are all ASCII. The texts of the two buttons are left out: each shows what one native method
returns.
-/

namespace EseManager

/-- `bytesToHexString`: `String.format("%02X ", b & 0xFF)` for every byte, `none` for `null`. -/
def bytesToHexString (bytes : Option (List UInt8)) : Option (List UInt8) :=
  match bytes with
  | none => none
  | some [] => none
  | some bytes => some (bytes.flatMap fun b => [Hex.upperDigit (b.toNat / 16), Hex.upperDigit (b.toNat % 16), ' '.toUInt8])

/-- The decimal digits of an `int`. -/
def decimal (n : Int) : List UInt8 :=
  (if n < 0 then ['-'.toUInt8] else []) ++ (Nat.toDigits 10 n.natAbs).map Char.toUInt8

/-- The text of the screen. The result of `cplc_str.replace` is not used. -/
def screenText (cplcByte : Option (List UInt8)) (bindingStatus : Int) (isValid : Bool) : List UInt8 :=
  chars "CPLC: " ++ (bytesToHexString cplcByte).getD (chars "null") ++ chars "\n" ++
    chars "eSEBindingStatus " ++ decimal bindingStatus ++ chars "\n" ++
    chars "eseValidateChipLegality " ++ chars (if isValid then "true" else "false")

/-- `onResume`, with the process as each of the three native methods finds it; `none` when it dies in one of them. -/
def onResume (first second third : NativeClient) : Option (List UInt8) :=
  let bindingStatus := (nativeEseSendCommandEx first 1096 none).1
  match (nativeEseGetCplc second).value with
  | none => none
  | some cplcByte =>
    match (nativeEseValidateChipLegality third).value with
    | none => none
    | some isValid => some (screenText cplcByte bindingStatus isValid)

end EseManager
