import FtpControl.Text.Utf8

/-!
# Text encodings

The encodings in which a server may speak. Decoding never fails: a byte without a meaning
becomes the replacement character.
-/

namespace FtpControl.Text

inductive Encoding where
  | utf8
  | latin1
  | ascii
deriving DecidableEq, Repr

def Encoding.decode : Encoding → List UInt8 → List Char
  | .utf8, bytes => decodeUtf8 bytes
  | .latin1, bytes => bytes.map fun b => Char.ofNat b.toNat
  | .ascii, bytes => bytes.map fun b => if b.toNat < 0x80 then Char.ofNat b.toNat else replacement

@[simp] theorem Encoding.decode_nil (e : Encoding) : e.decode [] = [] := by
  cases e <;> rfl

end FtpControl.Text
