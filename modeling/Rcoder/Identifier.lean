import Mathlib.Tactic.Common

/-!
# Identifiers

The whitelist check shared by every request type of the repository, over the UTF-8 bytes of
the value, and the whitespace test the request validators use.
-/

namespace Rcoder

inductive IdentifierValidationError
  | empty
  | tooLong
  | invalidByte
  deriving DecidableEq

/-- ASCII letters, digits, underscore and hyphen. -/
def isIdentifierByte (byte : UInt8) : Bool :=
  (48 ≤ byte && byte ≤ 57) || (65 ≤ byte && byte ≤ 90) || (97 ≤ byte && byte ≤ 122) ||
    byte == 95 || byte == 45

def validateIdentifierLength (length : Nat) : Except IdentifierValidationError Unit :=
  if length = 0 then .error .empty
  else if length > 64 then .error .tooLong
  else .ok ()

def validateIdentifierBytes (bytes : List UInt8) : Except IdentifierValidationError Unit :=
  match validateIdentifierLength bytes.length with
  | .error e => .error e
  | .ok () => if bytes.all isIdentifierByte then .ok () else .error .invalidByte

def validateIdentifier (value fieldName : String) : Except String Unit :=
  match validateIdentifierBytes value.toUTF8.data.toList with
  | .ok () => .ok ()
  | .error .empty => .error (fieldName ++ " 不能为空")
  | .error .tooLong =>
    .error (fieldName ++ " 长度超过 64 字符: " ++ toString value.utf8ByteSize)
  | .error .invalidByte =>
    .error (fieldName ++ " 包含非法字符: '" ++ value ++ "'，仅允许字母、数字、下划线和连字符")

/-- The characters `str::trim` removes. -/
def isWhitespace (c : Char) : Bool :=
  let n := c.toNat
  (9 ≤ n && n ≤ 13) || n == 0x20 || n == 0x85 || n == 0xA0 || n == 0x1680 ||
    (0x2000 ≤ n && n ≤ 0x200A) || n == 0x2028 || n == 0x2029 || n == 0x202F || n == 0x205F ||
    n == 0x3000

def isBlank (value : String) : Bool := value.toList.all isWhitespace

end Rcoder
