/-!
# Base 64

Three bytes are written as four characters of an alphabet of 64; a last group of one or two bytes is
filled up with equality signs.

Main definition: `base64`.
-/

namespace SourceWatch.Text

/-- The character for a group of six bits. -/
def base64Char (n : Nat) : Char :=
  if n < 26 then Char.ofNat (65 + n)
  else if n < 52 then Char.ofNat (71 + n)
  else if n < 62 then Char.ofNat (n - 4)
  else if n = 62 then '+'
  else '/'

/-- The written form of bytes. -/
def base64 : List UInt8 → List Char
  | a :: b :: c :: rest =>
    let n := a.toNat * 65536 + b.toNat * 256 + c.toNat
    base64Char (n / 262144) :: base64Char (n / 4096 % 64) :: base64Char (n / 64 % 64) ::
      base64Char (n % 64) :: base64 rest
  | [a, b] =>
    let n := a.toNat * 256 + b.toNat
    [base64Char (n / 1024), base64Char (n / 16 % 64), base64Char (n * 4 % 64), '=']
  | [a] => [base64Char (a.toNat / 4), base64Char (a.toNat * 16 % 64), '=', '=']
  | [] => []

example : base64 [65, 67, 49, 50, 51, 58, 116, 111, 107] = "QUMxMjM6dG9r".toList := by decide
example : base64 [120, 58] = "eDo=".toList := by decide

end SourceWatch.Text
