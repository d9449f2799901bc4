/-!
# Octets as letters

Three octets are written as four signs to base 64. Where the last group has fewer octets, equals
signs fill it up.
-/

namespace CatalogClient

/-- The sign of a number below 64. -/
def base64Sign (n : Nat) : Char :=
  if n < 26 then Char.ofNat ('A'.toNat + n)
  else if n < 52 then Char.ofNat ('a'.toNat + (n - 26))
  else if n < 62 then Char.ofNat ('0'.toNat + (n - 52))
  else if n = 62 then '+'
  else '/'

def base64 : List UInt8 → List Char
  | [] => []
  | [a] =>
    let n := a.toNat
    [base64Sign (n / 4), base64Sign (n % 4 * 16), '=', '=']
  | [a, b] =>
    let n := a.toNat * 256 + b.toNat
    [base64Sign (n / 1024), base64Sign (n / 16 % 64), base64Sign (n % 16 * 4), '=']
  | a :: b :: c :: rest =>
    let n := (a.toNat * 256 + b.toNat) * 256 + c.toNat
    base64Sign (n / 262144) :: base64Sign (n / 4096 % 64) :: base64Sign (n / 64 % 64)
      :: base64Sign (n % 64) :: base64 rest

end CatalogClient
