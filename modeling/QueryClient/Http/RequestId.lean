/-!
# Identifiers of requests

Every request carries an identifier in the form of a random UUID: thirty-two hexadecimal digits in five
groups, of which one digit tells the version and one the variant.
-/

namespace QueryClient.Http

/-- The last digits of a number in base sixteen. -/
def hexDigits (width n : Nat) : List Char :=
  (List.range width).reverse.map fun i => Nat.digitChar (n >>> (4 * i) % 16)

/-- The identifier with the given digits, two of which are fixed. -/
def requestId (n : Nat) : String :=
  String.ofList (hexDigits 8 (n >>> 96) ++ '-' :: hexDigits 4 (n >>> 80)
    ++ '-' :: '4' :: hexDigits 3 (n >>> 64) ++ '-' :: '8' :: hexDigits 3 (n >>> 48)
    ++ '-' :: hexDigits 12 n)

end QueryClient.Http
