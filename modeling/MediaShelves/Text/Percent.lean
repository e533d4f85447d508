/-!
# Percent decoding

Octets written as a percent sign and two hexadecimal digits.  A percent sign without two digits
after it stands for itself.
-/

namespace MediaShelves.Text

/-- The value of a hexadecimal digit, given as an ASCII octet. -/
def hexOctetValue? (b : UInt8) : Option UInt8 :=
  if 48 ≤ b && b ≤ 57 then some (b - 48)
  else if 65 ≤ b && b ≤ 70 then some (b - 55)
  else if 97 ≤ b && b ≤ 102 then some (b - 87)
  else none

/-- Decodes octets; 37 is the percent sign. -/
def percentDecodeOctets : List UInt8 → List UInt8
  | [] => []
  | [a] => [a]
  | [a, b] => [a, b]
  | a :: b :: c :: rest =>
    if a = 37 then
      match hexOctetValue? b, hexOctetValue? c with
      | some high, some low => (16 * high + low) :: percentDecodeOctets rest
      | _, _ => a :: percentDecodeOctets (b :: c :: rest)
    else a :: percentDecodeOctets (b :: c :: rest)

/-- The decoded text, or none where the decoded octets are no UTF-8. -/
def percentDecode? (s : String) : Option String :=
  String.fromUTF8? (ByteArray.mk (percentDecodeOctets s.toUTF8.toList).toArray)

end MediaShelves.Text
