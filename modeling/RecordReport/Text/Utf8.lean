/-!
Text as bytes. Decoding is the inverse of encoding, and a failure says how many leading bytes are
whole characters.
-/
namespace RecordReport

/-- The content of a file. -/
abbrev Bytes := List UInt8

namespace Text

/-- The bytes of a text. -/
def encode (s : String) : Bytes :=
  s.toByteArray.data.toList

/-- The number of leading bytes that are whole characters, from index `i` on for `fuel` characters. -/
def wholeFrom (bytes : ByteArray) : Nat → Nat → Nat
  | 0, i => i
  | fuel + 1, i =>
    match bytes.utf8DecodeChar? i with
    | some c => wholeFrom bytes fuel (i + c.utf8Size)
    | none => i

/-- The length of the longest beginning of `bytes` that is the encoding of a text. -/
def wholeLength (bytes : Bytes) : Nat :=
  wholeFrom ⟨bytes.toArray⟩ bytes.length 0

/-- The text with these bytes, or the number of leading bytes that are whole characters. -/
def decode (bytes : Bytes) : Except Nat String :=
  match String.fromUTF8? ⟨bytes.toArray⟩ with
  | some s => .ok s
  | none => .error (wholeLength bytes)

theorem decode_encode (s : String) : decode (encode s) = .ok s := by
  have h : (⟨(encode s).toArray⟩ : ByteArray) = s.toByteArray := by simp [encode]
  simp only [decode, h]
  simp [String.fromUTF8?, s.isValidUTF8, String.fromUTF8]

theorem encode_append (s t : String) : encode (s ++ t) = encode s ++ encode t := by
  simp [encode]

end Text
end RecordReport
