import Listing.Text.Basic

/-!
# UTF-8

Texts are stored as UTF-8. Bytes that are no UTF-8 are read in one of two ways: strictly, so that
there is no text at all, or leniently, so that each faulty stretch of bytes is one replacement
character. A faulty stretch is the longest start of a character that the bytes hold, or else a
single byte.
-/

namespace Listing

/-- The content of a file or stream. -/
abbrev Bytes := List UInt8

namespace Utf8

/-- The bytes of a text. -/
def encode (t : Text) : Bytes := t.flatMap String.utf8EncodeChar

/-- What the first byte of a character says about the others. -/
structure Lead where
  /-- How many bytes follow. -/
  following : Nat
  /-- The least second byte. -/
  low : UInt8
  /-- The greatest second byte. -/
  high : UInt8
  /-- The bits of the character that the first byte holds. -/
  bits : Nat
  deriving DecidableEq, Repr

/-- What a byte says as the first of a character; nothing, if no character starts with it. -/
def lead? (b : UInt8) : Option Lead :=
  let n := b.toNat
  if n ≤ 0x7F then some ⟨0, 0x80, 0xBF, n⟩
  else if n < 0xC2 then none
  else if n ≤ 0xDF then some ⟨1, 0x80, 0xBF, n - 0xC0⟩
  else if n = 0xE0 then some ⟨2, 0xA0, 0xBF, 0⟩
  else if n = 0xED then some ⟨2, 0x80, 0x9F, 0xD⟩
  else if n ≤ 0xEF then some ⟨2, 0x80, 0xBF, n - 0xE0⟩
  else if n = 0xF0 then some ⟨3, 0x90, 0xBF, 0⟩
  else if n ≤ 0xF3 then some ⟨3, 0x80, 0xBF, n - 0xF0⟩
  else if n = 0xF4 then some ⟨3, 0x80, 0x8F, 4⟩
  else none

/-- The code point that `n` more bytes complete, and the bytes behind them. There is none when the
    bytes end too early or a byte is out of place; the bytes from that one on are given back. -/
def complete : (n : Nat) → (low high : UInt8) → (bits : Nat) → Bytes → Option Nat × Bytes
  | 0, _, _, bits, bs => (some bits, bs)
  | _ + 1, _, _, _, [] => (none, [])
  | n + 1, low, high, bits, b :: bs =>
    if low ≤ b ∧ b ≤ high then complete n 0x80 0xBF (64 * bits + b.toNat % 64) bs
    else (none, b :: bs)

theorem complete_length_le (n : Nat) (low high : UInt8) (bits : Nat) (bs : Bytes) :
    (complete n low high bits bs).2.length ≤ bs.length := by
  fun_induction complete n low high bits bs with
  | case1 => exact Nat.le_refl _
  | case2 => exact Nat.le_refl _
  | case3 _ _ _ _ b bs _ ih => exact Nat.le_succ_of_le ih
  | case4 => exact Nat.le_refl _

/-- The character that starts with the byte `b`, if the bytes behind it complete one, and what
    follows. -/
def readChar (b : UInt8) (bs : Bytes) : Option Char × Bytes :=
  match lead? b with
  | none => (none, bs)
  | some lead =>
    let (point, bs) := complete lead.following lead.low lead.high lead.bits bs
    (point.map Char.ofNat, bs)

theorem readChar_length_le (b : UInt8) (bs : Bytes) : (readChar b bs).2.length ≤ bs.length := by
  unfold readChar
  split
  · exact Nat.le_refl _
  · exact complete_length_le _ _ _ _ _

/-- The characters of the bytes in their order, nothing standing for a faulty stretch. -/
def scan (bytes : Bytes) : List (Option Char) :=
  match bytes with
  | [] => []
  | b :: bs => (readChar b bs).1 :: scan (readChar b bs).2
termination_by bytes.length
decreasing_by
  exact Nat.lt_succ_of_le (readChar_length_le b bs)

/-- The character that stands for a faulty stretch of bytes. -/
def replacement : Char := '\uFFFD'

/-- The text of the bytes, with a replacement character for each faulty stretch. -/
def decodeLenient (bytes : Bytes) : Text := (scan bytes).map (·.getD replacement)

/-- The text of the bytes, if they are UTF-8 throughout. -/
def decode? (bytes : Bytes) : Option Text := (scan bytes).mapM id

end Utf8

end Listing
