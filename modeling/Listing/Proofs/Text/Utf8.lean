import Mathlib
import Listing.Text.Utf8

/-!
# Reading what was encoded

The bytes of a text are read back as the text, strictly and leniently alike: no part of them is
faulty. The first byte of a character says how many follow and between which bounds the second one
lies; the bounds leave out what is encoded in too many bytes, the surrogates, and what lies beyond the
last code point.

Main statements: `scan_encodeChar_append`, one character in front of any bytes; `decode?_encode` and
`decodeLenient_encode`, whole texts.
-/

namespace Listing.Utf8

/-- A byte that holds six bits of a code point, in its bounds, is taken. -/
theorem complete_cons {n bits x : Nat} {low high : UInt8} (six : x < 64)
    (above : low.toNat ≤ x + 128) (below : x + 128 ≤ high.toNat) (bs : Bytes) :
    complete (n + 1) low high bits (UInt8.ofNat (x + 128) :: bs) =
      complete n 0x80 0xBF (64 * bits + x) bs := by
  have byte : (UInt8.ofNat (x + 128)).toNat = x + 128 := by
    rw [UInt8.toNat_ofNat']
    omega
  have inside : low ≤ UInt8.ofNat (x + 128) ∧ UInt8.ofNat (x + 128) ≤ high := by
    rw [UInt8.le_iff_toNat_le, UInt8.le_iff_toNat_le, byte]
    exact ⟨above, below⟩
  have six : (x + 128) % 64 = x := by omega
  rw [complete, if_pos inside, byte, six]

/-! ## The first byte -/

theorem lead?_of_one {v : Nat} (below : v < 0x80) :
    lead? (UInt8.ofNat v) = some ⟨0, 0x80, 0xBF, v⟩ := by
  have byte : (UInt8.ofNat v).toNat = v := by
    rw [UInt8.toNat_ofNat']
    omega
  unfold lead?
  rw [byte]
  exact if_pos (by omega)

/-- The first of two bytes. -/
theorem lead?_of_two {v : Nat} (above : 0x80 ≤ v) (below : v < 0x800) :
    lead? (UInt8.ofNat (v / 64 % 32 + 192)) = some ⟨1, 0x80, 0xBF, v / 64⟩ := by
  have byte : (UInt8.ofNat (v / 64 % 32 + 192)).toNat = v / 64 + 192 := by
    rw [UInt8.toNat_ofNat']
    omega
  unfold lead?
  rw [byte]
  dsimp only
  rw [if_neg (by omega), if_neg (by omega), if_pos (by omega)]
  simp

/-- The first of three bytes. Its bounds for the second leave out surrogates and small numbers. -/
theorem lead?_of_three {v : Nat} (above : 0x800 ≤ v) (below : v < 0x10000)
    (valid : v < 0xD800 ∨ 0xDFFF < v) :
    ∃ low high, lead? (UInt8.ofNat (v / 4096 % 16 + 224)) = some ⟨2, low, high, v / 4096⟩ ∧
      low.toNat ≤ v / 64 % 64 + 128 ∧ v / 64 % 64 + 128 ≤ high.toNat := by
  have byte : (UInt8.ofNat (v / 4096 % 16 + 224)).toNat = v / 4096 + 224 := by
    rw [UInt8.toNat_ofNat']
    omega
  unfold lead?
  rw [byte]
  dsimp only
  rw [if_neg (by omega), if_neg (by omega), if_neg (by omega)]
  by_cases small : v / 4096 = 0
  · rw [if_pos (by omega), small]
    refine ⟨0xA0, 0xBF, rfl, ?_, ?_⟩
    · show 160 ≤ v / 64 % 64 + 128
      omega
    · show v / 64 % 64 + 128 ≤ 191
      omega
  rw [if_neg (by omega)]
  by_cases surrogates : v / 4096 = 13
  · rw [if_pos (by omega), surrogates]
    refine ⟨0x80, 0x9F, rfl, ?_, ?_⟩
    · show 128 ≤ v / 64 % 64 + 128
      omega
    · show v / 64 % 64 + 128 ≤ 159
      omega
  rw [if_neg (by omega), if_pos (by omega), Nat.add_sub_cancel]
  refine ⟨0x80, 0xBF, rfl, ?_, ?_⟩
  · show 128 ≤ v / 64 % 64 + 128
    omega
  · show v / 64 % 64 + 128 ≤ 191
    omega

/-- The first of four bytes. Its bounds for the second leave out what is no code point. -/
theorem lead?_of_four {v : Nat} (above : 0x10000 ≤ v) (below : v < 0x110000) :
    ∃ low high, lead? (UInt8.ofNat (v / 262144 % 8 + 240)) = some ⟨3, low, high, v / 262144⟩ ∧
      low.toNat ≤ v / 4096 % 64 + 128 ∧ v / 4096 % 64 + 128 ≤ high.toNat := by
  have byte : (UInt8.ofNat (v / 262144 % 8 + 240)).toNat = v / 262144 + 240 := by
    rw [UInt8.toNat_ofNat']
    omega
  unfold lead?
  rw [byte]
  dsimp only
  rw [if_neg (by omega), if_neg (by omega), if_neg (by omega), if_neg (by omega),
    if_neg (by omega), if_neg (by omega)]
  by_cases small : v / 262144 = 0
  · rw [if_pos (by omega), small]
    refine ⟨0x90, 0xBF, rfl, ?_, ?_⟩
    · show 144 ≤ v / 4096 % 64 + 128
      omega
    · show v / 4096 % 64 + 128 ≤ 191
      omega
  rw [if_neg (by omega)]
  by_cases last : v / 262144 = 4
  · rw [if_neg (by omega), if_pos (by omega), last]
    refine ⟨0x80, 0x8F, rfl, ?_, ?_⟩
    · show 128 ≤ v / 4096 % 64 + 128
      omega
    · show v / 4096 % 64 + 128 ≤ 143
      omega
  rw [if_pos (by omega), Nat.add_sub_cancel]
  refine ⟨0x80, 0xBF, rfl, ?_, ?_⟩
  · show 128 ≤ v / 4096 % 64 + 128
    omega
  · show v / 4096 % 64 + 128 ≤ 191
    omega

/-! ## Characters and texts -/

theorem scan_cons (b : UInt8) (bs : Bytes) :
    scan (b :: bs) = (readChar b bs).1 :: scan (readChar b bs).2 := by
  rw [scan]

/-- What a first byte says about the bytes behind it decides the character. -/
theorem readChar_eq {b : UInt8} {bs rest : Bytes} {lead : Lead} {v : Nat} (leads : lead? b = some lead)
    (completes : complete lead.following lead.low lead.high lead.bits bs = (some v, rest)) :
    readChar b bs = (some (Char.ofNat v), rest) := by
  unfold readChar
  rw [leads]
  dsimp only
  rw [completes]
  rfl

/-- A character is read back from its bytes, whatever follows them. -/
theorem scan_encodeChar_append (c : Char) (bytes : Bytes) :
    scan (String.utf8EncodeChar c ++ bytes) = some c :: scan bytes := by
  have valid : c.toNat < 0xD800 ∨ 0xDFFF < c.toNat ∧ c.toNat < 0x110000 := c.valid
  have point : Char.ofNat c.toNat = c := Char.ofNat_toNat c
  have tail : (0x80 : UInt8).toNat = 128 ∧ (0xBF : UInt8).toNat = 191 := ⟨rfl, rfl⟩
  unfold String.utf8EncodeChar
  rw [Char.toNat_val]
  generalize c.toNat = v at valid point ⊢
  dsimp only
  split_ifs with one two three
  · have lead : lead? (UInt8.ofNat v) = some ⟨0, 0x80, 0xBF, v⟩ := lead?_of_one (by omega)
    rw [List.singleton_append, scan_cons, readChar_eq lead rfl, point]
  · have lead := lead?_of_two (v := v) (by omega) (by omega)
    have bits : 64 * (v / 64) + v % 64 = v := by omega
    have completes : complete 1 0x80 0xBF (v / 64) (UInt8.ofNat (v % 64 + 128) :: bytes) =
        (some v, bytes) := by
      rw [complete_cons (by omega) (by omega) (by omega), bits, complete]
    rw [List.cons_append, List.singleton_append, scan_cons, readChar_eq lead completes, point]
  · obtain ⟨low, high, lead, above, below⟩ := lead?_of_three (v := v) (by omega) (by omega) (by omega)
    have bits : 64 * (64 * (v / 4096) + v / 64 % 64) + v % 64 = v := by omega
    have completes : complete 2 low high (v / 4096)
        (UInt8.ofNat (v / 64 % 64 + 128) :: UInt8.ofNat (v % 64 + 128) :: bytes) =
        (some v, bytes) := by
      rw [complete_cons (by omega) above below, complete_cons (by omega) (by omega) (by omega), bits,
        complete]
    rw [List.cons_append, List.cons_append, List.singleton_append, scan_cons,
      readChar_eq lead completes, point]
  · obtain ⟨low, high, lead, above, below⟩ := lead?_of_four (v := v) (by omega) (by omega)
    have bits : 64 * (64 * (64 * (v / 262144) + v / 4096 % 64) + v / 64 % 64) + v % 64 = v := by
      omega
    have completes : complete 3 low high (v / 262144)
        (UInt8.ofNat (v / 4096 % 64 + 128) :: UInt8.ofNat (v / 64 % 64 + 128) ::
          UInt8.ofNat (v % 64 + 128) :: bytes) = (some v, bytes) := by
      rw [complete_cons (by omega) above below, complete_cons (by omega) (by omega) (by omega),
        complete_cons (by omega) (by omega) (by omega), bits, complete]
    rw [List.cons_append, List.cons_append, List.cons_append, List.singleton_append, scan_cons,
      readChar_eq lead completes, point]

/-- No part of the bytes of a text is faulty. -/
theorem scan_encode (t : Text) : scan (encode t) = t.map some := by
  induction t with
  | nil => rw [encode, List.flatMap_nil, scan]; rfl
  | cons c t ih =>
    rw [encode, List.flatMap_cons, scan_encodeChar_append, List.map_cons]
    exact congrArg _ ih

theorem decodeLenient_encode (t : Text) : decodeLenient (encode t) = t := by
  rw [decodeLenient, scan_encode, List.map_map]
  exact List.map_id t

theorem decode?_encode (t : Text) : decode? (encode t) = some t := by
  rw [decode?, scan_encode]
  induction t with
  | nil => rfl
  | cons c t ih => simp [ih]

end Listing.Utf8
