import CodeReview.Text.Utf8
set_option autoImplicit false

/-!
The bytes of a text are decoded as the text. The first byte of a character says how many follow
and how far the second one may go, and each of the others adds six bits.
-/
namespace CodeReview.Text.Utf8

theorem toNat_ofNat {n : Nat} (h : n < 256) : (UInt8.ofNat n).toNat = n :=
  UInt8.toNat_ofNat_of_lt h

theorem start_one {n : Nat} (h : n ≤ 0x7f) : start (UInt8.ofNat n) = .char (Char.ofNat n) := by
  rw [start, toNat_ofNat (by omega)]
  exact if_pos (by omega)

theorem start_two {n : Nat} (low : 0x7f < n) (high : n ≤ 0x7ff) :
    start (UInt8.ofNat (n / 64 % 0x20 + 0xc0)) = .more ⟨n / 64, 0, 0x80, 0xbf⟩ := by
  have bits : n / 64 % 0x20 + 0xc0 - 0xc0 = n / 64 := by omega
  rw [start, toNat_ofNat (by omega)]
  rw [if_neg (by omega), if_neg (by omega), if_pos (by omega), bits]

/-- The second of three bytes starts late after zero bits and ends early before the surrogates. -/
theorem start_three {n : Nat} (low : 0x7ff < n) (high : n ≤ 0xffff)
    (valid : n < 0xd800 ∨ 0xdfff < n) :
    ∃ least greatest, start (UInt8.ofNat (n / 4096 % 0x10 + 0xe0)) =
        .more ⟨n / 4096, 1, least, greatest⟩ ∧
      least ≤ n / 64 % 0x40 + 0x80 ∧ n / 64 % 0x40 + 0x80 ≤ greatest := by
  rw [start, toNat_ofNat (by omega)]
  rw [if_neg (by omega), if_neg (by omega), if_neg (by omega)]
  by_cases zero : n / 4096 = 0
  · rw [if_pos (by omega), zero]
    exact ⟨0xa0, 0xbf, rfl, by omega, by omega⟩
  rw [if_neg (by omega)]
  by_cases surrogates : n / 4096 = 0xd
  · rw [if_pos (by omega), surrogates]
    exact ⟨0x80, 0x9f, rfl, by omega, by omega⟩
  have bits : n / 4096 % 0x10 + 0xe0 - 0xe0 = n / 4096 := by omega
  rw [if_neg (by omega), if_pos (by omega), bits]
  exact ⟨0x80, 0xbf, rfl, by omega, by omega⟩

theorem start_four {n : Nat} (low : 0xffff < n) (high : n < 0x110000) :
    ∃ least greatest, start (UInt8.ofNat (n / 262144 % 0x08 + 0xf0)) =
        .more ⟨n / 262144, 2, least, greatest⟩ ∧
      least ≤ n / 4096 % 0x40 + 0x80 ∧ n / 4096 % 0x40 + 0x80 ≤ greatest := by
  rw [start, toNat_ofNat (by omega)]
  rw [if_neg (by omega), if_neg (by omega), if_neg (by omega), if_neg (by omega),
    if_neg (by omega), if_neg (by omega)]
  by_cases zero : n / 262144 = 0
  · rw [if_pos (by omega), zero]
    exact ⟨0x90, 0xbf, rfl, by omega, by omega⟩
  rw [if_neg (by omega)]
  by_cases last : n / 262144 = 4
  · rw [if_neg (by omega), if_pos (by omega), last]
    exact ⟨0x80, 0x8f, rfl, by omega, by omega⟩
  have bits : n / 262144 % 0x08 + 0xf0 - 0xf0 = n / 262144 := by omega
  rw [if_pos (by omega), bits]
  exact ⟨0x80, 0xbf, rfl, by omega, by omega⟩

section
variable {bits least greatest n : Nat} (bs : List UInt8)

/-- The six bits of the last byte end a character. -/
theorem pieces_last (low : least ≤ n % 0x40 + 0x80) (high : n % 0x40 + 0x80 ≤ greatest) :
    pieces (some ⟨bits, 0, least, greatest⟩) (UInt8.ofNat (n % 0x40 + 0x80) :: bs) =
      some (Char.ofNat (64 * bits + n % 0x40)) :: pieces none bs := by
  rw [pieces, toNat_ofNat (by omega), if_pos ⟨low, high⟩, Nat.add_sub_cancel]

theorem pieces_next {k : Nat} (low : least ≤ n % 0x40 + 0x80)
    (high : n % 0x40 + 0x80 ≤ greatest) :
    pieces (some ⟨bits, k + 1, least, greatest⟩) (UInt8.ofNat (n % 0x40 + 0x80) :: bs) =
      pieces (some ⟨64 * bits + n % 0x40, k, 0x80, 0xbf⟩) bs := by
  rw [pieces, toNat_ofNat (by omega), if_pos ⟨low, high⟩, Nat.add_sub_cancel]

end

theorem pieces_encodeChar (c : Char) (bs : List UInt8) :
    pieces none (String.utf8EncodeChar c ++ bs) = some c :: pieces none bs := by
  have valid : c.val.toNat < 0xd800 ∨ 0xdfff < c.val.toNat ∧ c.val.toNat < 0x110000 := c.valid
  have whole : Char.ofNat c.val.toNat = c := Char.ofNat_toNat c
  revert valid whole
  unfold String.utf8EncodeChar
  generalize c.val.toNat = n
  intro valid whole
  dsimp only
  split
  · next one =>
    rw [List.singleton_append, pieces, start_one one, whole]
  split
  · next one two =>
    have bits : 64 * (n / 64) + n % 0x40 = n := by omega
    rw [List.cons_append, pieces, start_two (by omega) two]
    dsimp only
    rw [List.singleton_append, pieces_last _ (by omega) (by omega), bits, whole]
  split
  · next two three =>
    obtain ⟨least, greatest, first, low, high⟩ := start_three (n := n) (by omega) three (by omega)
    have bits : 64 * (64 * (n / 4096) + n / 64 % 0x40) + n % 0x40 = n := by omega
    rw [List.cons_append, pieces, first]
    dsimp only
    rw [List.cons_append, pieces_next _ low high, List.singleton_append,
      pieces_last _ (by omega) (by omega), bits, whole]
  · next three =>
    obtain ⟨least, greatest, first, low, high⟩ := start_four (n := n) (by omega) (by omega)
    have bits : 64 * (64 * (64 * (n / 262144) + n / 4096 % 0x40) + n / 64 % 0x40) + n % 0x40 =
        n := by omega
    rw [List.cons_append, pieces, first]
    dsimp only
    rw [List.cons_append, pieces_next _ low high, List.cons_append,
      pieces_next _ (by omega) (by omega), List.singleton_append,
      pieces_last _ (by omega) (by omega), bits, whole]

theorem pieces_encode (cs : List Char) : pieces none (encode cs) = cs.map some := by
  induction cs with
  | nil => rfl
  | cons c cs ih =>
    rw [encode, List.flatMap_cons, pieces_encodeChar, List.map_cons, ← ih]
    rfl

theorem decode?_encode (cs : List Char) : decode? (encode cs) = some cs := by
  rw [decode?, pieces_encode]
  induction cs with
  | nil => rfl
  | cons c cs ih => simp [List.mapM_cons, ih]

theorem decodeLenient_encode (cs : List Char) : decodeLenient (encode cs) = cs := by
  rw [decodeLenient, pieces_encode, List.map_map]
  exact List.map_id cs

/-- No character is written with less than a byte. -/
theorem length_le_encode (cs : List Char) : cs.length ≤ (encode cs).length := by
  induction cs with
  | nil => exact Nat.le_refl 0
  | cons c cs ih =>
    have one : 1 ≤ (String.utf8EncodeChar c).length :=
      String.length_utf8EncodeChar c ▸ c.utf8Size_pos
    rw [encode, List.flatMap_cons, List.length_append, List.length_cons]
    exact Nat.add_comm 1 _ ▸ Nat.add_le_add one ih

theorem decode?_bytes (s : String) : decode? (bytes s) = some s.toList :=
  decode?_encode s.toList

end CodeReview.Text.Utf8
