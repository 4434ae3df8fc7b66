import DashboardCheck.Text.Utf8

/-!
# What strict reading keeps

Strict reading gives back every text from the bytes that write it. A character is written with as
few bytes as can write it, and no surrogate is a character, so its second byte is always in the
range that the first asks for.
-/
namespace DashboardCheck.Text

theorem toList_loop (bytes : ByteArray) (i : Nat) (before : List UInt8) :
    ByteArray.toList.loop bytes i before = before.reverse ++ bytes.data.toList.drop i := by
  fun_induction ByteArray.toList.loop bytes i before with
  | case1 i before hless ih =>
    have hi : i < bytes.data.toList.length := by simpa using hless
    rw [ih, List.drop_eq_getElem_cons hi]
    simp [ByteArray.get!, hless]
  | case2 i before hend =>
    rw [List.drop_eq_nil_of_le (by simpa using Nat.le_of_not_lt hend)]
    simp

/-- A text is written character by character. -/
theorem encode_eq_flatMap (s : String) : encode s = s.toList.flatMap String.utf8EncodeChar := by
  have hbytes : s.toUTF8 = s.toList.utf8Encode := String.utf8Encode_toList.symm
  rw [encode, hbytes, ByteArray.toList, toList_loop, List.utf8Encode]
  simp

/-- The last six bits of a byte that continues a character. -/
theorem continuation?_ofNat {low high x : Nat} (hx : x < 64) (hlow : low ≤ x + 128)
    (hhigh : x + 128 ≤ high) (rest : Bytes) :
    continuation? low high (UInt8.ofNat (x + 128) :: rest) = some (x, rest) := by
  have hbyte : (UInt8.ofNat (x + 128)).toNat = x + 128 := by
    rw [UInt8.toNat_ofNat']
    omega
  have hbits : (x + 128) % 64 = x := by omega
  simp only [continuation?, hbyte, hlow, hhigh, hbits, decide_true, Bool.and_self, if_true]

section Lead

variable {n : Nat} (rest : Bytes)

theorem toNat_ofNat_byte (h : n < 256) : (UInt8.ofNat n).toNat = n := by
  rw [UInt8.toNat_ofNat']
  exact Nat.mod_eq_of_lt h

theorem lead_one (h : n ≤ 0x7F) : lead (UInt8.ofNat n) rest = .char (Char.ofNat n) rest := by
  have hbyte := toNat_ofNat_byte (n := n) (by omega)
  simp only [lead, hbyte]
  rw [if_pos (by omega)]

theorem lead_two (hlow : 0x7F < n) (hhigh : n ≤ 0x7FF) :
    lead (UInt8.ofNat (n / 64 % 32 + 192)) (UInt8.ofNat (n % 64 + 128) :: rest) =
      .char (Char.ofNat n) rest := by
  have hbyte := toNat_ofNat_byte (n := n / 64 % 32 + 192) (by omega)
  have hsecond : continuation? 0x80 0xBF (UInt8.ofNat (n % 64 + 128) :: rest) =
      some (n % 64, rest) :=
    continuation?_ofNat (by omega) (by omega) (by omega) rest
  have hvalue : (n / 64 % 32 + 192) % 32 * 64 + n % 64 = n := by omega
  simp only [lead, hbyte]
  rw [if_neg (by omega), if_neg (by omega), if_pos (by omega), hsecond]
  simp only [hvalue]

/-- With three bytes the second begins later where two would do, and ends earlier where surrogates
begin. -/
theorem lead_three (hlow : 0x7FF < n) (hhigh : n ≤ 0xFFFF) (hvalid : n.isValidChar) :
    lead (UInt8.ofNat (n / 4096 % 16 + 224))
        (UInt8.ofNat (n / 64 % 64 + 128) :: UInt8.ofNat (n % 64 + 128) :: rest) =
      .char (Char.ofNat n) rest := by
  rw [Nat.isValidChar] at hvalid
  have hbyte := toNat_ofNat_byte (n := n / 4096 % 16 + 224) (by omega)
  have hrange : (secondRange (n / 4096 % 16 + 224)).1 ≤ n / 64 % 64 + 128 ∧
      n / 64 % 64 + 128 ≤ (secondRange (n / 4096 % 16 + 224)).2 := by
    simp only [secondRange]
    repeat' split
    all_goals dsimp only; omega
  have hsecond := continuation?_ofNat (by omega) hrange.1 hrange.2
    (UInt8.ofNat (n % 64 + 128) :: rest)
  have hthird : continuation? 0x80 0xBF (UInt8.ofNat (n % 64 + 128) :: rest) =
      some (n % 64, rest) :=
    continuation?_ofNat (by omega) (by omega) (by omega) rest
  have hvalue : ((n / 4096 % 16 + 224) % 16 * 64 + n / 64 % 64) * 64 + n % 64 = n := by omega
  simp only [lead, hbyte]
  rw [if_neg (by omega), if_neg (by omega), if_neg (by omega), if_pos (by omega), hsecond]
  simp only [hthird, hvalue]

/-- With four bytes the second also ends where there are no characters any more. -/
theorem lead_four (hlow : 0xFFFF < n) (hvalid : n.isValidChar) :
    lead (UInt8.ofNat (n / 262144 % 8 + 240))
        (UInt8.ofNat (n / 4096 % 64 + 128) :: UInt8.ofNat (n / 64 % 64 + 128) ::
          UInt8.ofNat (n % 64 + 128) :: rest) =
      .char (Char.ofNat n) rest := by
  rw [Nat.isValidChar] at hvalid
  have hbyte := toNat_ofNat_byte (n := n / 262144 % 8 + 240) (by omega)
  have hrange : (secondRange (n / 262144 % 8 + 240)).1 ≤ n / 4096 % 64 + 128 ∧
      n / 4096 % 64 + 128 ≤ (secondRange (n / 262144 % 8 + 240)).2 := by
    simp only [secondRange]
    repeat' split
    all_goals dsimp only; omega
  have hsecond := continuation?_ofNat (by omega) hrange.1 hrange.2
    (UInt8.ofNat (n / 64 % 64 + 128) :: UInt8.ofNat (n % 64 + 128) :: rest)
  have hthird : continuation? 0x80 0xBF
      (UInt8.ofNat (n / 64 % 64 + 128) :: UInt8.ofNat (n % 64 + 128) :: rest) =
        some (n / 64 % 64, UInt8.ofNat (n % 64 + 128) :: rest) :=
    continuation?_ofNat (by omega) (by omega) (by omega) _
  have hfourth : continuation? 0x80 0xBF (UInt8.ofNat (n % 64 + 128) :: rest) =
      some (n % 64, rest) :=
    continuation?_ofNat (by omega) (by omega) (by omega) rest
  have hvalue : (((n / 262144 % 8 + 240) % 8 * 64 + n / 4096 % 64) * 64 + n / 64 % 64) * 64 +
      n % 64 = n := by omega
  simp only [lead, hbyte]
  rw [if_neg (by omega), if_neg (by omega), if_neg (by omega), if_neg (by omega),
    if_pos (by omega), hsecond]
  simp only [hthird, hfourth, hvalue]

end Lead

/-- A character is read from the bytes that write it, and no further. -/
theorem lead_encoded (c : Char) :
    ∃ b more, String.utf8EncodeChar c = b :: more ∧
      ∀ rest, lead b (more ++ rest) = .char c rest := by
  have hchar : Char.ofNat c.val.toNat = c := Char.ofNat_toNat c
  have hvalid : c.val.toNat.isValidChar := c.valid
  rw [String.utf8EncodeChar]
  generalize c.val.toNat = n at hchar hvalid
  subst hchar
  split
  · next hone => exact ⟨_, _, rfl, fun rest => lead_one rest hone⟩
  · next hone =>
    split
    · next htwo => exact ⟨_, _, rfl, fun rest => lead_two rest (by omega) htwo⟩
    · next htwo =>
      split
      · next hthree => exact ⟨_, _, rfl, fun rest => lead_three rest (by omega) hthree hvalid⟩
      · next hthree => exact ⟨_, _, rfl, fun rest => lead_four rest (by omega) hvalid⟩

/-- What characters are encoded as is decoded to them, given enough fuel. -/
theorem decodeFrom?_encoded (cs : List Char) {fuel : Nat}
    (h : (cs.flatMap String.utf8EncodeChar).length ≤ fuel) :
    decodeFrom? fuel (cs.flatMap String.utf8EncodeChar) = some cs := by
  induction cs generalizing fuel with
  | nil => simp [decodeFrom?]
  | cons c cs ih =>
    obtain ⟨b, more, hbytes, hlead⟩ := lead_encoded c
    rw [List.flatMap_cons, hbytes] at h ⊢
    simp only [List.cons_append, List.length_cons, List.length_append] at h
    obtain ⟨fuel, rfl⟩ : ∃ k, fuel = k + 1 := ⟨fuel - 1, by omega⟩
    have hrest : (cs.flatMap String.utf8EncodeChar).length ≤ fuel := by omega
    rw [List.cons_append, decodeFrom?, hlead]
    simp [ih hrest]

/-- What was written is read back. -/
theorem decode?_encode (s : String) : decode? (encode s) = some s := by
  rw [decode?, encode_eq_flatMap, decodeFrom?_encoded s.toList (Nat.le_refl _), Option.map_some,
    String.ofList_toList]

end DashboardCheck.Text
