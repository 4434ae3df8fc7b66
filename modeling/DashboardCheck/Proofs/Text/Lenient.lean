import DashboardCheck.Text.Split
import DashboardCheck.Text.Utf8
import Mathlib.Data.List.Infix

/-!
# What lenient reading keeps

Lenient reading goes through bytes from left to right. A byte below 0x80 is a character of its own;
any other character, and any mark in place of one, stands for bytes from 0x80 on and is itself
none of the first 128. So a text of those first 128 characters stands in what was read exactly where
its bytes stand, whatever the bytes around them are.
-/
namespace DashboardCheck.Text

/-- A byte that is a character of its own. -/
def IsAscii (b : UInt8) : Prop := b.toNat < 0x80

variable {b : UInt8} {rest : Bytes}

/-- A byte that continues a character adds six bits. -/
theorem continuation?_eq_some {low high x : Nat} {bytes : Bytes}
    (h : continuation? low high bytes = some (x, rest)) :
    ∃ b, bytes = b :: rest ∧ (low ≤ b.toNat ∧ b.toNat ≤ high) ∧ x = b.toNat % 64 := by
  cases bytes with
  | nil => simp [continuation?] at h
  | cons b more =>
    by_cases hrange : low ≤ b.toNat ∧ b.toNat ≤ high
    · simp only [continuation?, hrange, decide_true, Bool.and_self, if_true, Option.some.injEq,
        Prod.mk.injEq] at h
      obtain ⟨rfl, rfl⟩ := h
      exact ⟨b, rfl, hrange, rfl⟩
    · simp [continuation?, hrange] at h

/-- A byte in the range of second bytes continues a character. -/
theorem not_isAscii_of_secondRange {n : Nat}
    (h : (secondRange n).1 ≤ b.toNat ∧ b.toNat ≤ (secondRange n).2) : ¬ IsAscii b := by
  have hlow : 0x80 ≤ (secondRange n).1 := by
    rw [secondRange]
    split_ifs <;> simp
  rw [IsAscii]
  omega

/-- A number that is written with several bytes and is that of a character. -/
def IsLater (n : Nat) : Prop := 0x80 ≤ n ∧ n.isValidChar

theorem toNat_ofNat_of_isValidChar {n : Nat} (h : n.isValidChar) : (Char.ofNat n).toNat = n := by
  rw [Char.ofNat, dif_pos h]
  rfl

theorem toNat_ofNat_of_isLater {n : Nat} (h : IsLater n) : 0x80 ≤ (Char.ofNat n).toNat := by
  rw [toNat_ofNat_of_isValidChar h.2]
  exact h.1

/-- The range of the second byte keeps out surrogates and what fewer bytes could write. -/
theorem isLater_three {n x y : Nat} (hn : 0xE0 ≤ n ∧ n < 0xF0)
    (hx : (secondRange n).1 ≤ x ∧ x ≤ (secondRange n).2) (hy : y < 64) :
    IsLater ((n % 16 * 64 + x % 64) * 64 + y) := by
  rw [secondRange] at hx
  rw [IsLater, Nat.isValidChar]
  split_ifs at hx <;> dsimp only at hx <;> omega

/-- The range of the second byte also keeps out what is too large. -/
theorem isLater_four {n x y z : Nat} (hn : 0xF0 ≤ n ∧ n < 0xF5)
    (hx : (secondRange n).1 ≤ x ∧ x ≤ (secondRange n).2) (hy : y < 64) (hz : z < 64) :
    IsLater (((n % 8 * 64 + x % 64) * 64 + y) * 64 + z) := by
  rw [secondRange] at hx
  rw [IsLater, Nat.isValidChar]
  split_ifs at hx <;> dsimp only at hx <;> omega

/-- What bytes start with has no part in the first 128 characters: it is a later one, or none, and
all bytes behind the first that belong to it are such that they continue one. -/
def Lead.IsForeign (rest : Bytes) : Lead → Prop
  | .char c rest' => 0x80 ≤ c.toNat ∧ ∃ more, rest = more ++ rest' ∧ ∀ x ∈ more, ¬ IsAscii x
  | .malformed count => ∀ x ∈ rest.take (count - 1), ¬ IsAscii x

theorem Lead.isForeign_malformed_one : (Lead.malformed 1).IsForeign rest := by
  simp [IsForeign]

theorem lead_of_isAscii (h : IsAscii b) (rest : Bytes) :
    lead b rest = .char (Char.ofNat b.toNat) rest := by
  simp only [lead]
  exact if_pos h

theorem lead_isForeign (hb : ¬ IsAscii b) (rest : Bytes) : (lead b rest).IsForeign rest := by
  rw [IsAscii] at hb
  simp only [lead, if_neg hb]
  -- one case for each length that a first byte can announce
  split_ifs with hstray htwo hthree hfour
  · exact Lead.isForeign_malformed_one
  · cases hx : continuation? 0x80 0xBF rest with
    | none => exact Lead.isForeign_malformed_one
    | some found =>
      obtain ⟨x, rest'⟩ := found
      obtain ⟨second, rfl, hsecond, rfl⟩ := continuation?_eq_some hx
      have hlater : IsLater (b.toNat % 32 * 64 + second.toNat % 64) := by
        rw [IsLater, Nat.isValidChar]
        omega
      refine ⟨toNat_ofNat_of_isLater hlater, [second], rfl, ?_⟩
      simpa [IsAscii] using hsecond.1
  · cases hx : continuation? (secondRange b.toNat).1 (secondRange b.toNat).2 rest with
    | none => exact Lead.isForeign_malformed_one
    | some found =>
      obtain ⟨x, rest₁⟩ := found
      obtain ⟨second, rfl, hsecond, rfl⟩ := continuation?_eq_some hx
      have hforeign := not_isAscii_of_secondRange hsecond
      dsimp only
      cases hy : continuation? 0x80 0xBF rest₁ with
      | none => simpa [Lead.IsForeign] using hforeign
      | some found =>
        obtain ⟨y, rest'⟩ := found
        obtain ⟨third, rfl, hthird, rfl⟩ := continuation?_eq_some hy
        have hlater := isLater_three (by omega) hsecond (Nat.mod_lt third.toNat (by decide))
        have hforeign₂ : ¬ IsAscii third := not_lt.mpr hthird.1
        refine ⟨toNat_ofNat_of_isLater hlater, [second, third], rfl, ?_⟩
        simpa using ⟨hforeign, hforeign₂⟩
  · cases hx : continuation? (secondRange b.toNat).1 (secondRange b.toNat).2 rest with
    | none => exact Lead.isForeign_malformed_one
    | some found =>
      obtain ⟨x, rest₁⟩ := found
      obtain ⟨second, rfl, hsecond, rfl⟩ := continuation?_eq_some hx
      have hforeign := not_isAscii_of_secondRange hsecond
      dsimp only
      cases hy : continuation? 0x80 0xBF rest₁ with
      | none => simpa [Lead.IsForeign] using hforeign
      | some found =>
        obtain ⟨y, rest₂⟩ := found
        obtain ⟨third, rfl, hthird, rfl⟩ := continuation?_eq_some hy
        have hforeign₂ : ¬ IsAscii third := not_lt.mpr hthird.1
        dsimp only
        cases hz : continuation? 0x80 0xBF rest₂ with
        | none => simpa [Lead.IsForeign] using ⟨hforeign, hforeign₂⟩
        | some found =>
          obtain ⟨z, rest'⟩ := found
          obtain ⟨fourth, rfl, hfourth, rfl⟩ := continuation?_eq_some hz
          have hlater := isLater_four (by omega) hsecond (Nat.mod_lt third.toNat (by decide))
            (Nat.mod_lt fourth.toNat (by decide))
          have hforeign₃ : ¬ IsAscii fourth := not_lt.mpr hfourth.1
          refine ⟨toNat_ofNat_of_isLater hlater, [second, third, fourth], rfl, ?_⟩
          simpa using ⟨hforeign, hforeign₂, hforeign₃⟩
  · exact Lead.isForeign_malformed_one

/-- Characters stand for bytes: each of the first 128 for its own, and any other for some that are
no characters of their own. -/
inductive StandsFor : List Char → Bytes → Prop
  | nil : StandsFor [] []
  | ascii {cs : List Char} {bytes : Bytes} (b : UInt8) (hb : IsAscii b) (h : StandsFor cs bytes) :
      StandsFor (Char.ofNat b.toNat :: cs) (b :: bytes)
  | foreign {cs : List Char} {bytes : Bytes} (c : Char) (b : UInt8) (more : Bytes)
      (hc : 0x80 ≤ c.toNat) (hmore : ∀ x ∈ b :: more, ¬ IsAscii x) (h : StandsFor cs bytes) :
      StandsFor (c :: cs) (b :: (more ++ bytes))

theorem standsFor_decodeLossyFrom {fuel : Nat} {bytes : Bytes} (h : bytes.length ≤ fuel) :
    StandsFor (decodeLossyFrom fuel bytes) bytes := by
  induction fuel generalizing bytes with
  | zero =>
    obtain rfl : bytes = [] := List.eq_nil_of_length_eq_zero (Nat.le_zero.mp h)
    exact .nil
  | succ fuel ih =>
    cases bytes with
    | nil => exact .nil
    | cons b rest =>
      rw [List.length_cons, Nat.add_le_add_iff_right] at h
      by_cases hb : IsAscii b
      · rw [decodeLossyFrom, lead_of_isAscii hb]
        exact .ascii b hb (ih h)
      · have hforeign := lead_isForeign hb rest
        rw [decodeLossyFrom]
        cases hlead : lead b rest with
        | char c rest' =>
          rw [hlead] at hforeign
          obtain ⟨hc, more, rfl, hmore⟩ := hforeign
          rw [List.length_append] at h
          exact .foreign c b more hc (List.forall_mem_cons.mpr ⟨hb, hmore⟩) (ih (by omega))
        | malformed count =>
          rw [hlead] at hforeign
          have hlength : (rest.drop (count - 1)).length ≤ fuel := by
            rw [List.length_drop]
            omega
          have hrest := StandsFor.foreign '\uFFFD' b (rest.take (count - 1)) (by decide)
            (List.forall_mem_cons.mpr ⟨hb, hforeign⟩) (ih hlength)
          rwa [List.take_append_drop] at hrest

theorem standsFor_decodeLossy (bytes : Bytes) : StandsFor (decodeLossy bytes).toList bytes := by
  rw [decodeLossy, String.toList_ofList]
  exact standsFor_decodeLossyFrom le_rfl

theorem occursIn_iff {needle cs : List Char} : occursIn needle cs = true ↔ needle <:+: cs := by
  induction cs with
  | nil => simp [occursIn]
  | cons c rest ih =>
    rw [occursIn, Bool.or_eq_true, ih, List.isPrefixOf_iff_prefix, List.infix_cons_iff]

/-- The byte of one of the first 128 characters. -/
def byteOf (c : Char) : UInt8 := UInt8.ofNat c.toNat

theorem toNat_byteOf {c : Char} (hc : c.toNat < 0x80) : (byteOf c).toNat = c.toNat := by
  rw [byteOf, UInt8.toNat_ofNat']
  omega

theorem eq_ofNat_iff {c : Char} (hc : c.toNat < 0x80) {b : UInt8} :
    c = Char.ofNat b.toNat ↔ byteOf c = b := by
  constructor
  · rintro rfl
    have hvalid : b.toNat.isValidChar := .inl (by have := b.toNat_lt; omega)
    rw [byteOf, toNat_ofNat_of_isValidChar hvalid, UInt8.ofNat_toNat]
  · rintro rfl
    rw [toNat_byteOf hc, Char.ofNat_toNat]

section Needle

variable {needle cs : List Char} {bytes : Bytes} (hneedle : ∀ c ∈ needle, c.toNat < 0x80)
include hneedle

theorem StandsFor.prefix_iff (h : StandsFor cs bytes) :
    needle <+: cs ↔ needle.map byteOf <+: bytes := by
  induction needle generalizing cs bytes with
  | nil => simp
  | cons c rest ih =>
    obtain ⟨hc, hrest⟩ := List.forall_mem_cons.mp hneedle
    rw [List.map_cons]
    cases h with
    | nil => simp
    | ascii b hb h => rw [List.cons_prefix_cons, List.cons_prefix_cons, eq_ofNat_iff hc, ih hrest h]
    | foreign other b more hother hmore h =>
      have hb : ¬ IsAscii b := hmore b List.mem_cons_self
      rw [List.cons_prefix_cons, List.cons_prefix_cons]
      refine iff_of_false ?_ ?_
      · rintro ⟨rfl, -⟩
        omega
      · rintro ⟨rfl, -⟩
        rw [IsAscii, toNat_byteOf hc] at hb
        exact hb hc

/-- The bytes of the text do not stand across a byte that is no character of its own. -/
theorem infix_append_iff (hsome : needle ≠ []) {more : Bytes} (hmore : ∀ x ∈ more, ¬ IsAscii x) :
    needle.map byteOf <:+: more ++ bytes ↔ needle.map byteOf <:+: bytes := by
  induction more with
  | nil => rfl
  | cons x rest ih =>
    obtain ⟨hx, hrest⟩ := List.forall_mem_cons.mp hmore
    rw [List.cons_append, List.infix_cons_iff, ih hrest]
    refine or_iff_right ?_
    cases needle with
    | nil => exact absurd rfl hsome
    | cons c _ =>
      have hc := hneedle c List.mem_cons_self
      rw [List.map_cons, List.cons_prefix_cons]
      rintro ⟨rfl, -⟩
      rw [IsAscii, toNat_byteOf hc] at hx
      exact hx hc

theorem StandsFor.infix_iff (hsome : needle ≠ []) (h : StandsFor cs bytes) :
    needle <:+: cs ↔ needle.map byteOf <:+: bytes := by
  induction h with
  | nil => simp
  | ascii b hb h ih =>
    rw [List.infix_cons_iff, List.infix_cons_iff, ih,
      (StandsFor.ascii b hb h).prefix_iff hneedle]
  | foreign c b more hc hmore h ih =>
    rw [List.infix_cons_iff, ih, (StandsFor.foreign c b more hc hmore h).prefix_iff hneedle,
      ← List.cons_append, infix_append_iff hneedle hsome hmore]
    refine or_iff_right_of_imp fun hstart => ?_
    rw [← infix_append_iff hneedle hsome hmore]
    exact hstart.isInfix

/-- A text of the first 128 characters occurs in what lenient reading gives exactly if its bytes
stand somewhere in what was read. -/
theorem occursIn_decodeLossy_iff (hsome : needle ≠ []) :
    occursIn needle (decodeLossy bytes).toList = true ↔ needle.map byteOf <:+: bytes := by
  rw [occursIn_iff]
  exact (standsFor_decodeLossy bytes).infix_iff hneedle hsome

end Needle

end DashboardCheck.Text
