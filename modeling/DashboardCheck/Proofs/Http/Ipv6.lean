import DashboardCheck.Http.Ipv6
import DashboardCheck.Proofs.Number.Digits
import Mathlib.Algebra.Group.Nat.Defs
import Mathlib.Data.List.TakeWhile

/-!
# How IPv6 addresses are spelled

An address has many spellings: its digits may be of either case and have zeros in front, one run of
zeros may be left out, and the last two groups may be an IPv4 address. What is read are these
spellings and nothing else, each as the address that it spells.
-/
namespace DashboardCheck.Http.Ipv6

open Number

/-- Hexadecimal digits of either case, and the number that they write after those that make up the
first one. -/
inductive Hex : Nat → List Char → Nat → Prop
  | nil (value : Nat) : Hex value [] value
  | cons {value n digit : Nat} {c : Char} {cs : List Char} (hdigit : hexValue? c = some digit)
      (more : Hex (value * 16 + digit) cs n) : Hex value (c :: cs) n

/-- A group is one to four hexadecimal digits. -/
structure Group (cs : List Char) (g : Nat) : Prop where
  digits : Hex 0 cs g
  some_digit : cs ≠ []
  at_most_four : cs.length ≤ 4

/-- An IPv4 address is four numbers below 256, in decimal without zeros in front. -/
inductive Ipv4 : List Char → Nat → Nat → Prop
  | dotted {a b c d : Nat} (ha : a < 256) (hb : b < 256) (hc : c < 256) (hd : d < 256) :
      Ipv4 (digitsOf a ++ '.' :: (digitsOf b ++ '.' :: (digitsOf c ++ '.' :: digitsOf d)))
        (a * 256 + b) (c * 256 + d)

/-- Groups with colons between them; the last two may be an IPv4 address, and the truth value says
whether they are. -/
inductive Row : Bool → List Nat → List Char → Prop
  | group {cs : List Char} {g : Nat} (h : Group cs g) : Row false [g] cs
  | ipv4 {cs : List Char} {high low : Nat} (h : Ipv4 cs high low) : Row true [high, low] cs
  | cons {endsInIpv4 : Bool} {cs ds : List Char} {g : Nat} {gs : List Nat} (h : Group ds g)
      (more : Row endsInIpv4 gs cs) : Row endsInIpv4 (g :: gs) (ds ++ ':' :: cs)

/-- What may stand beside two colons: groups, or nothing. -/
inductive Side : Bool → List Nat → List Char → Prop
  | none : Side false [] []
  | row {endsInIpv4 : Bool} {gs : List Nat} {cs : List Char} (h : Row endsInIpv4 gs cs) :
      Side endsInIpv4 gs cs

/-- The spellings of eight groups: all of them in a row, or with zeros left out, at least one, and
two colons in their place. -/
inductive Spells : List Char → List Nat → Prop
  | full {endsInIpv4 : Bool} {gs : List Nat} {cs : List Char} (h : Row endsInIpv4 gs cs)
      (hsize : gs.length = 8) : Spells cs gs
  | shortened {endsInIpv4 : Bool} {front back : List Nat} {cs ds : List Char} {missing : Nat}
      (hfront : Side false front cs) (hback : Side endsInIpv4 back ds)
      (hsize : front.length + missing + back.length = 8) (hmissing : 0 < missing) :
      Spells (cs ++ ':' :: ':' :: ds) (front ++ List.replicate missing 0 ++ back)

theorem hexValue?_lt {c : Char} {digit : Nat} (h : hexValue? c = some digit) : digit < 16 := by
  rw [hexValue?] at h
  split at h
  · next hc =>
    obtain rfl := Option.some.inj h
    exact Nat.lt_of_lt_of_le (digitChar_digitValue hc).1 (by decide)
  · split at h
    · next hc =>
      simp only [Bool.and_eq_true, decide_eq_true_eq, Char.le_def, UInt32.le_iff_toNat_le] at hc
      obtain rfl := Option.some.inj h
      have hlast : c.toNat ≤ 102 := hc.2
      have hfirst : 'a'.toNat = 97 := rfl
      omega
    · split at h
      · next hc =>
        simp only [Bool.and_eq_true, decide_eq_true_eq, Char.le_def, UInt32.le_iff_toNat_le] at hc
        obtain rfl := Option.some.inj h
        have hlast : c.toNat ≤ 70 := hc.2
        have hfirst : 'A'.toNat = 65 := rfl
        omega
      · cases h

theorem Hex.append {value m n : Nat} {cs ds : List Char} (h : Hex value cs m) (more : Hex m ds n) :
    Hex value (cs ++ ds) n := by
  induction h with
  | nil value => exact more
  | cons hdigit _ ih => exact .cons hdigit (ih more)

theorem Hex.lt {value n : Nat} {cs : List Char} (h : Hex value cs n) :
    n < (value + 1) * 16 ^ cs.length := by
  induction h with
  | nil value => simp
  | @cons value n digit c cs hdigit _ ih =>
    have hsmall := hexValue?_lt hdigit
    rw [List.length_cons, Nat.pow_succ', ← Nat.mul_assoc]
    exact Nat.lt_of_lt_of_le ih (Nat.mul_le_mul_right _ (by omega))

theorem Hex.head_isSome {value n : Nat} {cs : List Char} (h : Hex value cs n) (hne : cs ≠ [])
    (rest : List Char) : ((cs ++ rest).head?.bind hexValue?).isSome = true := by
  cases h with
  | nil => exact absurd rfl hne
  | cons hdigit _ => simp [hdigit]

theorem Group.lt {cs : List Char} {g : Nat} (h : Group cs g) : g < 65536 := by
  have hlt := h.digits.lt
  have hpow : 16 ^ cs.length ≤ 16 ^ 4 := Nat.pow_le_pow_right (by decide) h.at_most_four
  omega

theorem Row.lt {endsInIpv4 : Bool} {gs : List Nat} {cs : List Char} (h : Row endsInIpv4 gs cs) :
    ∀ g ∈ gs, g < 65536 := by
  induction h with
  | group h => simpa using h.lt
  | ipv4 h =>
    cases h with
    | dotted ha hb hc hd =>
      simp only [List.mem_cons, List.not_mem_nil, or_false, forall_eq_or_imp, forall_eq]
      exact ⟨by omega, by omega⟩
  | cons h _ ih => simpa using ⟨h.lt, ih⟩

theorem Side.lt {endsInIpv4 : Bool} {gs : List Nat} {cs : List Char} (h : Side endsInIpv4 gs cs) :
    ∀ g ∈ gs, g < 65536 := by
  cases h with
  | none => simp
  | row h => exact h.lt

theorem Side.row_of_ne_nil {endsInIpv4 : Bool} {gs : List Nat} {cs : List Char}
    (h : Side endsInIpv4 gs cs) (hne : gs ≠ []) : Row endsInIpv4 gs cs := by
  cases h with
  | none => exact absurd rfl hne
  | row h => exact h

theorem Spells.lt {cs : List Char} {gs : List Nat} (h : Spells cs gs) : ∀ g ∈ gs, g < 65536 := by
  cases h with
  | full h _ => exact h.lt
  | shortened hfront hback _ _ =>
    simp only [List.mem_append, List.mem_replicate]
    rintro g ((hg | ⟨-, rfl⟩) | hg)
    · exact hfront.lt g hg
    · decide
    · exact hback.lt g hg

theorem Spells.length {cs : List Char} {gs : List Nat} (h : Spells cs gs) : gs.length = 8 := by
  cases h with
  | full _ hsize => exact hsize
  | shortened _ _ hsize _ => simpa [Nat.add_assoc] using hsize

theorem Spells.exists_address {cs : List Char} {gs : List Nat} (h : Spells cs gs) :
    ∃ a : Ipv6, a.groups = gs :=
  ⟨⟨gs, h.length, h.lt⟩, rfl⟩

theorem hexDigits_nil (count value : Nat) : hexDigits count value [] = (value, []) := by
  cases count <;> rfl

/-- At most `count` digits are read, and fewer only where there is no further one. -/
theorem hexDigits_spec (count value : Nat) (cs : List Char) :
    ∃ ds, cs = ds ++ (hexDigits count value cs).2 ∧ Hex value ds (hexDigits count value cs).1 ∧
      ds.length ≤ count ∧
      (ds = [] → count = 0 ∨ (cs.head?.bind hexValue?).isSome = false) := by
  induction count generalizing value cs with
  | zero =>
    exact ⟨[], by simp [hexDigits], by rw [hexDigits]; exact .nil value, by simp, fun _ => .inl rfl⟩
  | succ count ih =>
    cases cs with
    | nil =>
      exact ⟨[], by simp [hexDigits_nil], by rw [hexDigits_nil]; exact .nil value, by simp,
        fun _ => .inr rfl⟩
    | cons c rest =>
      cases hc : hexValue? c with
      | none =>
        refine ⟨[], ?_, ?_, by simp, by simp [hc]⟩
        · simp [hexDigits, hc]
        · simpa [hexDigits, hc] using Hex.nil value
      | some digit =>
        obtain ⟨ds, hrest, hhex, hlength, -⟩ := ih (value * 16 + digit) rest
        refine ⟨c :: ds, ?_, ?_, by simpa using hlength, by simp⟩
        · simpa [hexDigits, hc] using hrest
        · simpa [hexDigits, hc] using Hex.cons hc hhex

/-- Digits are read up to the count, and no further than they go. -/
theorem hexDigits_append {count value n : Nat} {ds rest : List Char} (h : Hex value ds n)
    (hlength : ds.length ≤ count) (hrest : (rest.head?.bind hexValue?).isSome = false) :
    hexDigits count value (ds ++ rest) = (n, rest) := by
  induction h generalizing count with
  | nil value =>
    cases count with
    | zero => rfl
    | succ count =>
      cases rest with
      | nil => rfl
      | cons c rest =>
        have hc : hexValue? c = none := by simpa using hrest
        simp [hexDigits, hc]
  | cons hdigit _ ih =>
    cases count with
    | zero => simp at hlength
    | succ count =>
      rw [List.cons_append, hexDigits, hdigit]
      exact ih (by simpa using hlength)

/-- The reader of groups against the grammar: one to four digits, and none behind them. -/
theorem group?_eq_some_iff {cs rest : List Char} {g : Nat} :
    group? cs = some (g, rest) ↔
      ∃ ds, cs = ds ++ rest ∧ Group ds g ∧ (rest.head?.bind hexValue?).isSome = false := by
  constructor
  · intro h
    cases cs with
    | nil => simp [group?] at h
    | cons c more =>
      simp only [group?] at h
      split at h
      · cases h
      next hc =>
      split at h
      · cases h
      next hstop =>
      obtain ⟨ds, hcs, hhex, hlength, hnone⟩ := hexDigits_spec 4 0 (c :: more)
      have hread : hexDigits 4 0 (c :: more) = (g, rest) := by simpa [Prod.ext_iff] using h
      rw [hread] at hcs hhex hstop
      refine ⟨ds, hcs, ⟨hhex, fun hnil => ?_, hlength⟩, by simpa using hstop⟩
      have hnot := hnone hnil
      simp at hnot
      simp [hnot] at hc
  · rintro ⟨ds, rfl, hgroup, hstop⟩
    have hread := hexDigits_append hgroup.digits hgroup.at_most_four hstop
    cases hds : ds with
    | nil => exact absurd hds hgroup.some_digit
    | cons c more =>
      have hc := hgroup.digits.head_isSome hgroup.some_digit rest
      rw [hds, List.cons_append, List.head?_cons, Option.bind_some] at hc
      rw [hds, List.cons_append] at hread
      simp [group?, hread, hstop, Option.isSome_iff_ne_none.mp hc]

theorem octet?_eq_some_iff {cs rest : List Char} {n : Nat} :
    octet? cs = some (n, rest) ↔
      n < 256 ∧ cs = digitsOf n ++ rest ∧ ∀ c ∈ rest.head?, isDigit c = false := by
  have hsplit : cs.takeWhile isDigit ++ cs.dropWhile isDigit = cs :=
    List.takeWhile_append_dropWhile
  have hdrop : cs.drop (cs.takeWhile isDigit).length = cs.dropWhile isDigit :=
    List.append_cancel_left
      ((List.prefix_iff_eq_append.mp (List.takeWhile_prefix isDigit)).trans hsplit.symm)
  simp only [octet?, hdrop]
  constructor
  · intro h
    split at h
    · cases h
    next hzero =>
    obtain ⟨m, hm, h⟩ := Option.bind_eq_some_iff.mp h
    obtain ⟨hne, hdigits, rfl⟩ := digits?_eq_some_iff.mp hm
    have hwritten : digitsOf (foldDigits 0 (cs.takeWhile isDigit)) = cs.takeWhile isDigit := by
      refine digitsOf_foldDigits hne hdigits fun c more hcs => ?_
      simp [hcs] at hzero
    split at h
    · next hsmall =>
      obtain ⟨rfl, rfl⟩ := Prod.ext_iff.mp (Option.some.inj h)
      rw [Bool.and_eq_true, decide_eq_true_eq] at hsmall
      exact ⟨hsmall.1, by rw [hwritten, hsplit], head?_dropWhile_isDigit cs⟩
    · cases h
  · rintro ⟨hsmall, rfl, hstop⟩
    have hdigits : ∀ c ∈ digitsOf n, isDigit c = true := fun _ => isDigit_of_mem_digitsOf
    have hlength : (digitsOf n).length ≤ 3 :=
      (Nat.length_toDigits_le_iff (by decide) (by decide)).mpr (by omega)
    have hzero : ¬((digitsOf n).head? = some '0' ∧ 1 < (digitsOf n).length) := by
      rintro ⟨hhead, hmore⟩
      cases hcs : digitsOf n with
      | nil => simp [hcs] at hhead
      | cons c more =>
        cases more with
        | nil => simp [hcs] at hmore
        | cons d more =>
          obtain rfl : c = '0' := by simpa [hcs] using hhead
          exact digitsOf_ne_zero_cons n d more hcs
    rw [takeWhile_isDigit_append hdigits hstop, dropWhile_isDigit_append hdigits hstop,
      if_neg (by simpa using hzero), digits?_digitsOf, Option.bind_some,
      if_pos (by simp [hsmall, hlength])]

theorem behind?_eq_some_iff {c : Char} {cs rest : List Char} :
    behind? c cs = some rest ↔ cs = c :: rest := by
  cases cs with
  | nil => simp [behind?]
  | cons d more =>
    rw [behind?]
    split
    · next h => simp [h]
    · next h => simp [h]

/-- The reader of the dotted form against the grammar; it makes up two groups. -/
theorem ipv4?_eq_some_iff {cs rest : List Char} {groups : List Nat} :
    ipv4? cs = some (groups, rest) ↔
      ∃ ds high low, cs = ds ++ rest ∧ Ipv4 ds high low ∧ groups = [high, low] ∧
        ∀ c ∈ rest.head?, isDigit c = false := by
  simp only [ipv4?, Option.pure_def, Option.bind_eq_bind, Option.bind_eq_some_iff,
    behind?_eq_some_iff, Prod.exists, octet?_eq_some_iff, Option.some.injEq, Prod.mk.injEq]
  constructor
  · rintro ⟨a, after, ⟨ha, rfl, -⟩, _, rfl, b, after, ⟨hb, rfl, -⟩, _, rfl, c, after,
      ⟨hc, rfl, -⟩, _, rfl, d, after, ⟨hd, rfl, hstop⟩, rfl, rfl⟩
    exact ⟨_, _, _, by simp, .dotted ha hb hc hd, rfl, hstop⟩
  · rintro ⟨ds, high, low, rfl, ⟨ha, hb, hc, hd⟩, rfl, hstop⟩
    have hdot : ∀ (cs : List Char), ∀ c ∈ ('.' :: cs).head?, isDigit c = false := by
      rintro cs c hc
      obtain rfl : '.' = c := by simpa using hc
      decide
    exact ⟨_, _, ⟨ha, List.append_assoc .., hdot _⟩, _, rfl, _, _,
      ⟨hb, List.append_assoc .., hdot _⟩, _, rfl, _, _, ⟨hc, List.append_assoc .., hdot _⟩, _, rfl,
      _, _, ⟨hd, rfl, hstop⟩, rfl, rfl⟩

/-- The text of a row at the place where it stands: behind others it has a colon in front. -/
def lead (first : Bool) (cs : List Char) : List Char :=
  if first then cs else ':' :: cs

theorem start_eq_some_iff {first : Bool} {cs start : List Char} :
    (if first then some cs else behind? ':' cs) = some start ↔ cs = lead first start := by
  cases first with
  | true => simp [lead]
  | false => simp [lead, behind?_eq_some_iff]

/-- What is read is a row with something behind it, or nothing. -/
theorem run_spec (room : Nat) (first : Bool) (cs : List Char) :
    (run room first cs).groups.length ≤ room ∧
      (run room first cs = ⟨[], false, cs⟩ ∨
        ∃ ds, cs = lead first ds ++ (run room first cs).rest ∧
          Row (run room first cs).endsInIpv4 (run room first cs).groups ds) := by
  induction room generalizing first cs with
  | zero => exact ⟨Nat.le_refl _, .inl rfl⟩
  | succ room ih =>
    rw [run]
    split
    · exact ⟨Nat.zero_le _, .inl rfl⟩
    next start hstart =>
    obtain rfl := start_eq_some_iff.mp hstart
    split
    · next groups rest hipv4 =>
      -- the dotted form takes the room of two groups
      split at hipv4
      · next hroom =>
        obtain ⟨ds, high, low, rfl, hds, rfl, -⟩ := ipv4?_eq_some_iff.mp hipv4
        refine ⟨by simpa using hroom, .inr ⟨ds, ?_, .ipv4 hds⟩⟩
        cases first <;> simp [lead]
      · cases hipv4
    · split
      · exact ⟨Nat.zero_le _, .inl rfl⟩
      next g rest hgroup =>
      obtain ⟨ds, rfl, hds, -⟩ := group?_eq_some_iff.mp hgroup
      obtain ⟨hroom, hmore⟩ := ih false rest
      refine ⟨by simpa using hroom, .inr ?_⟩
      rcases hmore with hnone | ⟨more, hrest, hrow⟩
      · rw [hnone]
        refine ⟨ds, ?_, .group hds⟩
        cases first <;> simp [lead]
      · refine ⟨ds ++ ':' :: more, ?_, .cons hds hrow⟩
        conv => lhs; rw [hrest]
        cases first <;> simp [lead]

/-- What is read at the start of a text is a side, and the rest is what follows it. -/
theorem side_of_run (room : Nat) (cs : List Char) :
    (run room true cs).groups.length ≤ room ∧
      ∃ ds, cs = ds ++ (run room true cs).rest ∧
        Side (run room true cs).endsInIpv4 (run room true cs).groups ds := by
  obtain ⟨hroom, hnone | ⟨ds, hds, hrow⟩⟩ := run_spec room true cs
  · refine ⟨hroom, [], ?_, ?_⟩
    · rw [hnone, List.nil_append]
    · rw [hnone]
      exact .none
  · exact ⟨hroom, ds, hds, .row hrow⟩

/-- What may stand behind the groups in front: nothing, or two colons. -/
def Ends (rest : List Char) : Prop :=
  rest = [] ∨ ∃ more, rest = ':' :: ':' :: more

section Stop

variable {rest : List Char} (hrest : ∀ c ∈ rest.head?, c = ':')
include hrest

theorem isDigit_head : ∀ c ∈ rest.head?, isDigit c = false := by
  intro c hc
  rw [hrest c hc]
  decide

theorem head?_bind_hexValue? : (rest.head?.bind hexValue?).isSome = false := by
  cases rest with
  | nil => rfl
  | cons c rest =>
    obtain rfl := hrest c (by simp)
    rfl

theorem group?_stop : group? rest = none := by
  cases rest with
  | nil => rfl
  | cons c rest =>
    obtain rfl := hrest c (by simp)
    rfl

theorem ipv4?_stop : ipv4? rest = none := by
  cases rest with
  | nil => rfl
  | cons c rest =>
    obtain rfl := hrest c (by simp)
    rfl

/-- A group is not the first number of an IPv4 address: no dot follows it. -/
theorem ipv4?_group {ds : List Char} {g : Nat} (h : Group ds g) : ipv4? (ds ++ rest) = none := by
  have hhex : ∀ {value n : Nat} {cs : List Char}, Hex value cs n →
      ∀ c ∈ cs, (hexValue? c).isSome = true := by
    intro value n cs hcs
    induction hcs with
    | nil value => simp
    | cons hdigit _ ih => simpa [hdigit] using ih
  have hbehind : (ds ++ rest).dropWhile (fun c => (hexValue? c).isSome) = rest := by
    rw [List.dropWhile_append_of_pos (hhex h.digits)]
    cases rest with
    | nil => rfl
    | cons c rest =>
      obtain rfl := hrest c (by simp)
      rfl
  rw [Option.eq_none_iff_forall_ne_some]
  rintro ⟨groups, after⟩ hread
  obtain ⟨_, _, _, hsplit, ⟨ha, hb, hc, hd⟩, -, -⟩ := ipv4?_eq_some_iff.mp hread
  rw [hsplit, List.append_assoc, List.dropWhile_append_of_pos] at hbehind
  · have hdot := hrest '.'
    rw [← hbehind] at hdot
    exact absurd (hdot rfl) (by decide)
  · intro c hc
    simp [hexValue?, isDigit_of_mem_digitsOf hc]

end Stop

theorem Ends.head {rest : List Char} (h : Ends rest) : ∀ c ∈ rest.head?, c = ':' := by
  rcases h with rfl | ⟨more, rfl⟩ <;> simp

theorem run_of_ends {rest : List Char} (h : Ends rest) (room : Nat) (first : Bool) :
    run room first rest = ⟨[], false, rest⟩ := by
  cases room with
  | zero => rfl
  | succ room =>
    rw [run]
    split
    · rfl
    next start hstart =>
    have hstop : ∀ c ∈ start.head?, c = ':' := by
      have hlead := start_eq_some_iff.mp hstart
      cases first with
      | true =>
        obtain rfl : rest = start := hlead
        exact h.head
      | false =>
        obtain rfl : rest = ':' :: start := hlead
        rcases h with hnil | ⟨more, hcolons⟩
        · cases hnil
        · obtain rfl : start = ':' :: more := by simpa using hcolons
          simp
    simp [ipv4?_stop hstop, group?_stop hstop]

/-- A row is read in full where there is room for it. -/
theorem run_lead {endsInIpv4 : Bool} {gs : List Nat} {ds rest : List Char}
    (h : Row endsInIpv4 gs ds) (hrest : Ends rest) {room : Nat} (hroom : gs.length ≤ room)
    (first : Bool) : run room first (lead first ds ++ rest) = ⟨gs, endsInIpv4, rest⟩ := by
  have hlead : ∀ (first : Bool) (ds : List Char),
      (if first then some (lead first ds ++ rest) else behind? ':' (lead first ds ++ rest)) =
        some (ds ++ rest) := by
    intro first ds
    cases first <;> simp [lead, behind?]
  induction h generalizing room first with
  | @group cs g h =>
    obtain ⟨room, rfl⟩ : ∃ more, room = more + 1 := ⟨room - 1, by simp at hroom; omega⟩
    have hgroup : group? (cs ++ rest) = some (g, rest) :=
      group?_eq_some_iff.mpr ⟨cs, rfl, h, head?_bind_hexValue? hrest.head⟩
    rw [run, hlead]
    simp [ipv4?_group hrest.head h, hgroup, run_of_ends hrest]
  | @ipv4 cs high low h =>
    obtain ⟨room, rfl⟩ : ∃ more, room = more + 2 := ⟨room - 2, by simp at hroom; omega⟩
    have hipv4 : ipv4? (cs ++ rest) = some ([high, low], rest) :=
      ipv4?_eq_some_iff.mpr ⟨cs, high, low, rfl, h, rfl, isDigit_head hrest.head⟩
    rw [run, hlead]
    simp [hipv4]
  | @cons endsInIpv4 cs ds g gs h more ih =>
    obtain ⟨room, rfl⟩ : ∃ more, room = more + 1 := ⟨room - 1, by simp at hroom; omega⟩
    have hcolon : ∀ c ∈ (':' :: (cs ++ rest)).head?, c = ':' := by simp
    have hgroup : group? (ds ++ ':' :: (cs ++ rest)) = some (g, ':' :: (cs ++ rest)) :=
      group?_eq_some_iff.mpr ⟨ds, rfl, h, head?_bind_hexValue? hcolon⟩
    have hmore : run room false (':' :: (cs ++ rest)) = ⟨gs, endsInIpv4, rest⟩ :=
      ih (by simpa using hroom) false
    rw [run, hlead, List.append_assoc, List.cons_append]
    simp [ipv4?_group hcolon h, hgroup, hmore]

/-- The same for a side that may be empty. -/
theorem run_side {endsInIpv4 : Bool} {gs : List Nat} {ds rest : List Char}
    (h : Side endsInIpv4 gs ds) (hrest : Ends rest) {room : Nat} (hroom : gs.length ≤ room) :
    run room true (ds ++ rest) = ⟨gs, endsInIpv4, rest⟩ := by
  cases h with
  | none => exact run_of_ends hrest room true
  | row h => exact run_lead h hrest hroom true

theorem ofGroups?_eq_some_iff {groups : List Nat} {a : Ipv6} :
    ofGroups? groups = some a ↔ a.groups = groups := by
  rw [ofGroups?]
  split
  · next h =>
    rw [Option.some.injEq]
    cases a
    constructor
    · intro heq
      cases heq
      rfl
    · rintro rfl
      rfl
  · next h =>
    simp only [reduceCtorEq, false_iff]
    rintro rfl
    exact h ⟨a.size, a.bounded⟩

theorem ofGroups?_eq {groups : List Nat} {a : Ipv6} (h : a.groups = groups) :
    ofGroups? groups = some a :=
  ofGroups?_eq_some_iff.mpr h

theorem spells_of_parse? {cs : List Char} {a : Ipv6} (h : parse? cs = some a) :
    Spells cs a.groups := by
  obtain ⟨-, ds, hds, hfront⟩ := side_of_run 8 cs
  rw [parse?] at h
  generalize run 8 true cs = head at h hds hfront
  simp only at h
  split at h
  · next hfull =>
    split at h
    · next hend =>
      rw [ofGroups?_eq_some_iff.mp h]
      rw [List.isEmpty_iff.mp hend, List.append_nil] at hds
      have hsome : head.groups ≠ [] := by
        rintro hnil
        simp [hnil] at hfull
      exact .full (hds ▸ hfront.row_of_ne_nil hsome) hfull
    · cases h
  next hshort =>
  split at h
  · cases h
  next hipv4 =>
  rw [Bool.not_eq_true] at hipv4
  split at h
  · next rest hrest =>
    obtain ⟨hspace, es, hes, hback⟩ := side_of_run (7 - head.groups.length) rest
    generalize run (7 - head.groups.length) true rest = tail at h hspace hes hback
    split at h
    · next hend =>
      rw [List.isEmpty_iff.mp hend, List.append_nil] at hes
      rw [ofGroups?_eq_some_iff.mp h, hds, hrest, hes]
      rw [hipv4] at hfront
      have hsize := a.size
      rw [ofGroups?_eq_some_iff.mp h] at hsize
      simp only [List.length_append, List.length_replicate] at hsize
      exact .shortened hfront hback (by omega) (by omega)
    · cases h
  · cases h

theorem parse?_of_spells {cs : List Char} {a : Ipv6} (h : Spells cs a.groups) :
    parse? cs = some a := by
  generalize hgroups : a.groups = groups at h
  cases h with
  | full h hsize =>
    have hrun := run_lead h (.inl rfl) (Nat.le_of_eq hsize) true
    rw [List.append_nil] at hrun
    have hread : run 8 true cs = ⟨groups, _, []⟩ := hrun
    simp [parse?, hread, hsize, ofGroups?_eq hgroups]
  | @shortened endsInIpv4 front back cs ds missing hfront hback hsize hmissing =>
    have hhead : run 8 true (cs ++ ':' :: ':' :: ds) = ⟨front, false, ':' :: ':' :: ds⟩ :=
      run_side hfront (.inr ⟨ds, rfl⟩) (by omega)
    have htail : run (7 - front.length) true ds = ⟨back, endsInIpv4, []⟩ := by
      have hroom : back.length ≤ 7 - front.length := by omega
      have hrun := run_side hback (.inl rfl) hroom
      rwa [List.append_nil] at hrun
    have hleft : 8 - (front.length + back.length) = missing := by omega
    have hshort : front.length ≠ 8 := by omega
    simp [parse?, hhead, htail, hshort, hleft, ofGroups?_eq (hgroups.trans (List.append_assoc ..))]

/-- What is read as an address are its spellings. -/
theorem parse?_eq_some_iff {cs : List Char} {a : Ipv6} :
    parse? cs = some a ↔ Spells cs a.groups :=
  ⟨spells_of_parse?, parse?_of_spells⟩

end DashboardCheck.Http.Ipv6
