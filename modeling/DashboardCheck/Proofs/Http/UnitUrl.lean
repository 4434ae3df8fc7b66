import DashboardCheck.Proofs.Http.Ipv6

/-!
# The address of a unit in its URL

An IPv6 address has one canonical text, in which the first of its longest runs of zeros is left out,
and that text spells the address again. A unit's URL holds it in brackets, whichever spelling the
unit was given, and any other address as it is; so two units share a URL only where they share an
address.
-/
namespace DashboardCheck.Http

open Number

namespace Ipv6

theorem hex_toDigits (n : Nat) : Hex 0 (Text.hexDigits n) n := by
  have hdigit : ∀ d < 16, hexValue? (Nat.digitChar d).toLower = some d := by decide
  induction n using Nat.strongRecOn with
  | ind n ih =>
    rw [Text.hexDigits, Nat.toDigits_eq_if (by omega)]
    split
    · next hsmall =>
      exact .cons (hdigit n hsmall) (by simpa using Hex.nil n)
    · next hlarge =>
      rw [List.map_append]
      refine (ih (n / 16) (by omega)).append (.cons (hdigit _ (Nat.mod_lt n (by omega))) ?_)
      rw [Nat.div_add_mod']
      exact .nil n

theorem group_hexDigits {g : Nat} (h : g < 65536) : Group (Text.hexDigits g) g where
  digits := hex_toDigits g
  some_digit := by simp [Text.hexDigits, Nat.toDigits_ne_nil]
  at_most_four := by
    rw [Text.hexDigits, List.length_map]
    exact (Nat.length_toDigits_le_iff (by omega) (by omega)).mpr (by omega)

theorem writeGroups_cons (g : Nat) {gs : List Nat} (h : gs ≠ []) :
    writeGroups (g :: gs) = Text.hexDigits g ++ ':' :: writeGroups gs := by
  cases gs with
  | nil => exact absurd rfl h
  | cons g' gs => simp [writeGroups]

theorem row_writeGroups {gs : List Nat} (hne : gs ≠ []) (h : ∀ g ∈ gs, g < 65536) :
    Row false gs (writeGroups gs) := by
  induction gs with
  | nil => exact absurd rfl hne
  | cons g gs ih =>
    have hg := group_hexDigits (h g (by simp))
    cases gs with
    | nil =>
      have htext : writeGroups [g] = Text.hexDigits g := by simp [writeGroups]
      rw [htext]
      exact .group hg
    | cons g' gs =>
      rw [writeGroups_cons g (by simp)]
      exact .cons hg (ih (by simp) fun x hx => h x (by simp [hx]))

theorem side_writeGroups {gs : List Nat} (h : ∀ g ∈ gs, g < 65536) :
    Side false gs (writeGroups gs) := by
  cases gs with
  | nil => exact .none
  | cons g gs => exact .row (row_writeGroups (by simp) h)

theorem ipv4_writeIpv4 {high low : Nat} (hhigh : high < 65536) (hlow : low < 65536) :
    Ipv4 (writeIpv4 high low) high low := by
  have hdotted := Ipv4.dotted (a := high / 256) (b := high % 256) (c := low / 256) (d := low % 256)
    (by omega) (by omega) (by omega) (by omega)
  rw [Nat.div_add_mod', Nat.div_add_mod'] at hdotted
  simpa [writeIpv4, List.intersperse] using hdotted

def ZerosAt (groups : List Nat) (start length : Nat) : Prop :=
  ∃ front back, groups = front ++ List.replicate length 0 ++ back ∧ front.length = start

/-- The zeros that are left out: two at least, as many as stand together anywhere, and the first run
of that many. -/
structure LeftOut (groups : List Nat) (start length : Nat) : Prop where
  zeros : ZerosAt groups start length
  two : 2 ≤ length
  longest : ∀ s l, ZerosAt groups s l → l ≤ length
  first : ∀ s, ZerosAt groups s length → start ≤ s

theorem LeftOut.unique {groups : List Nat} {start length s l : Nat}
    (h : LeftOut groups start length) (h' : LeftOut groups s l) : start = s ∧ length = l := by
  obtain rfl : length = l :=
    Nat.le_antisymm (h'.longest _ _ h.zeros) (h.longest _ _ h'.zeros)
  exact ⟨Nat.le_antisymm (h.first _ h'.zeros) (h'.first _ h.zeros), rfl⟩

/-- A run is listed for every zero, up to the next group that is not one. -/
theorem mem_zeroRuns {start s l : Nat} {groups : List Nat} :
    (s, l) ∈ zeroRuns start groups ↔
      ∃ front back, groups = front ++ 0 :: back ∧ s = start + front.length ∧
        l = 1 + (back.takeWhile (· == 0)).length := by
  induction groups generalizing start with
  | nil => simp [zeroRuns]
  | cons g rest ih =>
    have hmore : (s, l) ∈ zeroRuns (start + 1) rest ↔
        ∃ front back, g :: rest = (g :: front) ++ 0 :: back ∧
          s = start + (g :: front).length ∧ l = 1 + (back.takeWhile (· == 0)).length := by
      rw [ih]
      simp only [List.cons_append, List.cons.injEq, true_and, List.length_cons]
      refine exists_congr fun front => exists_congr fun back => ?_
      rw [Nat.add_assoc, Nat.add_comm 1]
    have hmem : (s, l) ∈ zeroRuns start (g :: rest) ↔
        (g = 0 ∧ s = start ∧ l = 1 + (rest.takeWhile (· == 0)).length) ∨
          (s, l) ∈ zeroRuns (start + 1) rest := by
      rw [zeroRuns]
      split <;> simp_all
    rw [hmem, hmore]
    constructor
    · rintro (⟨rfl, rfl, hl⟩ | ⟨front, back, heq, hs, hl⟩)
      · exact ⟨[], rest, rfl, rfl, hl⟩
      · exact ⟨g :: front, back, heq, hs, hl⟩
    · rintro ⟨front, back, heq, hs, hl⟩
      cases front with
      | nil =>
        obtain ⟨rfl, rfl⟩ : g = 0 ∧ rest = back := by simpa using heq
        exact .inl ⟨rfl, hs, hl⟩
      | cons g' front =>
        obtain ⟨rfl, -⟩ : g = g' ∧ _ := List.cons.inj heq
        exact .inr ⟨front, back, heq, hs, hl⟩

theorem pairwise_zeroRuns (start : Nat) (groups : List Nat) :
    (zeroRuns start groups).Pairwise fun r r' => r.1 < r'.1 := by
  induction groups generalizing start with
  | nil => exact .nil
  | cons g rest ih =>
    rw [zeroRuns]
    split
    · refine List.pairwise_cons.mpr ⟨?_, ih (start + 1)⟩
      rintro ⟨s, l⟩ hmem
      obtain ⟨front, back, -, rfl, -⟩ := mem_zeroRuns.mp hmem
      simp only
      omega
    · exact ih (start + 1)

theorem zerosAt_of_mem {groups : List Nat} {s l : Nat} (h : (s, l) ∈ zeroRuns 0 groups) :
    ZerosAt groups s l := by
  obtain ⟨front, back, rfl, rfl, rfl⟩ := mem_zeroRuns.mp h
  refine ⟨front, back.dropWhile (· == 0), ?_, by simp⟩
  have hzeros : back.takeWhile (· == 0) = List.replicate (back.takeWhile (· == 0)).length 0 :=
    List.eq_replicate_of_mem fun g hg => by simpa using List.mem_takeWhile_imp hg
  rw [Nat.add_comm, List.replicate_succ, ← hzeros]
  simp

theorem exists_mem_of_zerosAt {groups : List Nat} {s l : Nat} (h : ZerosAt groups s l)
    (hl : 0 < l) : ∃ l', l ≤ l' ∧ (s, l') ∈ zeroRuns 0 groups := by
  obtain ⟨front, back, rfl, rfl⟩ := h
  obtain ⟨l, rfl⟩ : ∃ more, l = more + 1 := ⟨l - 1, by omega⟩
  refine ⟨_, ?_, mem_zeroRuns.mpr ⟨front, List.replicate l 0 ++ back, ?_, ?_, rfl⟩⟩
  · rw [List.takeWhile_append_of_pos (by simp)]
    simp
    omega
  · simp [List.replicate_succ]
  · simp

def better (best : Option (Nat × Nat)) (run : Nat × Nat) : Option (Nat × Nat) :=
  if run.2 < 2 then best
  else match best with
    | some (_, length) => if length < run.2 then some run else best
    | none => some run

theorem longestZeros_eq (groups : List Nat) :
    longestZeros groups = (zeroRuns 0 groups).foldl better none := rfl

/-- Of runs that are listed by their start, the best is the first of the longest ones. -/
theorem foldl_better {runs : List (Nat × Nat)} (h : runs.Pairwise fun r r' => r.1 < r'.1) :
    match runs.foldl better none with
    | none => ∀ r ∈ runs, r.2 < 2
    | some best => best ∈ runs ∧ 2 ≤ best.2 ∧
        ∀ r ∈ runs, r.2 ≤ best.2 ∧ (r.2 = best.2 → best.1 ≤ r.1) := by
  induction runs using List.reverseRecOn with
  | nil => simp
  | append_singleton runs run ih =>
    obtain ⟨hruns, -, hafter⟩ := List.pairwise_append.mp h
    have hlater : ∀ r ∈ runs, r.1 < run.1 := fun r hr => hafter r hr run (by simp)
    have hbest := ih hruns
    rw [List.foldl_append, List.foldl_cons, List.foldl_nil]
    cases hfold : runs.foldl better none with
    | none =>
      rw [hfold] at hbest
      by_cases hshort : run.2 < 2
      · simp only [better, if_pos hshort]
        intro r hr
        rcases List.mem_append.mp hr with hr | hr
        · exact hbest r hr
        · obtain rfl : r = run := by simpa using hr
          exact hshort
      · simp only [better, if_neg hshort]
        refine ⟨by simp, by omega, fun r hr => ?_⟩
        rcases List.mem_append.mp hr with hr | hr
        · have hless := hbest r hr
          exact ⟨by omega, by omega⟩
        · obtain rfl : r = run := by simpa using hr
          exact ⟨Nat.le_refl _, fun _ => Nat.le_refl _⟩
    | some best =>
      rw [hfold] at hbest
      obtain ⟨hmem, htwo, hfirst⟩ := hbest
      -- The best run so far stays unless the new one is longer.
      by_cases hlonger : best.2 < run.2
      · have hlong : ¬run.2 < 2 := by omega
        simp only [better, if_neg hlong, if_pos hlonger]
        refine ⟨by simp, by omega, fun r hr => ?_⟩
        rcases List.mem_append.mp hr with hr | hr
        · have hless := (hfirst r hr).1
          exact ⟨by omega, by omega⟩
        · obtain rfl : r = run := by simpa using hr
          exact ⟨Nat.le_refl _, fun _ => Nat.le_refl _⟩
      · have hkept : better (some best) run = some best := by
          simp only [better, if_neg hlonger, ite_self]
        rw [hkept]
        refine ⟨by simp [hmem], htwo, fun r hr => ?_⟩
        rcases List.mem_append.mp hr with hr | hr
        · exact hfirst r hr
        · obtain rfl : r = run := by simpa using hr
          exact ⟨Nat.le_of_not_lt hlonger, fun _ => Nat.le_of_lt (hlater best hmem)⟩

theorem longestZeros_eq_some_iff {groups : List Nat} {s l : Nat} :
    longestZeros groups = some (s, l) ↔ LeftOut groups s l := by
  have hbest := foldl_better (pairwise_zeroRuns 0 groups)
  rw [← longestZeros_eq] at hbest
  have hsome : ∀ s l, longestZeros groups = some (s, l) → LeftOut groups s l := by
    intro s l h
    rw [h] at hbest
    obtain ⟨hmem, htwo, hfirst⟩ := hbest
    have hbelow : ∀ s' l', ZerosAt groups s' l' → l' ≤ l ∧ (l' = l → s ≤ s') := by
      intro s' l' hzeros
      rcases Nat.eq_zero_or_pos l' with rfl | hpos
      · exact ⟨Nat.zero_le _, by omega⟩
      · obtain ⟨longer, hle, hlisted⟩ := exists_mem_of_zerosAt hzeros hpos
        have hrun := hfirst _ hlisted
        simp only at hrun
        exact ⟨by omega, fun heq => hrun.2 (by omega)⟩
    exact ⟨zerosAt_of_mem hmem, htwo, fun s' l' h => (hbelow s' l' h).1,
      fun s' h => (hbelow s' l h).2 rfl⟩
  refine ⟨hsome s l, fun h => ?_⟩
  cases hlongest : longestZeros groups with
  | none =>
    rw [hlongest] at hbest
    obtain ⟨longer, hle, hlisted⟩ := exists_mem_of_zerosAt h.zeros (by have := h.two; omega)
    have hshort := hbest _ hlisted
    have htwo := h.two
    simp only at hshort
    omega
  | some best =>
    obtain ⟨rfl, rfl⟩ := (hsome best.1 best.2 hlongest).unique h
    rfl

/-- The groups of an address that stands for an IPv4 address. -/
def IsMapped (a : Ipv6) (high low : Nat) : Prop :=
  a.groups = [0, 0, 0, 0, 0, 65535, high, low]

/-- The canonical text of an address: the IPv4 address where it stands for one; else its groups in
lower case and without zeros in front, but for the zeros that are left out. -/
inductive Canonical (a : Ipv6) : List Char → Prop
  | mapped {high low : Nat} (h : a.IsMapped high low) :
      Canonical a ([':', ':', 'f', 'f', 'f', 'f', ':'] ++ writeIpv4 high low)
  | full (hplain : ∀ high low, ¬a.IsMapped high low)
      (h : ∀ start length, ¬LeftOut a.groups start length) : Canonical a (writeGroups a.groups)
  | shortened {front back : List Nat} {length : Nat} (hplain : ∀ high low, ¬a.IsMapped high low)
      (hgroups : a.groups = front ++ List.replicate length 0 ++ back)
      (h : LeftOut a.groups front.length length) :
      Canonical a (writeGroups front ++ ':' :: ':' :: writeGroups back)

theorem canonical_text (a : Ipv6) : Canonical a a.text := by
  rw [text]
  split
  · next high low h => exact .mapped h
  · next hplain =>
    have hplain : ∀ high low, ¬a.IsMapped high low := fun high low h => hplain high low h
    rw [hexText]
    split
    · next hnone =>
      refine .full hplain fun start length h => ?_
      rw [longestZeros_eq_some_iff.mpr h] at hnone
      cases hnone
    · next start length hsome =>
      have hleft := longestZeros_eq_some_iff.mp hsome
      obtain ⟨front, back, hgroups, rfl⟩ := hleft.zeros
      have hback : a.groups.drop (front.length + length) = back := by
        rw [hgroups]
        exact List.drop_left' (by simp)
      have hfront : a.groups.take front.length = front := by
        rw [hgroups, List.append_assoc]
        exact List.take_left
      rw [hback, hfront, List.append_assoc]
      exact .shortened hplain hgroups hleft

theorem spells_of_canonical {a : Ipv6} {cs : List Char} (h : Canonical a cs) :
    Spells cs a.groups := by
  have hbounded := a.bounded
  have hsize := a.size
  cases h with
  | @mapped high low h =>
    rw [IsMapped] at h
    rw [h] at hbounded ⊢
    have hrow : Row true [65535, high, low] (['f', 'f', 'f', 'f'] ++ ':' :: writeIpv4 high low) :=
      .cons (group_hexDigits (g := 65535) (by decide))
        (.ipv4 (ipv4_writeIpv4 (hbounded _ (by simp)) (hbounded _ (by simp))))
    have hsize : ([] : List Nat).length + 5 + [65535, high, low].length = 8 := rfl
    exact .shortened .none (.row hrow) hsize (by decide)
  | full _ _ =>
    have hne : a.groups ≠ [] := by
      intro hnil
      simp [hnil] at hsize
    exact .full (row_writeGroups hne hbounded) hsize
  | shortened _ hgroups h =>
    rw [hgroups] at hbounded hsize ⊢
    have htwo := h.two
    refine .shortened (side_writeGroups fun g hg => hbounded g (by simp [hg]))
      (side_writeGroups fun g hg => hbounded g (by simp [hg])) ?_ (by omega)
    simpa [Nat.add_assoc] using hsize

/-- The canonical text is read as the address that it was written for. -/
theorem parse?_text (a : Ipv6) : parse? a.text = some a :=
  parse?_eq_some_iff.mpr (spells_of_canonical (canonical_text a))

theorem text_injective {a b : Ipv6} (h : a.text = b.text) : a = b := by
  have hparse := parse?_text a
  rw [h, parse?_text b] at hparse
  exact (Option.some.inj hparse).symm

end Ipv6

theorem hostText_spelled {address : String} {a : Ipv6} (h : Ipv6.Spells address.toList a.groups) :
    hostText address = String.ofList ('[' :: a.text ++ [']']) := by
  rw [hostText, Ipv6.parse?_eq_some_iff.mpr h]

theorem hostText_other {address : String} (h : ∀ groups, ¬Ipv6.Spells address.toList groups) :
    hostText address = address := by
  rw [hostText]
  split
  · next a hparse => exact absurd (Ipv6.parse?_eq_some_iff.mp hparse) (h _)
  · rfl

theorem unitUrl_eq (scheme address : String) (port : Nat) :
    unitUrl scheme address port =
      scheme ++ "://" ++ hostText address ++ ":" ++ toString port := rfl

theorem unitUrl_eq_iff {scheme a b : String} {port : Nat} :
    unitUrl scheme a port = unitUrl scheme b port ↔ hostText a = hostText b := by
  constructor
  · intro h
    rw [unitUrl_eq, unitUrl_eq, String.ext_iff] at h
    simp only [String.toList_append, List.append_cancel_right_eq, List.append_cancel_left_eq] at h
    exact String.ext h
  · intro h
    rw [unitUrl_eq, unitUrl_eq, h]

/-- An address in brackets is not the same as one that begins otherwise. -/
theorem bracketed_ne {cs : List Char} {address : String} (h : address.toList.head? ≠ some '[') :
    String.ofList ('[' :: cs ++ [']']) ≠ address := by
  rintro rfl
  simp at h

/-- An address stands between brackets, in its canonical form, or as it is. -/
theorem hostText_cases (address : String) :
    (∃ v : Ipv6, Ipv6.Spells address.toList v.groups ∧
      hostText address = String.ofList ('[' :: v.text ++ [']'])) ∨ hostText address = address := by
  by_cases hspelled : ∃ groups, Ipv6.Spells address.toList groups
  · obtain ⟨groups, hgroups⟩ := hspelled
    obtain ⟨v, rfl⟩ := hgroups.exists_address
    exact .inl ⟨v, hgroups, hostText_spelled hgroups⟩
  · exact .inr (hostText_other (not_exists.mp hspelled))

/-- Hosts in brackets are told apart by the addresses in them, and from all others by the bracket
in front. -/
theorem hostText_eq_iff {a b : String} (ha : a.toList.head? ≠ some '[')
    (hb : b.toList.head? ≠ some '[') :
    hostText a = hostText b ↔
      a = b ∨ ∃ groups, Ipv6.Spells a.toList groups ∧ Ipv6.Spells b.toList groups := by
  constructor
  · intro h
    rcases hostText_cases a with ⟨v, hspelled, hv⟩ | hsame
    · rcases hostText_cases b with ⟨w, hspelled', hw⟩ | hsame'
      · rw [hv, hw] at h
        obtain rfl : v = w := Ipv6.text_injective (by simpa using String.ofList_inj.mp h)
        exact .inr ⟨_, hspelled, hspelled'⟩
      · rw [hv, hsame'] at h
        exact absurd h (bracketed_ne hb)
    · rcases hostText_cases b with ⟨w, -, hw⟩ | hsame'
      · rw [hsame, hw] at h
        exact absurd h.symm (bracketed_ne ha)
      · exact .inl (hsame.symm.trans (h.trans hsame'))
  · rintro (rfl | ⟨groups, hspelled, hspelled'⟩)
    · rfl
    · obtain ⟨v, rfl⟩ := hspelled.exists_address
      rw [hostText_spelled hspelled, hostText_spelled hspelled']

/-- A unit's URL holds its address, an IPv6 address in brackets and in the canonical text, which is
one of its spellings, and any other text as it is. Hence two units have one URL only if they have
one address, or two spellings of one IPv6 address. -/
theorem unitUrl_separates (scheme : String) (port : Nat) :
    (∀ (address : String) (groups : List Nat), Ipv6.Spells address.toList groups →
      ∃ a : Ipv6, a.groups = groups ∧
        unitUrl scheme address port =
          scheme ++ "://" ++ ("[" ++ String.ofList a.text ++ "]") ++ ":" ++ toString port ∧
        a.Canonical a.text ∧ Ipv6.Spells a.text groups ∧ Ipv6.parse? a.text = some a) ∧
    (∀ address : String, (∀ groups, ¬Ipv6.Spells address.toList groups) →
      unitUrl scheme address port = scheme ++ "://" ++ address ++ ":" ++ toString port) ∧
    ∀ a b : String, a.toList.head? ≠ some '[' → b.toList.head? ≠ some '[' →
      (unitUrl scheme a port = unitUrl scheme b port ↔
        a = b ∨ ∃ groups, Ipv6.Spells a.toList groups ∧ Ipv6.Spells b.toList groups) := by
  refine ⟨fun address groups h => ?_, fun address h => ?_, fun a b ha hb => ?_⟩
  · obtain ⟨v, rfl⟩ := h.exists_address
    refine ⟨v, rfl, ?_, v.canonical_text, Ipv6.spells_of_canonical v.canonical_text, v.parse?_text⟩
    have hbrackets : String.ofList ('[' :: v.text ++ [']']) =
        "[" ++ String.ofList v.text ++ "]" := by
      rw [String.ext_iff]
      simp
    rw [unitUrl_eq, hostText_spelled h, hbrackets]
  · rw [unitUrl_eq, hostText_other h]
  · exact unitUrl_eq_iff.trans (hostText_eq_iff ha hb)

/-- Two spellings of an address that maps one of the older kind lead to one place. -/
theorem unitUrl_separates_mapped :
    (Ipv6.Spells "::FFFF:10.0.0.1".toList [0, 0, 0, 0, 0, 65535, 2560, 1] ∧
      Ipv6.Spells "0:0:0:0:00:ffff:a00:1".toList [0, 0, 0, 0, 0, 65535, 2560, 1]) ∧
    unitUrl "https" "::FFFF:10.0.0.1" 443 = unitUrl "https" "0:0:0:0:00:ffff:a00:1" 443 := by
  have hdotted : Ipv6.Spells "::FFFF:10.0.0.1".toList [0, 0, 0, 0, 0, 65535, 2560, 1] :=
    Ipv6.spells_of_parse? (a := ⟨_, rfl, by decide⟩) (by decide)
  have hgroups : Ipv6.Spells "0:0:0:0:00:ffff:a00:1".toList [0, 0, 0, 0, 0, 65535, 2560, 1] :=
    Ipv6.spells_of_parse? (a := ⟨_, rfl, by decide⟩) (by decide)
  exact ⟨⟨hdotted, hgroups⟩, ((unitUrl_separates "https" 443).2.2 _ _ (by decide) (by decide)).mpr
    (.inr ⟨_, hdotted, hgroups⟩)⟩

end DashboardCheck.Http
