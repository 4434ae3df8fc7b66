/-!
Blanks: the characters with the Unicode property White_Space, and texts without the blanks at
their ends. The main statements say that trimming twice is trimming once and that what remains
neither starts nor ends with a blank.
-/
namespace DashboardCheck.Text

def isBlank (c : Char) : Bool :=
  let n := c.toNat
  (0x9 ≤ n && n ≤ 0xD) || n == 0x20 || n == 0x85 || n == 0xA0 || n == 0x1680 ||
    (0x2000 ≤ n && n ≤ 0x200A) || n == 0x2028 || n == 0x2029 || n == 0x202F || n == 0x205F ||
    n == 0x3000

def dropBlankEnd (cs : List Char) : List Char :=
  (cs.reverse.dropWhile isBlank).reverse

def trimChars (cs : List Char) : List Char :=
  dropBlankEnd (cs.dropWhile isBlank)

def trim (s : String) : String :=
  String.ofList (trimChars s.toList)

@[simp] theorem trimChars_nil : trimChars [] = [] := rfl

theorem dropWhile_head {p : Char → Bool} {cs : List Char} {c : Char}
    (h : (cs.dropWhile p).head? = some c) : p c = false := by
  have hnot := List.head?_dropWhile_not p cs
  rw [h] at hnot
  exact hnot

theorem dropWhile_of_head {p : Char → Bool} {cs : List Char}
    (h : ∀ c, cs.head? = some c → p c = false) : cs.dropWhile p = cs := by
  cases cs with
  | nil => rfl
  | cons c rest => exact List.dropWhile_cons_of_neg (by simp [h c rfl])

/-- Dropping the blanks at the end leaves a start of the text. -/
theorem dropBlankEnd_isPrefix (cs : List Char) : dropBlankEnd cs <+: cs := by
  have h : (dropBlankEnd cs).reverse <:+ cs.reverse := by
    rw [dropBlankEnd, List.reverse_reverse]
    exact List.dropWhile_suffix _
  exact List.reverse_suffix.mp h

theorem isBlank_getLast_dropBlankEnd {cs : List Char} {c : Char}
    (h : (dropBlankEnd cs).getLast? = some c) : isBlank c = false := by
  rw [dropBlankEnd, List.getLast?_reverse] at h
  exact dropWhile_head h

/-- A trimmed text does not end with a blank. -/
theorem isBlank_getLast_trimChars {cs : List Char} {c : Char}
    (h : (trimChars cs).getLast? = some c) : isBlank c = false :=
  isBlank_getLast_dropBlankEnd h

/-- A trimmed text does not start with a blank. -/
theorem isBlank_head_trimChars {cs : List Char} {c : Char}
    (h : (trimChars cs).head? = some c) : isBlank c = false := by
  obtain ⟨more, hmore⟩ := dropBlankEnd_isPrefix (cs.dropWhile isBlank)
  rw [trimChars] at h
  have hstart : (cs.dropWhile isBlank).head? = some c := by
    rw [← hmore, List.head?_append, h]
    rfl
  exact dropWhile_head hstart

/-- A text with no blank at either end is left as it is. -/
theorem trimChars_of_ends {cs : List Char} (hfirst : ∀ c, cs.head? = some c → isBlank c = false)
    (hlast : ∀ c, cs.getLast? = some c → isBlank c = false) : trimChars cs = cs := by
  have hreverse : cs.reverse.dropWhile isBlank = cs.reverse :=
    dropWhile_of_head fun c hc => hlast c (by rwa [List.head?_reverse] at hc)
  rw [trimChars, dropWhile_of_head hfirst, dropBlankEnd, hreverse, List.reverse_reverse]

@[simp] theorem trimChars_trimChars (cs : List Char) : trimChars (trimChars cs) = trimChars cs :=
  trimChars_of_ends (fun _ => isBlank_head_trimChars) (fun _ => isBlank_getLast_trimChars)

@[simp] theorem trim_trim (s : String) : trim (trim s) = trim s := by
  simp [trim]

end DashboardCheck.Text
