/-!
Dictionaries: entries in the order of their names, at most one for a name. Names are compared by
code points, which is also the order of their UTF-8 bytes. The main statements are the look-up laws
of insertion.
-/
namespace DashboardCheck

/-- Entries in ascending order of their names. -/
abbrev Dict (α : Type) := List (String × α)

namespace Dict

variable {α β : Type}

/-- Puts an entry in its place, instead of one of the same name. -/
def insert (name : String) (value : α) : Dict α → Dict α
  | [] => [(name, value)]
  | entry :: rest =>
    if name < entry.1 then (name, value) :: entry :: rest
    else if name = entry.1 then (name, value) :: rest
    else entry :: insert name value rest

def get? (dict : Dict α) (name : String) : Option α :=
  (dict.find? fun entry => entry.1 == name).map Prod.snd

/-- Whether there is an entry of this name. -/
def holds (dict : Dict α) (name : String) : Bool :=
  dict.any fun entry => entry.1 == name

def names (dict : Dict α) : List String :=
  dict.map Prod.fst

/-- Of entries with one name the last stays. -/
def ofList (entries : List (String × α)) : Dict α :=
  entries.foldl (fun dict entry => insert entry.1 entry.2 dict) []

/-- The entries of both, those of `other` instead of those of `dict`. -/
def overlay (dict other : Dict α) : Dict α :=
  other.foldl (fun dict entry => insert entry.1 entry.2 dict) dict

def mapValues (f : α → β) (dict : Dict α) : Dict β :=
  dict.map fun entry => (entry.1, f entry.2)

@[simp] theorem get?_nil (name : String) : get? ([] : Dict α) name = none := rfl

theorem get?_cons (entry : String × α) (rest : Dict α) (name : String) :
    get? (entry :: rest) name = if entry.1 = name then some entry.2 else get? rest name := by
  by_cases h : entry.1 = name <;> simp [get?, h]

theorem get?_insert_self (name : String) (value : α) (dict : Dict α) :
    get? (insert name value dict) name = some value := by
  induction dict with
  | nil => simp [insert, get?_cons]
  | cons entry rest ih =>
    rw [insert]
    split
    · simp [get?_cons]
    · split
      · simp [get?_cons]
      · next heq => rw [get?_cons, if_neg (fun h => heq h.symm), ih]

theorem get?_insert_other {name other : String} (value : α) (dict : Dict α) (h : other ≠ name) :
    get? (insert name value dict) other = get? dict other := by
  have hne : ¬ name = other := fun e => h e.symm
  induction dict with
  | nil => simp [insert, get?_cons, hne]
  | cons entry rest ih =>
    rw [insert]
    split
    · simp [get?_cons, hne]
    · split
      · next heq => simp [get?_cons, hne, ← heq]
      · rw [get?_cons, get?_cons, ih]

end Dict

end DashboardCheck
