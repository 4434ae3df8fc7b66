import DashboardCheck.Json.Reading

/-!
# Values that are the same

Two values without binary numbers can be compared part by part, so what a given text writes can be
found out by reading it.
-/
namespace DashboardCheck.Json

mutual

/-- Whether two values are the same. Binary numbers are never taken to be. -/
def Value.isSame : Value → Value → Bool
  | .null, .null => true
  | .bool b, .bool b' => b == b'
  | .integer n, .integer n' => n == n'
  | .string s, .string s' => s == s'
  | .array items, .array items' => areSameItems items items'
  | .object members, .object members' => areSameMembers members members'
  | _, _ => false

def areSameItems : List Value → List Value → Bool
  | [], [] => true
  | value :: rest, value' :: rest' => value.isSame value' && areSameItems rest rest'
  | _, _ => false

def areSameMembers : List (String × Value) → List (String × Value) → Bool
  | [], [] => true
  | (name, value) :: rest, (name', value') :: rest' =>
    name == name' && value.isSame value' && areSameMembers rest rest'
  | _, _ => false

end

mutual

theorem Value.eq_of_isSame {value value' : Value} (h : value.isSame value' = true) :
    value = value' := by
  cases value with
  | array items =>
    cases value' with
    | array items' =>
      rw [Value.isSame] at h
      rw [eq_of_areSameItems h]
    | _ => simp [Value.isSame] at h
  | object members =>
    cases value' with
    | object members' =>
      rw [Value.isSame] at h
      rw [eq_of_areSameMembers h]
    | _ => simp [Value.isSame] at h
  | _ => cases value' <;> simp_all [Value.isSame]

theorem eq_of_areSameItems {items items' : List Value} (h : areSameItems items items' = true) :
    items = items' := by
  cases items with
  | nil => cases items' <;> simp_all [areSameItems]
  | cons value rest =>
    cases items' with
    | nil => simp [areSameItems] at h
    | cons value' rest' =>
      rw [areSameItems, Bool.and_eq_true] at h
      rw [Value.eq_of_isSame h.1, eq_of_areSameItems h.2]

theorem eq_of_areSameMembers {members members' : List (String × Value)}
    (h : areSameMembers members members' = true) : members = members' := by
  cases members with
  | nil => cases members' <;> simp_all [areSameMembers]
  | cons member rest =>
    obtain ⟨name, value⟩ := member
    cases members' with
    | nil => simp [areSameMembers] at h
    | cons member' rest' =>
      obtain ⟨name', value'⟩ := member'
      rw [areSameMembers, Bool.and_eq_true, Bool.and_eq_true, beq_iff_eq] at h
      rw [h.1.1, Value.eq_of_isSame h.1.2, eq_of_areSameMembers h.2]

end

def writes (text : String) (value : Value) : Bool :=
  match parse text with
  | .ok found => found.isSame value
  | .error _ => false

theorem parse_of_writes {text : String} {value : Value} (h : writes text value = true) :
    parse text = .ok value := by
  rw [writes] at h
  split at h
  · next hparse => rw [hparse, Value.eq_of_isSame h]
  · cases h

end DashboardCheck.Json
