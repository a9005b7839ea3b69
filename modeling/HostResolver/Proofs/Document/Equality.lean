import HostResolver.Document.Value

/-!
Equality of values.

Owns: that it is decided whether two values are equal, so that what a document holds can be
evaluated.

Does not own: when two values are the same key of a mapping.
-/

namespace HostResolver.Document.Value

mutual
def equal : Value → Value → Bool
  | .null, .null => true
  | .bool left, .bool right => left == right
  | .int left, .int right => left == right
  | .float left, .float right => decide (left = right)
  | .text left, .text right => left == right
  | .date left, .date right => decide (left = right)
  | .time left, .time right => decide (left = right)
  | .bytes left, .bytes right => left == right
  | .list left, .list right => equalItems left right
  | .mapping left, .mapping right => equalEntries left right
  | _, _ => false

def equalItems : List Value → List Value → Bool
  | [], [] => true
  | left :: lefts, right :: rights => equal left right && equalItems lefts rights
  | _, _ => false

def equalEntries : List (Value × Value) → List (Value × Value) → Bool
  | [], [] => true
  | (key, value) :: lefts, (otherKey, other) :: rights =>
    equal key otherKey && equal value other && equalEntries lefts rights
  | _, _ => false
end

mutual
theorem equal_iff : (left right : Value) → (equal left right = true ↔ left = right)
  | .null, right => by cases right <;> simp [equal]
  | .bool _, right => by cases right <;> simp [equal]
  | .int _, right => by cases right <;> simp [equal]
  | .float _, right => by cases right <;> simp [equal]
  | .text _, right => by cases right <;> simp [equal]
  | .date _, right => by cases right <;> simp [equal]
  | .time _, right => by cases right <;> simp [equal]
  | .bytes _, right => by cases right <;> simp [equal]
  | .list items, right => by
      cases right with
      | list others => rw [equal, equalItems_iff items others, Value.list.injEq]
      | _ => simp [equal]
  | .mapping entries, right => by
      cases right with
      | mapping others => rw [equal, equalEntries_iff entries others, Value.mapping.injEq]
      | _ => simp [equal]

theorem equalItems_iff : (lefts rights : List Value) →
    (equalItems lefts rights = true ↔ lefts = rights)
  | [], rights => by cases rights <;> simp [equalItems]
  | left :: lefts, rights => by
      cases rights with
      | nil => simp [equalItems]
      | cons right rights =>
          rw [equalItems, Bool.and_eq_true, equal_iff left right, equalItems_iff lefts rights,
            List.cons.injEq]

theorem equalEntries_iff : (lefts rights : List (Value × Value)) →
    (equalEntries lefts rights = true ↔ lefts = rights)
  | [], rights => by cases rights <;> simp [equalEntries]
  | (key, value) :: lefts, rights => by
      cases rights with
      | nil => simp [equalEntries]
      | cons right rights =>
          rw [equalEntries, Bool.and_eq_true, Bool.and_eq_true, equal_iff key right.1,
            equal_iff value right.2, equalEntries_iff lefts rights, List.cons.injEq,
            Prod.ext_iff]
end

instance : DecidableEq Value := fun left right => decidable_of_iff _ (equal_iff left right)

end HostResolver.Document.Value
