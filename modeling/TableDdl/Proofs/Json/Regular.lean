import TableDdl.Json.Number
import TableDdl.Proofs.Text.Digits

/-!
# Regular values

The values that come out of a JSON text have objects with distinct keys and integers with few enough
digits. What holds of the texts and of the numbers with a fraction depends on where a value comes
from, so `IsRegular` leaves it open.
-/

namespace TableDdl.Json

/-- The test for an integer with no more digits than are read. -/
def FewDigits (n : Int) : Prop :=
  (Text.ofNat n.natAbs).length ≤ maxIntegerDigits

instance (n : Int) : Decidable (FewDigits n) :=
  inferInstanceAs (Decidable (_ ≤ maxIntegerDigits))

theorem fewDigits_iff {n : Int} : FewDigits n ↔ n.natAbs < Nat.pow 10 maxIntegerDigits :=
  Text.length_ofNat_le_iff (by decide)

/-- `IsRegular texts reals v`: all objects in `v` have distinct keys, all integers have few digits,
all texts and keys satisfy `texts`, and all numbers with a fraction or an exponent `reals`. -/
inductive IsRegular (texts : Text → Prop) (reals : Binary64 → Prop) : Json → Prop
  | null : IsRegular texts reals .null
  | bool (value : Bool) : IsRegular texts reals (.bool value)
  | int {n : Int} (few : FewDigits n) : IsRegular texts reals (.int n)
  | real {x : Binary64} (allowed : reals x) : IsRegular texts reals (.real x)
  | text {t : Text} (allowed : texts t) : IsRegular texts reals (.text t)
  | array {items : List Json} (all : ∀ item ∈ items, IsRegular texts reals item) :
    IsRegular texts reals (.array items)
  | object {members : Members} (distinct : members.keys.Nodup)
    (names : ∀ member ∈ members, texts member.1)
    (values : ∀ member ∈ members, IsRegular texts reals member.2) :
    IsRegular texts reals (.object members)

/-! ## Members -/

namespace Members

variable {key : Text} {value : Json} {members : Members}

theorem mem_of_get? (found : get? key members = some value) : (key, value) ∈ members := by
  induction members with
  | nil => cases found
  | cons member rest ih =>
    rw [get?] at found
    split at found
    · rename_i same
      cases found
      rw [← same]
      exact List.mem_cons_self
    · exact List.mem_cons_of_mem _ (ih found)

theorem get?_of_mem (distinct : members.keys.Nodup) (mem : (key, value) ∈ members) :
    members.get? key = some value := by
  induction members with
  | nil => cases mem
  | cons member rest ih =>
    obtain ⟨new, distinct⟩ := List.nodup_cons.mp distinct
    rw [get?]
    rcases List.mem_cons.mp mem with rfl | mem
    · exact if_pos rfl
    · have differs : member.1 ≠ key := fun same =>
        new (same ▸ List.mem_map_of_mem (f := Prod.fst) mem)
      rw [if_neg differs, ih distinct mem]

theorem mem_of_mem_put {member : Text × Json} (mem : member ∈ put key value members) :
    member = (key, value) ∨ member ∈ members := by
  induction members with
  | nil => exact Or.inl (List.mem_singleton.mp mem)
  | cons first rest ih =>
    rw [put] at mem
    split at mem
    · rcases List.mem_cons.mp mem with same | mem
      · exact Or.inl same
      · exact Or.inr (List.mem_cons_of_mem _ mem)
    · rcases List.mem_cons.mp mem with same | mem
      · exact Or.inr (List.mem_cons.mpr (Or.inl same))
      · exact (ih mem).imp_right (List.mem_cons_of_mem _)

/-- A key that is new is put at the end. -/
theorem put_of_notMem (new : key ∉ members.keys) :
    put key value members = members ++ [(key, value)] := by
  induction members with
  | nil => rfl
  | cons first rest ih =>
    have differs : first.1 ≠ key := fun same => new (same ▸ List.mem_cons_self)
    rw [put, if_neg differs, ih fun mem => new (List.mem_cons_of_mem _ mem), List.cons_append]

/-- A key that is there already is not put in again. -/
theorem keys_put_of_mem (old : key ∈ members.keys) :
    (put key value members).keys = members.keys := by
  induction members with
  | nil => cases old
  | cons first rest ih =>
    rw [put]
    split
    · rename_i same
      rw [keys, keys, List.map_cons, List.map_cons, same]
    · rename_i differs
      have old := (List.mem_cons.mp old).resolve_left fun same => differs same.symm
      rw [keys, keys, List.map_cons, List.map_cons, ← keys, ← keys, ih old]

theorem nodup_keys_put (distinct : members.keys.Nodup) : (put key value members).keys.Nodup := by
  by_cases old : key ∈ members.keys
  · rw [keys_put_of_mem old]
    exact distinct
  · rw [put_of_notMem old, keys, List.map_append, List.map_singleton, ← keys]
    refine List.nodup_append.mpr ⟨distinct, by simp, ?_⟩
    intro name mem other same eq
    rw [eq, List.mem_singleton.mp same] at mem
    exact old mem

end Members

namespace IsRegular

variable {texts : Text → Prop} {reals : Binary64 → Prop} {members : Members} {key : Text}
  {value : Json}

theorem nodup (regular : IsRegular texts reals (.object members)) : members.keys.Nodup := by
  cases regular with
  | object distinct names values => exact distinct

theorem of_mem (regular : IsRegular texts reals (.object members)) {member : Text × Json}
    (mem : member ∈ members) : texts member.1 ∧ IsRegular texts reals member.2 := by
  cases regular with
  | object distinct names values => exact ⟨names member mem, values member mem⟩

theorem of_members (distinct : members.keys.Nodup)
    (all : ∀ member ∈ members, texts member.1 ∧ IsRegular texts reals member.2) :
    IsRegular texts reals (.object members) :=
  .object distinct (fun member mem => (all member mem).1) fun member mem => (all member mem).2

/-- An object stays regular when a member is put into it. -/
theorem put (regular : IsRegular texts reals (.object members)) (name : texts key)
    (regular_value : IsRegular texts reals value) :
    IsRegular texts reals (.object (members.put key value)) := by
  refine of_members (Members.nodup_keys_put regular.nodup) ?_
  intro member mem
  rcases Members.mem_of_mem_put mem with rfl | mem
  · exact ⟨name, regular_value⟩
  · exact regular.of_mem mem

theorem get? (regular : IsRegular texts reals (.object members))
    (found : members.get? key = some value) : IsRegular texts reals value :=
  (regular.of_mem (Members.mem_of_get? found)).2

end IsRegular

end TableDdl.Json
