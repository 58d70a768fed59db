import Mathlib.Data.List.Induction
import Mathlib.Data.List.Nodup
import TableDdl.Proofs.Json.Regular

/-!
# Keys that are given more than once

An object is made of the entries that its text gives, one after the other. A key that is given again
keeps its place and takes the new value. So what is left of the entries has the distinct keys in the
order in which they were first given, each with what was given last for it (`putAll_nil`).
-/

namespace TableDdl.Json

variable {α β : Type} {key name : Text} {a : α} {entries : List (Text × α)}

/-- What was given last for a key. -/
def lastGiven? (key : Text) (entries : List (Text × α)) : Option α :=
  entries.reverse.lookup key

/-- The distinct keys in the order in which they were first given. -/
def firstKeys (entries : List (Text × α)) : List Text :=
  (entries.map Prod.fst).eraseDups

/-- What is left of some entries: the distinct keys in the order in which they were first given,
each with what was given last for it. -/
def overwritten (entries : List (Text × α)) : List (Text × α) :=
  (firstKeys entries).filterMap fun key => (lastGiven? key entries).map (key, ·)

theorem overwritten_singleton (entry : Text × α) : overwritten [entry] = [entry] := by
  obtain ⟨key, a⟩ := entry
  simp [overwritten, firstKeys, lastGiven?, List.eraseDups_cons]

/-! ## One entry more -/

theorem lastGiven?_concat :
    lastGiven? key (entries ++ [(name, a)]) =
      if key = name then some a else lastGiven? key entries := by
  rw [lastGiven?, List.reverse_append, List.reverse_singleton, List.singleton_append,
    List.lookup_cons]
  by_cases same : key = name
  · rw [if_pos same, beq_iff_eq.mpr same]
  · rw [if_neg same, beq_eq_false_iff_ne.mpr same, lastGiven?]

theorem mem_firstKeys_iff : key ∈ firstKeys entries ↔ ∃ entry ∈ entries, entry.1 = key := by
  rw [firstKeys, List.mem_eraseDups, List.mem_map]

theorem firstKeys_concat :
    firstKeys (entries ++ [(name, a)]) =
      if name ∈ firstKeys entries then firstKeys entries else firstKeys entries ++ [name] := by
  have known : name ∈ firstKeys entries ↔ (entries.map Prod.fst).elem name = true := by
    rw [firstKeys, List.mem_eraseDups, List.elem_iff]
  rw [firstKeys, List.map_append, List.map_singleton, List.eraseDups_append, ← firstKeys,
    List.removeAll]
  by_cases old : name ∈ firstKeys entries
  · rw [if_pos old, List.filter_cons_of_neg (by simpa using known.mp old)]
    exact List.append_nil _
  · rw [if_neg old, List.filter_cons_of_pos (by simpa using mt known.mpr old)]
    rfl

theorem nodup_firstKeys : (firstKeys entries).Nodup := by
  induction entries using List.reverseRecOn with
  | nil => exact List.nodup_nil
  | append_singleton entries entry ih =>
    rw [firstKeys_concat]
    by_cases old : entry.1 ∈ firstKeys entries
    · rw [if_pos old]
      exact ih
    · rw [if_neg old]
      rw [← List.concat_eq_append]
      exact ih.concat old

/-- For exactly the keys that are given something was given last. -/
theorem exists_lastGiven?_iff :
    (∃ a, lastGiven? key entries = some a) ↔ key ∈ firstKeys entries := by
  rw [mem_firstKeys_iff, ← Option.isSome_iff_exists, lastGiven?, List.lookup_isSome_iff]
  simp only [List.mem_reverse, beq_iff_eq, @eq_comm Text key]

theorem mem_of_lastGiven? (given : lastGiven? key entries = some a) : (key, a) ∈ entries := by
  obtain ⟨before, after, eq, -⟩ := List.lookup_eq_some_iff.mp given
  have mem : (key, a) ∈ entries.reverse := by
    rw [eq]
    exact List.mem_append_right _ List.mem_cons_self
  exact List.mem_reverse.mp mem

theorem mem_of_mem_overwritten {entry : Text × α} (mem : entry ∈ overwritten entries) :
    entry ∈ entries := by
  obtain ⟨key, -, found⟩ := List.mem_filterMap.mp mem
  obtain ⟨a, given, rfl⟩ := Option.map_eq_some_iff.mp found
  exact mem_of_lastGiven? given

/-- The keys of what is left are the distinct keys. -/
theorem map_fst_overwritten : (overwritten entries).map Prod.fst = firstKeys entries := by
  have same : ∀ key ∈ firstKeys entries,
      ((lastGiven? key entries).map (key, ·)).map Prod.fst = some key := by
    intro key mem
    obtain ⟨a, given⟩ := exists_lastGiven?_iff.mpr mem
    rw [given]
    rfl
  rw [overwritten, List.map_filterMap, List.filterMap_congr same, List.filterMap_some]

/-! ## Members that are put one by one -/

theorem put_filterMap {keys : List Text} {given? : Text → Option Json} {v : Json}
    (distinct : keys.Nodup) (mem : key ∈ keys) (given : ∀ name ∈ keys, (given? name).isSome) :
    Members.put key v (keys.filterMap fun name => (given? name).map (name, ·)) =
      keys.filterMap fun name => (if name = key then some v else given? name).map (name, ·) := by
  induction keys with
  | nil => cases mem
  | cons first rest ih =>
    obtain ⟨new, distinct⟩ := List.nodup_cons.mp distinct
    obtain ⟨old, found⟩ := Option.isSome_iff_exists.mp (given first List.mem_cons_self)
    have later := fun name mem => given name (List.mem_cons_of_mem first mem)
    rw [List.filterMap_cons, List.filterMap_cons, found]
    by_cases same : first = key
    · have others : ∀ name ∈ rest, ((given? name).map (name, ·) : Option (Text × Json)) =
          (if name = key then some v else given? name).map (name, ·) := by
        intro name mem
        rw [if_neg]
        intro eq
        exact new (same.trans eq.symm ▸ mem)
      rw [if_pos same, ← List.filterMap_congr others, same]
      exact if_pos rfl
    · have mem := (List.mem_cons.mp mem).resolve_left (Ne.symm same)
      rw [if_neg same, ← ih distinct mem later]
      exact if_neg same

/-- One more member is put into what is left of those before. -/
theorem overwritten_concat {entries : Members} {v : Json} :
    overwritten (entries ++ [(key, v)]) = Members.put key v (overwritten entries) := by
  have last : ∀ name, lastGiven? name (entries ++ [(key, v)]) =
      if name = key then some v else lastGiven? name entries := fun _ => lastGiven?_concat
  rw [overwritten, firstKeys_concat]
  simp only [last]
  by_cases old : key ∈ firstKeys entries
  · have given : ∀ name ∈ firstKeys entries, (lastGiven? name entries).isSome :=
      fun name mem => Option.isSome_iff_exists.mpr (exists_lastGiven?_iff.mpr mem)
    rw [if_pos old, ← put_filterMap nodup_firstKeys old given, overwritten]
  · have new : key ∉ Members.keys (overwritten entries) := by
      rw [Members.keys, map_fst_overwritten]
      exact old
    have others : ∀ name ∈ firstKeys entries,
        ((if name = key then some v else lastGiven? name entries).map (name, ·)) =
          (lastGiven? name entries).map (name, ·) := by
      intro name mem
      rw [if_neg]
      intro same
      exact old (same ▸ mem)
    rw [if_neg old, List.filterMap_append, List.filterMap_congr others,
      Members.put_of_notMem new, overwritten]
    simp

/-- The members of an object, put one by one in the order of its text. -/
def putAll (members entries : Members) : Members :=
  entries.foldl (fun members entry => members.put entry.1 entry.2) members

/-- What is put one by one is overwritten. -/
theorem putAll_nil (entries : Members) : putAll [] entries = overwritten entries := by
  induction entries using List.reverseRecOn with
  | nil => rfl
  | append_singleton entries entry ih =>
    rw [overwritten_concat, ← ih, putAll, List.foldl_append]
    rfl

theorem get?_put {members : Members} {v : Json} :
    (members.put name v).get? key = if name = key then some v else members.get? key := by
  induction members with
  | nil => rfl
  | cons first rest ih =>
    rw [Members.put]
    by_cases same : first.1 = name
    · rw [if_pos same, Members.get?, Members.get?, same]
      split <;> rfl
    · rw [if_neg same, Members.get?, Members.get?, ih]
      by_cases here : first.1 = key
      · rw [if_pos here, if_pos here, if_neg fun eq => same (here.trans eq.symm)]
      · rw [if_neg here, if_neg here]

/-- The value of a key is what was given last for it. -/
theorem get?_overwritten (entries : Members) :
    Members.get? key (overwritten entries) = lastGiven? key entries := by
  induction entries using List.reverseRecOn with
  | nil => rfl
  | append_singleton entries entry ih =>
    rw [overwritten_concat, get?_put, ih, lastGiven?_concat]
    by_cases same : key = entry.1
    · rw [if_pos same, if_pos same.symm]
    · rw [if_neg same, if_neg (Ne.symm same)]

/-! ## Entries of other kinds -/

theorem lastGiven?_map (f : α → β) (key : Text) (entries : List (Text × α)) :
    lastGiven? key (entries.map fun entry => (entry.1, f entry.2)) =
      (lastGiven? key entries).map f := by
  induction entries using List.reverseRecOn with
  | nil => rfl
  | append_singleton entries entry ih =>
    rw [List.map_append, List.map_singleton, lastGiven?_concat, lastGiven?_concat, ih]
    split <;> rfl

/-- Overwriting does not depend on what the entries are. -/
theorem overwritten_map (f : α → β) (entries : List (Text × α)) :
    overwritten (entries.map fun entry => (entry.1, f entry.2)) =
      (overwritten entries).map fun entry => (entry.1, f entry.2) := by
  have keys : firstKeys (entries.map fun entry => (entry.1, f entry.2)) = firstKeys entries := by
    rw [firstKeys, List.map_map]
    rfl
  rw [overwritten, keys, overwritten, List.map_filterMap]
  refine List.filterMap_congr fun key _ => ?_
  rw [lastGiven?_map, Option.map_map, Option.map_map]
  rfl

end TableDdl.Json
