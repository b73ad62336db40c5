import Mathlib.Data.List.Induction
import Reconcile.KeyedList

/-!
# Identities in a list

Reading a list by identity keeps the identities in the order in which they first occur, and under
each of them the last element that has it (`keys_byIdentity_eq`, `get?_byIdentity_eq`). So the
reading is determined by `identities` and `lastNamed`, which speak of the list alone.
-/
namespace Reconcile

section FirstOccurrences

variable {α : Type} [BEq α] [LawfulBEq α]

theorem eraseDups_concat (l : List α) (a : α) :
    (l ++ [a]).eraseDups = if l.contains a then l.eraseDups else l.eraseDups ++ [a] := by
  rw [List.eraseDups_append, List.removeAll]
  split
  · next present => simp [List.contains_iff_mem.mp present]
  · next absent => simp [mt List.contains_iff_mem.mpr absent, List.eraseDups_cons]

/-- Which elements are left out does not depend on where they first occur. -/
theorem eraseDups_filter (l : List α) (keep : α → Bool) :
    (l.filter keep).eraseDups = l.eraseDups.filter keep := by
  induction l using List.reverseRecOn with
  | nil => rfl
  | append_singleton l a ih =>
    rw [List.filter_append, eraseDups_concat]
    cases kept : keep a with
    | true =>
      rw [List.filter_cons_of_pos kept, List.filter_nil, eraseDups_concat, ih]
      by_cases present : a ∈ l
      · simp [present, kept]
      · simp [present, kept]
    | false =>
      rw [List.filter_cons_of_neg (by simp [kept]), List.filter_nil, List.append_nil, ih]
      split
      · rfl
      · simp [kept]

end FirstOccurrences

namespace Fields

variable {α : Type u}

theorem ofList_concat (entries : List (String × α)) (key : String) (value : α) :
    ofList (entries ++ [(key, value)]) = insert (ofList entries) key value := by
  rw [ofList, List.foldl_append]
  rfl

/-- Each key has the place of its first entry. -/
theorem keys_ofList (entries : List (String × α)) :
    keys (ofList entries) = (keys entries).eraseDups := by
  induction entries using List.reverseRecOn with
  | nil => rfl
  | append_singleton entries entry ih =>
    rw [ofList_concat, keys_insert, ih, keys_append, keys_cons, keys_nil, eraseDups_concat]
    simp

/-- Each key has the value of its last entry. -/
theorem get?_ofList (entries : List (String × α)) (key : String) :
    get? (ofList entries) key = get? entries.reverse key := by
  induction entries using List.reverseRecOn with
  | nil => rfl
  | append_singleton entries entry ih =>
    obtain ⟨k, v⟩ := entry
    rw [ofList_concat, List.reverse_append, List.reverse_singleton, List.singleton_append,
      get?_cons]
    by_cases same : k = key
    · rw [if_pos same, same, get?_insert_self]
    · rw [if_neg same, get?_insert_of_ne (Ne.symm same), ih]

end Fields

/-- The identities in a list, in the order in which they first occur. -/
def identities (key : String) (items : List Doc) : List String :=
  (items.map (·.identity key)).eraseDups

/-- The last element of an identity. -/
def lastNamed (key : String) (items : List Doc) (identity : String) : Option Doc :=
  items.findRev? (·.identity key == identity)

section Identities

variable {key identity : String} {items : List Doc} {item : Doc}

theorem mem_identities :
    identity ∈ identities key items ↔ ∃ item ∈ items, item.identity key = identity := by
  simp [identities]

theorem mem_of_lastNamed (found : lastNamed key items identity = some item) :
    item ∈ items ∧ item.identity key = identity := by
  rw [lastNamed, List.findRev?_eq_find?_reverse] at found
  have named := List.find?_some found
  exact ⟨List.mem_reverse.mp (List.mem_of_find?_eq_some found), by simpa using named⟩

theorem lastNamed_eq_none_iff :
    lastNamed key items identity = none ↔ identity ∉ identities key items := by
  rw [lastNamed, List.findRev?_eq_find?_reverse, mem_identities]
  simp

variable (key identity items)

theorem keys_byIdentity_eq : (byIdentity key items).keys = identities key items := by
  rw [byIdentity, Fields.keys_ofList, identities]
  simp [Fields.keys, Function.comp_def]

theorem get?_byIdentity_eq :
    (byIdentity key items).get? identity = lastNamed key items identity := by
  have first : ∀ l : List Doc,
      Fields.get? (l.map fun item => (item.identity key, item)) identity =
        l.find? (·.identity key == identity) := by
    intro l
    induction l with
    | nil => rfl
    | cons item rest ih =>
      rw [List.map_cons, Fields.get?_cons, List.find?_cons, ih]
      by_cases named : item.identity key = identity
      · simp [named]
      · simp [named, beq_eq_false_iff_ne.mpr named]
  rw [byIdentity, Fields.get?_ofList, ← List.map_reverse, first, lastNamed,
    List.findRev?_eq_find?_reverse]

end Identities

end Reconcile
