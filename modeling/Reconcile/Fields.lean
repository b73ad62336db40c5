/-!
# Ordered fields

The entries of an object, in the order in which they were written. Looking up finds the first
entry of a key; inserting replaces it where it stands and appends a new key at the end; erasing
drops every entry of the key. Main statements: what each operation does to `get?`
(`get?_insert_self`, `get?_insert_of_ne`, `get?_erase_self`, `get?_erase_of_ne`) and to the
sequence of keys (`keys_insert`, `keys_erase`), so that a proof need not unfold them, and that
inserting keeps keys distinct (`nodup_keys_insert`).
-/
namespace Reconcile

/-- Named values in the order in which they were written. -/
abbrev Fields (α : Type u) := List (String × α)

namespace Fields

variable {α : Type u} {β : Type v}

def keys (fields : Fields α) : List String := fields.map (·.1)

/-- The value of the first entry of `key`. -/
def get? : Fields α → String → Option α
  | [], _ => none
  | (k, v) :: rest, key => if k = key then some v else get? rest key

def contains (fields : Fields α) (key : String) : Bool := (fields.get? key).isSome

/-- Replace the first entry of `key` where it stands, or append one. -/
def insert : Fields α → String → α → Fields α
  | [], key, value => [(key, value)]
  | (k, v) :: rest, key, value =>
    if k = key then (key, value) :: rest else (k, v) :: insert rest key value

def erase (fields : Fields α) (key : String) : Fields α := fields.filter (·.1 != key)

/-- Collapse repeated keys: each keeps its first position and its last value. -/
def ofList (entries : List (String × α)) : Fields α :=
  entries.foldl (fun fields entry => insert fields entry.1 entry.2) []

@[simp] theorem keys_nil : keys ([] : Fields α) = [] := rfl

@[simp] theorem keys_cons (entry : String × α) (rest : Fields α) :
    keys (entry :: rest) = entry.1 :: keys rest := rfl

@[simp] theorem get?_nil (key : String) : get? ([] : Fields α) key = none := rfl

theorem get?_cons (k : String) (v : α) (rest : Fields α) (key : String) :
    get? ((k, v) :: rest) key = if k = key then some v else get? rest key := rfl

theorem get?_eq_none_iff {fields : Fields α} {key : String} :
    get? fields key = none ↔ key ∉ keys fields := by
  induction fields with
  | nil => simp
  | cons entry rest ih =>
    obtain ⟨k, v⟩ := entry
    by_cases h : k = key
    · simp [get?_cons, h]
    · simp [get?_cons, h, ih, Ne.symm h]

theorem contains_iff {fields : Fields α} {key : String} :
    contains fields key = true ↔ key ∈ keys fields := by
  rw [contains, Option.isSome_iff_ne_none, ne_eq, get?_eq_none_iff, Decidable.not_not]

theorem exists_get?_of_mem_keys {fields : Fields α} {key : String} (h : key ∈ keys fields) :
    ∃ value, get? fields key = some value :=
  Option.isSome_iff_exists.mp (contains_iff.mpr h)

theorem mem_of_get? {fields : Fields α} {key : String} {value : α}
    (h : get? fields key = some value) : (key, value) ∈ fields := by
  induction fields with
  | nil => simp at h
  | cons entry rest ih =>
    obtain ⟨k, v⟩ := entry
    rw [get?_cons] at h
    split at h
    · next hk => simp_all
    · exact List.mem_cons_of_mem _ (ih h)

@[simp] theorem get?_insert_self (fields : Fields α) (key : String) (value : α) :
    get? (insert fields key value) key = some value := by
  induction fields with
  | nil => simp [insert, get?_cons]
  | cons entry rest ih =>
    obtain ⟨k, v⟩ := entry
    by_cases h : k = key
    · simp [insert, get?_cons, h]
    · simp [insert, get?_cons, h, ih]

theorem get?_insert_of_ne {fields : Fields α} {key other : String} {value : α}
    (h : other ≠ key) : get? (insert fields key value) other = get? fields other := by
  induction fields with
  | nil => simp [insert, get?_cons, Ne.symm h]
  | cons entry rest ih =>
    obtain ⟨k, v⟩ := entry
    by_cases hk : k = key
    · subst hk
      simp [insert, get?_cons, Ne.symm h]
    · simp [insert, get?_cons, hk, ih]

theorem insert_insert (fields : Fields α) (key : String) (value later : α) :
    insert (insert fields key value) key later = insert fields key later := by
  induction fields with
  | nil => simp [insert]
  | cons entry rest ih =>
    obtain ⟨k, v⟩ := entry
    by_cases h : k = key
    · simp [insert, h]
    · simp [insert, h, ih]

@[simp] theorem get?_erase_self (fields : Fields α) (key : String) :
    get? (erase fields key) key = none := by
  simp [get?_eq_none_iff, keys, erase]

theorem get?_erase_of_ne {fields : Fields α} {key other : String} (h : other ≠ key) :
    get? (erase fields key) other = get? fields other := by
  induction fields with
  | nil => rfl
  | cons entry rest ih =>
    obtain ⟨k, v⟩ := entry
    rw [erase] at ih
    by_cases hk : k = key
    · subst hk
      simp [erase, get?_cons, Ne.symm h, ih]
    · by_cases ho : k = other
      · simp [erase, get?_cons, ho, h]
      · simp [erase, get?_cons, hk, ho, ih]

theorem keys_insert (fields : Fields α) (key : String) (value : α) :
    keys (insert fields key value) =
      if key ∈ keys fields then keys fields else keys fields ++ [key] := by
  induction fields with
  | nil => simp [insert]
  | cons entry rest ih =>
    obtain ⟨k, v⟩ := entry
    by_cases h : k = key
    · simp [insert, h]
    · simp only [insert, h, if_false, keys_cons, ih, List.mem_cons, Ne.symm h, false_or]
      split <;> simp

theorem keys_erase (fields : Fields α) (key : String) :
    keys (erase fields key) = (keys fields).filter (· != key) := by
  simp [keys, erase, List.filter_map, Function.comp_def]

theorem mem_insert {fields : Fields α} {key : String} {value : α} {entry : String × α}
    (h : entry ∈ insert fields key value) : entry = (key, value) ∨ entry ∈ fields := by
  induction fields with
  | nil => exact .inl (List.mem_singleton.mp h)
  | cons first rest ih =>
    obtain ⟨k, v⟩ := first
    rw [insert] at h
    split at h
    · rcases List.mem_cons.mp h with head | tail
      · exact .inl head
      · exact .inr (List.mem_cons_of_mem _ tail)
    · rcases List.mem_cons.mp h with head | tail
      · exact .inr (head ▸ List.mem_cons_self)
      · exact (ih tail).imp_right (List.mem_cons_of_mem _)

theorem mem_ofList {entries : List (String × α)} {entry : String × α} (h : entry ∈ ofList entries) :
    entry ∈ entries := by
  suffices ∀ (rest : List (String × α)) (start : Fields α),
      entry ∈ rest.foldl (fun fields entry => insert fields entry.1 entry.2) start →
      entry ∈ start ∨ entry ∈ rest from (this entries [] h).resolve_left List.not_mem_nil
  intro rest
  induction rest with
  | nil => exact fun start member => .inl member
  | cons first rest ih =>
    intro start member
    rcases ih _ member with early | late
    · rcases mem_insert early with rfl | old
      · exact .inr List.mem_cons_self
      · exact .inl old
    · exact .inr (List.mem_cons_of_mem first late)

theorem nodup_keys_insert {fields : Fields α} {key : String} {value : α}
    (h : (keys fields).Nodup) : (keys (insert fields key value)).Nodup := by
  rw [keys_insert]
  split
  · exact h
  · next hk =>
    rw [List.nodup_append]
    exact ⟨h, by simp, fun a ha b hb => by
      simp only [List.mem_singleton] at hb
      exact fun hab => hk (hb ▸ hab ▸ ha)⟩

theorem nodup_keys_ofList (entries : List (String × α)) : (keys (ofList entries)).Nodup := by
  suffices ∀ (rest : List (String × α)) (start : Fields α), (keys start).Nodup →
      (keys (rest.foldl (fun fields entry => insert fields entry.1 entry.2) start)).Nodup from
    this entries [] (by simp)
  intro rest
  induction rest with
  | nil => exact fun start h => h
  | cons entry rest ih => exact fun start h => ih _ (nodup_keys_insert h)

theorem keys_append (fields more : Fields α) : keys (fields ++ more) = keys fields ++ keys more :=
  List.map_append

theorem mem_keys_of_mem {fields : Fields α} {key : String} {value : α}
    (h : (key, value) ∈ fields) : key ∈ keys fields :=
  List.mem_map_of_mem h

/-- Fields with the same names, of which those of one name are related. -/
theorem rel_get? {R : α → β → Prop} {a : Fields α} {b : Fields β}
    (names : ∀ key, key ∈ keys a ↔ key ∈ keys b)
    (values : ∀ key x y, get? a key = some x → get? b key = some y → R x y) (key : String) :
    Option.Rel R (get? a key) (get? b key) := by
  cases left : get? a key with
  | none =>
    rw [get?_eq_none_iff, names, ← get?_eq_none_iff] at left
    rw [left]
    exact .none
  | some x =>
    have member := (names key).mp (mem_keys_of_mem (mem_of_get? left))
    obtain ⟨y, right⟩ := exists_get?_of_mem_keys member
    rw [right]
    exact .some (values key x y left right)

/-- Distinct names that are there on both sides or on neither are the same names. -/
theorem perm_keys_of_rel {R : α → β → Prop} {a : Fields α} {b : Fields β}
    (nodup : (keys a).Nodup) (nodup' : (keys b).Nodup)
    (same : ∀ key, Option.Rel R (get? a key) (get? b key)) : (keys a).Perm (keys b) := by
  refine (List.perm_ext_iff_of_nodup nodup nodup').mpr fun key => ?_
  rw [← contains_iff, ← contains_iff, contains, contains]
  have related := same key
  generalize get? a key = held, get? b key = other at related
  cases related with
  | some _ => rfl
  | none => rfl

theorem get?_of_mem {fields : Fields α} {key : String} {value : α}
    (nodup : (keys fields).Nodup) (h : (key, value) ∈ fields) : get? fields key = some value := by
  induction fields with
  | nil => simp at h
  | cons entry rest ih =>
    obtain ⟨k, v⟩ := entry
    rw [keys_cons, List.nodup_cons] at nodup
    rcases List.mem_cons.mp h with head | tail
    · cases head
      simp [get?_cons]
    · have different : k ≠ key := fun equal => nodup.1 (equal ▸ mem_keys_of_mem tail)
      rw [get?_cons, if_neg different, ih nodup.2 tail]

theorem get?_filter (fields : Fields α) (keep : String → Bool) (key : String) :
    get? (fields.filter fun entry => keep entry.1) key =
      if keep key then get? fields key else none := by
  induction fields with
  | nil => simp
  | cons entry rest ih =>
    obtain ⟨k, v⟩ := entry
    rw [List.filter_cons, get?_cons]
    split
    · next hkeep =>
      rw [get?_cons, ih]
      split
      · next hk => rw [if_pos (hk ▸ hkeep)]
      · rfl
    · next hdrop =>
      rw [ih]
      split
      · next hkeep => rw [if_neg fun hk : k = key => hdrop (hk ▸ hkeep)]
      · rfl

theorem keys_filter (fields : Fields α) (keep : String → Bool) :
    keys (fields.filter fun entry => keep entry.1) = (keys fields).filter keep := by
  simp [keys, List.filter_map, Function.comp_def]

theorem get?_map (fields : Fields α) (f : α → β) (key : String) :
    get? (fields.map fun entry => (entry.1, f entry.2)) key = (get? fields key).map f := by
  induction fields with
  | nil => rfl
  | cons entry rest ih =>
    obtain ⟨k, v⟩ := entry
    rw [List.map_cons, get?_cons, get?_cons, ih]
    split <;> rfl

theorem keys_map (fields : Fields α) (f : α → β) :
    keys (fields.map fun entry => (entry.1, f entry.2)) = keys fields := by
  simp [keys, Function.comp_def]

theorem insert_map (fields : Fields α) (f : α → β) (key : String) (value : α) :
    insert (fields.map fun entry => (entry.1, f entry.2)) key (f value) =
      (insert fields key value).map fun entry => (entry.1, f entry.2) := by
  induction fields with
  | nil => rfl
  | cons entry rest ih =>
    obtain ⟨k, v⟩ := entry
    by_cases h : k = key
    · simp [insert, h]
    · simp [insert, h, ih]

theorem ofList_map (entries : List (String × α)) (f : α → β) :
    ofList (entries.map fun entry => (entry.1, f entry.2)) =
      (ofList entries).map fun entry => (entry.1, f entry.2) := by
  suffices ∀ start : Fields α,
      (entries.map fun entry => (entry.1, f entry.2)).foldl
          (fun fields entry => insert fields entry.1 entry.2)
          (start.map fun entry => (entry.1, f entry.2)) =
        (entries.foldl (fun fields entry => insert fields entry.1 entry.2) start).map
          fun entry => (entry.1, f entry.2) from this []
  induction entries with
  | nil => exact fun _ => rfl
  | cons entry rest ih =>
    intro start
    rw [List.map_cons, List.foldl_cons, List.foldl_cons, insert_map, ih]

theorem insert_of_not_mem {fields : Fields α} {key : String} (value : α)
    (h : key ∉ keys fields) : insert fields key value = fields ++ [(key, value)] := by
  induction fields with
  | nil => rfl
  | cons entry rest ih =>
    obtain ⟨k, v⟩ := entry
    rw [keys_cons, List.mem_cons, not_or] at h
    rw [insert, if_neg (Ne.symm h.1), ih h.2, List.cons_append]

/-- Entries with distinct keys are fields as they stand. -/
theorem ofList_eq_self {entries : List (String × α)} (nodup : (keys entries).Nodup) :
    ofList entries = entries := by
  suffices ∀ (rest : List (String × α)) (start : Fields α), (keys (start ++ rest)).Nodup →
      rest.foldl (fun fields entry => insert fields entry.1 entry.2) start = start ++ rest by
    exact this entries [] nodup
  intro rest
  induction rest with
  | nil => simp
  | cons entry rest ih =>
    intro start nodup
    have fresh : entry.1 ∉ keys start := by
      rw [keys_append, keys_cons, List.nodup_append] at nodup
      exact fun member => nodup.2.2 _ member _ (by simp) rfl
    rw [List.foldl_cons, insert_of_not_mem entry.2 fresh, ih _ (by simpa using nodup)]
    simp

end Fields

end Reconcile
