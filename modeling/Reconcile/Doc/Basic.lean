import Reconcile.Fields
import Reconcile.Number.Basic

/-!
# Documents

A document is null, a boolean, a number, a string, a list of documents or an object: named
documents in the order in which they were written. The type does not ask for distinct names in an
object; `Doc.WellFormed` says that every object inside has them, and every reader of this library
answers with such documents.

`Doc.induction` is the induction principle over a document and all that it contains.
-/
namespace Reconcile

inductive Doc where
  | null
  | bool (value : Bool)
  | number (value : Number)
  | string (value : String)
  | array (items : List Doc)
  | object (fields : List (String × Doc))
  deriving Inhabited, Repr

namespace Doc

mutual

private def decEqDoc : (a b : Doc) → Decidable (a = b)
  | .null, .null => isTrue rfl
  | .bool x, .bool y => if h : x = y then isTrue (h ▸ rfl) else isFalse (by simp [h])
  | .number x, .number y => if h : x = y then isTrue (h ▸ rfl) else isFalse (by simp [h])
  | .string x, .string y => if h : x = y then isTrue (h ▸ rfl) else isFalse (by simp [h])
  | .array xs, .array ys =>
    match decEqItems xs ys with
    | isTrue h => isTrue (h ▸ rfl)
    | isFalse h => isFalse (by simp [h])
  | .object xs, .object ys =>
    match decEqFields xs ys with
    | isTrue h => isTrue (h ▸ rfl)
    | isFalse h => isFalse (by simp [h])
  | .null, .bool _ | .null, .number _ | .null, .string _ | .null, .array _ | .null, .object _
  | .bool _, .null | .bool _, .number _ | .bool _, .string _ | .bool _, .array _
  | .bool _, .object _
  | .number _, .null | .number _, .bool _ | .number _, .string _ | .number _, .array _
  | .number _, .object _
  | .string _, .null | .string _, .bool _ | .string _, .number _ | .string _, .array _
  | .string _, .object _
  | .array _, .null | .array _, .bool _ | .array _, .number _ | .array _, .string _
  | .array _, .object _
  | .object _, .null | .object _, .bool _ | .object _, .number _ | .object _, .string _
  | .object _, .array _ => isFalse nofun
termination_by structural a => a

private def decEqItems : (a b : List Doc) → Decidable (a = b)
  | [], [] => isTrue rfl
  | [], _ :: _ | _ :: _, [] => isFalse nofun
  | x :: xs, y :: ys =>
    match decEqDoc x y, decEqItems xs ys with
    | isTrue h, isTrue t => isTrue (h ▸ t ▸ rfl)
    | isFalse h, _ => isFalse (by simp [h])
    | _, isFalse t => isFalse (by simp [t])
termination_by structural a => a

private def decEqFields : (a b : List (String × Doc)) → Decidable (a = b)
  | [], [] => isTrue rfl
  | [], _ :: _ | _ :: _, [] => isFalse nofun
  | (k, x) :: xs, (l, y) :: ys =>
    if hk : k = l then
      match decEqDoc x y, decEqFields xs ys with
      | isTrue h, isTrue t => isTrue (hk ▸ h ▸ t ▸ rfl)
      | isFalse h, _ => isFalse (by simp [h])
      | _, isFalse t => isFalse (by simp [t])
    else isFalse (by simp [hk])
termination_by structural a => a

end

instance : DecidableEq Doc := decEqDoc

/-- To prove a property of every document, prove it of a list and of an object from the documents
directly inside. -/
theorem induction {motive : Doc → Prop} (null : motive .null)
    (bool : ∀ b, motive (.bool b)) (number : ∀ n, motive (.number n))
    (string : ∀ s, motive (.string s))
    (array : ∀ items : List Doc, (∀ item ∈ items, motive item) → motive (.array items))
    (object : ∀ fields : List (String × Doc), (∀ entry ∈ fields, motive entry.2) →
      motive (.object fields)) (doc : Doc) : motive doc := by
  refine Doc.rec (motive_1 := motive) (motive_2 := fun items => ∀ item ∈ items, motive item)
    (motive_3 := fun fields => ∀ entry ∈ fields, motive entry.2)
    (motive_4 := fun entry => motive entry.2) null bool number string array object
    nofun ?_ nofun ?_ (fun _ _ h => h) doc
  · exact fun head tail hh ht item hm => (List.mem_cons.1 hm).elim (· ▸ hh) (ht item)
  · exact fun head tail hh ht item hm => (List.mem_cons.1 hm).elim (· ▸ hh) (ht item)

/-- The value of a field, if the document is an object that has it. -/
def get? : Doc → String → Option Doc
  | .object fields, key => Fields.get? fields key
  | _, _ => none

/-- The value reached through a path of fields. -/
def getPath? (doc : Doc) (path : List String) : Option Doc :=
  path.foldl (fun at? key => at?.bind (·.get? key)) (some doc)

@[simp] theorem getPath?_nil (doc : Doc) : doc.getPath? [] = some doc := rfl

theorem getPath?_cons (doc : Doc) (key : String) (path : List String) :
    doc.getPath? (key :: path) = (doc.get? key).bind (·.getPath? path) := by
  suffices ∀ start : Option Doc, path.foldl (fun at? key => at?.bind (·.get? key)) start =
      start.bind (·.getPath? path) from this (doc.get? key)
  intro start
  cases start with
  | some inner => rfl
  | none =>
    induction path with
    | nil => rfl
    | cons step rest ih => exact ih

def asString? : Doc → Option String
  | .string s => some s
  | _ => none

def asObject? : Doc → Option (Fields Doc)
  | .object fields => some fields
  | _ => none

/-- Neither a list nor an object. -/
def isScalar : Doc → Bool
  | .array _ | .object _ => false
  | _ => true

/-- The names of the fields; only an object has any. -/
def names : Doc → List String
  | .object fields => Fields.keys fields
  | _ => []

@[simp] theorem names_null : null.names = [] := rfl

@[simp] theorem names_object (fields : Fields Doc) : (object fields).names = Fields.keys fields := rfl

theorem get?_eq_none_iff {doc : Doc} {key : String} : doc.get? key = none ↔ key ∉ doc.names := by
  cases doc with
  | object fields => exact Fields.get?_eq_none_iff
  | _ => simp [get?, names]

theorem get?_of_scalar {doc : Doc} (scalar : doc.isScalar = true) (key : String) :
    doc.get? key = none := by
  cases doc with
  | object fields => cases scalar
  | _ => rfl

/-- The items of a list; any other document has none. -/
def items : Doc → List Doc
  | .array items => items
  | _ => []

@[simp] theorem items_null : null.items = [] := rfl

@[simp] theorem items_array (items : List Doc) : (array items).items = items := rfl

/-- To prove a property of every document, prove it of one from the values of its fields and from
its items. -/
theorem induction_inside {motive : Doc → Prop}
    (step : ∀ doc : Doc, (∀ key value, doc.get? key = some value → motive value) →
      (∀ item ∈ doc.items, motive item) → motive doc) (doc : Doc) : motive doc := by
  induction doc using Doc.induction with
  | array items ih => exact step _ nofun ih
  | object fields ih =>
    exact step _ (fun key value found => ih (key, value) (Fields.mem_of_get? found)) nofun
  | _ => exact step _ nofun nofun

/-- The text under a path of fields, empty when there is none. -/
def textAt (doc : Doc) (path : List String) : String :=
  ((doc.getPath? path).bind asString?).getD ""

mutual

/-- Does every object inside have distinct names? -/
def isWellFormed : Doc → Bool
  | .array items => areWellFormed items
  | .object fields => decide (Fields.keys fields).Nodup && haveWellFormed fields
  | _ => true
termination_by structural doc => doc

def areWellFormed : List Doc → Bool
  | [] => true
  | item :: rest => item.isWellFormed && areWellFormed rest
termination_by structural items => items

def haveWellFormed : List (String × Doc) → Bool
  | [] => true
  | (_, value) :: rest => value.isWellFormed && haveWellFormed rest
termination_by structural fields => fields

end

/-- Every object inside has distinct names. -/
def WellFormed (doc : Doc) : Prop := doc.isWellFormed = true

instance (doc : Doc) : Decidable doc.WellFormed := inferInstanceAs (Decidable (_ = true))

theorem wellFormed_array_iff {items : List Doc} :
    (array items).WellFormed ↔ ∀ item ∈ items, item.WellFormed := by
  simp only [WellFormed, isWellFormed]
  induction items with
  | nil => simp [areWellFormed]
  | cons item rest ih => simp [areWellFormed, ih]

private theorem haveWellFormed_iff {fields : List (String × Doc)} :
    haveWellFormed fields = true ↔ ∀ entry ∈ fields, entry.2.WellFormed := by
  induction fields with
  | nil => simp [haveWellFormed]
  | cons entry rest ih =>
    obtain ⟨key, value⟩ := entry
    simp [haveWellFormed, ih, WellFormed]

theorem wellFormed_object_iff {fields : List (String × Doc)} :
    (object fields).WellFormed ↔
      (Fields.keys fields).Nodup ∧ ∀ entry ∈ fields, entry.2.WellFormed := by
  simp [WellFormed, isWellFormed, haveWellFormed_iff]

theorem WellFormed.of_get? {doc value : Doc} {key : String} (wellFormed : doc.WellFormed)
    (h : doc.get? key = some value) : value.WellFormed := by
  cases doc with
  | object fields => exact (wellFormed_object_iff.mp wellFormed).2 (key, value) (Fields.mem_of_get? h)
  | _ => cases h

theorem WellFormed.nodup_names {doc : Doc} (wellFormed : doc.WellFormed) : doc.names.Nodup := by
  cases doc with
  | object fields => exact (wellFormed_object_iff.mp wellFormed).1
  | _ => exact List.nodup_nil

mutual

/-- The same document with repeated names collapsed in every object: a name keeps its first
position and its last value. -/
def collapse : Doc → Doc
  | .array items => .array (collapseItems items)
  | .object fields => .object (Fields.ofList (collapseFields fields))
  | doc => doc
termination_by structural doc => doc

def collapseItems : List Doc → List Doc
  | [] => []
  | item :: rest => item.collapse :: collapseItems rest
termination_by structural items => items

def collapseFields : List (String × Doc) → List (String × Doc)
  | [] => []
  | (key, value) :: rest => (key, value.collapse) :: collapseFields rest
termination_by structural fields => fields

end

private theorem collapseItems_eq_self {items : List Doc}
    (each : ∀ item ∈ items, item.collapse = item) : collapseItems items = items := by
  induction items with
  | nil => rfl
  | cons item rest ih =>
    rw [collapseItems, each item List.mem_cons_self,
      ih fun item member => each item (List.mem_cons_of_mem _ member)]

private theorem collapseFields_eq_self {fields : List (String × Doc)}
    (each : ∀ entry ∈ fields, entry.2.collapse = entry.2) : collapseFields fields = fields := by
  induction fields with
  | nil => rfl
  | cons entry rest ih =>
    obtain ⟨key, value⟩ := entry
    have head : value.collapse = value := each (key, value) List.mem_cons_self
    rw [collapseFields, head, ih fun entry member => each entry (List.mem_cons_of_mem _ member)]

/-- A document without repeated names has nothing to collapse. -/
theorem WellFormed.collapse_eq_self {doc : Doc} (wellFormed : doc.WellFormed) :
    doc.collapse = doc := by
  induction doc using Doc.induction with
  | array items ih =>
    have each := wellFormed_array_iff.mp wellFormed
    rw [collapse, collapseItems_eq_self fun item member => ih item member (each item member)]
  | object fields ih =>
    obtain ⟨nodup, each⟩ := wellFormed_object_iff.mp wellFormed
    rw [collapse, collapseFields_eq_self fun entry member => ih entry member (each entry member),
      Fields.ofList_eq_self nodup]
  | _ => rfl

mutual

/-- The number of documents inside, the document itself included. -/
def nodes : Doc → Nat
  | .array items => 1 + nodesOfItems items
  | .object fields => 1 + nodesOfFields fields
  | _ => 1
termination_by structural doc => doc

def nodesOfItems : List Doc → Nat
  | [] => 0
  | item :: rest => item.nodes + nodesOfItems rest
termination_by structural items => items

def nodesOfFields : List (String × Doc) → Nat
  | [] => 0
  | (_, value) :: rest => value.nodes + nodesOfFields rest
termination_by structural fields => fields

end

mutual

/-- How many lists and objects stand around the deepest place inside, its own included. -/
def depth : Doc → Nat
  | .array items => depthOfItems items + 1
  | .object fields => depthOfFields fields + 1
  | _ => 0
termination_by structural doc => doc

def depthOfItems : List Doc → Nat
  | [] => 0
  | item :: rest => max item.depth (depthOfItems rest)
termination_by structural items => items

def depthOfFields : List (String × Doc) → Nat
  | [] => 0
  | (_, value) :: rest => max value.depth (depthOfFields rest)
termination_by structural fields => fields

end

theorem depthOfFields_le_iff {fields : List (String × Doc)} {bound : Nat} :
    depthOfFields fields ≤ bound ↔ ∀ entry ∈ fields, entry.2.depth ≤ bound := by
  induction fields with
  | nil => simp [depthOfFields]
  | cons entry rest ih =>
    obtain ⟨key, value⟩ := entry
    rw [depthOfFields, Nat.max_le, ih, List.forall_mem_cons]

theorem depth_object_le_iff {fields : List (String × Doc)} {bound : Nat} :
    (object fields).depth ≤ bound + 1 ↔ ∀ entry ∈ fields, entry.2.depth ≤ bound := by
  simp [depth, depthOfFields_le_iff]

end Doc

end Reconcile
