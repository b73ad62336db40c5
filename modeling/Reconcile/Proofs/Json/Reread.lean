import Reconcile.Proofs.Doc.Without
import Reconcile.Proofs.Json.Numeral
import Reconcile.Proofs.Number.Stepwise

/-!
# Documents whose doubles read back

Reading the text of a document back gives the document with each number read back
(`Doc.reread?`), so its names, its texts and its integers are what they were. Rounding to the nearest
gives back every double (`Number.reread?_nearest`). Rounding by steps need not: `Double.ReadsBack` says
that it does, which is so for a double of few digits (`Double.readsBack_of_short`), and a document
whose doubles all read back (`Doc.DoublesReadBack`) is read back as it was.
-/
namespace Reconcile

/-- What is read where the number was written. -/
def Number.reread? (rounding : Rounding) (number : Number) : Option Number :=
  (Json.readNumber rounding (number.write Json.layout)).map Prod.fst

/-- The text of the double is read as that double. -/
def Double.ReadsBack (d : Double) : Prop :=
  (Number.double d).reread? .stepwise = some (.double d)

instance (d : Double) : Decidable d.ReadsBack := inferInstanceAs (Decidable (_ = _))

namespace Doc

mutual

/-- The document with every number changed, if there is an answer for each. -/
def mapNumbers? (change : Number → Option Number) : Doc → Option Doc
  | .number n => (change n).map .number
  | .array items => (mapNumbersOfItems? change items).map .array
  | .object fields => (mapNumbersOfFields? change fields).map .object
  | doc => some doc
termination_by structural doc => doc

def mapNumbersOfItems? (change : Number → Option Number) : List Doc → Option (List Doc)
  | [] => some []
  | item :: rest =>
    (item.mapNumbers? change).bind fun changed =>
      (mapNumbersOfItems? change rest).map fun others => changed :: others
termination_by structural items => items

def mapNumbersOfFields? (change : Number → Option Number) :
    List (String × Doc) → Option (List (String × Doc))
  | [] => some []
  | (key, value) :: rest =>
    (value.mapNumbers? change).bind fun changed =>
      (mapNumbersOfFields? change rest).map fun others => (key, changed) :: others
termination_by structural fields => fields

end

/-- What is read where the document was written. -/
def reread? (rounding : Rounding) (doc : Doc) : Option Doc := doc.mapNumbers? (·.reread? rounding)

def doublesReadBack : Doc → Bool
  | .number (.double d) => decide d.ReadsBack
  | _ => true

/-- Every double inside reads back. -/
def DoublesReadBack (doc : Doc) : Prop := doc.everywhere doublesReadBack = true

instance (doc : Doc) : Decidable doc.DoublesReadBack := inferInstanceAs (Decidable (_ = true))

theorem DoublesReadBack.without {doc : Doc} (readsBack : doc.DoublesReadBack)
    (path : List String) : (doc.without path).DoublesReadBack :=
  everywhere_without (fun _ => rfl) readsBack path

variable {change : Number → Option Number}

theorem mem_of_mapNumbersOfItems? {items others : List Doc} {other : Doc}
    (h : mapNumbersOfItems? change items = some others) (member : other ∈ others) :
    ∃ item ∈ items, item.mapNumbers? change = some other := by
  induction items generalizing others with
  | nil =>
    cases h
    cases member
  | cons item rest ih =>
    rw [mapNumbersOfItems?, Option.bind_eq_some_iff] at h
    obtain ⟨changed, first, h⟩ := h
    obtain ⟨tail, following, rfl⟩ := Option.map_eq_some_iff.mp h
    rcases List.mem_cons.mp member with rfl | later
    · exact ⟨item, List.mem_cons_self, first⟩
    · obtain ⟨old, listed, same⟩ := ih following later
      exact ⟨old, List.mem_cons_of_mem _ listed, same⟩

/-- The names of an object stay, and each value is changed for itself. -/
theorem of_mapNumbersOfFields? {fields others : List (String × Doc)}
    (h : mapNumbersOfFields? change fields = some others) :
    Fields.keys others = Fields.keys fields ∧
      ∀ entry ∈ others, ∃ old ∈ fields, old.2.mapNumbers? change = some entry.2 := by
  induction fields generalizing others with
  | nil =>
    cases h
    exact ⟨rfl, nofun⟩
  | cons entry rest ih =>
    obtain ⟨key, value⟩ := entry
    rw [mapNumbersOfFields?, Option.bind_eq_some_iff] at h
    obtain ⟨changed, first, h⟩ := h
    obtain ⟨tail, following, rfl⟩ := Option.map_eq_some_iff.mp h
    obtain ⟨names, each⟩ := ih following
    refine ⟨by rw [Fields.keys_cons, Fields.keys_cons, names], fun entry member => ?_⟩
    rcases List.mem_cons.mp member with rfl | later
    · exact ⟨(key, value), List.mem_cons_self, first⟩
    · obtain ⟨old, listed, same⟩ := each entry later
      exact ⟨old, List.mem_cons_of_mem _ listed, same⟩

theorem WellFormed.of_mapNumbers? {doc other : Doc} (wellFormed : doc.WellFormed)
    (h : doc.mapNumbers? change = some other) : other.WellFormed := by
  induction doc using Doc.induction generalizing other with
  | number n =>
    obtain ⟨_, _, rfl⟩ := Option.map_eq_some_iff.mp h
    rfl
  | array items ih =>
    obtain ⟨others, mapped, rfl⟩ := Option.map_eq_some_iff.mp h
    refine wellFormed_array_iff.mpr fun other member => ?_
    obtain ⟨item, listed, same⟩ := mem_of_mapNumbersOfItems? mapped member
    exact ih item listed (wellFormed.of_mem listed) same
  | object fields ih =>
    obtain ⟨others, mapped, rfl⟩ := Option.map_eq_some_iff.mp h
    obtain ⟨nodup, formed⟩ := wellFormed_object_iff.mp wellFormed
    obtain ⟨names, each⟩ := of_mapNumbersOfFields? mapped
    refine wellFormed_object_iff.mpr ⟨names ▸ nodup, fun entry member => ?_⟩
    obtain ⟨old, listed, same⟩ := each entry member
    exact ih old listed (formed old listed) same
  | _ =>
    cases h
    exact wellFormed

theorem mapNumbersOfItems?_eq_self {items : List Doc}
    (each : ∀ item ∈ items, item.mapNumbers? change = some item) :
    mapNumbersOfItems? change items = some items := by
  induction items with
  | nil => rfl
  | cons item rest ih =>
    rw [mapNumbersOfItems?, each item List.mem_cons_self,
      ih fun item member => each item (List.mem_cons_of_mem _ member)]
    rfl

theorem mapNumbersOfFields?_eq_self {fields : List (String × Doc)}
    (each : ∀ entry ∈ fields, entry.2.mapNumbers? change = some entry.2) :
    mapNumbersOfFields? change fields = some fields := by
  induction fields with
  | nil => rfl
  | cons entry rest ih =>
    obtain ⟨key, value⟩ := entry
    have head : value.mapNumbers? change = some value := each (key, value) List.mem_cons_self
    rw [mapNumbersOfFields?, head, ih fun entry member => each entry (List.mem_cons_of_mem _ member)]
    rfl

/-- Where every number inside stays, the document does. -/
theorem mapNumbers?_eq_self {doc : Doc} {test : Doc → Bool} (h : doc.everywhere test = true)
    (kept : ∀ n, test (.number n) = true → change n = some n) :
    doc.mapNumbers? change = some doc := by
  induction doc using Doc.induction with
  | number n =>
    rw [mapNumbers?, kept n h]
    rfl
  | array items ih =>
    have inside := (everywhere_array_iff.mp h).2
    rw [mapNumbers?,
      mapNumbersOfItems?_eq_self fun item member => ih item member (inside item member)]
    rfl
  | object fields ih =>
    have inside := (everywhere_object_iff.mp h).2
    rw [mapNumbers?,
      mapNumbersOfFields?_eq_self fun entry member => ih entry member (inside entry member)]
    rfl
  | _ => rfl

end Doc

/-- What is read where a number was written depends on nothing that stands behind it. -/
theorem Json.readNumber_reread? (rounding : Rounding) (number : Number) {rest : List Char}
    (ends : EndsNumeral rest) :
    readNumber rounding (number.write layout ++ rest) =
      (number.reread? rounding).map fun number => (number, rest) := by
  have nothing : EndsNumeral [] := nofun
  unfold Number.reread?
  rw [← List.append_nil (number.write layout)]
  cases number with
  | int value fits =>
    unfold Number.write
    rw [readNumber_int rounding fits nothing, List.append_nil, readNumber_int rounding fits ends]
    rfl
  | double d =>
    obtain ⟨_, _, ⟨_, _, _, _, reads⟩, _⟩ := numeralOf_double layout d
    unfold Number.write
    rw [reads rounding [] nothing, List.append_nil, reads rounding rest ends, Option.map_map,
      Option.map_map]
    rfl

namespace Number

theorem reread?_int (rounding : Rounding) {value : Int} (fits : -2 ^ 63 ≤ value ∧ value < 2 ^ 64) :
    (int value fits).reread? rounding = some (int value fits) := by
  have reads := Json.readNumber_int rounding fits (nofun : Json.EndsNumeral [])
  rw [List.append_nil] at reads
  unfold reread? write
  rw [reads]
  rfl

theorem reread?_nearest (number : Number) : number.reread? .nearest = some number := by
  have reads := Json.readNumber_write Json.layout number (nofun : Json.EndsNumeral [])
  rw [List.append_nil] at reads
  unfold reread?
  rw [reads]
  rfl

end Number

/-- A numeral of few digits is rounded once. -/
theorem Json.PartsOf.stepwise_eq_nearest {run whole fraction : List Char} {exponent written : Int}
    (parts : PartsOf run exponent whole fraction written) (negative : Bool)
    (digits : ∀ c ∈ run, c.isDigit = true) (few : run.length ≤ 15) (last : -22 ≤ exponent)
    (size : run.length + exponent ≤ 14) :
    Rounding.stepwise negative whole fraction written =
      Rounding.nearest negative whole fraction written := by
  obtain ⟨zeros, total, point, behind⟩ := parts
  refine Rounding.stepwise_eq_nearest negative ?_ (by omega)
  calc
    Decimal.valueOfDigits (whole ++ fraction) = Decimal.valueOfDigits run * 10 ^ zeros := total
    _ < 10 ^ run.length * 10 ^ zeros :=
      Nat.mul_lt_mul_of_pos_right (Decimal.valueOfDigits_lt digits) (Nat.pow_pos (by decide))
    _ = 10 ^ (run.length + zeros) := (Nat.pow_add ..).symm
    _ ≤ 10 ^ 15 := Nat.pow_le_pow_right (by decide) (by omega)
    _ < 2 ^ 53 := by decide

/-- A double of at most 15 digits reads back, if it is below `10 ^ 14` and its last digit counts
`10 ^ -22` or more. -/
theorem Double.readsBack_of_short {d : Double} (few : d.shortest.1.length ≤ 15)
    (last : -22 ≤ d.shortest.2) (size : d.shortest.1.length + d.shortest.2 ≤ 14) : d.ReadsBack := by
  obtain ⟨run, exponent, ⟨whole, fraction, written, parts, reads⟩, digits, value, shape⟩ :=
    Json.numeralOf_double Json.layout d
  have bounds : run.length ≤ 15 ∧ -22 ≤ exponent ∧ run.length + exponent ≤ 14 := by
    rcases shape with ⟨_, rfl, rfl⟩ | shortest
    · decide
    · rw [← shortest] at few last size
      exact ⟨few, last, size⟩
  obtain ⟨few, last, size⟩ := bounds
  have reads := reads .stepwise [] nofun
  rw [List.append_nil, parts.stepwise_eq_nearest d.negative digits few last size, parts.nearest,
    value] at reads
  unfold ReadsBack Number.reread? Number.write
  rw [reads]
  rfl

namespace Doc

/-- What is read where an object was written is an object of the same names. -/
theorem reread?_object {rounding : Rounding} {fields : Fields Doc} {read : Doc}
    (h : (object fields).reread? rounding = some read) :
    ∃ kept, read = object kept ∧ Fields.keys kept = Fields.keys fields := by
  obtain ⟨kept, mapped, rfl⟩ := Option.map_eq_some_iff.mp h
  exact ⟨kept, rfl, (of_mapNumbersOfFields? mapped).1⟩

/-- Rounding to the nearest reads back every document. -/
theorem reread?_nearest (doc : Doc) : doc.reread? .nearest = some doc := by
  have everywhere : doc.everywhere (fun _ => true) = true := by
    induction doc using Doc.induction with
    | array items ih => exact everywhere_array_iff.mpr ⟨rfl, ih⟩
    | object fields ih => exact everywhere_object_iff.mpr ⟨rfl, ih⟩
    | _ => rfl
  exact mapNumbers?_eq_self everywhere fun n _ => n.reread?_nearest

/-- A document whose doubles read back is read back. -/
theorem DoublesReadBack.reread? {doc : Doc} (readsBack : doc.DoublesReadBack) :
    doc.reread? .stepwise = some doc := by
  refine mapNumbers?_eq_self readsBack fun n kept => ?_
  cases n with
  | int value fits => exact Number.reread?_int .stepwise fits
  | double d => exact of_decide_eq_true kept

end Doc

end Reconcile
