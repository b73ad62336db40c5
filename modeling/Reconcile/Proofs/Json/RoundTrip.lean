import Reconcile.Proofs.Json.Quoted
import Reconcile.Proofs.Json.Reread

/-!
# What is read of a written document

`readDoc_write` gives the answer of the reader on every written document, however it rounds: the
document with its numbers read back where the containers nest within the allowed depth, and none
where they do not. With no names repeated, `read?_compact` says the same of `Json.read?`. Rounding to
the nearest loses nothing, so distinct documents have distinct texts (`compact_injective`).

The induction follows the document. A list and an object add the text that stands between their
parts, and that text never continues a numeral.
-/
namespace Reconcile.Json

/-- The first character of a document is no blank and closes nothing. -/
def Opens (c : Char) : Prop := isBlank c = false ∧ c ≠ ']' ∧ c ≠ '\x7d'

theorem skipBlanks_cons {c : Char} (visible : isBlank c = false) (text : List Char) :
    skipBlanks (c :: text) = c :: text := by
  unfold skipBlanks
  rw [List.dropWhile_cons_of_neg (by rw [visible]; decide)]

/-- A numeral starts with a digit or the minus sign. -/
theorem readNumber_head {rounding : Rounding} {text rest : List Char} {number : Number}
    (reads : readNumber rounding text = some (number, rest)) :
    ∃ c tail, text = c :: tail ∧ (c = '-' ∨ c.isDigit = true) := by
  cases text with
  | nil => cases reads
  | cons c tail =>
    refine ⟨c, tail, rfl, ?_⟩
    by_cases minus : c = '-'
    · exact .inl minus
    · by_cases digit : c.isDigit = true
      · exact .inr digit
      · have sign : splitSign (c :: tail) = (false, c :: tail) := by
          unfold splitSign
          split
          case h_1 equal => exact absurd (List.cons.inj equal).1 minus
          case h_2 => rfl
        have run : (Decimal.spanDigits (c :: tail)).1 = [] := by
          unfold Decimal.spanDigits
          rw [List.takeWhile_cons_of_neg digit]
        unfold readNumber readMagnitude at reads
        rw [sign] at reads
        dsimp only at reads
        rw [run] at reads
        cases reads

/-- The characters that a numeral starts with start nothing else. -/
theorem numeral_head {c : Char} (head : c = '-' ∨ c.isDigit = true) :
    Opens c ∧ c ≠ 'n' ∧ c ≠ 't' ∧ c ≠ 'f' ∧ c ≠ '"' ∧ c ≠ '[' ∧ c ≠ '\x7b' := by
  have other : ∀ mark : Char, mark ≠ '-' → mark.isDigit = false → c ≠ mark := by
    rintro mark minus nondigit rfl
    rcases head with equal | digit
    · exact minus equal
    · rw [nondigit] at digit
      cases digit
  have blank : isBlank c = false := by
    unfold isBlank
    simp only [Bool.or_eq_false_iff, beq_eq_false_iff_ne]
    exact ⟨⟨⟨other _ (by decide) (by decide), other _ (by decide) (by decide)⟩,
      other _ (by decide) (by decide)⟩, other _ (by decide) (by decide)⟩
  refine ⟨⟨blank, ?_, ?_⟩, ?_, ?_, ?_, ?_, ?_, ?_⟩
  all_goals exact other _ (by decide) (by decide)

theorem write_number_head (number : Number) :
    ∃ c tail, number.write layout = c :: tail ∧ (c = '-' ∨ c.isDigit = true) := by
  have ends : EndsNumeral [] := nofun
  have reads := readNumber_write layout number ends
  rw [List.append_nil] at reads
  exact readNumber_head reads

theorem write_opens (doc : Doc) (rest : List Char) :
    ∃ c tail, write doc rest = c :: tail ∧ Opens c := by
  have opens : ∀ c : Char, isBlank c = false → c ≠ ']' → c ≠ '\x7d' → Opens c :=
    fun _ visible list object => ⟨visible, list, object⟩
  cases doc with
  | number number =>
    obtain ⟨c, tail, shape, head⟩ := write_number_head number
    refine ⟨c, tail ++ rest, ?_, (numeral_head head).1⟩
    rw [write, shape, List.cons_append]
  | bool value =>
    cases value with
    | true => exact ⟨_, _, rfl, opens _ (by decide) (by decide) (by decide)⟩
    | false => exact ⟨_, _, rfl, opens _ (by decide) (by decide) (by decide)⟩
  | _ => exact ⟨_, _, rfl, opens _ (by decide) (by decide) (by decide)⟩

theorem endsNumeral_of_mark {c : Char} {rest : List Char}
    (mark : c = ',' ∨ c = ']' ∨ c = '\x7d') : EndsNumeral (c :: rest) := by
  intro first member
  cases member
  rcases mark with rfl | rfl | rfl
  all_goals exact ⟨by decide, by decide, by decide, by decide⟩

/-- The answer of the reader on a written document. -/
def IsReread (rounding : Rounding) (doc : Doc) : Prop :=
  ∀ (fuel depth : Nat) (rest : List Char), 2 * doc.nodes ≤ fuel + 1 → EndsNumeral rest →
    readDoc rounding fuel depth (write doc rest) =
      (if doc.depth ≤ depth then doc.reread? rounding else none).map fun read => (read, rest)

variable {rounding : Rounding}

theorem readDoc_number {c : Char} (head : c = '-' ∨ c.isDigit = true) (fuel depth : Nat)
    (tail : List Char) : readDoc rounding (fuel + 1) depth (c :: tail) =
      (readNumber rounding (c :: tail)).map fun (number, rest) => (.number number, rest) := by
  obtain ⟨_, null, yes, no, quote, list, object⟩ := numeral_head head
  rw [readDoc.eq_def]
  dsimp only
  split
  case h_1 equal => exact absurd (List.cons.inj equal).1 null
  case h_2 equal => exact absurd (List.cons.inj equal).1 yes
  case h_3 equal => exact absurd (List.cons.inj equal).1 no
  case h_4 equal => exact absurd (List.cons.inj equal).1 quote
  case h_5 equal => exact absurd (List.cons.inj equal).1 list
  case h_6 equal => exact absurd (List.cons.inj equal).1 object
  case h_7 => rfl

theorem readDoc_list {c : Char} (opens : Opens c) (fuel depth : Nat) (tail : List Char) :
    readDoc rounding (fuel + 1) (depth + 1) ('[' :: c :: tail) =
      (readItems rounding fuel depth (c :: tail)).map fun (items, rest) =>
        (.array items, rest) := by
  obtain ⟨visible, list, _⟩ := opens
  have shape := skipBlanks_cons visible tail
  rw [readDoc]
  · rw [shape]
    split
    case h_1 equal => exact absurd (List.cons.inj equal).1 list
    case h_2 => rfl

theorem readDoc_object {c : Char} (opens : Opens c) (fuel depth : Nat) (tail : List Char) :
    readDoc rounding (fuel + 1) (depth + 1) ('\x7b' :: c :: tail) =
      (readFields rounding fuel depth (c :: tail)).map fun (fields, rest) =>
        (.object fields, rest) := by
  obtain ⟨visible, _, object⟩ := opens
  have shape := skipBlanks_cons visible tail
  rw [readDoc]
  · rw [shape]
    split
    case h_1 equal => exact absurd (List.cons.inj equal).1 object
    case h_2 => rfl

theorem readItems_none {fuel depth : Nat} {text : List Char}
    (reads : readDoc rounding fuel depth text = none) :
    readItems rounding (fuel + 1) depth text = none := by
  rw [readItems, reads]

theorem readItems_last {fuel depth : Nat} {text rest : List Char} {item : Doc}
    (reads : readDoc rounding fuel depth text = some (item, ']' :: rest)) :
    readItems rounding (fuel + 1) depth text = some ([item], rest) := by
  have closed : skipBlanks (']' :: rest) = ']' :: rest := skipBlanks_cons (by decide) rest
  rw [readItems, reads]
  dsimp only
  rw [closed]
  rfl

theorem readItems_more {fuel depth : Nat} {text after : List Char} {item : Doc}
    (reads : readDoc rounding fuel depth text = some (item, ',' :: after))
    (visible : skipBlanks after = after) :
    readItems rounding (fuel + 1) depth text =
      (readItems rounding fuel depth after).map fun (items, rest) => (item :: items, rest) := by
  have comma : skipBlanks (',' :: after) = ',' :: after := skipBlanks_cons (by decide) after
  rw [readItems, reads]
  dsimp only
  rw [comma]
  change (readItems rounding fuel depth (skipBlanks after)).map _ = _
  rw [visible]

/-- The name of a field and its colon are read, and then its value. -/
theorem readFields_value (fuel depth : Nat) (key : String) (text : List Char) :
    readFields rounding (fuel + 1) depth (writeString key (':' :: text)) =
      match readDoc rounding fuel depth (skipBlanks text) with
      | none => none
      | some (value, rest) =>
        match skipBlanks rest with
        | ',' :: rest =>
          (readFields rounding fuel depth (skipBlanks rest)).map fun (fields, rest) =>
            ((key, value) :: fields, rest)
        | '\x7d' :: rest => some ([(key, value)], rest)
        | _ => none := by
  have colon : skipBlanks (':' :: text) = ':' :: text := skipBlanks_cons (by decide) text
  unfold writeString
  rw [readFields, readString_toList]
  dsimp only
  rw [colon]
  rfl

theorem readFields_none {fuel depth : Nat} (key : String) {text : List Char}
    (visible : skipBlanks text = text) (reads : readDoc rounding fuel depth text = none) :
    readFields rounding (fuel + 1) depth (writeString key (':' :: text)) = none := by
  rw [readFields_value, visible, reads]

theorem readFields_last {fuel depth : Nat} (key : String) {text rest : List Char} {value : Doc}
    (visible : skipBlanks text = text)
    (reads : readDoc rounding fuel depth text = some (value, '\x7d' :: rest)) :
    readFields rounding (fuel + 1) depth (writeString key (':' :: text)) =
      some ([(key, value)], rest) := by
  have closed : skipBlanks ('\x7d' :: rest) = '\x7d' :: rest := skipBlanks_cons (by decide) rest
  rw [readFields_value, visible, reads]
  dsimp only
  rw [closed]
  rfl

theorem readFields_more {fuel depth : Nat} (key : String) {text after : List Char} {value : Doc}
    (visible : skipBlanks text = text)
    (reads : readDoc rounding fuel depth text = some (value, ',' :: after))
    (continued : skipBlanks after = after) :
    readFields rounding (fuel + 1) depth (writeString key (':' :: text)) =
      (readFields rounding fuel depth after).map fun (fields, rest) =>
        ((key, value) :: fields, rest) := by
  have comma : skipBlanks (',' :: after) = ',' :: after := skipBlanks_cons (by decide) after
  rw [readFields_value, visible, reads]
  dsimp only
  rw [comma]
  change (readFields rounding fuel depth (skipBlanks after)).map _ = _
  rw [continued]

theorem skipBlanks_write (doc : Doc) (rest : List Char) :
    skipBlanks (write doc rest) = write doc rest := by
  obtain ⟨c, tail, shape, visible, _⟩ := write_opens doc rest
  rw [shape, skipBlanks_cons visible]

theorem writeItems_opens {items : List Doc} (nonempty : items ≠ []) (rest : List Char) :
    ∃ c tail, writeItems items rest = c :: tail ∧ Opens c := by
  cases items with
  | nil => exact absurd rfl nonempty
  | cons item items =>
    rw [writeItems]
    exact write_opens item _

theorem writeFields_opens {fields : List (String × Doc)} (nonempty : fields ≠ [])
    (rest : List Char) : ∃ tail, writeFields fields rest = '"' :: tail := by
  cases fields with
  | nil => exact absurd rfl nonempty
  | cons entry fields =>
    rw [writeFields]
    exact ⟨_, rfl⟩

theorem nodes_pos (doc : Doc) : 0 < doc.nodes := by
  cases doc with
  | array items => exact Nat.lt_of_lt_of_le Nat.zero_lt_one (Nat.le_add_right ..)
  | object fields => exact Nat.lt_of_lt_of_le Nat.zero_lt_one (Nat.le_add_right ..)
  | _ => exact Nat.zero_lt_one

/-- Depth is granted to a whole exactly when it is granted to its parts. -/
theorem within_bind {α β γ : Type} {head others depth : Nat} (first : Option α) (rest : Option β)
    (f : α → β → γ) :
    (if max head others ≤ depth then first.bind fun x => rest.map (f x) else none) =
      (if head ≤ depth then first else none).bind fun x =>
        (if others ≤ depth then rest else none).map (f x) := by
  by_cases shallow : head ≤ depth
  · by_cases deeper : others ≤ depth
    · rw [if_pos (Nat.max_le.mpr ⟨shallow, deeper⟩), if_pos shallow, if_pos deeper]
    · rw [if_neg fun both => deeper (Nat.max_le.mp both).2, if_pos shallow, if_neg deeper]
      cases first with
      | none => rfl
      | some x => rfl
  · rw [if_neg fun both => shallow (Nat.max_le.mp both).1, if_neg shallow]
    rfl

/-- The items of a list are read back when each is. -/
theorem readItems_write {items : List Doc} (nonempty : items ≠ [])
    (each : ∀ item ∈ items, IsReread rounding item) {fuel : Nat} (depth : Nat) (rest : List Char)
    (enough : 2 * Doc.nodesOfItems items ≤ fuel) :
    readItems rounding fuel depth (writeItems items (']' :: rest)) =
      (if Doc.depthOfItems items ≤ depth
        then Doc.mapNumbersOfItems? (·.reread? rounding) items else none).map
          fun read => (read, rest) := by
  induction items generalizing fuel with
  | nil => exact absurd rfl nonempty
  | cons item items ih =>
    have positive := nodes_pos item
    rw [Doc.nodesOfItems] at enough
    obtain ⟨fuel, rfl⟩ : ∃ less, fuel = less + 1 := ⟨fuel - 1, by omega⟩
    have reads := fun after => each item List.mem_cons_self fuel depth after (by omega)
    have within : (if Doc.depthOfItems (item :: items) ≤ depth
        then Doc.mapNumbersOfItems? (·.reread? rounding) (item :: items) else none) = _ :=
      within_bind (item.reread? rounding) (Doc.mapNumbersOfItems? (·.reread? rounding) items)
        fun first others => first :: others
    rw [within, writeItems]
    cases items with
    | nil =>
      have last := reads (']' :: rest) (endsNumeral_of_mark (.inr (.inl rfl)))
      rw [List.isEmpty_nil, if_pos rfl]
      cases head : if item.depth ≤ depth then item.reread? rounding else none with
      | none =>
        rw [head] at last
        exact readItems_none last
      | some first =>
        rw [head] at last
        exact readItems_last last
    | cons next items =>
      obtain ⟨c, tail, shape, visible, _⟩ := writeItems_opens (List.cons_ne_nil next items)
        (']' :: rest)
      have more := reads (',' :: c :: tail) (endsNumeral_of_mark (.inl rfl))
      have fewer : 2 * Doc.nodesOfItems (next :: items) ≤ fuel := by omega
      have others := ih (List.cons_ne_nil next items)
        (fun item member => each item (List.mem_cons_of_mem _ member)) fewer
      rw [shape] at others
      rw [List.isEmpty_cons, if_neg (by decide), shape]
      cases head : if item.depth ≤ depth then item.reread? rounding else none with
      | none =>
        rw [head] at more
        exact readItems_none more
      | some first =>
        rw [head] at more
        rw [readItems_more more (skipBlanks_cons visible tail), others, Option.bind_some,
          Option.map_map, Option.map_map]
        rfl

/-- The fields of an object are read back when each of their values is. -/
theorem readFields_write {fields : List (String × Doc)} (nonempty : fields ≠ [])
    (each : ∀ entry ∈ fields, IsReread rounding entry.2) {fuel : Nat} (depth : Nat)
    (rest : List Char) (enough : 2 * Doc.nodesOfFields fields ≤ fuel) :
    readFields rounding fuel depth (writeFields fields ('\x7d' :: rest)) =
      (if Doc.depthOfFields fields ≤ depth
        then Doc.mapNumbersOfFields? (·.reread? rounding) fields else none).map
          fun read => (read, rest) := by
  induction fields generalizing fuel with
  | nil => exact absurd rfl nonempty
  | cons entry fields ih =>
    obtain ⟨key, value⟩ := entry
    have positive := nodes_pos value
    rw [Doc.nodesOfFields] at enough
    obtain ⟨fuel, rfl⟩ : ∃ less, fuel = less + 1 := ⟨fuel - 1, by omega⟩
    have reads := fun after => each (key, value) List.mem_cons_self fuel depth after
      (by dsimp only; omega)
    have within : (if Doc.depthOfFields ((key, value) :: fields) ≤ depth
        then Doc.mapNumbersOfFields? (·.reread? rounding) ((key, value) :: fields) else none) = _ :=
      within_bind (value.reread? rounding) (Doc.mapNumbersOfFields? (·.reread? rounding) fields)
        fun first others => (key, first) :: others
    rw [within, writeFields]
    cases fields with
    | nil =>
      have last := reads ('\x7d' :: rest) (endsNumeral_of_mark (.inr (.inr rfl)))
      rw [List.isEmpty_nil, if_pos rfl]
      cases head : if value.depth ≤ depth then value.reread? rounding else none with
      | none =>
        rw [head] at last
        exact readFields_none key (skipBlanks_write value _) last
      | some first =>
        rw [head] at last
        exact readFields_last key (skipBlanks_write value _) last
    | cons next fields =>
      obtain ⟨tail, shape⟩ := writeFields_opens (List.cons_ne_nil next fields) ('\x7d' :: rest)
      have more := reads (',' :: '"' :: tail) (endsNumeral_of_mark (.inl rfl))
      have fewer : 2 * Doc.nodesOfFields (next :: fields) ≤ fuel := by omega
      have others := ih (List.cons_ne_nil next fields)
        (fun entry member => each entry (List.mem_cons_of_mem _ member)) fewer
      rw [shape] at others
      rw [List.isEmpty_cons, if_neg (by decide), shape]
      cases head : if value.depth ≤ depth then value.reread? rounding else none with
      | none =>
        rw [head] at more
        exact readFields_none key (skipBlanks_write value _) more
      | some first =>
        rw [head] at more
        rw [readFields_more key (skipBlanks_write value _) more (skipBlanks_cons (by decide) tail),
          others, Option.bind_some, Option.map_map, Option.map_map]
        rfl

theorem isReread_scalar {doc : Doc} (flat : doc.depth = 0)
    (reads : ∀ fuel depth rest, EndsNumeral rest →
      readDoc rounding (fuel + 1) depth (write doc rest) =
        (doc.reread? rounding).map fun read => (read, rest)) : IsReread rounding doc := by
  intro fuel depth rest enough ends
  have positive := nodes_pos doc
  obtain ⟨fuel, rfl⟩ : ∃ less, fuel = less + 1 := ⟨fuel - 1, by omega⟩
  rw [flat, if_pos (Nat.zero_le depth)]
  exact reads fuel depth rest ends

/-- The reader answers every written document with what is read of its numbers, unless it nests too
deep. -/
theorem readDoc_write (rounding : Rounding) (doc : Doc) : IsReread rounding doc := by
  induction doc using Doc.induction with
  | null => exact isReread_scalar rfl fun _ _ _ _ => rfl
  | bool value =>
    cases value with
    | true => exact isReread_scalar rfl fun _ _ _ _ => rfl
    | false => exact isReread_scalar rfl fun _ _ _ _ => rfl
  | string value =>
    refine isReread_scalar rfl fun fuel depth rest _ => ?_
    rw [write, writeString, readDoc, readString_toList]
    rfl
  | number number =>
    refine isReread_scalar rfl fun fuel depth rest ends => ?_
    have reads := readNumber_reread? rounding number ends
    obtain ⟨c, tail, shape, head⟩ := write_number_head number
    rw [shape, List.cons_append] at reads
    rw [write, shape, List.cons_append, readDoc_number head, reads, Doc.reread?, Doc.mapNumbers?,
      Option.map_map, Option.map_map]
    rfl
  | array items ih =>
    intro fuel depth rest enough ends
    rw [Doc.nodes] at enough
    obtain ⟨fuel, rfl⟩ : ∃ less, fuel = less + 1 := ⟨fuel - 1, by omega⟩
    rw [Doc.depth, write]
    cases depth with
    | zero =>
      rw [if_neg (by omega), readDoc]
      rfl
    | succ depth =>
      by_cases nonempty : items = []
      · subst nonempty
        have flat : Doc.depthOfItems [] + 1 ≤ depth + 1 := Nat.succ_le_succ (Nat.zero_le depth)
        rw [if_pos flat]
        rfl
      · obtain ⟨c, tail, shape, opens⟩ := writeItems_opens nonempty (']' :: rest)
        have fewer : 2 * Doc.nodesOfItems items ≤ fuel := by omega
        have others := readItems_write nonempty ih depth rest fewer
        rw [shape] at others
        rw [shape, readDoc_list opens, others]
        simp only [Nat.add_le_add_iff_right, Doc.reread?, Doc.mapNumbers?]
        split
        · rw [Option.map_map, Option.map_map]
          rfl
        · rfl
  | object fields ih =>
    intro fuel depth rest enough ends
    rw [Doc.nodes] at enough
    obtain ⟨fuel, rfl⟩ : ∃ less, fuel = less + 1 := ⟨fuel - 1, by omega⟩
    rw [Doc.depth, write]
    cases depth with
    | zero =>
      rw [if_neg (by omega), readDoc]
      rfl
    | succ depth =>
      by_cases nonempty : fields = []
      · subst nonempty
        have flat : Doc.depthOfFields [] + 1 ≤ depth + 1 := Nat.succ_le_succ (Nat.zero_le depth)
        rw [if_pos flat]
        rfl
      · obtain ⟨tail, shape⟩ := writeFields_opens nonempty ('\x7d' :: rest)
        have fewer : 2 * Doc.nodesOfFields fields ≤ fuel := by omega
        have others := readFields_write nonempty ih depth rest fewer
        have opens : Opens '"' := ⟨by decide, by decide, by decide⟩
        rw [shape] at others
        rw [shape, readDoc_object opens, others]
        simp only [Nat.add_le_add_iff_right, Doc.reread?, Doc.mapNumbers?]
        split
        · rw [Option.map_map, Option.map_map]
          rfl
        · rfl

theorem length_le_writeString (value : String) (rest : List Char) :
    rest.length + 2 ≤ (writeString value rest).length := by
  unfold writeString
  simp only [List.length_cons, List.length_append]
  omega

theorem nodesOfItems_le_length {items : List Doc}
    (each : ∀ item ∈ items, ∀ rest : List Char,
      item.nodes + rest.length ≤ (write item rest).length) (rest : List Char) :
    Doc.nodesOfItems items + rest.length ≤ (writeItems items rest).length := by
  induction items with
  | nil =>
    rw [Doc.nodesOfItems, writeItems, Nat.zero_add]
  | cons item items ih =>
    have others := ih fun item member => each item (List.mem_cons_of_mem _ member)
    rw [Doc.nodesOfItems, writeItems]
    cases items with
    | nil =>
      have last := each item List.mem_cons_self rest
      rw [Doc.nodesOfItems]
      exact last
    | cons next items =>
      have more := each item List.mem_cons_self (',' :: writeItems (next :: items) rest)
      rw [List.length_cons] at more
      rw [List.isEmpty_cons, if_neg (by decide)]
      omega

theorem nodesOfFields_le_length {fields : List (String × Doc)}
    (each : ∀ entry ∈ fields, ∀ rest : List Char,
      entry.2.nodes + rest.length ≤ (write entry.2 rest).length) (rest : List Char) :
    Doc.nodesOfFields fields + rest.length ≤ (writeFields fields rest).length := by
  induction fields with
  | nil =>
    rw [Doc.nodesOfFields, writeFields, Nat.zero_add]
  | cons entry fields ih =>
    obtain ⟨key, value⟩ := entry
    have others := ih fun entry member => each entry (List.mem_cons_of_mem _ member)
    have head : ∀ rest, value.nodes + rest.length ≤ (write value rest).length :=
      each (key, value) List.mem_cons_self
    rw [Doc.nodesOfFields, writeFields]
    refine Nat.le_trans ?_ (Nat.le_trans (Nat.le_add_right _ 2) (length_le_writeString key _))
    rw [List.length_cons]
    cases fields with
    | nil =>
      have last := head rest
      rw [List.isEmpty_nil, if_pos rfl, Doc.nodesOfFields]
      omega
    | cons next fields =>
      have more := head (',' :: writeFields (next :: fields) rest)
      rw [List.length_cons] at more
      rw [List.isEmpty_cons, if_neg (by decide)]
      omega

/-- The text of a document is at least as long as the document has nodes. -/
theorem nodes_le_length (doc : Doc) :
    ∀ rest : List Char, doc.nodes + rest.length ≤ (write doc rest).length := by
  induction doc using Doc.induction with
  | array items ih =>
    intro rest
    have others := nodesOfItems_le_length ih (']' :: rest)
    rw [Doc.nodes, write]
    simp only [List.length_cons] at others ⊢
    omega
  | object fields ih =>
    intro rest
    have others := nodesOfFields_le_length ih ('\x7d' :: rest)
    rw [Doc.nodes, write]
    simp only [List.length_cons] at others ⊢
    omega
  | null =>
    intro rest
    rw [Doc.nodes, write]
    simp only [List.length_cons]
    omega
    all_goals nofun
  | bool value =>
    intro rest
    rw [Doc.nodes, write]
    cases value with
    | true => simp only [writeBool, List.length_cons]; omega
    | false => simp only [writeBool, List.length_cons]; omega
    all_goals nofun
  | number number =>
    intro rest
    obtain ⟨c, tail, shape, _⟩ := write_number_head number
    rw [Doc.nodes, write, shape, List.length_append, List.length_cons]
    omega
    all_goals nofun
  | string value =>
    intro rest
    have quoted := length_le_writeString value rest
    rw [Doc.nodes, write]
    omega
    all_goals nofun

/-- Reading the text of a document gives that document with its numbers read back and its repeated
names kept, or none if its containers nest deeper than allowed. -/
theorem readRaw?_write (depth : Nat) (doc : Doc) :
    readRaw? depth (write doc []) = if doc.depth ≤ depth then doc.reread? .stepwise else none := by
  have long := nodes_le_length doc []
  rw [List.length_nil] at long
  have ends : EndsNumeral [] := nofun
  unfold readRaw?
  rw [skipBlanks_write, readDoc_write .stepwise doc _ depth [] (by omega) ends]
  cases if doc.depth ≤ depth then doc.reread? .stepwise else none with
  | none => rfl
  | some read => rfl

/-- The text of a document without repeated names is read as that document with its numbers read
back, or not at all if its containers nest deeper than allowed. -/
theorem read?_compact (depth : Nat) {doc : Doc} (wellFormed : doc.WellFormed) :
    read? depth (compact doc) = if doc.depth ≤ depth then doc.reread? .stepwise else none := by
  unfold read? compact
  rw [String.toList_ofList, readRaw?_write]
  cases within : if doc.depth ≤ depth then doc.reread? .stepwise else none with
  | none => rfl
  | some read =>
    obtain ⟨_, reread⟩ := Option.ite_none_right_eq_some.mp within
    have formed : read.WellFormed := wellFormed.of_mapNumbers? reread
    rw [Option.map_some, formed.collapse_eq_self]

/-- Distinct documents have distinct texts. -/
theorem compact_injective : Function.Injective compact := by
  intro a b same
  have texts : write a [] = write b [] := String.ofList_injective same
  have ends : EndsNumeral [] := nofun
  have fuel : 2 * a.nodes ≤ 2 * (a.nodes + b.nodes) + 1 ∧
      2 * b.nodes ≤ 2 * (a.nodes + b.nodes) + 1 := by omega
  have first := readDoc_write .nearest a _ (max a.depth b.depth) [] fuel.1 ends
  have second := readDoc_write .nearest b _ (max a.depth b.depth) [] fuel.2 ends
  rw [if_pos (Nat.le_max_left ..), a.reread?_nearest] at first
  rw [if_pos (Nat.le_max_right ..), b.reread?_nearest, ← texts, first] at second
  exact (Prod.mk.inj (Option.some.inj second)).1

end Reconcile.Json
