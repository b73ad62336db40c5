import Reconcile.Proofs.Doc.Matched
import Reconcile.Proofs.Merge.Agree
import Reconcile.Proofs.Merge.Elements

/-!
# Only the structure of what was last applied counts

Two last applied documents are alike when they have the same names and lists of the same lengths,
with the same values in the identity fields of their elements; their other values may differ.
`merge_alike`: a merge cannot tell alike documents apart. Both give the same document, or both fail
with a conflict of one side at one path. What was last applied is read in four places, the check of
its shape, the retraction, the choice of the identity field and the reading by identity, and each of
them sees names and identities only.
-/
namespace Reconcile

inductive Alike : Doc → Doc → Prop where
  | null : Alike .null .null
  | scalar {a b : Doc} (left : a.isScalar = true) (right : b.isScalar = true)
      (leftNotNull : a ≠ .null) (rightNotNull : b ≠ .null) : Alike a b
  | object {a b : Fields Doc} (names : ∀ key, key ∈ a.keys ↔ key ∈ b.keys)
      (values : ∀ key x y, a.get? key = some x → b.get? key = some y → Alike x y) :
      Alike (.object a) (.object b)
  | array {a b : List Doc} (items : List.Forall₂ Alike a b)
      (identities : List.Forall₂ (fun x y => ∀ key ∈ identityKeys, x.get? key = y.get? key) a b) :
      Alike (.array a) (.array b)

/-- Conflicts of one side at one path, where one shape was expected. -/
inductive SameConflict : Failure → Failure → Prop where
  | mk (side : Side) (path : Path) (expected found found' : Shape) :
      SameConflict (.shapeMismatch side path expected found)
        (.shapeMismatch side path expected found')

namespace Alike

variable {a b : Doc}

theorem get? (h : Alike a b) (key : String) : Option.Rel Alike (a.get? key) (b.get? key) := by
  cases h with
  | null => exact .none
  | scalar left right _ _ =>
    rw [Doc.get?_of_scalar left, Doc.get?_of_scalar right]
    exact .none
  | object names values => exact Fields.rel_get? names values key
  | array => exact .none

theorem of_matched {a b : Fields Doc} (h : Fields.Matched Alike a b) :
    Alike (.object a) (.object b) := by
  refine .object (fun key => by rw [h.keys]) fun key x y left right => ?_
  have related := h.get? key
  rw [left, right] at related
  cases related with
  | some alike => exact alike

end Alike

section SharedKey

variable {a b : List Doc}

/-- Alike lists leave the choice of the identity field as it is. -/
theorem sharedKey?_alike (current desired : List Doc) (h : List.Forall₂ Alike a b) :
    sharedKey? [current, a, desired] = sharedKey? [current, b, desired] := by
  have same (items : List Doc) :
      List.Forall₂ (fun x y : Doc => ∀ key, hasField key x = hasField key y) items items :=
    List.forall₂_same.mpr fun _ _ _ => rfl
  have alike := h.imp fun x y alike key => hasField_of_rel (alike.get? key)
  exact sharedKey?_of_forall₂ (.cons (same current) (.cons alike (.cons (same desired) .nil)))

end SharedKey

section Expected

variable {side : Side} {path : Path} {last₁ last₂ : Option Doc}

theorem expectObject_scalar {doc : Doc} (scalar : doc.isScalar = true) (notNull : doc ≠ .null) :
    expectObject side path (some doc) = .error (.shapeMismatch side path .object doc.shape) := by
  cases doc with
  | null => exact absurd rfl notNull
  | object fields => cases scalar
  | _ => rfl

theorem expectArray_scalar {doc : Doc} (scalar : doc.isScalar = true) (notNull : doc ≠ .null) :
    expectArray side path (some doc) = .error (.shapeMismatch side path .array doc.shape) := by
  cases doc with
  | null => exact absurd rfl notNull
  | array items => cases scalar
  | _ => rfl

theorem expectObject_alike (h : Option.Rel Alike last₁ last₂) :
    Agree SameConflict (Option.Rel fun a b => Alike (.object a) (.object b))
      (expectObject side path last₁) (expectObject side path last₂) := by
  cases h with
  | none => exact .ok .none
  | some alike =>
    cases alike with
    | null => exact .ok .none
    | object names values => exact .ok (.some (.object names values))
    | array => exact .error (.mk ..)
    | scalar left right leftNotNull rightNotNull =>
      rw [expectObject_scalar left leftNotNull, expectObject_scalar right rightNotNull]
      exact .error (.mk ..)

theorem expectArray_alike (h : Option.Rel Alike last₁ last₂) :
    Agree SameConflict (fun a b => Alike (.array a) (.array b))
      (expectArray side path last₁) (expectArray side path last₂) := by
  cases h with
  | none => exact .ok (.array .nil .nil)
  | some alike =>
    cases alike with
    | null => exact .ok (.array .nil .nil)
    | object => exact .error (.mk ..)
    | array items identities => exact .ok (.array items identities)
    | scalar left right leftNotNull rightNotNull =>
      rw [expectArray_scalar left leftNotNull, expectArray_scalar right rightNotNull]
      exact .error (.mk ..)

end Expected

/-- A revision that cannot tell alike documents apart. -/
def Revision.Unswayed (revision : Revision) : Prop :=
  ∀ {path : Path} {current : Doc} {last₁ last₂ : Option Doc}, Option.Rel Alike last₁ last₂ →
    Agree SameConflict Eq (revision path current last₁) (revision path current last₂)

section Revisions

variable {path : Path} {last₁ last₂ : Option (Fields Doc)}

theorem retract_alike (current : Fields Doc) (desired : List String)
    (h : Option.Rel (fun a b => Alike (.object a) (.object b)) last₁ last₂) :
    retract current last₁ desired = retract current last₂ desired := by
  cases h with
  | none => rfl
  | @some a b alike =>
    have contains : ∀ key, a.contains key = b.contains key := fun key => by
      have same := hasField_of_rel (alike.get? key)
      rwa [hasField_eq, hasField_eq] at same
    simp only [retract, contains]

/-- The retraction is the same, and after it each step starts from the same fields. -/
theorem reviseFields_alike {current : Fields Doc} {revisions : Fields Revision}
    (h : Option.Rel (fun a b => Alike (.object a) (.object b)) last₁ last₂)
    (each : ∀ entry ∈ revisions, Revision.Unswayed entry.2) :
    Agree SameConflict Eq (reviseFields path current last₁ revisions)
      (reviseFields path current last₂ revisions) := by
  unfold reviseFields
  rw [retract_alike current revisions.keys h]
  refine Agree.foldlM rfl fun entry member fields _ same => ?_
  subst same
  have known : Option.Rel Alike (last₁.bind (·.get? entry.1)) (last₂.bind (·.get? entry.1)) := by
    cases h with
    | none => exact .none
    | some alike => exact alike.get? entry.1
  refine (each entry member known).bind fun value _ same => ?_
  subst same
  exact .ok rfl

theorem reviseElements_alike {key : String} {current applied₁ applied₂ : List Doc}
    {revisions : List (Doc × Revision)} (known : key ∈ identityKeys)
    (h : Alike (.array applied₁) (.array applied₂))
    (each : ∀ entry ∈ revisions, Revision.Unswayed entry.2) :
    Agree SameConflict Eq (reviseElements path key current applied₁ revisions)
      (reviseElements path key current applied₂ revisions) := by
  cases h with
  | scalar left => cases left
  | array items identities =>
    have matched : Fields.Matched Alike (byIdentity key applied₁) (byIdentity key applied₂) := by
      refine byIdentity_matched items (identities.imp fun x y same => ?_)
      rw [Doc.identity, Doc.identity, same key known]
    have unswayed : ∀ entry ∈ Fields.ofList
        (revisions.map fun entry => (entry.1.identity key, entry.2)), Revision.Unswayed entry.2 := by
      intro entry member
      obtain ⟨listed, present, rfl⟩ := List.mem_map.mp (Fields.mem_ofList member)
      exact each listed present
    refine (reviseFields_alike (.some (.of_matched matched)) unswayed).bind fun merged _ same => ?_
    subst same
    exact .ok rfl

end Revisions

/-- One level of a merge, where the revisions of the parts are unswayed by the induction. -/
theorem unswayed_of_parts {desired : Doc}
    (fields : ∀ revisions, desired.fieldRevisions? = some revisions →
      ∀ entry ∈ revisions, Revision.Unswayed entry.2)
    (items : ∀ revisions, desired.itemRevisions? = some revisions →
      ∀ entry ∈ revisions, Revision.Unswayed entry.2) :
    Revision.Unswayed desired.revision := by
  intro path current last₁ last₂ alike
  change Agree _ _ (mergeAt path current last₁ desired) (mergeAt path current last₂ desired)
  cases current with
  | object current =>
    rw [mergeAt_object, mergeAt_object]
    refine (expectObject_alike alike).bind fun applied₁ applied₂ related => ?_
    cases found : desired.fieldRevisions? with
    | none => exact .error (.mk ..)
    | some revisions =>
      refine (reviseFields_alike related (fields revisions found)).bind fun out _ same => ?_
      subst same
      exact .ok rfl
  | array current =>
    rw [mergeAt_array, mergeAt_array]
    refine (expectArray_alike alike).bind fun applied₁ applied₂ related => ?_
    cases found : desired.itemRevisions? with
    | none => exact .error (.mk ..)
    | some revisions =>
      have shared : sharedKey? [current, applied₁, revisions.map (·.1)] =
          sharedKey? [current, applied₂, revisions.map (·.1)] := by
        cases related with
        | scalar left => cases left
        | array pairs _ => exact sharedKey?_alike current _ pairs
      dsimp only
      rw [shared]
      cases detected : sharedKey? [current, applied₂, revisions.map (·.1)] with
      | none => exact .ok rfl
      | some key =>
        have known := (sharedKey?_eq_some detected).1
        refine (reviseElements_alike known related (items revisions found)).bind fun out _ same => ?_
        subst same
        exact .ok rfl
  | _ =>
    rw [mergeAt_scalar rfl, mergeAt_scalar rfl]
    exact .ok rfl

theorem unswayed (desired : Doc) : Revision.Unswayed desired.revision := by
  induction desired using Doc.induction with
  | null =>
    refine unswayed_of_parts ?_ ?_
    · rintro _ ⟨⟩ entry member
      cases member
    · rintro _ ⟨⟩ entry member
      cases member
  | object fields ih =>
    refine unswayed_of_parts ?_ fun _ found => by cases found
    rintro _ ⟨⟩ entry member
    obtain ⟨field, listed, rfl⟩ := List.mem_map.mp member
    exact ih field listed
  | array items ih =>
    refine unswayed_of_parts (fun _ found => by cases found) ?_
    rintro _ ⟨⟩ entry member
    obtain ⟨item, listed, rfl⟩ := List.mem_map.mp member
    exact ih item listed
  | _ => exact unswayed_of_parts (fun _ found => by cases found) fun _ found => by cases found

/-- Only the structure of what was last applied counts: with alike documents in its place a merge
gives the same document, or fails with a conflict of the same side at the same path. -/
theorem merge_alike {observed desired last₁ last₂ : Doc} (alike : Alike last₁ last₂) :
    Agree SameConflict Eq (merge observed (some last₁) desired)
      (merge observed (some last₂) desired) :=
  unswayed desired (.some alike)

section Gateway

private def listener (name : String) (own : Fields Doc) : Doc :=
  .object (("name", .string name) :: own)

private def gateway (args : List Doc) (listeners : List Doc) (own : Fields Doc) : Doc :=
  .object (("args", .array args) :: ("listeners", .array listeners) :: own)

/-- What was applied holds a value that nobody else knows. -/
private def appliedGateway (secret : Doc) : Doc :=
  gateway [secret] [listener "dns" [("weight", secret)], listener "web" [("weight", secret)]]
    [("legacy", secret)]

private def observedGateway : Doc :=
  gateway [.string "verbose"] [listener "web" [("weight", .null), ("node", .string "n1")],
    listener "dns" [], listener "ssh" []] [("legacy", .object [])]

private def desiredGateway : Doc := gateway [.string "quiet"] [listener "web" [("weight", .null)]] []

private def mergedGateway : Doc :=
  gateway [.string "quiet"] [listener "web" [("weight", .null), ("node", .string "n1")],
    listener "ssh" []] []

private theorem alike_appliedGateway :
    Alike (appliedGateway (.bool true)) (appliedGateway (.string "s3cret")) := by
  have alike : Alike (.bool true) (.string "s3cret") := .scalar rfl rfl nofun nofun
  have element (name : String) : Alike (listener name [("weight", .bool true)])
      (listener name [("weight", .string "s3cret")]) :=
    .of_matched (.cons ⟨rfl, .scalar rfl rfl nofun nofun⟩ (.cons ⟨rfl, alike⟩ .nil))
  have identities (name : String) : ∀ key ∈ identityKeys,
      (listener name [("weight", .bool true)]).get? key =
        (listener name [("weight", .string "s3cret")]).get? key := by
    intro key known
    have different : "weight" ≠ key := fun equal => absurd (equal ▸ known) (by decide)
    simp [listener, Doc.get?, Fields.get?_cons, different]
  refine .of_matched (.cons ⟨rfl, ?_⟩ (.cons ⟨rfl, ?_⟩ (.cons ⟨rfl, alike⟩ .nil)))
  · exact .array (.cons alike .nil) (.cons (fun _ _ => rfl) .nil)
  · exact .array (.cons (element _) (.cons (element _) .nil))
      (.cons (identities _) (.cons (identities _) .nil))

/-- Neither value comes out, and where an object is observed both conflict in the same way. -/
theorem merge_alike_gateway :
    Alike (appliedGateway (.bool true)) (appliedGateway (.string "s3cret")) ∧
      merge observedGateway (some (appliedGateway (.bool true))) desiredGateway =
        .ok mergedGateway ∧
      merge observedGateway (some (appliedGateway (.string "s3cret"))) desiredGateway =
        .ok mergedGateway ∧
      merge observedGateway (some (appliedGateway (.bool true))) observedGateway =
        .error (.shapeMismatch .lastApplied ⟨["legacy"]⟩ .object .bool) ∧
      Agree SameConflict Eq
        (merge observedGateway (some (appliedGateway (.bool true))) observedGateway)
        (merge observedGateway (some (appliedGateway (.string "s3cret"))) observedGateway) := by
  have first : merge observedGateway (some (appliedGateway (.bool true))) desiredGateway =
      .ok mergedGateway := rfl
  have agree : Agree SameConflict Eq
      (merge observedGateway (some (appliedGateway (.bool true))) desiredGateway)
      (merge observedGateway (some (appliedGateway (.string "s3cret"))) desiredGateway) :=
    merge_alike alike_appliedGateway
  refine ⟨alike_appliedGateway, first, ?_, rfl, merge_alike alike_appliedGateway⟩
  rw [first] at agree
  generalize merge observedGateway (some (appliedGateway (.string "s3cret"))) desiredGateway =
    outcome at agree ⊢
  cases agree with
  | ok same => rw [same]

end Gateway

end Reconcile
