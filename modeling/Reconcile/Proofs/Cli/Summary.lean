import Reconcile.Cli.Run
import Reconcile.Proofs.Change.Noop
import Reconcile.Proofs.Marker.Recording
import Reconcile.Proofs.Merge.Formed
import Reconcile.Proofs.Yaml.Formed

/-!
# The summary of a run

The commands that merge can print how much the merged document changes the observed one. A run of
one of them reads the observed document or fetches it, prints a merged one and counts from the one to
the other (`Command.run_observes`); both are free of repeated names, whatever was read, so the
summary reads nothing exactly when the printed document equals the observed one
(`summary_reads_nothing_iff`).
-/
namespace Reconcile.Cli

/-- How the observed document is had, for the commands that merge into one: from a file, or from the
cluster for the desired document of a file. -/
def Command.observed? (around : Surroundings) : Command → Option (Running Doc)
  | .merge observed _ _ => some (load around observed)
  | .apply observed _ _ => some (load around observed)
  | .live desired override => some do
    let current ← fetchFor around (← load around desired) override
    observedLive current
  | _ => none

section Running

variable {α β : Type} {input rest : Except String String}

/-- A run that succeeds has gone through its first step. -/
theorem run_bind_success {step : Running α} {next : α → Running β} {result : β}
    (ran : (step >>= next).run input = .ok (result, rest)) :
    ∃ value left, step.run input = .ok (value, left) ∧
      (next value).run left = .ok (result, rest) := by
  rw [StateT.run_bind] at ran
  obtain ⟨⟨value, left⟩, first, ran⟩ := ok_of_bind ran
  exact ⟨value, left, first, ran⟩

theorem run_liftM_success {outcome : Except Trouble α} {result : α}
    (ran : (liftM outcome : Running α).run input = .ok (result, rest)) : outcome = .ok result := by
  cases outcome with
  | error trouble => cases ran
  | ok value =>
    cases ran
    rfl

theorem run_bind_of_run {step : Running α} {next : α → Running β} {value : α}
    {left : Except String String} (first : step.run input = .ok (value, left)) :
    (step >>= next).run input = (next value).run left := by
  rw [StateT.run_bind, first]
  rfl

theorem run_liftM_ok (result : α) :
    (liftM (Except.ok result : Except Trouble α) : Running α).run input = .ok (result, input) :=
  rfl

theorem result_eq_ok_iff {step : Running α} {result : α} :
    step.run' input = .ok result ↔ ∃ rest, step.run input = .ok (result, rest) := by
  change Prod.fst <$> step.run input = .ok result ↔ _
  cases step.run input with
  | error trouble =>
    constructor
    · intro impossible
      cases impossible
    · rintro ⟨_, impossible⟩
      cases impossible
  | ok taken =>
    constructor
    · intro equal
      cases equal
      exact ⟨taken.2, rfl⟩
    · rintro ⟨_, equal⟩
      cases equal
      rfl

end Running

section Steps

variable {settings : Settings} {around : Surroundings} {observed desired : Doc} {report : Report}

theorem wellFormed_load {path : String} {doc : Doc} {input rest : Except String String}
    (ran : (load around path).run input = .ok (doc, rest)) : doc.WellFormed := by
  obtain ⟨text, left, _, ran⟩ := run_bind_success ran
  cases read : around.limits.readDoc text with
  | error refusal =>
    rw [read] at ran
    cases ran
  | ok doc =>
    rw [read] at ran
    cases ran
    exact Limits.wellFormed_readDoc read

theorem ok_of_mapError {ε ε' α : Type} {outcome : Except ε α} {cause : ε → ε'} {result : α}
    (ran : outcome.mapError cause = .ok result) : outcome = .ok result := by
  cases outcome with
  | error reason => cases ran
  | ok result =>
    cases ran
    rfl

theorem wellFormed_observedLive {current : Option LiveObject} {doc : Doc}
    (encoded : observedLive current = .ok doc) : doc.WellFormed := by
  cases current with
  | some object => exact object.formed doc (ok_of_mapError encoded)
  | none =>
    cases encoded
    rfl

/-- A preview prints a merged document, and what it changes if that is asked for. -/
theorem preview_success {last : Option Doc} (formed : observed.WellFormed)
    (formed' : desired.WellFormed) (ran : preview settings observed last desired = .ok report) :
    ∃ merged : Doc, merged.WellFormed ∧
      report = ⟨merged, if settings.summary then some (.between merged observed) else none⟩ := by
  obtain ⟨merged, outcome, ran⟩ := ok_of_bind ran
  cases ran
  exact ⟨merged, mergeAt_wellFormed formed formed' (ok_of_mapError outcome), rfl⟩

theorem previewStep_success {ignoreBad : Bool} {path : String} (formed : observed.WellFormed)
    (formed' : desired.WellFormed)
    (ran : previewStep settings ignoreBad path observed desired = .ok report) :
    ∃ merged : Doc, merged.WellFormed ∧
      report = ⟨merged, if settings.summary then some (.between merged observed) else none⟩ := by
  obtain ⟨last, _, ran⟩ := ok_of_bind ran
  obtain ⟨stamped, stamp, ran⟩ := ok_of_bind ran
  exact preview_success formed (Marker.wellFormed_stamp formed' (ok_of_mapError stamp)) ran

theorem previewLive_success {current : Option LiveObject} (formed : desired.WellFormed)
    (ran : previewLive settings current desired = .ok report) :
    ∃ observed, observedLive current = .ok observed ∧ observed.WellFormed ∧
      ∃ merged : Doc, merged.WellFormed ∧
        report = ⟨merged, if settings.summary then some (.between merged observed) else none⟩ := by
  obtain ⟨last, _, ran⟩ := ok_of_bind ran
  obtain ⟨observed, encoded, ran⟩ := ok_of_bind ran
  obtain ⟨stamped, stamp, ran⟩ := ok_of_bind ran
  have formedObserved := wellFormed_observedLive encoded
  refine ⟨observed, encoded, formedObserved, ?_⟩
  exact preview_success formedObserved (Marker.wellFormed_stamp formed (ok_of_mapError stamp)) ran

/-- A run that merges has an observed document, and reports on a document without repeated names. -/
theorem Command.run_observes {command : Command} {observe : Running Doc}
    {input rest : Except String String} (observes : command.observed? around = some observe)
    (ran : (command.run settings around).run input = .ok (report, rest)) :
    ∃ observed left, observe.run input = .ok (observed, left) ∧ observed.WellFormed ∧
      ∃ merged : Doc, merged.WellFormed ∧
        report = ⟨merged, if settings.summary then some (.between merged observed) else none⟩ := by
  cases command with
  | merge file lastApplied desired =>
    cases observes
    obtain ⟨observed, left, loaded, ran⟩ := run_bind_success ran
    obtain ⟨wanted, _, loadedWanted, ran⟩ := run_bind_success ran
    -- What was last applied may be anything: its values do not get into the merged document.
    obtain ⟨last, _, _, ran⟩ := run_bind_success ran
    have formed := wellFormed_load loaded
    refine ⟨observed, left, loaded, formed, ?_⟩
    exact preview_success formed (wellFormed_load loadedWanted) (run_liftM_success ran)
  | apply file desired ignoreBad =>
    cases observes
    obtain ⟨observed, left, loaded, ran⟩ := run_bind_success ran
    obtain ⟨wanted, _, loadedWanted, ran⟩ := run_bind_success ran
    have formed := wellFormed_load loaded
    refine ⟨observed, left, loaded, formed, ?_⟩
    exact previewStep_success formed (wellFormed_load loadedWanted) (run_liftM_success ran)
  | live file override =>
    cases observes
    obtain ⟨wanted, left, loaded, ran⟩ := run_bind_success ran
    obtain ⟨current, after, fetched, ran⟩ := run_bind_success ran
    obtain ⟨observed, encoded, formed, merged⟩ :=
      previewLive_success (wellFormed_load loaded) (run_liftM_success ran)
    refine ⟨observed, after, ?_, formed, merged⟩
    rw [run_bind_of_run loaded, run_bind_of_run fetched, encoded]
    exact run_liftM_ok observed
  | _ => cases observes

/-- The program prints what the command that its arguments ask for reports. -/
theorem respond_of_ran {arguments : List String} {command : Command}
    (given : Command.ofArguments arguments (around.environment "TETHER_LAST_APPLIED_KEY") =
      .ok (settings, command))
    (ran : (command.run settings around).run' around.input = .ok report) :
    respond arguments around = .printed (settings.format.write report.document)
      ((report.change.map fun change => change.render ++ "\n").getD "") := by
  rw [respond, given]
  dsimp only
  rw [ran]

end Steps

/-- A comparison counts nothing exactly when the two documents are equal, and so the program says. When
its arguments ask for a summary of a command that merges, and it prints, then it prints a merged
document on one output, and on the other one that nothing is added, updated or removed exactly when
that document equals the observed one, which it has read or fetched. -/
theorem summary_reads_nothing_iff :
    (∀ target base : Doc, target.WellFormed → base.WellFormed →
      ((ChangeCount.between target base).isNoop = true ↔ target.Equal base)) ∧
    ∀ (arguments : List String) (around : Surroundings) (settings : Settings) (command : Command)
      (observe : Running Doc) (out err : String),
      Command.ofArguments arguments (around.environment "TETHER_LAST_APPLIED_KEY") =
        .ok (settings, command) →
      settings.summary = true → command.observed? around = some observe →
      respond arguments around = .printed out err →
      ∃ observed merged, observe.run' around.input = .ok observed ∧
        (command.run settings around).run' around.input =
          .ok ⟨merged, some (.between merged observed)⟩ ∧
        out = settings.format.write merged ∧
        (err = "0 adds, 0 updates, 0 removes\n" ↔ merged.Equal observed) := by
  constructor
  · intro target base formed formed'
    exact ChangeCount.isNoop_between_iff formed formed'
  · intro arguments around settings command observe out err given asked observes printed
    rw [respond, given] at printed
    dsimp only at printed
    split at printed
    · next report ran =>
      cases printed
      obtain ⟨rest, ran⟩ := result_eq_ok_iff.mp ran
      obtain ⟨observed, left, loaded, formed, merged, formedMerged, rfl⟩ :=
        Command.run_observes observes ran
      rw [asked] at ran ⊢
      refine ⟨observed, merged, result_eq_ok_iff.mpr ⟨left, loaded⟩, result_eq_ok_iff.mpr ⟨rest, ran⟩,
        rfl, ?_⟩
      change (ChangeCount.between merged observed).render ++ "\n" = ChangeCount.render 0 ++ "\n" ↔ _
      rw [String.append_left_inj, ChangeCount.render_injective.eq_iff,
        ChangeCount.between_eq_zero_iff formedMerged formed]
    · cases printed

section Runs

private def resetArguments : List String :=
  ["--summary", "merge", "--observed", "held", "--desired", "wanted"]

private def resetSettings : Settings := { summary := true }

private def resetCommand : Command := .merge "held" none "wanted"

private def resetFiles : Surroundings where
  file
    | "held" => .ok "kind: Web\nweight: -0.0\n"
    | "wanted" => .ok "weight: 0.0\n"
    | _ => .error "no such file"

private def weighted (weight : Double) : Doc :=
  .object [("kind", .string "Web"), ("weight", .number (.double weight))]

private def driftArguments : List String :=
  ["--key", "applied", "--summary", "live", "--desired", "wanted"]

private def driftSettings : Settings := { marker := ⟨"applied"⟩, summary := true }

private def driftCommand : Command := .live "wanted" none

private def shopText : String :=
  "\x7b\"apiVersion\":\"v1\",\"kind\":\"Web\",\"metadata\":\x7b\"name\":\"shop\"\x7d,\"size\":\"s\"\x7d"

private def sizedShop (size : String) : Doc := .object
  [("apiVersion", .string "v1"), ("kind", .string "Web"),
    ("metadata", .object
      [("name", .string "shop"), ("annotations", .object [("applied", .string shopText)])]),
    ("size", .string size), ("owner", .string "ops")]

/-- Someone has set another size since the shop was applied. -/
private def liveShop : LiveObject where
  resource :=
    { types := some ⟨"v1", "Web"⟩, name := some "shop", annotations := some [("applied", shopText)] }
  document := .ok (sizedShop "l")
  formed := by
    rintro _ ⟨⟩
    decide

private def driftSurroundings : Surroundings where
  file
    | "wanted" => .ok "apiVersion: v1\nkind: Web\nmetadata:\n  name: shop\nsize: s\n"
    | _ => .error "no such file"
  cluster := .ok
    { served := .ok [⟨"", "v1", "Web", false⟩]
      object? := fun _ _ name => .ok (if name = "shop" then some liveShop else none) }

/-- In the first run the one zero takes the place of the other: the text changes and nothing is
counted. In the second one a fetched object has drifted and is set right. -/
theorem summary_reads_nothing_iff_reset :
    (respond resetArguments resetFiles =
        .printed "kind: Web\nweight: 0.0\n" "0 adds, 0 updates, 0 removes\n" ∧
      weighted (.zero false) ≠ weighted (.zero true) ∧
      (weighted (.zero false)).Equal (weighted (.zero true)) ∧
      (ChangeCount.between (weighted (.zero false)) (weighted (.zero true))).isNoop = true) ∧
    respond driftArguments driftSurroundings =
        .printed (Format.yaml.write (sizedShop "s")) "0 adds, 1 updates, 0 removes\n" ∧
      ¬ (sizedShop "s").Equal (sizedShop "l") := by
  obtain ⟨documents, program⟩ := summary_reads_nothing_iff
  constructor
  · have given : Command.ofArguments resetArguments none = .ok (resetSettings, resetCommand) := by
      decide +kernel
    have printed : respond resetArguments resetFiles =
        .printed "kind: Web\nweight: 0.0\n" "0 adds, 0 updates, 0 removes\n" := by decide +kernel
    have held : (load resetFiles "held").run' (.ok "") = .ok (weighted (.zero true)) := by
      decide +kernel
    have document : ((resetCommand.run resetSettings resetFiles).run' (.ok "")).map (·.document) =
        .ok (weighted (.zero false)) := by decide +kernel
    obtain ⟨observed, merged, loaded, ran, _, told⟩ :=
      program _ _ _ _ _ _ _ given rfl rfl printed
    cases held.symm.trans loaded
    have ran : (resetCommand.run resetSettings resetFiles).run' (.ok "") = _ := ran
    rw [ran] at document
    cases document
    have equal := told.mp rfl
    exact ⟨printed, by decide, equal, (documents _ _ (by decide) (by decide)).mpr equal⟩
  · have given : Command.ofArguments driftArguments
        (driftSurroundings.environment "TETHER_LAST_APPLIED_KEY") =
          .ok (driftSettings, driftCommand) := by decide +kernel
    have fetched : (driftCommand.observed? driftSurroundings).map (·.run' (.ok "")) =
        some (.ok (sizedShop "l")) := by decide +kernel
    obtain ⟨observe, observes, fetched⟩ := Option.map_eq_some_iff.mp fetched
    have reports : ((driftCommand.run driftSettings driftSurroundings).run' (.ok "")).toOption.map
        (fun report => (report.document, report.change)) = some (sizedShop "s", some ⟨0, 1, 0⟩) := by
      decide +kernel
    obtain ⟨⟨document, change⟩, reported, same⟩ := Option.map_eq_some_iff.mp reports
    cases same
    have reported : (driftCommand.run driftSettings driftSurroundings).run' (.ok "") =
        .ok ⟨sizedShop "s", some ⟨0, 1, 0⟩⟩ := ok_of_toOption reported
    have printed := respond_of_ran given reported
    dsimp only [Option.map_some, Option.getD_some] at printed
    have rendered : ChangeCount.render ⟨0, 1, 0⟩ ++ "\n" = "0 adds, 1 updates, 0 removes\n" := by
      decide +kernel
    rw [rendered] at printed
    obtain ⟨observed, merged, had, ran, _, told⟩ := program _ _ _ _ _ _ _ given rfl observes printed
    have had : observe.run' (.ok "") = _ := had
    have ran : (driftCommand.run driftSettings driftSurroundings).run' (.ok "") = _ := ran
    rw [fetched] at had
    rw [reported] at ran
    cases had
    cases ran
    exact ⟨printed, fun equal => absurd (told.mpr equal) (by decide)⟩

end Runs

end Reconcile.Cli
