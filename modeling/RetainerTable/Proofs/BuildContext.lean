import RetainerTable.BuildContext
import RetainerTable.Proofs.Files

namespace RetainerTable.BuildContext

section Generating

variable {σ : Type} {access : FileAccess (StateM σ)} {state : σ}
  {readText : String → Except Fault String}

private theorem run_loadManifest (hreads : access.Reads state readText) (context : BuildContext)
    (path : String) :
    ∃ outcome, (loadManifest access context path).run state =
        pure (⟨[announcement (context.asset path)], outcome⟩, state) ∧
      outcome.toOption = Manifest.inFile? readText (context.asset path) := by
  obtain ⟨outcome, hload, hheld⟩ := Manifest.run_load hreads (context.asset path)
  refine ⟨outcome, ?_, hheld⟩
  simp only [loadManifest, StateT.run_bind, hload, pure_bind, StateT.run_pure]

theorem run_loadSettings (hreads : access.Reads state readText) (context : BuildContext)
    (path : String) :
    ∃ outcome, (loadSettings access context path).run state =
        pure (⟨[announcement (context.asset path)], outcome⟩, state) ∧
      outcome.toOption = Settings.inFile? readText (context.asset path) := by
  obtain ⟨outcome, hload, hheld⟩ := Settings.run_load hreads (context.asset path)
  refine ⟨outcome, ?_, hheld⟩
  simp only [loadSettings, StateT.run_bind, hload, pure_bind, StateT.run_pure]

/-- The table of what the two files hold; where one of them holds nothing there is none. -/
theorem run_generate (hreads : access.Reads state readText) (context : BuildContext)
    (manifestPath settingsPath : String) :
    ∃ lines outcome, (generate access context manifestPath settingsPath).run state =
        pure (⟨lines, outcome⟩, state) ∧
      outcome.toOption =
        (Manifest.inFile? readText (context.asset manifestPath)).bind fun manifest =>
          (Settings.inFile? readText (context.asset settingsPath)).bind fun settings =>
            (generateFromManifest settings manifest).toOption := by
  obtain ⟨manifest, hmanifest, hmanifestHeld⟩ := run_loadManifest hreads context manifestPath
  obtain ⟨settings, hsettings, hsettingsHeld⟩ := run_loadSettings hreads context settingsPath
  simp only [generate, StateT.run_bind, hmanifest, pure_bind, ← hmanifestHeld, ← hsettingsHeld]
  cases manifest with
  | error error => exact ⟨_, _, rfl, rfl⟩
  | ok manifest =>
    simp only [StateT.run_bind, hsettings, pure_bind]
    cases settings with
    | error error => exact ⟨_, _, rfl, rfl⟩
    | ok settings => exact ⟨_, _, rfl, rfl⟩

end Generating

theorem eq_of_isCurrent {source : String} {found : Except Fault String}
    (hcurrent : isCurrent source found = true) : found = .ok source := by
  cases found with
  | error fault => cases hcurrent
  | ok text => exact congrArg Except.ok (beq_iff_eq.mp hcurrent)

end RetainerTable.BuildContext
