import GridWalk.Proofs.Json.Records
import GridWalk.Wire.Attempt
import GridWalk.Wire.Level

/-! The JSON forms of the library lose nothing.  Each codec is lawful with its own depth, which is
far below the limit, and `roundTrips_codecs` says what this means for texts. -/

namespace GridWalk

open Json

theorem Direction.lawful_codec : codec.Lawful 0 := by
  apply Codec.lawful_choice
  intro d
  cases d <;> rfl

theorem Cell.lawful_codec : codec.Lawful 0 := by
  apply Codec.lawful_choice
  intro c
  cases c <;> rfl

theorem Category.lawful_codec : codec.Lawful 0 := by
  apply Codec.lawful_choice
  intro c
  cases c <;> rfl

theorem ErrorCode.lawful_codec : codec.Lawful 0 := Codec.lawful_uint16.iso fun _ => rfl

theorem Position.lawful_codec : codec.Lawful 1 := by
  apply Codec.lawful_record _ _ fun _ => rfl
  exact .cons (.required _ Codec.lawful_uint32) (by decide) <|
    .cons (.required _ Codec.lawful_uint32) (by decide) .nil

theorem Action.lawful_codec : codec.Lawful 1 := by
  apply Codec.lawful_record _ _ fun _ => rfl
  exact .cons (.required _ Direction.lawful_codec) (by decide) <|
    .cons (.required _ Codec.lawful_uint32) (by decide) .nil

theorem Plan.lawful_codec : codec.Lawful 2 := Action.lawful_codec.list

theorem CompileError.lawful_codec : codec.Lawful 1 := by
  apply Codec.lawful_record _ _ fun _ => rfl
  have hsuggestion : Field.Lawful (.omitting (.optional "suggestion" .string)) 0 :=
    (Field.Lawful.optional _ Codec.lawful_string fun _ => nofun).omitting rfl
  exact .cons (.required _ ErrorCode.lawful_codec) (by decide) <|
    .cons (.required _ Category.lawful_codec) (by decide) <|
    .cons (.required _ Codec.lawful_string) (by decide) <|
    .cons (.required _ Codec.lawful_uint32) (by decide) <|
    .cons (.required _ Codec.lawful_string) (by decide) <|
    .cons hsuggestion (by decide) .nil

theorem CompilerOptions.lawful_codec : codec.Lawful 1 := by
  apply Codec.lawful_record _ _ fun _ => rfl
  exact .cons (.defaulted _ (Codec.lawful_uint64 _) fun _ => nofun) (by decide) .nil

theorem CompileResult.lawful_codec : codec.Lawful 3 := by
  apply Codec.lawful_record _ _ fun _ => rfl
  have hbool := Codec.lawful_bool.mono (Nat.zero_le 2)
  have herror := CompileError.lawful_codec.mono (show 1 ≤ 2 by decide)
  have hstring := Codec.lawful_string.mono (Nat.zero_le 2)
  exact .cons (.required _ hbool) (by decide) <|
    .cons (.optional _ Plan.lawful_codec fun _ => nofun) (by decide) <|
    .cons (.optional _ herror fun _ => nofun) (by decide) <|
    .cons (.required _ hstring) (by decide) .nil

theorem GridDescriptor.lawful_codec : codec.Lawful 3 := by
  apply Codec.lawful_record _ _ fun _ => rfl
  have hcount := (Codec.lawful_uint64 "usize").mono (Nat.zero_le 2)
  have hsize : Field.Lawful (.omitting (.defaulted "grid_size" (.uint64 "usize"))) 2 :=
    (Field.Lawful.defaulted _ hcount fun _ => nofun).omitting rfl
  have hposition := Position.lawful_codec.mono (show 1 ≤ 2 by decide)
  exact .cons hsize (by decide) <|
    .cons (.required _ Cell.lawful_codec.list.list) (by decide) <|
    .cons (.required _ hposition) (by decide) .nil

/-- The description of a grid passes the checks again. -/
theorem Grid.lawful_codec : codec.Lawful 3 := by
  apply GridDescriptor.lawful_codec.refine
  intro g
  rw [GridDescriptor.grid_ofGrid]
  rfl

theorem RunConfig.lawful_codec : codec.Lawful 2 := by
  apply Codec.lawful_record _ _ fun _ => rfl
  have hfacing := Direction.lawful_codec.mono (Nat.zero_le 1)
  exact .cons (.defaulted _ Position.lawful_codec fun _ => nofun) (by decide) <|
    .cons (.defaulted _ hfacing fun _ => nofun) (by decide) .nil

theorem Event.lawful_codec : codec.Lawful 2 := by
  apply Codec.lawful_tagged
  have hdirection := Direction.lawful_codec.mono (Nat.zero_le 1)
  have hline := Codec.lawful_uint32.mono (Nat.zero_le 1)
  have hbool := Codec.lawful_bool.mono (Nat.zero_le 1)
  intro e
  cases e with
  | moved position direction =>
    have hfields : movedFields.Lawful 1 :=
      .cons (.required _ Position.lawful_codec) (by decide) <|
        .cons (.required _ hdirection) (by decide) .nil
    have htag : "kind" ∉ movedFields.names := by decide
    exact Tagged.reads_record hfields htag rfl rfl
  | collected position =>
    have hfields : collectedFields.Lawful 1 :=
      .cons (.required _ Position.lawful_codec) (by decide) .nil
    have htag : "kind" ∉ collectedFields.names := by decide
    exact Tagged.reads_record hfields htag rfl rfl
  | blocked line facing =>
    have hfields : blockedFields.Lawful 1 :=
      .cons (.required _ hline) (by decide) <|
        .cons (.required _ hdirection) (by decide) .nil
    have htag : "kind" ∉ blockedFields.names := by decide
    exact Tagged.reads_record hfields htag rfl rfl
  | destroyed line =>
    have hfields : destroyedFields.Lawful 1 := .cons (.required _ hline) (by decide) .nil
    have htag : "kind" ∉ destroyedFields.names := by decide
    exact Tagged.reads_record hfields htag rfl rfl
  | finished success =>
    have hfields : finishedFields.Lawful 1 := .cons (.required _ hbool) (by decide) .nil
    have htag : "kind" ∉ finishedFields.names := by decide
    exact Tagged.reads_record hfields htag rfl rfl

theorem Outcome.lawful_codec : codec.Lawful 1 := by
  apply Codec.lawful_tagged
  have hline : lineFields.Lawful 0 := .cons (.required _ Codec.lawful_uint32) (by decide) .nil
  have hline_tag : "kind" ∉ lineFields.names := by decide
  intro o
  cases o with
  | success => exact Tagged.reads_unit rfl
  | incomplete goal missing =>
    have hfields : incompleteFields.Lawful 0 :=
      .cons (.required _ Codec.lawful_bool) (by decide) <|
        .cons (.required _ (Codec.lawful_uint64 _)) (by decide) .nil
    have htag : "kind" ∉ incompleteFields.names := by decide
    exact Tagged.reads_record hfields htag rfl rfl
  | blocked line => exact Tagged.reads_record hline hline_tag rfl rfl
  | destroyed line => exact Tagged.reads_record hline hline_tag rfl rfl

theorem RunReport.lawful_codec : codec.Lawful 4 := by
  apply Codec.lawful_record _ _ fun _ => rfl
  have houtcome := Outcome.lawful_codec.mono (show 1 ≤ 3 by decide)
  have hposition := Position.lawful_codec.mono (show 1 ≤ 3 by decide)
  have hdirection := Direction.lawful_codec.mono (Nat.zero_le 3)
  have hcollected := Position.lawful_codec.list.mono (show 2 ≤ 3 by decide)
  exact .cons (.required _ Event.lawful_codec.list) (by decide) <|
    .cons (.required _ houtcome) (by decide) <|
    .cons (.required _ hposition) (by decide) <|
    .cons (.required _ hdirection) (by decide) <|
    .cons (.required _ hcollected) (by decide) .nil

theorem AttemptStats.lawful_codec : codec.Lawful 1 := by
  apply Codec.lawful_record _ _ fun _ => rfl
  exact .cons (.required _ Codec.lawful_uint32) (by decide) <|
    .cons (.required _ (Codec.lawful_uint64 _)) (by decide) .nil

theorem AttemptResult.lawful_codec : codec.Lawful 5 := by
  apply Codec.lawful_tagged
  have herror := CompileError.lawful_codec.mono (show 1 ≤ 4 by decide)
  intro r
  cases r with
  | compileFailed error =>
    have hfields : compileFailedFields.Lawful 4 := .cons (.required _ herror) (by decide) .nil
    have htag : "status" ∉ compileFailedFields.names := by decide
    exact Tagged.reads_record hfields htag rfl rfl
  | executed report =>
    have hfields : executedFields.Lawful 4 :=
      .cons (.required _ RunReport.lawful_codec) (by decide) .nil
    have htag : "status" ∉ executedFields.names := by decide
    exact Tagged.reads_record hfields htag rfl rfl

theorem AttemptReport.lawful_codec : codec.Lawful 6 := by
  apply Codec.lawful_record _ _ fun _ => rfl
  have hstats := AttemptStats.lawful_codec.mono (show 1 ≤ 5 by decide)
  exact .cons (.required _ hstats) (by decide) <|
    .cons (.required _ AttemptResult.lawful_codec) (by decide) .nil

/-- The written text of a grid stands for its description, which passes the checks again.  What the
text leaves out is computed from the cells. -/
theorem Grid.read_descriptor (g : Grid) :
    ∃ d g', GridDescriptor.codec.read (codec.write g) = .ok d ∧ d.grid = .ok g' ∧
      g'.width = g.width ∧ g'.height = g.height ∧ g'.coinCount = g.coinCount := by
  have hread := GridDescriptor.lawful_codec.roundTrips (by decide) (.ofGrid g)
  exact ⟨_, g, hread, GridDescriptor.grid_ofGrid g, rfl, rfl, rfl⟩

/-- Every value that has a JSON form is read back from its text. -/
theorem roundTrips_codecs :
    Direction.codec.RoundTrips ∧ Cell.codec.RoundTrips ∧ Category.codec.RoundTrips ∧
    ErrorCode.codec.RoundTrips ∧ Position.codec.RoundTrips ∧ Action.codec.RoundTrips ∧
    Plan.codec.RoundTrips ∧ CompileError.codec.RoundTrips ∧ CompilerOptions.codec.RoundTrips ∧
    CompileResult.codec.RoundTrips ∧ GridDescriptor.codec.RoundTrips ∧ Grid.codec.RoundTrips ∧
    RunConfig.codec.RoundTrips ∧ AttemptStats.codec.RoundTrips ∧ Event.codec.RoundTrips ∧
    Outcome.codec.RoundTrips ∧ RunReport.codec.RoundTrips ∧ AttemptResult.codec.RoundTrips ∧
    AttemptReport.codec.RoundTrips ∧
    ∀ g : Grid, ∃ d g', GridDescriptor.codec.read (Grid.codec.write g) = .ok d ∧
      d.grid = .ok g' ∧ g'.width = g.width ∧ g'.height = g.height ∧
      g'.coinCount = g.coinCount :=
  ⟨Direction.lawful_codec.roundTrips (by decide), Cell.lawful_codec.roundTrips (by decide),
    Category.lawful_codec.roundTrips (by decide), ErrorCode.lawful_codec.roundTrips (by decide),
    Position.lawful_codec.roundTrips (by decide), Action.lawful_codec.roundTrips (by decide),
    Plan.lawful_codec.roundTrips (by decide), CompileError.lawful_codec.roundTrips (by decide),
    CompilerOptions.lawful_codec.roundTrips (by decide),
    CompileResult.lawful_codec.roundTrips (by decide),
    GridDescriptor.lawful_codec.roundTrips (by decide), Grid.lawful_codec.roundTrips (by decide),
    RunConfig.lawful_codec.roundTrips (by decide), AttemptStats.lawful_codec.roundTrips (by decide),
    Event.lawful_codec.roundTrips (by decide), Outcome.lawful_codec.roundTrips (by decide),
    RunReport.lawful_codec.roundTrips (by decide),
    AttemptResult.lawful_codec.roundTrips (by decide),
    AttemptReport.lawful_codec.roundTrips (by decide), Grid.read_descriptor⟩

end GridWalk
