import ExposureBench.Proofs.Documents
import ExposureBench.Proofs.Members
import ExposureBench.Settings

namespace ExposureBench

open Json (Members Named Overlay Rearranged)

/-! The sections by their fields -/

def ProfileQuery.overlay : Overlay ({} : ProfileQuery) where
  fields := [⟨"stream", StreamType.ofJson?, stream⟩, ⟨"format", Json.toOption? PixelFormat.ofJson?, format⟩,
    ⟨"fps", Json.toUInt32?, fps⟩, ⟨"allow_fallback", Json.toBool?, allowFallback⟩]
  read? := ofJson?
  reads := Json.reads_of_assembles (fun _ => rfl) fun r s => by
    cases s
    simp [Option.bind_eq_some_iff, -Bool.exists_bool]
  complete choice := ⟨⟨_, _, _, _⟩, by
    simp only [List.forall_mem_cons]
    exact ⟨rfl, rfl, rfl, rfl, List.forall_mem_nil _⟩⟩

def BarrierSettings.overlay : Overlay ({} : BarrierSettings) where
  fields := [⟨"poll_interval_ms", Json.toUInt64?, pollIntervalMs⟩, ⟨"timeout_ms", Json.toUInt64?, timeoutMs⟩]
  read? := ofJson?
  reads := Json.reads_of_assembles (fun _ => rfl) fun r s => by
    cases s
    simp [Option.bind_eq_some_iff]
  complete choice := ⟨⟨_, _⟩, by
    simp only [List.forall_mem_cons]
    exact ⟨rfl, rfl, List.forall_mem_nil _⟩⟩

def TimingSettings.overlay : Overlay ({} : TimingSettings) where
  fields := [⟨"spike_threshold_percent", Json.toFloat?, spikeThresholdPercent⟩,
    ⟨"max_spike_rate_percent", Json.toFloat?, maxSpikeRatePercent⟩]
  read? := ofJson?
  reads := Json.reads_of_assembles (fun _ => rfl) fun r s => by
    cases s
    simp [Option.bind_eq_some_iff]
  complete choice := ⟨⟨_, _⟩, by
    simp only [List.forall_mem_cons]
    exact ⟨rfl, rfl, List.forall_mem_nil _⟩⟩

def BaselineSettings.overlay : Overlay ({} : BaselineSettings) where
  fields := [⟨"frames", Json.toUInt64?, frames⟩, ⟨"timeout_ms", Json.toUInt64?, timeoutMs⟩,
    ⟨"warmup_ms", Json.toUInt64?, warmupMs⟩]
  read? := ofJson?
  reads := Json.reads_of_assembles (fun _ => rfl) fun r s => by
    cases s
    simp [Option.bind_eq_some_iff]
  complete choice := ⟨⟨_, _, _⟩, by
    simp only [List.forall_mem_cons]
    exact ⟨rfl, rfl, rfl, List.forall_mem_nil _⟩⟩

def SteadyStateSettings.overlay : Overlay ({} : SteadyStateSettings) where
  fields := [⟨"frames", Json.toUInt64?, frames⟩, ⟨"timeout_ms", Json.toUInt64?, timeoutMs⟩]
  read? := ofJson?
  reads := Json.reads_of_assembles (fun _ => rfl) fun r s => by
    cases s
    simp [Option.bind_eq_some_iff]
  complete choice := ⟨⟨_, _⟩, by
    simp only [List.forall_mem_cons]
    exact ⟨rfl, rfl, List.forall_mem_nil _⟩⟩

def RapidToggleSettings.overlay : Overlay ({} : RapidToggleSettings) where
  fields := [⟨"toggles", Json.toUInt64?, toggles⟩, ⟨"frames_per_state", Json.toUInt64?, framesPerState⟩,
    ⟨"frames_between_toggles", Json.toUInt64?, framesBetweenToggles⟩, ⟨"warmup_ms", Json.toUInt64?, warmupMs⟩]
  read? := ofJson?
  reads := Json.reads_of_assembles (fun _ => rfl) fun r s => by
    cases s
    simp [Option.bind_eq_some_iff]
  complete choice := ⟨⟨_, _, _, _⟩, by
    simp only [List.forall_mem_cons]
    exact ⟨rfl, rfl, rfl, rfl, List.forall_mem_nil _⟩⟩

def ExtremeRecoverySettings.overlay : Overlay ({} : ExtremeRecoverySettings) where
  fields := [⟨"iterations", Json.toUInt64?, iterations⟩,
    ⟨"exposure_multiplier", Json.toFloat?, exposureMultiplier⟩,
    ⟨"manual_hold_ms", Json.toUInt64?, manualHoldMs⟩, ⟨"auto_hold_ms", Json.toUInt64?, autoHoldMs⟩,
    ⟨"expected_spikes_per_iteration", Json.toUInt64?, expectedSpikesPerIteration⟩,
    ⟨"transition_frames_to_skip", Json.toUInt64?, transitionFramesToSkip⟩]
  read? := ofJson?
  reads := Json.reads_of_assembles (fun _ => rfl) fun r s => by
    cases s
    simp [Option.bind_eq_some_iff]
  complete choice := ⟨⟨_, _, _, _, _, _⟩, by
    simp only [List.forall_mem_cons]
    exact ⟨rfl, rfl, rfl, rfl, rfl, rfl, List.forall_mem_nil _⟩⟩

namespace Settings

/-- A section: where the settings hold it, and how it is read. -/
structure Section where
  {Body : Type}
  name : String
  body : Settings → Body
  overlay : Overlay (body {})

def sections : List Section :=
  [⟨"profile", profile, ProfileQuery.overlay⟩, ⟨"barrier", barrier, BarrierSettings.overlay⟩,
    ⟨"timing", timing, TimingSettings.overlay⟩, ⟨"baseline", baseline, BaselineSettings.overlay⟩,
    ⟨"steady_state", steadyState, SteadyStateSettings.overlay⟩,
    ⟨"rapid_toggle", rapidToggle, RapidToggleSettings.overlay⟩,
    ⟨"extreme_recovery", extremeRecovery, ExtremeRecoverySettings.overlay⟩]

def Section.field (s : Section) : Json.Field Settings := ⟨s.name, s.overlay.read?, s.body⟩

def overlay : Overlay ({} : Settings) where
  fields := sections.map Section.field
  read? := ofJson?
  reads := Json.reads_of_assembles (fun _ => rfl) fun r s => by
    cases s
    simp [Option.bind_eq_some_iff, sections, Section.field, ProfileQuery.overlay, BarrierSettings.overlay,
      TimingSettings.overlay, BaselineSettings.overlay, SteadyStateSettings.overlay,
      RapidToggleSettings.overlay, ExtremeRecoverySettings.overlay]
  complete choice := ⟨⟨_, _, _, _, _, _, _⟩, by
    simp only [sections, List.map_cons, List.forall_mem_cons]
    exact ⟨rfl, rfl, rfl, rfl, rfl, rfl, rfl, List.forall_mem_nil _⟩⟩

/-! Sections given as objects -/

variable {members : Members}

/-- Every section that is given is an object. -/
def Sectioned (members : Members) : Prop :=
  ∀ s ∈ sections, ∀ j, members.lookup (some s.name) = some j → ∃ inner, j = .object inner

def inside (members : Members) (name : String) : Members :=
  match members.lookup (some name) with
  | some (.object inner) => inner
  | _ => []

/-- The names are text and no field is given twice, in any section or among the sections themselves. -/
def WellNamed (members : Members) : Prop :=
  Named overlay.names members ∧ ∀ s ∈ sections, Named s.overlay.names (inside members s.name)

theorem read?_section (sectioned : Sectioned members) {s : Section} (known : s ∈ sections) :
    s.field.read? {} members = s.overlay.read? (.object (inside members s.name)) := by
  -- A section left out is read as one that holds nothing.
  rcases given : members.lookup (some s.name) with _ | j
  · have nothing : inside members s.name = [] := by
      rw [inside, given]
    rw [Json.Field.read?_of_none given, nothing, s.overlay.read?_nil]
    rfl
  · obtain ⟨inner, rfl⟩ := sectioned s known j given
    have all : inside members s.name = inner := by
      rw [inside, given]
    rw [Json.Field.read?_of_some given, all]
    rfl

theorem ofJson?_eq_some_iff (sectioned : Sectioned members) (t : Settings) :
    ofJson? (.object members) = some t ↔ WellNamed members ∧ ∀ s ∈ sections, ∀ f ∈ s.overlay.fields,
      f.read? (s.body {}) (inside members s.name) = some (f.value (s.body t)) := by
  rw [WellNamed, and_assoc, ← forall₂_and]
  refine (overlay.reads members t).trans (and_congr_right fun _ => ?_)
  refine List.forall_mem_map.trans (forall₂_congr fun s known => ?_)
  exact (Eq.congr_left (read?_section sectioned known)).trans (s.overlay.reads _ _)

theorem isSome_ofJson? (sectioned : Sectioned members) :
    (ofJson? (.object members)).isSome ↔ WellNamed members ∧ ∀ s ∈ sections, ∀ f ∈ s.overlay.fields,
      (f.read? (s.body {}) (inside members s.name)).isSome := by
  rw [WellNamed, and_assoc, ← forall₂_and]
  refine overlay.isSome_read?.trans (and_congr_right fun _ => ?_)
  refine List.forall_mem_map.trans (forall₂_congr fun s known => ?_)
  rw [read?_section sectioned known]
  exact s.overlay.isSome_read?

/-- Sections that say the same. -/
def Alike (name : String) (j k : Json) : Prop :=
  ∃ s ∈ sections, s.name = name ∧ ∃ first second, j = .object first ∧ k = .object second ∧
    Rearranged s.overlay.names (fun _ _ _ => False) first second

theorem distinct_sections {s t : Section} (first : s ∈ sections) (second : t ∈ sections)
    (same : s.name = t.name) : s = t :=
  List.inj_on_of_nodup_map (by decide : (sections.map Section.name).Nodup) first second same

theorem ofJson?_rearranged {first second : Members}
    (rearranged : Rearranged overlay.names Alike first second) :
    ofJson? (.object first) = ofJson? (.object second) := by
  refine overlay.read?_rearranged ?_ rearranged
  refine List.forall_mem_map.mpr fun s known j k alike => ?_
  obtain ⟨t, found, same, first, second, rfl, rfl, inner⟩ := alike
  cases distinct_sections found known same
  exact s.overlay.read?_rearranged (fun _ _ _ _ impossible => impossible.elim) inner

theorem ofText?_of_parse? {text : String} (parsed : Json.parse? text = some (.object members)) :
    ofText? text = ofJson? (.object members) := by
  rw [ofText?, parsed, Option.bind_some]

theorem field_of_ofText? {text : String} {t : Settings}
    (parsed : Json.parse? text = some (.object members)) (sectioned : Sectioned members)
    (read : ofText? text = some t) {s : Section} (known : s ∈ sections) {f : Json.Field s.Body}
    (field : f ∈ s.overlay.fields) :
    f.read? (s.body {}) (inside members s.name) = some (f.value (s.body t)) := by
  rw [ofText?_of_parse? parsed] at read
  exact ((ofJson?_eq_some_iff sectioned t).mp read).2 s known f field

/-- Text that names its members by text gives settings exactly if it gives no field twice and each a
value that the field accepts. They hold those values, and the default's in all other fields, whatever
the order of the members and whatever others there are. A format left out is the default one, and `null`
stands for any. -/
theorem text_overlays_defaults {text : String} {members : Members}
    (parsed : Json.parse? text = some (.object members)) (sectioned : Sectioned members) :
    ((ofText? text).isSome ↔ WellNamed members ∧ ∀ s ∈ sections, ∀ f ∈ s.overlay.fields, ∀ j,
      (inside members s.name).lookup (some f.name) = some j → (f.accept? j).isSome) ∧
    (∀ t, ofText? text = some t ↔ WellNamed members ∧ ∀ s ∈ sections, ∀ f ∈ s.overlay.fields,
      f.read? (s.body {}) (inside members s.name) = some (f.value (s.body t))) ∧
    (∀ other members', Json.parse? other = some (.object members') →
      Rearranged overlay.names Alike members members' → ofText? other = ofText? text) ∧
    (∀ t, ofText? text = some t →
      ((inside members "profile").lookup (some "format") = none →
        t.profile.format = ({} : Settings).profile.format) ∧
      ((inside members "profile").lookup (some "format") = some .null → t.profile.format = none)) := by
  refine ⟨?_, ?_, ?_, ?_⟩
  · rw [ofText?_of_parse? parsed, isSome_ofJson? sectioned]
    simp only [Json.Field.isSome_read?]
  · intro t
    rw [ofText?_of_parse? parsed]
    exact ofJson?_eq_some_iff sectioned t
  · intro other members' parsed' rearranged
    rw [ofText?_of_parse? parsed', ofText?_of_parse? parsed, ofJson?_rearranged rearranged]
  · intro t read
    have format := field_of_ofText? parsed sectioned read (s := ⟨"profile", profile, ProfileQuery.overlay⟩)
      List.mem_cons_self (f := ⟨"format", Json.toOption? PixelFormat.ofJson?, ProfileQuery.format⟩)
      (List.mem_cons_of_mem _ List.mem_cons_self)
    constructor
    · intro absent
      rw [Json.Field.read?_of_none absent] at format
      exact (Option.some.inj format).symm
    · intro null
      rw [Json.Field.read?_of_some null] at format
      exact (Option.some.inj format).symm

def partialMembers : Members :=
  [(some "x", .number ⟨false, [1], [], some 999⟩), (some "barrier", .object [(some "timeout_ms", .ofNat 5)]),
    (some "profile", .object [(some "", .string none), (some "format", .null)])]

def partialText : String :=
  "\x7b\"x\":1e999,\"barrier\":\x7b\"timeout_ms\":5\x7d,\"profile\":\x7b\"\":\"\\ud800\",\"format\":null\x7d\x7d"

def briefMembers : Members :=
  [(some "profile", .object [(some "format", .null)]), (some "barrier", .object [(some "timeout_ms", .ofNat 5)])]

def briefText : String :=
  "\x7b\"profile\":\x7b\"format\":null\x7d,\"barrier\":\x7b\"timeout_ms\":5\x7d\x7d"

theorem parse?_partialText : Json.parse? partialText = some (.object partialMembers) := by
  have written : partialText = (Json.object partialMembers).render := by decide +kernel
  have huge : (Numeral.mk false [1] [] (some 999)).Legible := by constructor <;> decide
  rw [written]
  exact Json.parse?_render ⟨huge, ⟨Json.legible_ofNat 5, trivial⟩, ⟨trivial, trivial, trivial⟩, trivial⟩

theorem parse?_briefText : Json.parse? briefText = some (.object briefMembers) := by
  have written : briefText = (Json.object briefMembers).render := by decide +kernel
  rw [written]
  exact Json.parse?_render ⟨⟨trivial, trivial⟩, ⟨Json.legible_ofNat 5, trivial⟩, trivial⟩

theorem sectioned_partialMembers : Sectioned partialMembers := by
  unfold Sectioned sections
  simp only [List.forall_mem_cons, List.not_mem_nil, false_implies, implies_true, and_true]
  and_intros <;> rintro _ ⟨⟩ <;> exact ⟨_, rfl⟩

theorem rearranged_partialMembers : Rearranged overlay.names Alike partialMembers briefMembers := by
  have alike : Alike "profile" (.object [(some "", .string none), (some "format", .null)])
      (.object [(some "format", .null)]) :=
    ⟨_, List.mem_cons_self, rfl, _, _, rfl, rfl, .unknown (by decide) _ _⟩
  exact .trans (.unknown (by decide) _ _) (.trans (.order (.swap _ _ _)) (.within alike _))

theorem partial_text_read :
    Json.parse? partialText = some (.object partialMembers) ∧ Sectioned partialMembers ∧
    ofText? partialText = some { barrier := { timeoutMs := 5 }, profile := { format := none } } ∧
    ofText? briefText = ofText? partialText := by
  obtain ⟨-, holds, order, -⟩ := text_overlays_defaults parse?_partialText sectioned_partialMembers
  have named : WellNamed partialMembers := by
    unfold WellNamed
    decide +kernel
  refine ⟨parse?_partialText, sectioned_partialMembers, (holds _).mpr ⟨named, ?_⟩,
    order briefText briefMembers parse?_briefText rearranged_partialMembers⟩
  simp only [sections, ProfileQuery.overlay, BarrierSettings.overlay, TimingSettings.overlay,
    BaselineSettings.overlay, SteadyStateSettings.overlay, RapidToggleSettings.overlay,
    ExtremeRecoverySettings.overlay, List.forall_mem_cons, List.not_mem_nil, false_implies, implies_true,
    and_true]
  and_intros <;> rfl

/-- A name that is half a surrogate pair is refused even where no field is named. -/
theorem unspelled_name_refused :
    ∃ members, Json.parse? "\x7b\"\\ud800\":1\x7d" = some (.object members) ∧ Sectioned members ∧
      (∀ name : String, (members.map Prod.fst).count (some name) = 0) ∧
      ofText? "\x7b\"\\ud800\":1\x7d" = none := by
  have written : "\x7b\"\\ud800\":1\x7d" = (Json.object [(none, .ofNat 1)]).render := by decide +kernel
  have parsed := Json.parse?_render (j := .object [(none, .ofNat 1)]) ⟨Json.legible_ofNat 1, trivial⟩
  rw [← written] at parsed
  refine ⟨_, parsed, fun _ _ _ => nofun, fun _ => rfl, ?_⟩
  rw [ofText?_of_parse? parsed]
  rfl

end Settings

end ExposureBench
