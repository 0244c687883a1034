import ExposureBench.Device.Camera
import ExposureBench.Proofs.Documents
import ExposureBench.Proofs.Members
import ExposureBench.Settings

namespace ExposureBench

namespace Json

/-! Values that are read back -/

theorem toNat?_ofNat {n limit : Nat} (fits : n < UInt64.size) (within : n ≤ limit) :
    (ofNat n).toNat? limit = some n := by
  have read : (ofNat n).toInteger? = some (n : Int) := by
    simp only [ofNat, toInteger?, Numeral.value?_ofNat fits]
  rw [toNat?, read, Option.bind_eq_bind, Option.bind_some, if_pos (by omega), Int.toNat_natCast]

theorem toUInt64?_ofNat {n : Nat} (fits : n < UInt64.size) : (ofNat n).toUInt64? = some n :=
  toNat?_ofNat fits (Nat.le_pred_of_lt fits)

theorem toUInt32?_ofNat {n : Nat} (fits : n < UInt32.size) : (ofNat n).toUInt32? = some n :=
  toNat?_ofNat (fits.trans (by decide)) (Nat.le_pred_of_lt fits)

theorem toInt64?_ofInt {i : Int} (least : Binary64.minInt64 ≤ i) (most : i ≤ Binary64.maxInt64) :
    (ofInt i).toInt64? = some i := by
  have read : (ofInt i).toInteger? = some i := by
    simp only [ofInt, toInteger?, Numeral.value?_ofInt least most]
  rw [toInt64?, read, Option.bind_eq_bind, Option.bind_some, if_pos most]

section Containers

variable {α : Type} {write : α → Json} {read? : Json → Option α}

theorem toOption?_ofOption {a? : Option α} (solid : ∀ a, write a ≠ .null)
    (back : ∀ a ∈ a?, read? (write a) = some a) : (ofOption write a?).toOption? read? = some a? := by
  cases a? with
  | none => rfl
  | some a =>
    have given : (write a).toOption? read? = (read? (write a)).map some := by
      rw [toOption?]
      exact solid a
    rw [ofOption, given, back a rfl, Option.map_some]

theorem toList?_ofList {items : List α} (back : ∀ a ∈ items, read? (write a) = some a) :
    (ofList write items).toList? read? = some items :=
  mapM_map back

variable {record : List (String × Json)} {fields : List String}

theorem members?_spell_all (names : record.map Prod.fst = fields) (distinct : fields.Nodup) :
    members? fields (spell record) = some record := by
  have all : known fields record = record := by
    refine List.filter_eq_self.mpr fun member inside => ?_
    rw [List.contains_iff_mem, ← names]
    exact List.mem_map_of_mem inside
  rw [members?_spell, all, names, if_pos distinct]

theorem overlay?_ofRecord (names : record.map Prod.fst = fields) (distinct : fields.Nodup) :
    (ofRecord record).overlay? fields = some record :=
  members?_spell_all names distinct

theorem record?_ofRecord (names : record.map Prod.fst = fields) (distinct : fields.Nodup) :
    (ofRecord record).record? fields = some record :=
  members?_spell_all names distinct

end Containers

namespace Record

variable {α : Type} {r : Record} {j : Json} {name first : String} {read? : Json → Option α}

@[simp] theorem field?_cons_self : field? ((name, j) :: r) name read? = read? j := by
  rw [field?, List.lookup_cons_self, Option.bind_some]

@[simp] theorem field?_cons_ne (other : name ≠ first) :
    field? ((first, j) :: r) name read? = field? r name read? := by
  rw [field?, lookup_cons_ne other, field?]

@[simp] theorem fieldD?_cons_self {default : α} : fieldD? ((name, j) :: r) name default read? = read? j := by
  rw [fieldD?, List.lookup_cons_self]

@[simp] theorem fieldD?_cons_ne {default : α} (other : name ≠ first) :
    fieldD? ((first, j) :: r) name default read? = fieldD? r name default read? := by
  rw [fieldD?, lookup_cons_ne other, fieldD?]

end Record

end Json

/-! Each type by its fields -/

theorem StreamType.ofJson?_toJson (s : StreamType) : ofJson? s.toJson = some s := by
  cases s <;> rfl

theorem PixelFormat.ofJson?_toJson (f : PixelFormat) : ofJson? f.toJson = some f := by
  cases f <;> rfl

theorem DeviceOption.ofJson?_toJson (o : DeviceOption) : ofJson? o.toJson = some o := by
  cases o <;> rfl

section Fields

open Json

namespace StreamProfile

def Fits (p : StreamProfile) : Prop :=
  ∀ n ∈ [p.width, p.height, p.fps], n < UInt32.size

instance (p : StreamProfile) : Decidable p.Fits :=
  inferInstanceAs (Decidable (∀ n ∈ [p.width, p.height, p.fps], n < UInt32.size))

theorem ofJson?_toJson {p : StreamProfile} (fits : p.Fits) : ofJson? p.toJson = some p := by
  have read : p.toJson.record? fields = some _ := record?_ofRecord rfl (by decide)
  have back := fun n member => toUInt32?_ofNat (fits n member)
  rw [ofJson?, read]
  simp [StreamType.ofJson?_toJson, PixelFormat.ofJson?_toJson, back]

end StreamProfile

theorem ProfileQuery.ofJson?_toJson {q : ProfileQuery} (fits : q.fps < UInt32.size) :
    ofJson? q.toJson = some q := by
  have read : q.toJson.overlay? fields = some _ := overlay?_ofRecord rfl (by decide)
  have format : (ofOption PixelFormat.toJson q.format).toOption? PixelFormat.ofJson? = some q.format :=
    toOption?_ofOption (fun f => by cases f <;> exact nofun) fun f _ => f.ofJson?_toJson
  have asked : toBool? (ofBool q.allowFallback) = some q.allowFallback := rfl
  rw [ofJson?, read]
  simp [StreamType.ofJson?_toJson, format, toUInt32?_ofNat fits, asked]

namespace OptionRange

def numbers (r : OptionRange) : List Float := [r.min, r.max, r.step, r.initial]

theorem ofJson?_toJson {r : OptionRange} (back : ∀ x ∈ r.numbers, Rereads x) :
    ofJson? (r.toJson ofFloat) = some r := by
  have read : (r.toJson ofFloat).record? fields = some _ := record?_ofRecord rfl (by decide)
  simp only [numbers, List.forall_mem_cons, Rereads] at back
  rw [ofJson?, read]
  simp [back]

end OptionRange

namespace BarrierSettings

def words (s : BarrierSettings) : List Nat := [s.pollIntervalMs, s.timeoutMs]

theorem ofJson?_toJson {s : BarrierSettings} (fits : ∀ n ∈ s.words, n < UInt64.size) :
    ofJson? s.toJson = some s := by
  have read : s.toJson.overlay? fields = some _ := overlay?_ofRecord rfl (by decide)
  have back := fun n member => toUInt64?_ofNat (fits n member)
  simp only [words, List.forall_mem_cons] at back
  rw [ofJson?, read]
  simp [back]

end BarrierSettings

namespace TimingSettings

def numbers (s : TimingSettings) : List Float := [s.spikeThresholdPercent, s.maxSpikeRatePercent]

theorem ofJson?_toJson {s : TimingSettings} (back : ∀ x ∈ s.numbers, Rereads x) :
    ofJson? (s.toJson ofFloat) = some s := by
  have read : (s.toJson ofFloat).overlay? fields = some _ := overlay?_ofRecord rfl (by decide)
  simp only [numbers, List.forall_mem_cons, Rereads] at back
  rw [ofJson?, read]
  simp [back]

end TimingSettings

namespace BaselineSettings

def words (s : BaselineSettings) : List Nat := [s.frames, s.timeoutMs, s.warmupMs]

theorem ofJson?_toJson {s : BaselineSettings} (fits : ∀ n ∈ s.words, n < UInt64.size) :
    ofJson? s.toJson = some s := by
  have read : s.toJson.overlay? fields = some _ := overlay?_ofRecord rfl (by decide)
  have back := fun n member => toUInt64?_ofNat (fits n member)
  simp only [words, List.forall_mem_cons] at back
  rw [ofJson?, read]
  simp [back]

end BaselineSettings

namespace SteadyStateSettings

def words (s : SteadyStateSettings) : List Nat := [s.frames, s.timeoutMs]

theorem ofJson?_toJson {s : SteadyStateSettings} (fits : ∀ n ∈ s.words, n < UInt64.size) :
    ofJson? s.toJson = some s := by
  have read : s.toJson.overlay? fields = some _ := overlay?_ofRecord rfl (by decide)
  have back := fun n member => toUInt64?_ofNat (fits n member)
  simp only [words, List.forall_mem_cons] at back
  rw [ofJson?, read]
  simp [back]

end SteadyStateSettings

namespace RapidToggleSettings

def words (s : RapidToggleSettings) : List Nat :=
  [s.toggles, s.framesPerState, s.framesBetweenToggles, s.warmupMs]

theorem ofJson?_toJson {s : RapidToggleSettings} (fits : ∀ n ∈ s.words, n < UInt64.size) :
    ofJson? s.toJson = some s := by
  have read : s.toJson.overlay? fields = some _ := overlay?_ofRecord rfl (by decide)
  have back := fun n member => toUInt64?_ofNat (fits n member)
  simp only [words, List.forall_mem_cons] at back
  rw [ofJson?, read]
  simp [back]

end RapidToggleSettings

namespace ExtremeRecoverySettings

def words (s : ExtremeRecoverySettings) : List Nat :=
  [s.iterations, s.manualHoldMs, s.autoHoldMs, s.expectedSpikesPerIteration, s.transitionFramesToSkip]

theorem ofJson?_toJson {s : ExtremeRecoverySettings} (fits : ∀ n ∈ s.words, n < UInt64.size)
    (factor : (ofFloat s.exposureMultiplier).toFloat? = some s.exposureMultiplier) :
    ofJson? (s.toJson ofFloat) = some s := by
  have read : (s.toJson ofFloat).overlay? fields = some _ := overlay?_ofRecord rfl (by decide)
  have back := fun n member => toUInt64?_ofNat (fits n member)
  simp only [words, List.forall_mem_cons] at back
  rw [ofJson?, read]
  simp [back, factor]

end ExtremeRecoverySettings

/-- What text can hold: numbers within their types, and floats whose print is read back. -/
structure Settings.Writable (s : Settings) : Prop where
  fps : s.profile.fps < UInt32.size
  barrier : ∀ n ∈ s.barrier.words, n < UInt64.size
  timing : ∀ x ∈ s.timing.numbers, Rereads x
  baseline : ∀ n ∈ s.baseline.words, n < UInt64.size
  steadyState : ∀ n ∈ s.steadyState.words, n < UInt64.size
  rapidToggle : ∀ n ∈ s.rapidToggle.words, n < UInt64.size
  extremeRecovery : ∀ n ∈ s.extremeRecovery.words, n < UInt64.size
  exposureMultiplier : Rereads s.extremeRecovery.exposureMultiplier

theorem Settings.ofJson?_toJson {s : Settings} (writable : s.Writable) :
    ofJson? (s.toJson ofFloat) = some s := by
  have read : (s.toJson ofFloat).overlay? fields = some _ := overlay?_ofRecord rfl (by decide)
  rw [ofJson?, read]
  simp [ProfileQuery.ofJson?_toJson writable.fps, BarrierSettings.ofJson?_toJson writable.barrier,
    TimingSettings.ofJson?_toJson writable.timing,
    BaselineSettings.ofJson?_toJson writable.baseline,
    SteadyStateSettings.ofJson?_toJson writable.steadyState,
    RapidToggleSettings.ofJson?_toJson writable.rapidToggle,
    ExtremeRecoverySettings.ofJson?_toJson writable.extremeRecovery writable.exposureMultiplier]

structure CameraConfig.Writable (c : CameraConfig) : Prop where
  profiles : ∀ p ∈ c.profiles, p.Fits
  lagFrames : c.lagFrames < UInt32.size
  dropoutEvery : ∀ n ∈ c.dropoutEvery, n < UInt64.size
  stallAfter : ∀ n ∈ c.stallAfter, n < UInt64.size
  stuckValue : ∀ i ∈ c.stuckValue, Binary64.minInt64 ≤ i ∧ i ≤ Binary64.maxInt64
  exposureRange : ∀ x ∈ c.exposureRange.numbers, Rereads x

theorem CameraConfig.ofJson?_toJson {c : CameraConfig} (writable : c.Writable) :
    ofJson? (c.toJson ofFloat) = some c := by
  have read : (c.toJson ofFloat).overlay? fields = some _ := overlay?_ofRecord rfl (by decide)
  have name : toString? (ofString c.name) = some c.name := rfl
  have profiles : (ofList StreamProfile.toJson c.profiles).toList? StreamProfile.ofJson? = some c.profiles :=
    toList?_ofList fun p member => StreamProfile.ofJson?_toJson (writable.profiles p member)
  have count : ∀ n? : Option Nat, (∀ n ∈ n?, n < UInt64.size) →
      (ofOption ofNat n?).toOption? toUInt64? = some n? :=
    fun _ fits => toOption?_ofOption (fun _ => nofun) fun n given => toUInt64?_ofNat (fits n given)
  have stuckValue : (ofOption ofInt c.stuckValue).toOption? toInt64? = some c.stuckValue :=
    toOption?_ofOption (fun _ => nofun) fun i given =>
      toInt64?_ofInt (writable.stuckValue i given).1 (writable.stuckValue i given).2
  have mode : toBool? (ofBool c.supportsMode) = some c.supportsMode := rfl
  have readOnly : (ofList DeviceOption.toJson c.readOnly).toList? DeviceOption.ofJson? = some c.readOnly :=
    toList?_ofList fun o _ => o.ofJson?_toJson
  rw [ofJson?, read]
  simp [name, profiles, toUInt32?_ofNat writable.lagFrames, count _ writable.dropoutEvery,
    count _ writable.stallAfter, stuckValue, mode, readOnly,
    OptionRange.ofJson?_toJson writable.exposureRange]

/-! Documents made of fields -/

theorem StreamProfile.plain_toJson {p : StreamProfile} (fits : p.Fits) {depth : Nat} :
    p.toJson.Plain (depth + 1) := by
  have number : ∀ n ∈ [p.width, p.height, p.fps], (ofNat n).Plain depth :=
    fun n member => plain_ofNat ((fits n member).trans (by decide))
  simp only [List.forall_mem_cons] at number
  refine plain_ofRecord fields rfl (by decide) ?_
  simp [number, StreamType.toJson, PixelFormat.toJson, plain_ofString]

theorem OptionRange.plain_toJson {r : OptionRange} (back : ∀ x ∈ r.numbers, Rereads x) {depth : Nat} :
    (r.toJson ofFloat).Plain (depth + 1) := by
  have number : ∀ x ∈ r.numbers, (ofFloat x).Plain depth := fun x member => plain_ofFloat (back x member)
  simp only [numbers, List.forall_mem_cons] at number
  refine plain_ofRecord fields rfl (by decide) ?_
  simp [number]

theorem CameraConfig.plain_toJson {c : CameraConfig} (writable : c.Writable) {depth : Nat} :
    (c.toJson ofFloat).Plain (depth + 3) := by
  -- Three levels: the configuration, the list of profiles, a profile.
  have profiles : (ofList StreamProfile.toJson c.profiles).Plain (depth + 2) :=
    plain_ofList fun p member => StreamProfile.plain_toJson (writable.profiles p member)
  have lag : (ofNat c.lagFrames).Plain (depth + 2) := plain_ofNat (writable.lagFrames.trans (by decide))
  have count : ∀ n? : Option Nat, (∀ n ∈ n?, n < UInt64.size) → (ofOption ofNat n?).Plain (depth + 2) :=
    fun _ fits => plain_ofOption fun n given => plain_ofNat (fits n given)
  have stuckValue : (ofOption ofInt c.stuckValue).Plain (depth + 2) :=
    plain_ofOption fun i given => plain_ofInt (writable.stuckValue i given).1 (writable.stuckValue i given).2
  have readOnly : (ofList DeviceOption.toJson c.readOnly).Plain (depth + 2) :=
    plain_ofList fun o _ => plain_ofString o.name
  have range : (c.exposureRange.toJson ofFloat).Plain (depth + 2) :=
    OptionRange.plain_toJson writable.exposureRange
  refine plain_ofRecord fields rfl (by decide) ?_
  simp [plain_ofString, profiles, lag, count _ writable.dropoutEvery, count _ writable.stallAfter,
    stuckValue, plain_ofBool, readOnly, range]

theorem Settings.legible_toJson (s : Settings) : (s.toJson ofFloat).Legible := by
  have stream : s.profile.stream.toJson.Legible := trivial
  have format : (ofOption PixelFormat.toJson s.profile.format).Legible := by
    cases s.profile.format <;> trivial
  have fallback : (ofBool s.profile.allowFallback).Legible := trivial
  simp [Settings.toJson, ProfileQuery.toJson, BarrierSettings.toJson, TimingSettings.toJson,
    BaselineSettings.toJson, SteadyStateSettings.toJson, RapidToggleSettings.toJson,
    ExtremeRecoverySettings.toJson, legible_ofRecord, legible_ofNat, legible_ofFloat, stream, format,
    fallback]

end Fields

def CameraConfig.toText (c : CameraConfig) : String :=
  (c.toJson Json.ofFloat).render

theorem Settings.ofText?_toText {s : Settings} (writable : s.Writable) : ofText? s.toText = some s := by
  rw [ofText?, toText, Json.parse?_render s.legible_toJson, Option.bind_some, ofJson?_toJson writable]

theorem CameraConfig.document?_toText {c : CameraConfig} (writable : c.Writable) :
    Json.document? c.toText = some (c.toJson Json.ofFloat) :=
  Json.document?_render (plain_toJson writable)

theorem Camera.configure_toJson {c : CameraConfig} (writable : c.Writable) {camera : Camera}
    (closed : camera.isOpen = false) :
    camera.configure (c.toJson Json.ofFloat) = .ok (.ofConfig c) := by
  rw [configure, closed, if_neg Bool.false_ne_true, CameraConfig.ofJson?_toJson writable]

/-- Settings and configurations are read back from their own text, so no two of them share a text. A
camera that is closed takes the configuration read, whatever it was before. -/
theorem configurations_read_back :
    (∀ s : Settings, s.Writable → Settings.ofText? s.toText = some s) ∧
    (∀ c : CameraConfig, c.Writable → ∀ camera : Camera, camera.isOpen = false →
      ∃ j configured, Json.document? c.toText = some j ∧ camera.configure j = .ok configured ∧
        configured = .ofConfig c ∧ configured.config = c) ∧
    Set.InjOn Settings.toText {s | s.Writable} ∧
    Set.InjOn CameraConfig.toText {c | c.Writable} := by
  refine ⟨fun _ writable => Settings.ofText?_toText writable, ?_, ?_, ?_⟩
  · intro c writable camera closed
    exact ⟨_, _, CameraConfig.document?_toText writable, Camera.configure_toJson writable closed, rfl, rfl⟩
  · intro s first t second same
    rw [Set.mem_ofPred_eq] at first second
    have read := Settings.ofText?_toText first
    rw [same, Settings.ofText?_toText second] at read
    exact (Option.some.inj read).symm
  · intro c first d second same
    rw [Set.mem_ofPred_eq] at first second
    have kept := CameraConfig.document?_toText first
    rw [same, CameraConfig.document?_toText second] at kept
    have read := CameraConfig.ofJson?_toJson first
    rw [← Option.some.inj kept, CameraConfig.ofJson?_toJson second] at read
    exact (Option.some.inj read).symm

def Settings.extreme : Settings where
  profile := { stream := .infrared, format := none, fps := 4294967295, allowFallback := false }
  barrier := { pollIntervalMs := 0, timeoutMs := 18446744073709551615 }
  timing := { spikeThresholdPercent := 0.1, maxSpikeRatePercent := -0.0 }
  extremeRecovery := { iterations := 18446744073709551615, exposureMultiplier := 1e300 }

def CameraConfig.extreme : CameraConfig where
  name := "\"\\/\x08\x00\x1f\n é 😀"
  profiles := [⟨.color, .rgb8, 4294967295, 0, 4294967295⟩, ⟨.depth, .y16, 1, 1, 1⟩]
  lagFrames := 4294967295
  dropoutEvery := none
  stallAfter := some 18446744073709551615
  stuckValue := some (-9223372036854775808)
  supportsMode := false
  readOnly := [.exposure, .autoExposureMode]
  exposureRange := ⟨-0.0, 165000, 0.001, 8500.5⟩

theorem Settings.writable_default : Settings.Writable {} := by
  constructor <;> decide +kernel

theorem Settings.writable_extreme : Settings.extreme.Writable := by
  constructor <;> decide +kernel

theorem CameraConfig.writable_extreme : CameraConfig.extreme.Writable := by
  constructor <;> decide +kernel

theorem extremes_read_back :
    Settings.extreme.Writable ∧ Settings.Writable {} ∧ CameraConfig.extreme.Writable ∧
    Settings.ofText? Settings.extreme.toText = some Settings.extreme ∧
    (∃ j configured, Json.document? CameraConfig.extreme.toText = some j ∧
      (Camera.ofConfig .default).configure j = .ok configured ∧
      configured = .ofConfig .extreme ∧ configured.config = .extreme) ∧
    Settings.extreme.toText ≠ Settings.toText {} := by
  have settings := Settings.writable_extreme
  have plain := Settings.writable_default
  have camera := CameraConfig.writable_extreme
  obtain ⟨read, configured, apart, -⟩ := configurations_read_back
  refine ⟨settings, plain, camera, read _ settings, configured _ camera (.ofConfig .default) rfl, ?_⟩
  intro same
  cases congrArg (·.profile.fps) (apart settings plain same)

end ExposureBench
