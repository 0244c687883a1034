import ExposureBench.Json.Writer

namespace ExposureBench

inductive StreamType where
  | depth
  | infrared
  | color
  deriving DecidableEq, Repr

namespace StreamType

def name : StreamType → String
  | .depth => "depth"
  | .infrared => "infrared"
  | .color => "color"

def label : StreamType → String
  | .depth => "Depth"
  | .infrared => "Infrared"
  | .color => "Color"

def names : List (String × StreamType) :=
  [.depth, .infrared, .color].map fun s => (s.name, s)

def ofJson? : Json → Option StreamType := Json.toEnum? names

def toJson (s : StreamType) : Json := .ofString s.name

end StreamType

inductive PixelFormat where
  | z16
  | y8
  | y16
  | rgb8
  deriving DecidableEq, Repr

namespace PixelFormat

def name : PixelFormat → String
  | .z16 => "z16"
  | .y8 => "y8"
  | .y16 => "y16"
  | .rgb8 => "rgb8"

def label : PixelFormat → String
  | .z16 => "Z16"
  | .y8 => "Y8"
  | .y16 => "Y16"
  | .rgb8 => "Rgb8"

def names : List (String × PixelFormat) :=
  [.z16, .y8, .y16, .rgb8].map fun f => (f.name, f)

def ofJson? : Json → Option PixelFormat := Json.toEnum? names

def toJson (f : PixelFormat) : Json := .ofString f.name

end PixelFormat

structure StreamProfile where
  stream : StreamType
  format : PixelFormat
  width : Nat
  height : Nat
  fps : Nat
  deriving DecidableEq, Repr

namespace StreamProfile

def frameTimeMs (p : StreamProfile) : Float :=
  1000.0 / Float.ofNat (max p.fps 1)

def frameTimeUs (p : StreamProfile) : Float :=
  p.frameTimeMs * 1000.0

def text (p : StreamProfile) : String :=
  s!"{p.stream.label}/{p.format.label} {p.width}x{p.height}@{p.fps}fps"

def fields : List String := ["stream", "format", "width", "height", "fps"]

def ofJson? (j : Json) : Option StreamProfile := do
  let r ← j.record? fields
  return {
    stream := ← r.field? "stream" StreamType.ofJson?
    format := ← r.field? "format" PixelFormat.ofJson?
    width := ← r.field? "width" Json.toUInt32?
    height := ← r.field? "height" Json.toUInt32?
    fps := ← r.field? "fps" Json.toUInt32? }

def toJson (p : StreamProfile) : Json :=
  .ofRecord [("stream", p.stream.toJson), ("format", p.format.toJson), ("width", .ofNat p.width),
    ("height", .ofNat p.height), ("fps", .ofNat p.fps)]

end StreamProfile

/-- The profile an experiment wants; no format stands for any. -/
structure ProfileQuery where
  stream : StreamType := .depth
  format : Option PixelFormat := some .z16
  fps : Nat := 30
  allowFallback : Bool := true
  deriving DecidableEq, Repr

/-- A fallback is not exact. -/
structure Selection where
  profile : StreamProfile
  exact : Bool
  deriving DecidableEq, Repr

namespace ProfileQuery

def exactly (q : ProfileQuery) : ProfileQuery :=
  { q with allowFallback := false }

def accepts (q : ProfileQuery) (p : StreamProfile) : Bool :=
  p.stream == q.stream && p.fps == q.fps && q.format.all (p.format == ·)

/-- The first profile that matches, else the first one offered if the query falls back. -/
def select? (q : ProfileQuery) (offered : List StreamProfile) : Option Selection :=
  match offered.find? q.accepts with
  | some p => some ⟨p, true⟩
  | none => if q.allowFallback then offered.head?.map (⟨·, false⟩) else none

def missingText (q : ProfileQuery) : String :=
  let format := match q.format with
    | some f => s!" with format {f.label}"
    | none => ""
  s!"no {q.stream.label} profile at {q.fps} fps{format}"

def fields : List String := ["stream", "format", "fps", "allow_fallback"]

def ofJson? (j : Json) : Option ProfileQuery := do
  let r ← j.overlay? fields
  let d : ProfileQuery := {}
  return {
    stream := ← r.fieldD? "stream" d.stream StreamType.ofJson?
    format := ← r.fieldD? "format" d.format (Json.toOption? PixelFormat.ofJson?)
    fps := ← r.fieldD? "fps" d.fps Json.toUInt32?
    allowFallback := ← r.fieldD? "allow_fallback" d.allowFallback Json.toBool? }

def toJson (q : ProfileQuery) : Json :=
  .ofRecord [("stream", q.stream.toJson), ("format", .ofOption PixelFormat.toJson q.format), ("fps", .ofNat q.fps),
    ("allow_fallback", .ofBool q.allowFallback)]

end ProfileQuery

end ExposureBench
