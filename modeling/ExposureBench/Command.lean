import ExposureBench.Scenario.Suite

namespace ExposureBench

namespace Command

inductive File where
  | missing
  | unreadable
  | content (bytes : ByteArray)

def File.text? : File → Option String
  | .content bytes => String.fromUTF8? bytes
  | _ => none

structure Outcome where
  exitCode : UInt8
  stdout : String
  stderr : String

inductive InputError where
  | unreadableSettings (path : String)
  | invalidSettings
  | unreadableCamera (path : String)
  | malformedCamera
  | device (fault : DeviceFault)
  deriving BEq, Repr

def InputError.message : InputError → String
  | .unreadableSettings path => s!"Failed to read config file {path}"
  | .invalidSettings => "Failed to parse config JSON"
  | .unreadableCamera path => s!"Failed to read camera config {path}"
  | .malformedCamera => "Failed to parse camera config JSON"
  | .device fault => fault.message

def parseSettings (text : String) : Except InputError Settings :=
  match Settings.ofText? text with
  | some settings => .ok settings
  | none => .error .invalidSettings

def loadSettings (path : String) : File → Except InputError Settings
  | .missing => .ok {}
  | file => match file.text? with
    | none => .error (.unreadableSettings path)
    | some text => parseSettings text

def loadCamera (path : String) (file : File) : Except InputError Camera :=
  match file.text? with
  | none => .error (.unreadableCamera path)
  | some text => match Json.document? text with
    | none => .error .malformedCamera
    | some config => ((Camera.ofConfig .default).configure config).mapError .device

/-- The first path names the settings, the second the camera; what follows is passed over. -/
def prepare (files : List (String × File)) : Except InputError (Settings × Camera) := do
  let settings ← match files[0]? with
    | some (path, file) => loadSettings path file
    | none => .ok {}
  let camera ← match files[1]? with
    | some (path, file) => loadCamera path file
    | none => .ok (.ofConfig .default)
  return (settings, camera)

def ofReport (r : Report) : Outcome where
  exitCode := if 0 < r.failed then 1 else 0
  stdout := r.text ++ "\n"
  stderr := if 0 < r.failed then s!"Error: {r.failed} scenario(s) failed\n" else ""

def run (files : List (String × File)) : Outcome :=
  match prepare files with
  | .error e => ⟨1, "", s!"Error: {e.message}\n"⟩
  | .ok (settings, camera) => ofReport (Suite.run settings { device := .camera camera }).1

end Command

end ExposureBench
