import ExposureBench.Device.Scripted

namespace ExposureBench

inductive Device where
  | camera (c : Camera)
  | scripted (d : ScriptedDevice)
  deriving BEq, Repr

namespace Device

def name : Device → String
  | .camera c => c.config.name
  | .scripted d => d.script.name

def profiles : Device → List StreamProfile
  | .camera c => c.config.profiles
  | .scripted d => d.script.profiles

def openWith (profile : StreamProfile) : Device → Except DeviceFault Unit × Device
  | .camera c => (c.openWith profile).map id .camera
  | .scripted d => d.openWith.map id .scripted

def start (now : Nat) : Device → Except DeviceFault Unit × Device
  | .camera c => (c.start now).map id .camera
  | .scripted d => (d.start now).map id .scripted

def stop : Device → Except DeviceFault Unit × Device
  | .camera c => c.stop.map id .camera
  | .scripted d => d.stop.map id .scripted

def close : Device → Except DeviceFault Unit × Device
  | .camera c => c.close.map id .camera
  | .scripted d => d.close.map id .scripted

def supports (option : DeviceOption) : Device → Bool
  | .camera c => c.supports option
  | .scripted d => d.supports option

def range (option : DeviceOption) : Device → Except DeviceFault OptionRange
  | .camera c => c.range option
  | .scripted d => d.range option

def get (option : DeviceOption) : Device → Except DeviceFault Float
  | .camera c => c.get option
  | .scripted d => d.get option

def set (option : DeviceOption) (v : Float) : Device → Except DeviceFault Unit × Device
  | .camera c => (c.set option v).map id .camera
  | .scripted d => (d.set option v).map id .scripted

def runUntil (time : Nat) : Device → Device × List Arrival
  | .camera c => (c.runUntil time).map .camera id
  | .scripted d => (d.runUntil time).map .scripted id

end Device

end ExposureBench
