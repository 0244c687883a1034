import ExposureBench.Device.Option
import ExposureBench.Stream.Profile

namespace ExposureBench

inductive DeviceFault where
  | alreadyOpen
  | unsupportedProfile (profile : StreamProfile)
  | notOpen
  | alreadyStreaming
  | notStarted
  | deliveryFailed
  | closeWhileStreaming
  | notOpenToClose
  | configureWhileOpen
  | invalidConfig
  | unsupported (option : DeviceOption)
  | readOnly (option : DeviceOption)
  | outOfRange (value : Float) (range : OptionRange) (option : DeviceOption)
  | unknownMode (value : Float)
  | noRange (option : DeviceOption)
  | noOption (option : DeviceOption)
  | reported (message : String) (causes : List String)
  deriving BEq, Repr

namespace DeviceFault

def message : DeviceFault → String
  | .alreadyOpen => "Camera already open"
  | .unsupportedProfile p => s!"Unsupported stream profile {p.text}"
  | .notOpen => "Camera not open"
  | .alreadyStreaming => "Camera already streaming"
  | .notStarted => "stop() called before start()"
  | .deliveryFailed => "Camera delivery thread panicked"
  | .closeWhileStreaming => "close() called while streaming"
  | .notOpenToClose => "close() called on a closed camera"
  | .configureWhileOpen => "Cannot configure camera while it is open"
  | .invalidConfig => "Invalid simulated camera config"
  | .unsupported o => s!"Option {o.name} not supported"
  | .readOnly o => s!"Option {o.name} is read-only"
  | .outOfRange v r o =>
    s!"Value {floatText v} out of range [{floatText r.min}, {floatText r.max}] for {o.name}"
  | .unknownMode v => s!"Unknown auto exposure mode {floatText v}"
  | .noRange o => s!"no range for {o.name}"
  | .noOption o => s!"no option {o.name}"
  | .reported text _ => text

def chain : DeviceFault → List String
  | .reported text causes => text :: causes
  | fault => [fault.message]

end DeviceFault

end ExposureBench
