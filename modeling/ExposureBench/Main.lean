import ExposureBench.Command

namespace ExposureBench

def readFile (path : String) : IO Command.File := do
  try
    return .content (← IO.FS.readBinFile path)
  catch
    | .noFileOrDirectory .. => return .missing
    | _ => return .unreadable

end ExposureBench

def main (args : List String) : IO UInt32 := do
  let files ← args.mapM fun path => return (path, ← ExposureBench.readFile path)
  let outcome := ExposureBench.Command.run files
  IO.print outcome.stdout
  IO.eprint outcome.stderr
  return outcome.exitCode.toUInt32
