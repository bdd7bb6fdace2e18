import RuleLexer.CommandLine

/-! The program. It reads standard input only where no input is given, and takes the time that the
scan needs. -/

namespace RuleLexer

def writeResponse (r : CommandLine.Response) : IO UInt32 := do
  (← IO.getStdout).putStr r.stdout
  (← IO.getStderr).putStr r.stderr
  return r.exit.toUInt32

end RuleLexer

open RuleLexer in
def main (arguments : List String) : IO UInt32 := do
  match CommandLine.start (← (← IO.getStdout).isTty) arguments with
  | .error r => writeResponse r
  | .ok s =>
    let stdin ← if s.input.isSome then pure ByteArray.empty else (← IO.getStdin).readBinToEnd
    match s.prepare stdin with
    | .error r => writeResponse r
    | .ok (input, t) =>
      let started ← IO.monoNanosNow
      let output ← IO.lazyPure fun _ => s.scan t input
      let elapsed := Report.duration ((← IO.monoNanosNow) - started)
      writeResponse (output.response s.color input elapsed)
