import DetectorSim.CommandLine.Runner

/-!
The program on real files. Its log goes to standard output.
-/

namespace DetectorSim

/-- The number of an error of the system, which some calls report negated. -/
def errorNumber (code : UInt32) : UInt32 :=
  if code < 0x80000000 then code else 0 - code

/-- The fault that an error of the system stands for. -/
def FileFault.ofError (e : IO.Error) : FileFault :=
  match e with
  | .noFileOrDirectory .. => .notFound
  | .inappropriateType _ code _ =>
    if errorNumber code == 21 then .isDirectory else .notDirectory
  | .invalidArgument _ code _ =>
    if errorNumber code == 36 then .nameTooLong else .other (toString e)
  | _ => .other (toString e)

/-- Answers a question about files from the real ones. -/
def FileQuestion.answer : (q : FileQuestion) → IO (fileInterface.Answer q)
  | .present path => do
    if path.fault?.isSome then return false
    try
      let _ ← IO.FS.realPath path.text
      return true
    catch _ => return false
  | .read path => do
    if let some fault := path.fault? then return .error fault
    try
      match String.fromUTF8? (← IO.FS.readBinFile path.text) with
      | some text => return .ok text
      | none => return .error .notText
    catch e => return .error (.ofError e)
  | .write path text => do
    if let some fault := path.fault? then return .error fault
    try
      IO.FS.writeFile path.text text
      return .ok ()
    catch e => return .error (.ofError e)

/-- The number of processors, one if it is not known. -/
def countProcessors : IO Nat := do
  try
    let entries := (← IO.FS.lines "/proc/cpuinfo").filter (·.startsWith "processor")
    return max entries.size 1
  catch _ => return 1

/-- A seed that differs from run to run. -/
def drawSeed : IO UInt64 := do
  let bytes ← IO.getRandomBytes 8
  return bytes.foldl (fun n b => n <<< 8 ||| b.toUInt64) 0

end DetectorSim

open DetectorSim in
/-- Runs the program. -/
def main (arguments : List String) : IO UInt32 := do
  let program := CommandLine.run arguments (← drawSeed) (← countProcessors)
  let transcript ← Interaction.interpret (I := fileInterface) FileQuestion.answer program
  transcript.errors.forM fun line => do (← IO.getStderr).putStrLn line
  transcript.log.forM IO.println
  return transcript.status
