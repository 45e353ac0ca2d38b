/-
The command line on the real system: carries out the plan of the program with the files, the
streams and the environment of the process.
-/
import InputMask.CommandLine.Program

namespace InputMask.CommandLine

def systemFault : IO.Error → SystemFault
  | .alreadyExists _ code description
  | .otherError code description
  | .resourceBusy code description
  | .resourceVanished code description
  | .unsupportedOperation code description
  | .hardwareFault code description
  | .unsatisfiedConstraints code description
  | .illegalOperation code description
  | .protocolError code description
  | .timeExpired code description
  | .interrupted _ code description
  | .noFileOrDirectory _ code description
  | .invalidArgument _ code description
  | .permissionDenied _ code description
  | .resourceExhausted _ code description
  | .inappropriateType _ code description
  | .noSuchThing _ code description => ⟨description, code.toNat⟩
  | .unexpectedEof => ⟨"unexpected end of file", 0⟩
  | .userError description => ⟨description, 0⟩

partial def remainingBytes (stream : IO.FS.Stream) (collected : ByteArray) : IO ByteArray := do
  let chunk ← stream.read 65536
  if chunk.isEmpty then return collected
  remainingBytes stream (collected ++ chunk)

def readSource : Source → IO ByteArray
  | .standardInput => do remainingBytes (← IO.getStdin) ByteArray.empty
  | .file name => do
      let handle ← IO.FS.Handle.mk (String.ofList name) .read
      remainingBytes (IO.FS.Stream.ofHandle handle) ByteArray.empty

def writeTarget (text : List Char) : Target → IO Unit
  | .standardOutput => do
      let stream ← IO.getStdout
      stream.putStr (String.ofList text)
      stream.flush
  | .file name => IO.FS.writeBinFile (String.ofList name) (String.ofList text).toUTF8

def realSystem : System IO where
  read source :=
    try Except.ok <$> readSource source
    catch refusal => pure (Except.error (systemFault refusal))
  write target text :=
    try writeTarget text target *> pure none
    catch refusal => pure (some (systemFault refusal))

end InputMask.CommandLine

def main (arguments : List String) : IO UInt32 := do
  let environmentMask? ← IO.getEnv InputMask.CommandLine.maskVariable
  let plan := InputMask.CommandLine.program (environmentMask?.map String.toList)
    (arguments.map String.toList)
  let exit ← plan.perform InputMask.CommandLine.realSystem
  (← IO.getStderr).putStr (String.ofList exit.complaint)
  return UInt32.ofNat exit.code
