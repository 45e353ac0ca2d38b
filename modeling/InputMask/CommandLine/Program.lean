/-
The plan that answers a command line. The mask is read before any input, and all input is read
before anything is written, so a run may write over the file it reads and a run that fails
writes nothing.
-/
import InputMask.Batch
import InputMask.CommandLine.Plan
import InputMask.CommandLine.Request
import InputMask.Mask.Json
import InputMask.Spec.Json
import InputMask.Spec.Values

namespace InputMask.CommandLine

def versionText : String := "editmask 0.1.0\n"

def Exit.success : Exit := ⟨0, []⟩

def Exit.failure (what cause : List Char) : Exit :=
  ⟨1, "Error: ".toList ++ what ++ "\n\nCaused by:\n    ".toList ++ cause ++ ['\n']⟩

/-- The standard output refuses, which no run expects. Where in the code this came up is said as
well and is left out here. -/
def Exit.brokenOff (cause : List Char) : Exit :=
  ⟨101, "failed printing to stdout: ".toList ++ cause ++ ['\n']⟩

/-- Some line did not conform. This is an answer, so nothing is complained of. -/
def Exit.nonconforming : Exit := ⟨1, []⟩

def Exit.misuse : Exit := ⟨2, "Error: the arguments are not understood\n".toList⟩

namespace Source

def ofName : Option (List Char) → Source
  | none => .standardInput
  | some name => .file name

def failure : Source → List Char
  | .standardInput => "Failed to read from stdin".toList
  | .file name => "Failed to read file: ".toList ++ name

end Source

namespace Target

def ofName : Option (List Char) → Target
  | none => .standardOutput
  | some name => .file name

def refused (fault : SystemFault) : Target → Exit
  | .standardOutput => Exit.brokenOff fault.message.toList
  | .file name => Exit.failure ("Failed to write file: ".toList ++ name) fault.message.toList

end Target

def decoded (outcome : Except SystemFault ByteArray) : Except String (List Char) :=
  match outcome with
  | .error fault => .error fault.message
  | .ok bytes =>
      match String.fromUTF8? bytes with
      | none => .error "stream did not contain valid UTF-8"
      | some text => .ok text.toList

namespace Plan

def deliver (target : Target) (text : List Char) (exit : Exit) : Plan :=
  .write target text (fun fault? =>
    match fault? with
    | none => .finish exit
    | some fault => .finish (target.refused fault))

def readText (source : Source) (next : List Char → Plan) : Plan :=
  .read source (fun outcome =>
    match decoded outcome with
    | .ok text => next text
    | .error cause => .finish (Exit.failure source.failure cause.toList))

def withMask (spec : Spec) (next : Mask → Plan) : Plan :=
  match spec.mask with
  | .ok mask => next mask
  | .error fault =>
      .finish (Exit.failure ("Failed to compile mask pattern: ".toList ++ spec.pattern)
        fault.message.toList)

end Plan

/-- What a job does with its input. A check that finds nothing leaves even its output alone. -/
def Job.conclude (job : Job) (mask : Mask) (text : List Char) : Plan :=
  let batch : Batch := ⟨mask, job.spec, job.separators⟩
  let target := Target.ofName job.output?
  match job.operation with
  | .apply => .deliver target (batch.apply text) .success
  | .remove => .deliver target (batch.remove text) .success
  | .check =>
      let report := batch.check text
      if report.isEmpty then .finish .success
      else .deliver target report .nonconforming

def Job.plan (job : Job) : Plan :=
  .withMask job.spec (fun mask =>
    .readText (Source.ofName job.input?) (fun text => job.conclude mask text))

def shown (value : Json) : List Char := value.render ++ ['\n']

/-- Naming the version succeeds even where nobody can be told. -/
def Request.plan : Request → Plan
  | .version => .write .standardOutput versionText.toList (fun _fault? => .finish .success)
  | .showSpec spec => .deliver .standardOutput (shown spec.toJson) .success
  | .showMask spec =>
      .withMask spec (fun mask => .deliver .standardOutput (shown mask.toJson) .success)
  | .work job => job.plan

def program (environmentMask? : Option (List Char)) (arguments : List (List Char)) : Plan :=
  match Request.ofArguments? environmentMask? arguments with
  | some request => request.plan
  | none => .finish .misuse

end InputMask.CommandLine
