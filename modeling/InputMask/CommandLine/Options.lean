/-
The grammar of the command line. Before the command stand flags only; after it stand options
with values and flags, in any order, and nothing else.

A value is the next argument or follows its option directly. Nothing may be given twice on the
same side of the command. A breach has no reading at all; which breach it is makes no difference.
-/
import InputMask.Text.Cut

namespace InputMask.CommandLine

inductive Command where
  | apply
  | remove
  | check
  | split
  | compile
deriving DecidableEq

inductive ValueOption where
  | mask
  | space
  | dateSeparator
  | timeSeparator
  | input
  | output
deriving DecidableEq

namespace ValueOption

def longName : ValueOption → String
  | mask => "mask"
  | space => "space"
  | dateSeparator => "date-sep"
  | timeSeparator => "time-sep"
  | input => "input"
  | output => "output"

def shortName? : ValueOption → Option Char
  | mask => some 'm'
  | input => some 'i'
  | output => some 'o'
  | space | dateSeparator | timeSeparator => none

end ValueOption

namespace Command

def all : List Command := [apply, remove, check, split, compile]

def name : Command → String
  | apply => "apply"
  | remove => "remove"
  | check => "check"
  | split => "split"
  | compile => "compile"

/-- Commands are never abbreviated. -/
def ofName? (text : List Char) : Option Command :=
  all.find? (fun command => command.name.toList == text)

def options : Command → List ValueOption
  | apply | remove | check =>
      [.mask, .space, .dateSeparator, .timeSeparator, .input, .output]
  | split | compile => [.mask, .space]

def longOption? (command : Command) (text : List Char) : Option ValueOption :=
  command.options.find? (fun option => option.longName.toList == text)

def shortOption? (command : Command) (c : Char) : Option ValueOption :=
  command.options.find? (fun option => option.shortName? == some c)

end Command

/-- What one argument after the command says: how often it gives the verbose flag, and the
option it ends with, whose value may still be to come. -/
structure Argument where
  verboseCount : Nat
  option? : Option (ValueOption × Option (List Char))
deriving DecidableEq

namespace Argument

/-- An argument after its two dashes. The value starts after the first equals sign. -/
def long? (command : Command) (text : List Char) : Option Argument :=
  match Text.cutAt? '=' text with
  | some (name, value) =>
      (command.longOption? name).map (fun option => ⟨0, some (option, some value)⟩)
  | none =>
      if text = "verbose".toList then some ⟨1, none⟩
      else (command.longOption? text).map (fun option => ⟨0, some (option, none)⟩)

def attached? : List Char → Option (List Char)
  | [] => none
  | '=' :: value => some value
  | value => some value

/-- An argument after its single dash: flags, and at most one option at the end. -/
def cluster? (command : Command) : List Char → Option Argument
  | [] => some ⟨0, none⟩
  | c :: rest =>
      if c = 'v' then
        (cluster? command rest).map (fun later =>
          { later with verboseCount := later.verboseCount + 1 })
      else
        (command.shortOption? c).map (fun option => ⟨0, some (option, attached? rest)⟩)

def ofText? (command : Command) : List Char → Option Argument
  | '-' :: '-' :: text => long? command text
  | '-' :: c :: text => cluster? command (c :: text)
  | _ => none

end Argument

structure Given where
  verbose : Bool
  values : List (ValueOption × List Char)
deriving DecidableEq

namespace Given

def nothing : Given := ⟨false, []⟩

def value? (given : Given) (option : ValueOption) : Option (List Char) :=
  given.values.lookup option

def addValue? (given : Given) (option : ValueOption) (value : List Char) : Option Given :=
  match given.value? option with
  | none => some { given with values := (option, value) :: given.values }
  | some _ => none

def addVerbose? (given : Given) : Nat → Option Given
  | 0 => some given
  | 1 => if given.verbose then none else some { given with verbose := true }
  | _ => none

/-- A value of its own argument begins with a dash only if it is just the dash. -/
def isDetachedValue : List Char → Bool
  | '-' :: _ :: _ => false
  | _ => true

/-- Read the arguments after the command. The option whose value is awaited is pending. Two
dashes may stand at the very end. -/
def read? (command : Command) (pending? : Option ValueOption) (given : Given) :
    List (List Char) → Option Given
  | [] => if pending?.isNone then some given else none
  | text :: rest =>
      match pending? with
      | some option =>
          if isDetachedValue text then
            match given.addValue? option text with
            | none => none
            | some further => read? command none further rest
          else none
      | none =>
          if text = ['-', '-'] then if rest.isEmpty then some given else none
          else
            match Argument.ofText? command text with
            | none => none
            | some argument =>
                match given.addVerbose? argument.verboseCount with
                | none => none
                | some flagged =>
                    match argument.option? with
                    | none => read? command none flagged rest
                    | some (option, none) => read? command (some option) flagged rest
                    | some (option, some value) =>
                        match flagged.addValue? option value with
                        | none => none
                        | some further => read? command none further rest

end Given

inductive LeadingFlags where
  | version
  | verbose (given : Bool)
deriving DecidableEq

/-- The version flag wins over everything after it. -/
def LeadingFlags.cluster? (given : Bool) : List Char → Option LeadingFlags
  | [] => some (.verbose given)
  | c :: rest =>
      if c = 'V' then some .version
      else if c = 'v' && !given then cluster? true rest
      else none

def LeadingFlags.ofText? (given : Bool) : List Char → Option LeadingFlags
  | '-' :: '-' :: name =>
      if name = "version".toList then some .version
      else if name = "verbose".toList && !given then some (.verbose true)
      else none
  | '-' :: c :: text => cluster? given (c :: text)
  | _ => none

inductive Invocation where
  | version
  | command (command : Command) (given : Given)
deriving DecidableEq

def Invocation.read? (verbose : Bool) : List (List Char) → Option Invocation
  | [] => none
  | text :: rest =>
      match Command.ofName? text with
      | some chosen => (Given.read? chosen none Given.nothing rest).map (.command chosen)
      | none =>
          match LeadingFlags.ofText? verbose text with
          | none => none
          | some .version => some .version
          | some (.verbose given) => read? given rest

end InputMask.CommandLine
