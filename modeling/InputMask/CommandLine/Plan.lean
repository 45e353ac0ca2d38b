/-
What a run does to the outside, as a value. A plan reads sources and writes targets one after
the other, each step depending on how the last one went, and ends with an exit.

A plan says nothing about how reading and writing are done. That is up to the system it is
carried out on, which may refuse any of the steps.
-/

namespace InputMask.CommandLine

structure SystemFault where
  description : String
  code : Nat
deriving DecidableEq

def SystemFault.message (fault : SystemFault) : String :=
  s!"{fault.description} (os error {fault.code})"

inductive Source where
  | standardInput
  | file (name : List Char)
deriving DecidableEq

inductive Target where
  | standardOutput
  | file (name : List Char)
deriving DecidableEq

structure Exit where
  code : Nat
  complaint : List Char
deriving DecidableEq

inductive Plan where
  | finish (exit : Exit)
  /-- Read the whole of a source. -/
  | read (source : Source) (next : Except SystemFault ByteArray → Plan)
  /-- Replace the whole of a file, or continue the standard output. -/
  | write (target : Target) (text : List Char) (next : Option SystemFault → Plan)

/-- The ways in which the steps of a plan are taken, whatever their effects. -/
structure System (m : Type → Type) where
  read : Source → m (Except SystemFault ByteArray)
  write : Target → List Char → m (Option SystemFault)

def Plan.perform {m : Type → Type} [Monad m] (system : System m) : Plan → m Exit
  | .finish exit => pure exit
  | .read source next => do
      let outcome ← system.read source
      (next outcome).perform system
  | .write target text next => do
      let fault? ← system.write target text
      (next fault?).perform system

end InputMask.CommandLine
