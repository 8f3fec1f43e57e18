import ShaderLowering.Lowering.InterfaceListing
import ShaderLowering.Stream.Binary

/-!
# The command line

`shader-lowering FILE [--module-name NAME] [--print-interface] [--verbose]` lowers the
binary in a file and writes the text of the unit, and the listing of its interface if
that is asked for. What a run comes to is a value, `ShaderLowering.Outcome`; carrying
it out is left to the program.

Three things can go wrong. A file that does not hold a shader module is not reported
but ends the run abruptly; a module that cannot be lowered is reported; arguments that
make no sense are refused before anything is read. Reports share standard error with the
log and with what is said of an abrupt end, neither of which is part of an outcome.
-/

namespace ShaderLowering

/-- What a run is asked to do. -/
structure Invocation where
  /-- The file with the binary. -/
  path : String
  /-- The name of the unit. -/
  moduleName : String := "shader"
  /-- The listing of the interface is wanted too. -/
  printInterface : Bool := false
  /-- Detail about the run is wanted; what the run comes to is the same without. -/
  verbose : Bool := false
  deriving DecidableEq, Repr

/-- What a run comes to. -/
structure Outcome where
  /-- The exit code. -/
  exitCode : Nat
  /-- What is written to standard output. -/
  output : String := ""
  /-- What is reported of a failure on standard error, among whatever else is written there. -/
  report : Option String := none
  deriving DecidableEq, Repr

/-- The report as it is written, on a line of its own. -/
def Outcome.errors (outcome : Outcome) : String :=
  (outcome.report.map (· ++ "\n")).getD ""

namespace Invocation

/-- Options and arguments as they are collected. -/
structure Arguments where
  /-- The file, once it was given. -/
  path : Option String := none
  /-- The name of the unit, once it was given. -/
  moduleName : Option String := none
  /-- The listing of the interface was asked for. -/
  printInterface : Bool := false
  /-- Detail was asked for. -/
  verbose : Bool := false

/-- A word that looks like an option and not like a value. -/
def isOption (word : String) : Bool :=
  word.startsWith "-" && word ≠ "-"

/-- Collects options and arguments. Each is given at most once, and what is not known is
refused. -/
def collect (a : Arguments) : List String → Option Arguments
  | [] => some a
  | "--print-interface" :: rest =>
    if a.printInterface then none else collect { a with printInterface := true } rest
  | "--verbose" :: rest | "-v" :: rest =>
    if a.verbose then none else collect { a with verbose := true } rest
  | "--module-name" :: name :: rest =>
    if isOption name || a.moduleName.isSome then none
    else collect { a with moduleName := some name } rest
  | path :: rest =>
    if isOption path || a.path.isSome then none else collect { a with path := some path } rest

/-- What the arguments of a run ask for, if they make sense. -/
def ofArguments? (arguments : List String) : Option Invocation := do
  let a ← collect {} arguments
  let path ← a.path
  return {
    path
    moduleName := a.moduleName.getD "shader"
    printInterface := a.printInterface
    verbose := a.verbose }

/-- What a run on the given binary comes to. -/
def run (v : Invocation) (binary : List UInt8) : Outcome :=
  match wordsOfBinary binary >>= ShaderModule.read with
  | .error _ => { exitCode := 101 }
  | .ok shader =>
    match lower {} shader v.moduleName with
    | .error d => { exitCode := 1, report := some ("conversion failed: " ++ d.text) }
    | .ok lowered =>
      { exitCode := 0
        output := lowered.text ++ if v.printInterface then lowered.interfaceText else "" }

/-- What a run with arguments that make no sense comes to. -/
def refusal : Outcome :=
  { exitCode := 2
    report := some ("usage: shader-lowering FILE [--module-name NAME] " ++
      "[--print-interface] [--verbose]") }

end Invocation

end ShaderLowering
