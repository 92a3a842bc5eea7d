/-
  THE PROGRAM: from a command line to what is printed and the exit code.

  The model is loaded first, whatever the command is.  A failure is told in a report: what failed,
  and the causes from the nearest to the first.  A report with one cause indents it, one with
  several numbers them; the further lines of a cause stand below its first.
-/
import DocIndex.CommandLine
import DocIndex.Document.Reader
import DocIndex.Handbook
import DocIndex.HomePath
import DocIndex.Text.Blank

namespace DocIndex

/-! ## Reports -/

/-- What failed, and why. -/
structure Report where
  message : String
  causes : List String := []
  deriving Repr, DecidableEq

namespace Report

/-- A cause behind its mark, with the further lines at the given depth. -/
def indent (mark depth : List Char) (cause : String) : List Char :=
  '\n' :: mark ++ cause.toList.flatMap fun c => if c = '\n' then '\n' :: depth else [c]

/-- A number, set to the right in five columns. -/
def numeral (n : Nat) : List Char :=
  let digits := (toString n).toList
  List.replicate (5 - digits.length) ' ' ++ digits

/-- Several causes, numbered from `n` on. -/
def numbered (n : Nat) : List String → List Char
  | [] => []
  | cause :: causes =>
    indent (numeral n ++ [':', ' ']) (List.replicate 7 ' ') cause ++ numbered (n + 1) causes

/-- The report as it is printed. -/
def text (r : Report) : String :=
  let head := "Error: " ++ r.message
  match r.causes with
  | [] => head
  | [cause] =>
    let depth := List.replicate 4 ' '
    head ++ "\n\nCaused by:" ++ String.ofList (indent depth depth cause)
  | causes => head ++ "\n\nCaused by:" ++ String.ofList (numbered 0 causes)

end Report

/-! ## The model -/

/-- What is found at a path. -/
inductive Source where
  | missing
  | unreadable (cause : String)
  | text (content : String)
  deriving Repr, DecidableEq

/-- The content of a file. -/
def Source.ofBytes (bytes : ByteArray) : Source :=
  match String.fromUTF8? bytes with
  | some content => .text content
  | none => .unreadable "stream did not contain valid UTF-8"

/-- Why a model could not be loaded. -/
inductive LoadError where
  | notFound (path : String)
  | unreadable (path cause : String)
  | malformed (fault : Json.Fault)

namespace LoadError

def message : LoadError → String
  | .notFound path => "Documentation model not found at " ++ path
  | .unreadable path cause => "Failed to read documentation model at " ++ path ++ ": " ++ cause
  | .malformed fault => "Failed to parse documentation model: " ++ fault.message

/-- The failure itself, and what led to it. -/
def causes : LoadError → List String
  | e@(.notFound _) => [e.message]
  | e@(.unreadable _ cause) => [e.message, cause]
  | e@(.malformed fault) => [e.message, fault.message]

def report (path : String) (e : LoadError) : Report where
  message := "Failed to load documentation model from " ++ path
  causes := e.causes

end LoadError

/-- The handbook of the model at a path. -/
def Handbook.load (path : String) : Source → Except LoadError Handbook
  | .missing => .error (.notFound path)
  | .unreadable cause => .error (.unreadable path cause)
  | .text content =>
    match Document.parse content with
    | .ok loaded => .ok (.ofDocument loaded.document)
    | .error fault => .error (.malformed fault)

/-! ## Commands -/

/-- What comes of a command. -/
inductive Outcome where
  | printed (output : String)
  | failed (report : Report)
  /-- the handbook is to answer requests from now on -/
  | serving (handbook : Handbook)

/-- An answer as it is printed: without blanks at its end, and with one line break. -/
def printedText (answer : String) : String :=
  String.ofList (Text.trimEnd answer.toList ++ ['\n'])

namespace Command

/-- Carries out a command; without one the handbook serves. -/
def run (h : Handbook) : Option Command → Outcome
  | none => .serving h
  | some .serve => .serving h
  | some (.search r) => .printed (printedText (h.answerSearch r))
  | some (.resolve r) => .printed (printedText (h.answerResolve r))
  | some (.lookup r) =>
    match h.answerLookup r with
    | .ok answer => .printed (printedText answer)
    | .error e => .failed ⟨e.message, []⟩

end Command

namespace Invocation

/-- Where the model is. -/
def path (i : Invocation) (home : Option String) : String := expandHome home i.model

/-- Carries out an invocation, with what was found at its path. -/
def run (i : Invocation) (home : Option String) (source : Source) : Outcome :=
  let path := i.path home
  match Handbook.load path source with
  | .ok h => Command.run h i.command
  | .error e => .failed (e.report path)

end Invocation

/-- The name and the version of the program. -/
def versionText : String := "apidoc-query 0.2.0\n"

/-- The input ended before a client had introduced itself. -/
def noClient : Report := ⟨"connection closed: initialize request", []⟩

end DocIndex
