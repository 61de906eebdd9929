import AgentServe.DemoAgent.FileReader

/-!
# The tools of the agent

A tool takes what the model wrote, which need not be a text or a number, and whose texts
need not be made of characters. Files are read, the corpus is searched line by line, a
program is run in another process, and an expression is evaluated. What is raised inside
a tool ends as a text in its result, so a tool returns whatever it is given. What it was
given is a part of that text.

A search ends early once its bound is met. It compares the bound after a line is added,
so a bound below one is a bound of one.

The corpus, the other process and the evaluation of expressions are given from outside.
Files and processes are decoded to characters, while the name of a file may be any text.
Texts are compared in lower case.
-/

set_option autoImplicit false

namespace AgentServe

open Lib

/-! ## Reading files -/

/-- A path that is no text cannot be appended to the root. -/
def readFileTool (fs : FileSystem) (corpusRoot : Option ResolvedPath)
    (path : PyData Text) : ToolResult :=
  match path with
  | .str path => readFile fs corpusRoot path
  | _ =>
    match corpusRoot with
    | none => .error "corpus root not configured"
    | some _ =>
      .error ("unsupported operand type(s) for /: 'PosixPath' and '" ++ path.typeName ++ "'")

/-! ## Searching the corpus -/

/-- A file below the root, by its path from there, with its lines. The lines of some files cannot
be read. -/
structure CorpusFile where
  name : Text
  lines : Option (List String)

section Search

variable (lower : Text → Text) (query maxResults : PyData Text)

/-- The lines of a file that are left, after those already found. What is raised ends the search of
the file. The flag says that enough was found. -/
def searchLines (name : Text) : ℕ → List String → List Text → List Text × Bool
  | _, [], found => (found, false)
  | number, line :: rest, found =>
    match query with
    | .str text =>
      if Text.occursIn (lower text) (lower line) then
        let found :=
          found ++ [name ++ ":" ++ toString number ++ ": " ++ Text.rstripped line]
        match maxResults.number with
        | .ok bound =>
          if bound.le (.finite found.length) then (found, true)
          else searchLines name (number + 1) rest found
        | .error _ => (found, false)
      else searchLines name (number + 1) rest found
    | _ => (found, false)

def searchFiles : List CorpusFile → List Text → List Text × Bool
  | [], found => (found, false)
  | file :: rest, found =>
    match file.lines with
    | none => searchFiles rest found
    | some lines =>
      let searched := searchLines lower query maxResults file.name 1 lines found
      if searched.2 then searched else searchFiles rest searched.1

def searchCorpus (shown : PyData Text → Text) (corpusRoot : Option ResolvedPath)
    (corpus : List CorpusFile) : ToolResult :=
  match corpusRoot with
  | none => .error "corpus root not configured"
  | some _ =>
    let searched := searchFiles lower query maxResults corpus []
    if searched.2 || !searched.1.isEmpty then .ok (("\n" : Text).intercalate searched.1)
    else .error ("no matches for: " ++ shown query)

end Search

/-! ## Running programs -/

/-- What another process came to. -/
inductive Ran where
  | exited (returncode : ℤ) (stdout stderr : String)
  | timedOut
  | failed (message : Text)

def timeoutSeconds : ℕ := 10

def maxOutputBytes : ℕ := 8192

def runPython (subprocess : Text → Ran) (code : Text) : ToolResult :=
  match subprocess code with
  | .exited returncode stdout stderr =>
    let output : Text := stdout ++ stderr
    let output :=
      if maxOutputBytes < output.length then output.take maxOutputBytes ++ "\n[truncated]"
      else output
    if returncode ≠ 0 then
      { status := .error, output := if output = [] then "non-zero exit" else output }
    else .ok output
  | .timedOut =>
    { status := .timeout, output := "timed out after " ++ toString timeoutSeconds ++ "s" }
  | .failed message => .error message

/-! ## Calculating -/

def calculator (shown : PyData Text → Text) (evaluate : Text → Except Text Text)
    (expression : PyData Text) : ToolResult :=
  let result :=
    match expression with
    | .str text => evaluate (Text.stripped text)
    | _ => .error ("'" ++ expression.typeName ++ "' object has no attribute 'strip'")
  match result with
  | .ok value => .ok value
  | .error message => .error ("cannot evaluate '" ++ shown expression ++ "': " ++ message)

end AgentServe
