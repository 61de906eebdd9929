import AgentServe.Lib.Paths
import AgentServe.Lib.Texts
import Mathlib.Data.List.TakeDrop

/-!
# The file tool

The model names a file by a path, which is resolved against the root of the corpus:
an absolute path starts at the top, empty parts and dots are dropped, and two dots
go up. A file is read if the text of its resolved path begins with the text of the
root.

The text of the root is also the beginning of the texts of siblings of the corpus
with longer names. So a file outside the corpus is never read exactly if the path
does not lead to a readable file at or below such a sibling (`confined_iff`).

There are no symbolic links, so two dots undo the name before them. What the system
says of names it refuses and of places that cannot be read is left to it.
-/

set_option autoImplicit false

namespace AgentServe

open Lib

/-! ## Results of tools -/

inductive ToolStatus where
  | ok
  | error
  | timeout
  | sandboxViolation
deriving DecidableEq, Repr

structure ToolResult where
  status : ToolStatus
  output : Text
  truncated : Bool := false
deriving DecidableEq, Repr

namespace ToolResult

/-- The most characters of an output that are kept. -/
def maxChars : ℕ := 4000

def ok (output : Text) : ToolResult where
  status := .ok
  output := output.take maxChars
  truncated := maxChars < output.length

def error (message : Text) : ToolResult where
  status := .error
  output := message

/-- A result has the whole output exactly if the output is not too long. -/
theorem ok_output_eq_iff {text : Text} : (ok text).output = text ↔ text.length ≤ maxChars :=
  List.take_eq_self_iff text

end ToolResult

/-! ## Paths -/

def slash : CodePoint := .char '/'

/-- The names of a path are neither empty nor dots, and contain no slash. -/
def IsName (name : Text) : Prop := name ≠ [] ∧ name ≠ "." ∧ name ≠ ".." ∧ slash ∉ name

/-- An absolute path without dots. -/
structure ResolvedPath where
  names : List Text
  named : ∀ name ∈ names, IsName name

namespace ResolvedPath

/-- The top of the hierarchy. -/
def top : ResolvedPath := ⟨[], nofun⟩

/-- One name up. The top is above itself. -/
def parent (p : ResolvedPath) : ResolvedPath :=
  ⟨p.names.dropLast, fun name member => p.named name (p.names.dropLast_subset member)⟩

/-- One name down. -/
def child (p : ResolvedPath) (name : Text) (isName : IsName name) : ResolvedPath :=
  ⟨p.names ++ [name], by
    intro other member
    rcases List.mem_append.mp member with above | last
    · exact p.named other above
    · exact List.mem_singleton.mp last ▸ isName⟩

def str (p : ResolvedPath) : Text := if p.names = [] then "/" else Path.text slash p.names

end ResolvedPath

/-- What is at a place: nothing, a file with its text, or something that cannot be read as a file,
with what reading it says. -/
inductive Entry where
  | missing
  | file (text : String)
  | unreadable (message : Text)

/-- A file system without symbolic links: what is at each place, and what it says of the names that
it refuses. -/
structure FileSystem where
  entry : List Text → Entry
  refuses : Text → Option Text

namespace FileSystem

/-- The file system with another file at a place. -/
def write (fs : FileSystem) (names : List Text) (text : String) : FileSystem :=
  { fs with entry := fun place => if place = names then .file text else fs.entry place }

end FileSystem

/-- One part of a path that is resolved. -/
def resolvePart (refuses : Text → Option Text) (p : ResolvedPath) (part : Text)
    (plain : slash ∉ part) : Except Text ResolvedPath :=
  if still : part = [] ∨ part = "." then .ok p
  else if up : part = ".." then .ok p.parent
  else
    match refuses part with
    | some message => .error message
    | none =>
      .ok (p.child part ⟨fun same => still (.inl same), fun same => still (.inr same), up, plain⟩)

def resolveParts (refuses : Text → Option Text) (p : ResolvedPath) :
    (parts : List Text) → (∀ part ∈ parts, slash ∉ part) → Except Text ResolvedPath
  | [], _ => .ok p
  | part :: rest, plain =>
    match resolvePart refuses p part (plain part List.mem_cons_self) with
    | .error message => .error message
    | .ok next =>
      resolveParts refuses next rest fun part member => plain part (List.mem_cons_of_mem _ member)

/-- Resolve a path against a place. An absolute path starts at the top. -/
def resolve (refuses : Text → Option Text) (base : ResolvedPath) (path : Text) :
    Except Text ResolvedPath :=
  resolveParts refuses (if path.head? = some slash then .top else base)
    (Path.split slash path) fun _ => Path.notMem_of_mem_split

/-- The root of the corpus, from the path that is configured. -/
def setCorpusRoot (fs : FileSystem) (workingDirectory : ResolvedPath) (path : Text) :
    Except Text ResolvedPath :=
  resolve fs.refuses workingDirectory path

/-! ## Reading -/

def readFile (fs : FileSystem) (corpusRoot : Option ResolvedPath) (path : Text) : ToolResult :=
  match corpusRoot with
  | none => .error "corpus root not configured"
  | some root =>
    match resolve fs.refuses root path with
    | .error message => .error message
    | .ok target =>
      if root.str.isPrefixOf target.str then
        match fs.entry target.names with
        | .missing => .error ("file not found: " ++ path)
        | .file text => .ok text
        | .unreadable message => .error message
      else { status := .sandboxViolation, output := "path escapes corpus root: " ++ path }

/-- **Texts of resolved paths.** -/
theorem str_prefix_iff (root target : ResolvedPath) :
    root.str.isPrefixOf target.str = true ↔
      root.names <+: target.names ∨ Path.LongerSibling root.names target.names := by
  have plain : ∀ p : ResolvedPath, ∀ n ∈ p.names, slash ∉ n := fun p n member =>
    (p.named n member).2.2.2
  rw [List.isPrefixOf_iff_prefix, ← Path.text_prefix_iff (plain root) (plain target)]
  unfold ResolvedPath.str
  by_cases top : root.names = []
  · -- The text of every path begins with a slash.
    rw [if_pos top, top]
    refine iff_of_true ?_ List.nil_prefix
    split
    · exact List.prefix_rfl
    · rename_i below
      obtain ⟨name, names, whole⟩ := List.exists_cons_of_ne_nil below
      rw [whole, Path.text_cons]
      exact List.cons_prefix_cons.mpr ⟨rfl, List.nil_prefix⟩
  · rw [if_neg top]
    split
    · rename_i at_top
      obtain ⟨name, names, whole⟩ := List.exists_cons_of_ne_nil top
      have nonempty : name ≠ [] := (root.named name (by rw [whole]; exact List.mem_cons_self)).1
      obtain ⟨c, rest, rfl⟩ := List.exists_cons_of_ne_nil nonempty
      rw [at_top, whole, Path.text_cons]
      exact iff_of_false (by simp [Text.ofString]) (by simp [Path.text])
    · exact Iff.rfl

/-- The tool reads files below the root only, and what it says of a path that leads elsewhere does
not depend on the file there. -/
structure Confined (fs : FileSystem) (root : ResolvedPath) (path : Text) : Prop where
  inside : (readFile fs (some root) path).status = .ok →
    ∃ target, resolve fs.refuses root path = .ok target ∧ root.names <+: target.names
  outside : ∀ target, resolve fs.refuses root path = .ok target → ¬ root.names <+: target.names →
    (readFile fs (some root) path).status ≠ .ok ∧
      ∀ text other, fs.entry target.names = .file text →
        readFile (fs.write target.names other) (some root) path = readFile fs (some root) path

/-- The path leads to a readable file at or below a sibling of the root with a longer name that
begins with the name of the root. -/
def ReachesSibling (fs : FileSystem) (root : ResolvedPath) (path : Text) : Prop :=
  ∃ target text, resolve fs.refuses root path = .ok target ∧
    Path.LongerSibling root.names target.names ∧ fs.entry target.names = .file text

section Reading

variable {fs : FileSystem} {root target : ResolvedPath} {path : Text}

/-- A file that the test on the texts lets through is read. -/
theorem readFile_of_starts {text : String} (resolved : resolve fs.refuses root path = .ok target)
    (through : root.str.isPrefixOf target.str = true) (there : fs.entry target.names = .file text) :
    readFile fs (some root) path = .ok text := by
  simp only [readFile, resolved, through, if_true, there]

/-- A path that the test does not let through is a violation, whatever is there. -/
theorem readFile_of_not_starts (resolved : resolve fs.refuses root path = .ok target)
    (stopped : ¬ root.str.isPrefixOf target.str = true) :
    readFile fs (some root) path =
      { status := .sandboxViolation, output := "path escapes corpus root: " ++ path } := by
  simp only [readFile, resolved, stopped, if_false, Bool.false_eq_true]

/-- What is answered with a file was resolved, let through and found. -/
theorem found_of_ok (answered : (readFile fs (some root) path).status = .ok) :
    ∃ target text, resolve fs.refuses root path = .ok target ∧
      root.str.isPrefixOf target.str = true ∧ fs.entry target.names = .file text := by
  unfold readFile at answered
  cases resolved : resolve fs.refuses root path with
  | error message =>
      simp only [resolved] at answered
      cases answered
  | ok target =>
      simp only [resolved] at answered
      split at answered
      · rename_i through
        cases there : fs.entry target.names with
        | file text => exact ⟨target, text, rfl, through, there⟩
        | missing =>
            rw [there] at answered
            cases answered
        | unreadable message =>
            rw [there] at answered
            cases answered
      · cases answered

end Reading

/-- **The file tool stays in its corpus**, for a file system, a root and a path, exactly if the path
does not reach a sibling of the root. -/
theorem confined_iff (fs : FileSystem) (root : ResolvedPath) (path : Text) :
    Confined fs root path ↔ ¬ ReachesSibling fs root path := by
  constructor
  · rintro confined ⟨target, text, resolved, sibling, there⟩
    have through := (str_prefix_iff root target).mpr (.inr sibling)
    have beside := Path.not_prefix_of_longerSibling sibling
    have refused := (confined.outside target resolved beside).1
    rw [readFile_of_starts resolved through there] at refused
    exact refused rfl
  · intro apart
    refine ⟨?_, ?_⟩
    · intro answered
      obtain ⟨target, text, resolved, through, there⟩ := found_of_ok answered
      rcases (str_prefix_iff root target).mp through with inside | sibling
      · exact ⟨target, resolved, inside⟩
      · exact absurd ⟨target, text, resolved, sibling, there⟩ apart
    · intro target resolved beside
      have kept : ∀ text, fs.entry target.names = .file text →
          ¬ root.str.isPrefixOf target.str = true := by
        intro text there through
        rcases (str_prefix_iff root target).mp through with inside | sibling
        · exact beside inside
        · exact apart ⟨target, text, resolved, sibling, there⟩
      refine ⟨?_, ?_⟩
      · intro answered
        obtain ⟨target', text, resolved', through, there⟩ := found_of_ok answered
        obtain rfl := Except.ok.inj (resolved.symm.trans resolved')
        exact kept text there through
      · intro text other there
        have stopped := kept text there
        have same : resolve (fs.write target.names other).refuses root path = .ok target := resolved
        rw [readFile_of_not_starts same stopped, readFile_of_not_starts resolved stopped]

/-! ## A sibling of the corpus -/

def corpus : ResolvedPath := ⟨["srv", "corpus"], by
  simp only [List.mem_cons, List.not_mem_nil, or_false, forall_eq_or_imp, forall_eq, IsName]
  decide⟩

/-- A file system with one file, beside the corpus. -/
def besideCorpus : FileSystem where
  entry names :=
    if names = ["srv", "corpus-private", "key"] then .file "secret"
    else .missing
  refuses name := if .char '\x00' ∈ name then some "embedded null byte" else none

/-- A path with two dots leads out of the corpus, to a file that is then read. -/
theorem sibling_is_read :
    (readFile besideCorpus (some corpus) "../corpus-private/key") =
        { status := .ok, output := "secret" } ∧
      ¬ Confined besideCorpus corpus "../corpus-private/key" := by
  have read : readFile besideCorpus (some corpus) "../corpus-private/key" =
      { status := .ok, output := "secret" } := by
    decide +kernel
  refine ⟨read, ?_⟩
  intro confined
  obtain ⟨target, resolved, inside⟩ := confined.inside (by rw [read])
  have names : (resolve besideCorpus.refuses corpus "../corpus-private/key").map
      ResolvedPath.names = .ok ["srv", "corpus-private", "key"] := by
    decide +kernel
  rw [resolved] at names
  rw [Except.ok.inj names] at inside
  exact absurd inside (by decide)

end AgentServe
