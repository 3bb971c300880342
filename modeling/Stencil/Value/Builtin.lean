import Stencil.Value.Basic

/-!
# Names that every program knows

Names that a program finds although its data does not bind them: kinds of values and functions.  Each has a text.
-/

namespace Stencil.Builtin

/-- The names that stand for kinds of values. -/
def classes : List Text :=
  ["bool", "bytearray", "bytes", "classmethod", "complex", "dict", "enumerate", "filter", "float", "frozenset", "int",
    "list", "map", "memoryview", "object", "property", "range", "reversed", "set", "slice", "staticmethod", "str",
    "super", "tuple", "type", "zip"]

/-- The first names that stand for functions, in alphabetical order. -/
def earlyFunctions : List Text :=
  ["abs", "aiter", "all", "anext", "any", "ascii", "bin", "breakpoint", "callable", "chr", "compile", "delattr", "dir",
    "divmod", "eval", "exec", "format", "getattr", "globals", "hasattr", "hash", "hex", "id"]

/-- The other names that stand for functions. -/
def lateFunctions : List Text :=
  ["input", "isinstance", "issubclass", "iter", "len", "locals", "max", "min", "next", "oct", "open", "ord", "pow",
    "print", "repr", "round", "setattr", "sorted", "sum", "vars"]

/-- The names that stand for functions. -/
def functions : List Text := earlyFunctions ++ lateFunctions

/-- The thing that a name stands for where nothing binds it. -/
def named? (name : Text) : Option Value :=
  if name ∈ classes ∨ name ∈ functions then some (.builtin name) else none

/-- The text of a built-in thing. -/
def shown (name : Text) : Text :=
  if name ∈ classes then "<class '" ++ name ++ "'>" else "<built-in function " ++ name ++ ">"

end Stencil.Builtin
