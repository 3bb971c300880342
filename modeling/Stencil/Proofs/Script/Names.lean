import Stencil.Script.Tree

/-!
# Names that scripts look up

Running a script looks up names, binds names, and asks values for attributes and for what is under a named argument.
Only the first depends on what a name was bound to before.

* `Expr.reads`, `Statement.reads` — the names that an expression or a statement looks up when it is run.
* `Expr.placeReads` — the names that are looked up in order to give a value to an expression.
-/

namespace Stencil.Script

mutual

/-- The names that are looked up when an expression is evaluated. -/
def Expr.reads : Expr → List Text
  | .name s => [s]
  | .const _ | .suspended _ | .inert _ | .foreign _ => []
  | .list items | .tuple items | .set items => readsAll items
  | .dict entries => readsEntries entries
  | .star e | .unary _ e | .negate e | .attribute e _ | .bound _ e => e.reads
  | .binary _ a b | .both a b | .either a b | .item a b => a.reads ++ b.reads
  | .compare a rest => a.reads ++ readsCompared rest
  | .choice test a b => test.reads ++ (a.reads ++ b.reads)
  | .slice start stop step => readsOption start ++ (readsOption stop ++ readsOption step)
  | .call f args named => f.reads ++ (readsAll args ++ readsNamed named)

/-- The names that are looked up in an expression that may be left out. -/
def readsOption : Option Expr → List Text
  | none => []
  | some e => e.reads

/-- The names that are looked up in several expressions. -/
def readsAll : List Expr → List Text
  | [] => []
  | e :: es => e.reads ++ readsAll es

/-- The names that are looked up in the entries of a mapping. -/
def readsEntries : List (Option Expr × Expr) → List Text
  | [] => []
  | (k, e) :: es => readsOption k ++ (e.reads ++ readsEntries es)

/-- The names that are looked up in a chain of comparisons. -/
def readsCompared : List (CompareOp × Expr) → List Text
  | [] => []
  | (_, e) :: es => e.reads ++ readsCompared es

/-- The names that are looked up in named arguments. -/
def readsNamed : List (Option Text × Expr) → List Text
  | [] => []
  | (_, e) :: es => e.reads ++ readsNamed es

end

mutual

/-- The names that are looked up to give a value to an expression; a name itself is only bound. -/
def Expr.placeReads : Expr → List Text
  | .tuple items | .list items => placeReadsAll items
  | .star e => e.placeReads
  | .item a b => a.reads ++ b.reads
  | .attribute a _ => a.reads
  | _ => []

/-- The names that are looked up to give values to several expressions. -/
def placeReadsAll : List Expr → List Text
  | [] => []
  | e :: es => e.placeReads ++ placeReadsAll es

end

mutual

/-- Giving a value to an expression looks up no more than evaluating it. -/
theorem Expr.placeReads_subset : (e : Expr) → e.placeReads ⊆ e.reads
  | .tuple items | .list items => placeReadsAll_subset items
  | .star e => e.placeReads_subset
  | .item .. | .attribute .. => List.Subset.refl _
  | .name _ | .const _ | .suspended _ | .inert _ | .foreign _ | .set _ | .dict _ | .unary .. | .negate _ | .bound ..
  | .binary .. | .both .. | .either .. | .compare .. | .choice .. | .slice .. | .call .. => List.nil_subset _

theorem placeReadsAll_subset : (es : List Expr) → placeReadsAll es ⊆ readsAll es
  | [] => List.Subset.refl _
  | e :: es => List.append_subset.mpr ⟨List.subset_append_of_subset_left _ e.placeReads_subset,
      List.subset_append_of_subset_right _ (placeReadsAll_subset es)⟩

end

mutual

/-- The names that are looked up when a statement is run. -/
def Statement.reads : Statement → List Text
  | .eval e => e.reads
  | .assign targets e => placeReadsAll targets ++ e.reads
  | .augment target _ e => target.reads ++ e.reads
  | .declare target _ e => target.placeReads ++ readsOption e
  | .branch test body orelse | .whileLoop test body orelse => test.reads ++ (bodyReads body ++ bodyReads orelse)
  | .forLoop target source body orelse =>
    target.placeReads ++ (source.reads ++ (bodyReads body ++ bodyReads orelse))
  | .pass | .breakLoop | .continueLoop | .finish _ | .outer _ | .simple _ | .block .. | .blocks _ | .definition .. => []

/-- The names that are looked up when statements are run. -/
def bodyReads : List (Nat × Statement) → List Text
  | [] => []
  | (_, s) :: rest => s.reads ++ bodyReads rest

end

end Stencil.Script
