import Stencil.Argument.Position
import Stencil.Main
import Stencil.Program.Draft
import Stencil.Proofs.Step
import Stencil.Proofs.Store.Elementary
import Stencil.Proofs.Compile.Session
import Stencil.Proofs.View.Capture
import Stencil.Proofs.View.Elementary
import Stencil.Proofs.View.Call
import Stencil.Proofs.View.Expression
import Stencil.Proofs.View.Statement
import Stencil.Proofs.View.Frame
import Stencil.Proofs.View.Action
import Stencil.Proofs.View.Tree
import Stencil.Proofs.View.Freshness
import Stencil.Proofs.Program.Nesting
import Stencil.Proofs.Program.Printing
import Stencil.Proofs.Compile.Cycle
import Stencil.Proofs.Markup.Pass
import Stencil.Proofs.Program.Code
import Stencil.Proofs.Text.Quoted
import Stencil.Proofs.Program.Operation
import Stencil.Proofs.Markup.Written
import Stencil.Proofs.Program.Suite
import Stencil.Proofs.Markup.Comment
import Stencil.Proofs.Markup.Fragment
import Stencil.Proofs.Markup.Recognition
import Stencil.Proofs.Compile.Location
import Stencil.Proofs.View.Failure
import Stencil.Proofs.View.Abandoned
import Stencil.Proofs.Markup.Raise
import Stencil.Proofs.Program.Refusal
import Stencil.Proofs.Program.OneLine
import Stencil.Proofs.Table
import Stencil.Proofs.Json.RoundTrip
import Stencil.Proofs.Store.Manifest
import Stencil.Proofs.Files.Home
import Stencil.Proofs.Store.Directory
import Stencil.Proofs.Store.Shelf
import Stencil.Proofs.Argument.Group
import Stencil.Proofs.Program.Draft
import Stencil.Proofs.Compile.Escape
import Stencil.Proofs.View.Scope
import Stencil.Proofs.Argument.Parts
import Stencil.Proofs.Filter.Cut
import Stencil.Proofs.Filter.Segment
import Stencil.Proofs.Markup.Grouping
import Stencil.Proofs.Markup.Opaque
import Stencil.Proofs.Markup.Border
import Stencil.Proofs.Markup.Declined
import Stencil.Proofs.Markup.WholeName
import Stencil.Proofs.Markup.Doubled
import Stencil.Proofs.View.Section
import Stencil.Proofs.View.Layout
import Stencil.Proofs.Files.Lookup
import Stencil.Proofs.Compile.Dependency
import Stencil.Proofs.Json.Serial
import Stencil.Proofs.View.Loop
import Stencil.Proofs.View.Clause
import Stencil.Proofs.View.Turns
import Stencil.Proofs.View.Told
import Stencil.Proofs.Component.Binding
