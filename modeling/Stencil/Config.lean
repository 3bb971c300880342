import Stencil.Files.Path

/-!
# Settings

The settings of a view: where templates and compiled templates are kept, how template files end, how deep templates may
be nested, and what a page that fails shows.
-/

namespace Stencil

/-- What a page that fails shows unless the settings say something else. -/
def Config.standardFragment : Text := "<div class=\"error\">Page rendering failed</div>"

/-- The settings of a view. -/
structure Config where
  app : Path
  framework : Option Path := none
  cache : Option Path := none
  /-- Templates are compiled on every use, and errors are shown. -/
  debug : Bool := false
  ending : Text := ".html"
  maxDepth : Int := 50
  /-- What a page that fails shows while not debugging. -/
  errorFragment : Text := Config.standardFragment
  deriving DecidableEq, Repr

/-- The directory of compiled templates. -/
def Config.storePath (c : Config) : Path := c.cache.getD (c.app.child "cache")

end Stencil
