import Stencil.Files.Basic
import Stencil.Table

/-!
# Templates that come with the engine

They are searched where the settings name no framework directory.
-/

namespace Stencil.Bundle

/-- The template of a notice box. -/
def notice : Text :=
  "<div class=\"alert alert-\x7b\x7b type \x7d\x7d\" role=\"alert\">\n" ++ "@if(title)\n" ++
    "    <strong>\x7b\x7b title \x7d\x7d</strong>\n" ++ "@endif\n" ++ "    \x7b\x7b slot('default') \x7d\x7d\n" ++
    "</div>\n"

/-- The templates by the paths of their files. -/
def templates : Table Text := [("components/alert.html", notice)]

/-- Puts the templates under a directory. -/
def install (directory : Path) (files : Files) : Except Fault Files :=
  templates.foldlM (fun f (name, source) => f.write (directory.join (Path.ofText name)) source f.now) files

end Stencil.Bundle
