import Stencil.Text.Html
import Stencil.Value.Compare
import Stencil.Value.Show

/-!
# The request

What a page may ask about the request it answers: who is signed in, what they may do, the token that protects forms, and
where assets are served from.
-/

namespace Stencil

/-- The request that a page answers; `grants` lists what is allowed, each as an ability followed by its arguments. -/
structure Context where
  signedIn : Bool := false
  grants : List (List Value) := []
  token : Text := []
  assetUrl : Text := []
  deriving Repr, Inhabited

namespace Context

/-- An ability is granted for the arguments. -/
def allows (c : Context) (request : List Value) : Bool := c.grants.any fun g => Value.equalAll g request

/-- The hidden form field that carries the token. -/
def tokenField (c : Context) : Text := "<input type=\"hidden\" name=\"_token\" value=\"" ++ Text.html c.token ++ "\">"

/-- The element of a page's head that carries the token. -/
def tokenMeta (c : Context) : Text := "<meta name=\"csrf-token\" content=\"" ++ Text.html c.token ++ "\">"

/-- Without slashes at the beginning. -/
def dropSlashes (s : Text) : Text := s.dropWhile (· == '/')

/-- What stands before the path of an asset, up to one slash. -/
def assetBase (c : Context) : Text := (dropSlashes c.assetUrl.reverse).reverse ++ "/"

/-- The address of an asset; it is markup if its path is. -/
def asset (c : Context) : Value → Except Fault Value
  | .str path => .ok (.str (c.assetBase ++ dropSlashes path))
  | .markup path => .ok (.markup (Text.html c.assetBase ++ dropSlashes path))
  | v => .error (.noAttribute (Text.quoted v.kind ++ " object has no attribute 'lstrip'"))

end Context
end Stencil
