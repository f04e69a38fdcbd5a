import SiteSync.MediaType.Extension
import SiteSync.MediaType.Signature
import SiteSync.Route

/-!
# `SiteSync.MediaType.OfFile`: the media type of a file

A route may say the type. Else the extension tells it, and for unknown
extensions the leading bytes of the content.
-/

set_option autoImplicit false

namespace SiteSync.MediaType

/-- How many leading bytes are looked at. -/
def sniffLength : Nat := 512

/-- The name of the header that carries the media type. -/
def headerName : Text := "Content-Type".toList

/-- The media type of a file. -/
def ofFile (path : Text) (route : Option Route) (content : Bytes) : Text :=
  match route.bind (·.header headerName) with
  | some explicit => explicit
  | none => (ofPath? path).getD (sniff (content.take sniffLength))

end SiteSync.MediaType
