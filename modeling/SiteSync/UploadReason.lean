import SiteSync.Text.Basic

/-!
# `SiteSync.UploadReason`: why a file is uploaded
-/

set_option autoImplicit false

namespace SiteSync

/-- Why a file is uploaded. -/
inductive UploadReason where
  /-- The bucket has no object with the key of the file. -/
  | notFound
  /-- Every file is to be uploaded; nothing was compared. -/
  | force
  /-- The object has another size. -/
  | size
  /-- The object has the same size and another fingerprint. -/
  | fingerprint
deriving Repr, DecidableEq

namespace UploadReason

/-- All reasons. -/
def all : List UploadReason := [notFound, force, size, fingerprint]

/-- The text of a reason. -/
def text : UploadReason → String
  | notFound => "not found"
  | force => "force"
  | size => "size"
  | fingerprint => "fingerprint"

/-- The name of a reason in stored data. -/
def name : UploadReason → String
  | notFound => "not_found"
  | force => "force"
  | size => "size"
  | fingerprint => "fingerprint"

/-- The reason with a text. -/
def ofText? (t : Text) : Option UploadReason := all.find? fun r => r.text.toList == t

/-- The reason with a name. -/
def ofName? (t : Text) : Option UploadReason := all.find? fun r => r.name.toList == t

/-- Whether the fingerprint of the file was needed to find the
reason. -/
def comparedFingerprints (r : UploadReason) : Bool := r == fingerprint

end UploadReason

end SiteSync
