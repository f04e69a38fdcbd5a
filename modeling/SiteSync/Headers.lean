import SiteSync.Text.Order

/-!
# `SiteSync.Headers`: header names and values

Headers are kept in the byte order of their names, each name once. Names
that differ in ASCII case are different entries, yet they name the same
header: `lookup` finds the first of them, `set` replaces them all.
-/

set_option autoImplicit false

namespace SiteSync

/-- Header names with their values, in the byte order of the names. -/
abbrev Headers := List (Text × Text)

namespace Headers

/-- Adds an entry, in place of the one with exactly this name. -/
def insert (name value : Text) : Headers → Headers
  | [] => [(name, value)]
  | (n, v) :: rest =>
    if name = n then (name, value) :: rest
    else if name < n then (name, value) :: (n, v) :: rest
    else (n, v) :: insert name value rest

/-- The headers of a list of entries; of entries with one name the last
stays. -/
def ofList (entries : List (Text × Text)) : Headers :=
  entries.foldl (fun h e => insert e.1 e.2 h) []

/-- Whether two names are the same but for ASCII case. -/
def sameName (a b : Text) : Bool := Text.eqIgnoreCase a b

/-- The value of the first entry whose name is the same but for case. -/
def lookup (h : Headers) (name : Text) : Option Text :=
  (h.find? fun e => sameName e.1 name).map Prod.snd

/-- Sets a header, in place of all entries whose names are the same but
for case. -/
def set (h : Headers) (name value : Text) : Headers :=
  insert name value (h.filter fun e => !sameName e.1 name)

end Headers

end SiteSync
