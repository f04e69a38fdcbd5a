import SiteSync.Route
import SiteSync.Yaml.Decode

/-!
# `SiteSync.Config.File`: the configuration file

A YAML file may hold fallbacks for the settings of the command line, the
routes, and the order in which groups of files are uploaded. All of it
is optional, and fields of other names are left alone.
-/

set_option autoImplicit false

namespace SiteSync

/-- Settings in the configuration file; those of the command line win. -/
structure FileSettings where
  /-- The bucket to deploy to. -/
  bucket : Option Text := none
  /-- The path within the bucket. -/
  path : Option Text := none
  /-- The region of the bucket. -/
  region : Option Text := none
  /-- The local directory to deploy. -/
  source : Option Text := none
  /-- The name of the access key. -/
  key : Option Text := none
  /-- The secret of the access key. -/
  secret : Option Text := none
deriving Repr, DecidableEq

/-- The contents of a configuration file. -/
structure FileConfig where
  /-- The settings. -/
  settings : FileSettings := {}
  /-- The routes, in order. -/
  routes : List RouteSettings := []
  /-- The patterns of the upload groups, in order. -/
  order : List Text := []
deriving Repr, DecidableEq

namespace FileConfig

open Yaml (Decode Node)

/-- The values of the fields with a name. -/
def valuesOf (name : String) (fields : List (Text × Node)) : List Node :=
  (fields.filter fun f => f.1 == name.toList).map Prod.snd

/-- The value of a field that may be given once. -/
def field? (name : String) (fields : List (Text × Node)) : Decode (Option Node) := do
  match valuesOf name fields with
  | [] => pure none
  | [n] => pure (some n)
  | _ => throw .repeatedField

/-- Reads a field by `read`, or gives it its default. -/
def fieldOr {α : Type} (name : String) (read : Node → Decode α) (default : α)
    (fields : List (Text × Node)) : Decode α := do
  match ← field? name fields with
  | some n => read n
  | none => pure default

/-- Reads a route. -/
def route (n : Node) : Decode RouteSettings := do
  let fields ← Decode.fields n
  return {
    route := ← fieldOr "route" Decode.text [] fields
    headers := ← fieldOr "headers" Decode.headers [] fields
    gzip := ← fieldOr "gzip" Decode.bool false fields
    ignore := ← fieldOr "ignore" Decode.bool false fields }

/-- Reads a setting: a text, or null for none. -/
def setting (name : String) (values : List (Text × Decode.Loose)) : Decode (Option Text) := do
  match (values.filter fun v => v.1 == name.toList).map Prod.snd with
  | [] => pure none
  | [.null] => pure none
  | [.text t] => pure (some t)
  | [.other] => throw .wrongKind
  | _ => throw .repeatedField

/-- Reads the settings among the fields that are not `routes` or
`order`. -/
def fileSettings (values : List (Text × Decode.Loose)) : Decode FileSettings :=
  return {
    bucket := ← setting "bucket" values
    path := ← setting "path" values
    region := ← setting "region" values
    source := ← setting "source" values
    key := ← setting "key" values
    secret := ← setting "secret" values }

/-- Whether a field is one of the lists. -/
def isList (name : Text) : Bool := name == "routes".toList || name == "order".toList

/-- Reads a configuration file from its node. -/
def ofNode (n : Node) : Decode FileConfig := do
  let fields ← Decode.fields n
  let routes ← fieldOr "routes" (fun n => do (← Decode.items n).mapM route) [] fields
  let order ← fieldOr "order" (fun n => do (← Decode.items n).mapM Decode.text) [] fields
  let values ← (fields.filter (!isList ·.1)).mapM fun (k, v) =>
    return (k, ← Decode.loose (Decode.maxDepth - 1) v)
  return { settings := ← fileSettings values, routes, order }

/-- Reads a configuration file from its document; an empty one sets
nothing. -/
def ofDocument (d : Yaml.Document) : Except Yaml.Error FileConfig :=
  match d.root with
  | none => .ok {}
  | some n => (ofNode n).run d |>.run' 0

/-- Reads the contents of a configuration file. -/
def ofBytes (content : Bytes) : Except Yaml.Error FileConfig :=
  match String.fromUTF8? (ByteArray.mk content.toArray) with
  | none => .error .badCharacter
  | some s => do
    let tokens ← Yaml.Token.ofText s.toList
    ofDocument (← Yaml.Document.ofTokens tokens)

/-- What reading the configuration file at a path gives. A file that is
not there sets nothing. -/
def ofRead (path : Text) (content : Except FileFault Bytes) : Except Error FileConfig :=
  match content with
  | .error .notFound => .ok {}
  | .error _ => .error (.configFile path)
  | .ok bytes =>
    match ofBytes bytes with
    | .ok f => .ok f
    | .error _ => .error (.configFile path)

end FileConfig

end SiteSync
