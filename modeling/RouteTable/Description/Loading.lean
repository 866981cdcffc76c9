import RouteTable.Description
import RouteTable.Json.Reader

/-!
# Loading descriptions

`Description.ofJson` reads a description out of a JSON value; keys that the model does not know are ignored.  A value
under `security` always loads: a list of objects that hold lists becomes requirements, anything else but `null` is kept
as malformed.
-/

namespace RouteTable

namespace SecurityDeclaration

def requirement? : Json → Option Requirement
  | .object fields => fields.mapM fun
    | (scheme, .array scopes) => some (scheme, scopes)
    | _ => none
  | _ => none

def ofJson (v : Json) : SecurityDeclaration :=
  match v with
  | .array items =>
    match items.mapM requirement? with
    | some alternatives => requirements alternatives
    | none => malformed v
  | _ => malformed v

end SecurityDeclaration

open Decode

def Reference.ofJson : Decoder (Reference α) := fun v => (text v).map .module

namespace SecurityScheme

def fieldNames : List String :=
  ["type", "description", "name", "in", "flow", "authorizationUrl", "tokenUrl", "scopes", "x-authorize"]

def ofFields (fields : List (String × Json)) : Except DecodeError SecurityScheme := do
  let kind ← field fields "type" text ""
  let description ← field fields "description" (optional text) none
  let name ← field fields "name" (optional text) none
  let location ← field fields "in" (optional text) none
  let flow ← field fields "flow" (optional text) none
  let authorizationUrl ← field fields "authorizationUrl" (optional text) none
  let tokenUrl ← field fields "tokenUrl" (optional text) none
  let scopes ← field fields "scopes" (table text) []
  let authorize ← field fields "x-authorize" (optional Reference.ofJson) none
  return { kind, description, name, location, flow, authorizationUrl, tokenUrl, scopes, authorize }

def ofJson : Decoder SecurityScheme := record "SecuritySchemeDef" fieldNames ofFields

end SecurityScheme

namespace Operation

def fieldNames : List String :=
  ["operationId", "summary", "description", "tags", "consumes", "produces", "json", "cache", "config", "jsonp",
    "parameters", "security", "x-handler"]

def ofFields (fields : List (String × Json)) : Except DecodeError Operation := do
  let operationId ← field fields "operationId" (optional text) none
  let summary ← field fields "summary" (optional text) none
  let description ← field fields "description" (optional text) none
  let tags ← field fields "tags" (list text) []
  let consumes ← field fields "consumes" (optional (list text)) none
  let produces ← field fields "produces" (optional (list text)) none
  let json ← field fields "json" (optional flag) none
  let cache ← field fields "cache" (optional any) none
  let config ← field fields "config" (optional any) none
  let jsonp ← field fields "jsonp" (optional text) none
  let parameters ← field fields "parameters" (list Parameter.ofJson) []
  let security ← field fields "security" (optional fun v => .ok (SecurityDeclaration.ofJson v)) none
  let handler ← field fields "x-handler" (optional Reference.ofJson) none
  return { operationId, summary, description, tags, consumes, produces, json, cache, config, jsonp, parameters,
           security, handler }

def ofJson : Decoder Operation := record "Operation" fieldNames ofFields

end Operation

namespace PathItem

def fieldNames : List String :=
  ["get", "post", "put", "delete", "head", "options", "patch", "parameters", "security"]

def ofFields (fields : List (String × Json)) : Except DecodeError PathItem := do
  let get ← field fields "get" (optional Operation.ofJson) none
  let post ← field fields "post" (optional Operation.ofJson) none
  let put ← field fields "put" (optional Operation.ofJson) none
  let delete ← field fields "delete" (optional Operation.ofJson) none
  let head ← field fields "head" (optional Operation.ofJson) none
  let options ← field fields "options" (optional Operation.ofJson) none
  let patch ← field fields "patch" (optional Operation.ofJson) none
  let parameters ← field fields "parameters" (list Parameter.ofJson) []
  let security ← field fields "security" (optional fun v => .ok (SecurityDeclaration.ofJson v)) none
  return { get, post, put, delete, head, options, patch, parameters, security }

def ofJson : Decoder PathItem := record "PathItem" fieldNames ofFields

end PathItem

namespace Description

def fieldNames : List String :=
  ["basePath", "consumes", "produces", "json", "cache", "config", "jsonp", "security", "securityDefinitions",
    "paths"]

def ofFields (fields : List (String × Json)) : Except DecodeError Description := do
  let basePath ← field fields "basePath" (optional text) none
  let consumes ← field fields "consumes" (optional (list text)) none
  let produces ← field fields "produces" (optional (list text)) none
  let json ← field fields "json" (optional flag) none
  let cache ← field fields "cache" (optional any) none
  let config ← field fields "config" (optional any) none
  let jsonp ← field fields "jsonp" (optional text) none
  let security ← field fields "security" (optional fun v => .ok (SecurityDeclaration.ofJson v)) none
  let securityDefinitions ← field fields "securityDefinitions" (optional (table SecurityScheme.ofJson)) none
  let paths ← field fields "paths" (table PathItem.ofJson) []
  return { basePath, consumes, produces, json, cache, config, jsonp, security, securityDefinitions, paths }

def ofJson : Decoder Description := record "ApiDescription" fieldNames ofFields

end Description

end RouteTable
