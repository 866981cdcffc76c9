import RouteTable.Method
import RouteTable.Parameter
import RouteTable.Text

/-!
# Requests and responses

Of a repeated path, query or form name the last value counts, of a repeated header the first; header names ignore the
case of ASCII letters.  Authorizers see a request as `Credentials`, where the first value of a repeated query name or
cookie counts.  `Response.setHeader` keeps header names distinct.
-/

namespace RouteTable

abbrev Pairs := List (String × String)

namespace Pairs

def first? (pairs : Pairs) (name : String) : Option String := (pairs.find? (·.1 = name)).map (·.2)

def last? (pairs : Pairs) (name : String) : Option String := (pairs.reverse.find? (·.1 = name)).map (·.2)

/-- The first value under a name, the case of ASCII letters ignored. -/
def firstFolded? (pairs : Pairs) (name : String) : Option String :=
  (pairs.find? (Text.sameFolded ·.1 name)).map (·.2)

/-- An object with one entry per name, at its first position and with its last value. -/
def toJson (pairs : Pairs) : Json := .object (OrderedMap.ofEntries (pairs.map fun (k, v) => (k, .string v)))

end Pairs

structure Request where
  method : Method := ⟨"GET"⟩
  path : String := ""
  routeName : Option String := none
  pathParams : Pairs := []
  query : Pairs := []
  headers : Pairs := []
  cookies : Pairs := []
  form : Pairs := []
  body : Option Json := none

namespace Request

def pathParam? (r : Request) (name : String) : Option String := r.pathParams.last? name

def query? (r : Request) (name : String) : Option String := r.query.last? name

def header? (r : Request) (name : String) : Option String := r.headers.firstFolded? name

def form? (r : Request) (name : String) : Option String := r.form.last? name

/-- The raw value of a declared parameter; all but the body are texts. -/
def parameter? (r : Request) (p : Parameter) : Option Json :=
  match p.location with
  | .body => r.body
  | .path => (r.pathParam? p.name).map .string
  | .query => (r.query? p.name).map .string
  | .header => (r.header? p.name).map .string
  | .formData => (r.form? p.name).map .string

end Request

/-- The parts of a request that authorizers look at. -/
structure Credentials where
  headers : Pairs
  query : Pairs
  cookies : Pairs

namespace Credentials

def header? (c : Credentials) (name : String) : Option String := c.headers.firstFolded? name

def query? (c : Credentials) (name : String) : Option String := c.query.first? name

def cookie? (c : Credentials) (name : String) : Option String := c.cookies.first? name

end Credentials

def Request.credentials (r : Request) : Credentials := ⟨r.headers, r.query, r.cookies⟩

structure Response where
  status : Nat
  headers : Pairs
  body : Json

namespace Response

def json (status : Nat) (body : Json) : Response := ⟨status, [("content-type", "application/json")], body⟩

def error (status : Nat) (message : String) : Response := json status (.object [("error", .string message)])

def header? (r : Response) (name : String) : Option String := r.headers.firstFolded? name

/-- Drops every header of that name and appends the new one. -/
def setHeader (r : Response) (name value : String) : Response :=
  { r with headers := r.headers.filter (fun h => !Text.sameFolded h.1 name) ++ [(name, value)] }

/-- Headers are not part of the serialised form. -/
def toJson (r : Response) : Json := .object [("status", .int r.status), ("body", r.body)]

end Response

end RouteTable
