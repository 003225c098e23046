import Depot.Error
import Depot.Text.Percent

set_option autoImplicit false

/-!
# HTTP exchanges

Requests and responses of the REST services that the operator speaks to.

## Main definitions

* `Http.Request`, `Http.Response` — the messages.
* `Http.Response.isSuccess`, `Http.Response.json` — what clients look at.
* `Http.statusText` — a status with its standard phrase.
-/

namespace Depot.Http

/-- The methods in use. -/
inductive Method where
  | get
  | head
  | post
  | put
  | patch
  | delete
  deriving Repr, DecidableEq, Inhabited

/-- The name of a method. -/
def Method.name : Method → String
  | .get => "GET"
  | .head => "HEAD"
  | .post => "POST"
  | .put => "PUT"
  | .patch => "PATCH"
  | .delete => "DELETE"

/-- What a request carries. -/
inductive Body where
  /-- Nothing. -/
  | none
  /-- A JSON value. -/
  | json (value : Json)
  /-- The fields of a form. -/
  | form (fields : List (String × String))
  deriving Inhabited

/-- A request. -/
structure Request where
  /-- The method. -/
  method : Method
  /-- The address. -/
  url : String
  /-- Headers besides the one for the kind of body. -/
  headers : List (String × String) := []
  /-- What it carries. -/
  body : Body := .none
  deriving Inhabited

/-- A response. -/
structure Response where
  /-- The status. -/
  status : Nat
  /-- The headers. -/
  headers : List (String × String) := []
  /-- The text. -/
  body : String := ""
  deriving Repr, DecidableEq, Inhabited

namespace Response

/-- Whether the request was carried out. -/
def isSuccess (r : Response) : Bool := 200 ≤ r.status && r.status ≤ 299

/-- The first header of a name in any case. -/
def header? (r : Response) (name : String) : Option String :=
  (r.headers.find? fun (k, _) => k.toLower == name.toLower).map (·.2)

/-- The first header of a name in any case, if it has printable characters of ASCII only. -/
def headerText? (r : Response) (name : String) : Option String :=
  (r.header? name).filter fun v => v.toList.all fun c => (' ' ≤ c && c ≤ '~') || c = '\t'

/-- Reads the text. -/
def json {α : Type} (read : Json → Json.Decoded α) (r : Response) : Except Error α :=
  match Json.decode read r.body with
  | .ok a => .ok a
  | .error e => .error (.http ("error decoding response body: " ++ e.message))

end Response

/-- An address with a query. -/
def withQuery (url : String) (pairs : List (String × String)) : String :=
  url ++ "?" ++ Text.Percent.formPairs pairs

/-- The standard phrase of a status. -/
def phrase (status : Nat) : String :=
  ((phrases.lookup status).getD "<unknown status code>")
where
  /-- The phrases by status. -/
  phrases : List (Nat × String) := [
    (100, "Continue"), (101, "Switching Protocols"), (102, "Processing"),
    (200, "OK"), (201, "Created"), (202, "Accepted"), (203, "Non Authoritative Information"),
    (204, "No Content"), (205, "Reset Content"), (206, "Partial Content"), (207, "Multi-Status"),
    (208, "Already Reported"), (226, "IM Used"), (300, "Multiple Choices"),
    (301, "Moved Permanently"), (302, "Found"), (303, "See Other"), (304, "Not Modified"),
    (305, "Use Proxy"), (307, "Temporary Redirect"), (308, "Permanent Redirect"),
    (400, "Bad Request"), (401, "Unauthorized"), (402, "Payment Required"), (403, "Forbidden"),
    (404, "Not Found"), (405, "Method Not Allowed"), (406, "Not Acceptable"),
    (407, "Proxy Authentication Required"), (408, "Request Timeout"), (409, "Conflict"),
    (410, "Gone"), (411, "Length Required"), (412, "Precondition Failed"),
    (413, "Payload Too Large"), (414, "URI Too Long"), (415, "Unsupported Media Type"),
    (416, "Range Not Satisfiable"), (417, "Expectation Failed"), (418, "I'm a teapot"),
    (421, "Misdirected Request"), (422, "Unprocessable Entity"), (423, "Locked"),
    (424, "Failed Dependency"), (426, "Upgrade Required"), (428, "Precondition Required"),
    (429, "Too Many Requests"), (431, "Request Header Fields Too Large"),
    (451, "Unavailable For Legal Reasons"), (500, "Internal Server Error"),
    (501, "Not Implemented"), (502, "Bad Gateway"), (503, "Service Unavailable"),
    (504, "Gateway Timeout"), (505, "HTTP Version Not Supported"),
    (506, "Variant Also Negotiates"), (507, "Insufficient Storage"), (508, "Loop Detected"),
    (510, "Not Extended"), (511, "Network Authentication Required")]

/-- A status with its phrase. -/
def statusText (status : Nat) : String := toString status ++ " " ++ phrase status

end Depot.Http
