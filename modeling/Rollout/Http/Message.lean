import Rollout.Url.Basic

/-!
# Rollout.Http.Message — requests and responses

What is asked of a server and what it answers.

* `Response.statusText`: the code and its registered reason.
* `Response.content`: the body, where the status allows one.
-/

namespace Rollout.Http

inductive Method
  | get
  | put
  | delete
deriving DecidableEq, Repr, Inhabited

def Method.text : Method → String
  | get => "GET"
  | put => "PUT"
  | delete => "DELETE"

/-- What is asked of a server. -/
structure Request where
  method : Method
  url : Url
  body : String
deriving DecidableEq, Repr, Inhabited

/-- What a server answers. -/
structure Response where
  status : Nat
  body : String
deriving DecidableEq, Repr, Inhabited

/-- The registered reasons. -/
def reasons : List (Nat × String) :=
  [(100, "Continue"), (101, "Switching Protocols"), (102, "Processing"), (103, "Early Hints"),
    (200, "OK"), (201, "Created"), (202, "Accepted"), (203, "Non Authoritative Information"),
    (204, "No Content"), (205, "Reset Content"), (206, "Partial Content"), (207, "Multi-Status"),
    (208, "Already Reported"), (226, "IM Used"),
    (300, "Multiple Choices"), (301, "Moved Permanently"), (302, "Found"), (303, "See Other"),
    (304, "Not Modified"), (305, "Use Proxy"), (307, "Temporary Redirect"), (308, "Permanent Redirect"),
    (400, "Bad Request"), (401, "Unauthorized"), (402, "Payment Required"), (403, "Forbidden"),
    (404, "Not Found"), (405, "Method Not Allowed"), (406, "Not Acceptable"),
    (407, "Proxy Authentication Required"), (408, "Request Timeout"), (409, "Conflict"), (410, "Gone"),
    (411, "Length Required"), (412, "Precondition Failed"), (413, "Payload Too Large"), (414, "URI Too Long"),
    (415, "Unsupported Media Type"), (416, "Range Not Satisfiable"), (417, "Expectation Failed"),
    (418, "I'm a teapot"), (421, "Misdirected Request"), (422, "Unprocessable Entity"), (423, "Locked"),
    (424, "Failed Dependency"), (425, "Too Early"), (426, "Upgrade Required"), (428, "Precondition Required"),
    (429, "Too Many Requests"), (431, "Request Header Fields Too Large"), (451, "Unavailable For Legal Reasons"),
    (500, "Internal Server Error"), (501, "Not Implemented"), (502, "Bad Gateway"), (503, "Service Unavailable"),
    (504, "Gateway Timeout"), (505, "HTTP Version Not Supported"), (506, "Variant Also Negotiates"),
    (507, "Insufficient Storage"), (508, "Loop Detected"), (510, "Not Extended"),
    (511, "Network Authentication Required")]

namespace Response

def success (r : Response) : Bool := 200 ≤ r.status && r.status < 300

/-- The code and its registered reason. -/
def statusText (r : Response) : String :=
  let reason := (reasons.find? (·.1 = r.status)).map Prod.snd
  toString r.status ++ " " ++ reason.getD "<unknown status code>"

/-- Whether the response ends an exchange: its status has three digits and does not only announce another one, as
those below 200 do but for switching protocols. -/
def isFinal (r : Response) : Bool := r.status = 101 || (200 ≤ r.status && r.status ≤ 999)

/-- The body; some statuses never carry one. -/
def content (r : Response) : String :=
  if r.status = 101 || r.status = 204 || r.status = 304 then "" else r.body

end Response

end Rollout.Http
