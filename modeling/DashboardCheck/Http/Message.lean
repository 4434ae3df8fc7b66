import DashboardCheck.Dict
import DashboardCheck.Http.Url
import DashboardCheck.Json.Value

/-!
Requests, responses, and what goes wrong between them.
-/
namespace DashboardCheck.Http

inductive Method where
  | get | post
  deriving DecidableEq, Repr

def Method.name : Method → String
  | get => "GET"
  | post => "POST"

/-- What a request carries. -/
structure Content where
  mediaType : String
  body : String
  deriving DecidableEq, Repr

structure Request where
  method : Method
  url : Url
  /-- The media type that is asked for. -/
  accept : String
  content : Option Content
  deriving DecidableEq, Repr

/-- What a server sends back. -/
structure Response where
  status : Nat
  /-- Where it points to. -/
  location : Option String
  body : String
  deriving DecidableEq, Repr

def reasons : List (Nat × String) :=
  [(100, "Continue"), (101, "Switching Protocols"), (102, "Processing"), (103, "Early Hints"),
   (200, "OK"), (201, "Created"), (202, "Accepted"), (203, "Non Authoritative Information"),
   (204, "No Content"), (205, "Reset Content"), (206, "Partial Content"), (207, "Multi-Status"),
   (208, "Already Reported"), (226, "IM Used"), (300, "Multiple Choices"),
   (301, "Moved Permanently"), (302, "Found"), (303, "See Other"), (304, "Not Modified"),
   (305, "Use Proxy"), (307, "Temporary Redirect"), (308, "Permanent Redirect"),
   (400, "Bad Request"), (401, "Unauthorized"), (402, "Payment Required"), (403, "Forbidden"),
   (404, "Not Found"), (405, "Method Not Allowed"), (406, "Not Acceptable"),
   (407, "Proxy Authentication Required"), (408, "Request Timeout"), (409, "Conflict"),
   (410, "Gone"), (411, "Length Required"), (412, "Precondition Failed"),
   (413, "Payload Too Large"), (414, "URI Too Long"), (415, "Unsupported Media Type"),
   (416, "Range Not Satisfiable"), (417, "Expectation Failed"), (418, "I'm a teapot"),
   (421, "Misdirected Request"), (422, "Unprocessable Entity"), (423, "Locked"),
   (424, "Failed Dependency"), (425, "Too Early"), (426, "Upgrade Required"),
   (428, "Precondition Required"), (429, "Too Many Requests"),
   (431, "Request Header Fields Too Large"), (451, "Unavailable For Legal Reasons"),
   (500, "Internal Server Error"), (501, "Not Implemented"), (502, "Bad Gateway"),
   (503, "Service Unavailable"), (504, "Gateway Timeout"), (505, "HTTP Version Not Supported"),
   (506, "Variant Also Negotiates"), (507, "Insufficient Storage"), (508, "Loop Detected"),
   (510, "Not Extended"), (511, "Network Authentication Required")]

def statusText (status : Nat) : String :=
  match reasons.find? fun entry => entry.1 == status with
  | some (_, reason) => s!"{status} {reason}"
  | none => s!"{status} <unknown status code>"

/-- What can keep a response away. -/
inductive TransportFault where
  /-- The request cannot be made. -/
  | unusable
  /-- There is no connection. -/
  | noConnection
  /-- The response did not come in time. -/
  | noAnswer
  /-- There were too many redirections. -/
  | redirectedTooOften
  deriving DecidableEq, Repr

/-- A request without a response. -/
structure TransportError where
  fault : TransportFault
  /-- The address, if there was one. -/
  url : Option Url
  deriving DecidableEq, Repr

namespace TransportError

/-- Whether there was no connection. Only then is it safe to send the request again. -/
def isConnect (e : TransportError) : Bool := e.fault == .noConnection

def isTimeout (e : TransportError) : Bool := e.fault == .noAnswer

def message (e : TransportError) : String :=
  let what := match e.fault with
    | .unusable => "builder error"
    | .noConnection => "error sending request"
    | .noAnswer => "error sending request"
    | .redirectedTooOften => "error following redirect"
  match e.url with
  | some url => s!"{what} for url ({url.text})"
  | none => what

end TransportError

end DashboardCheck.Http
