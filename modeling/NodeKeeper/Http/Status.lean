/-
# Status codes of HTTP

The number a response begins with, and the phrase that goes with it.
-/
namespace NodeKeeper

/-- The status of a response. -/
abbrev HttpStatus := Nat

namespace HttpStatus

/-- The usual phrases of the codes for errors. -/
def phrases : List (HttpStatus × String) :=
  [(400, "Bad Request"), (401, "Unauthorized"), (402, "Payment Required"), (403, "Forbidden"),
   (404, "Not Found"), (405, "Method Not Allowed"), (406, "Not Acceptable"),
   (407, "Proxy Authentication Required"), (408, "Request Timeout"), (409, "Conflict"),
   (410, "Gone"), (411, "Length Required"), (412, "Precondition Failed"),
   (413, "Payload Too Large"), (414, "URI Too Long"), (415, "Unsupported Media Type"),
   (416, "Range Not Satisfiable"), (417, "Expectation Failed"), (418, "I'm a teapot"),
   (421, "Misdirected Request"), (422, "Unprocessable Entity"), (423, "Locked"),
   (424, "Failed Dependency"), (425, "Too Early"), (426, "Upgrade Required"),
   (428, "Precondition Required"), (429, "Too Many Requests"),
   (431, "Request Header Fields Too Large"), (451, "Unavailable For Legal Reasons"),
   (500, "Internal Server Error"), (501, "Not Implemented"), (502, "Bad Gateway"),
   (503, "Service Unavailable"), (504, "Gateway Timeout"),
   (505, "HTTP Version Not Supported"), (506, "Variant Also Negotiates"),
   (507, "Insufficient Storage"), (508, "Loop Detected"), (510, "Not Extended"),
   (511, "Network Authentication Required")]

/-- The code with its phrase. -/
def text (s : HttpStatus) : String :=
  toString s ++ " " ++ (phrases.lookup s).getD "<unknown status code>"

/-- Does the status blame the client? -/
def isClientError (s : HttpStatus) : Bool := 400 ≤ s && s < 500

/-- Does the status blame the server? -/
def isServerError (s : HttpStatus) : Bool := 500 ≤ s && s < 600

end HttpStatus

end NodeKeeper
