import CollectionRunner.Url.Parser

namespace CollectionRunner.Http

/-- Characters of a token. -/
def isTokenChar (c : Char) : Bool :=
  c.toNat < 128 && (c.isAlphanum || "!#$%&'*+-.^_`|~".toList.contains c)

/-- A method is a token. -/
def isMethod (s : String) : Bool := s ≠ "" && s.toList.all isTokenChar

/-- The name of a header as it is compared: a token in small letters. -/
def headerName? (s : String) : Option String :=
  if s ≠ "" && s.utf8ByteSize ≤ 65535 && s.toList.all isTokenChar then some s.toLower else none

/-- A value holds no controls other than tabs. -/
def isHeaderValue (s : String) : Bool :=
  s.toList.all fun c => c == '\t' || (32 ≤ c.toNat && c.toNat ≠ 127)

/-- Characters of the host and the user information in a target. -/
def isAuthorityChar (c : Char) : Bool :=
  c.toNat < 128 && (c.isAlphanum || "!$%&'()*+,-.:;=@[]_~".toList.contains c)

/-- Characters of a path in a target. -/
def isPathChar (c : Char) : Bool :=
  let n := c.toNat
  n == 0x21 || (0x22 ≤ n && n ≤ 0x3B && n ≠ 0x23) || n == 0x3D || (0x40 ≤ n && n ≤ 0x5F) ||
    (0x61 ≤ n && n ≤ 0x7E) || 0x7F < n

/-- Characters of a query in a target. -/
def isQueryChar (c : Char) : Bool :=
  let n := c.toNat
  n == 0x21 || (0x24 ≤ n && n ≤ 0x3B) || n == 0x3D || (0x3F ≤ n && n ≤ 0x7E) || 0x7F < n

/-- Whether a URL can be asked for: its scheme, the characters of its parts, and its length. -/
def isTarget (u : Url) : Bool :=
  (u.scheme == "http" || u.scheme == "https") &&
    ((u.host.getD "").toList.all fun c => isAuthorityChar c && c ≠ '%') &&
    (u.username.toList.all isAuthorityChar) && ((u.password.getD "").toList.all isAuthorityChar) &&
    u.path.toList.all isPathChar && (u.query.getD "").toList.all isQueryChar &&
    u.text.utf8ByteSize < 65535

/-- The usual reasons of status codes. -/
def reasons : List (Nat × String) :=
  [(100, "Continue"), (101, "Switching Protocols"), (102, "Processing"), (200, "OK"),
   (201, "Created"), (202, "Accepted"), (203, "Non Authoritative Information"),
   (204, "No Content"), (205, "Reset Content"), (206, "Partial Content"), (207, "Multi-Status"),
   (208, "Already Reported"), (226, "IM Used"), (300, "Multiple Choices"),
   (301, "Moved Permanently"), (302, "Found"), (303, "See Other"), (304, "Not Modified"),
   (305, "Use Proxy"), (307, "Temporary Redirect"), (308, "Permanent Redirect"),
   (400, "Bad Request"), (401, "Unauthorized"), (402, "Payment Required"), (403, "Forbidden"),
   (404, "Not Found"), (405, "Method Not Allowed"), (406, "Not Acceptable"),
   (407, "Proxy Authentication Required"), (408, "Request Timeout"), (409, "Conflict"),
   (410, "Gone"), (411, "Length Required"), (412, "Precondition Failed"),
   (413, "Payload Too Large"), (414, "URI Too Long"), (415, "Unsupported Media Type"),
   (416, "Range Not Satisfiable"), (417, "Expectation Failed"), (418, "I'm a teapot"),
   (421, "Misdirected Request"), (422, "Unprocessable Entity"), (423, "Locked"),
   (424, "Failed Dependency"), (425, "Too Early"), (426, "Upgrade Required"),
   (428, "Precondition Required"), (429, "Too Many Requests"),
   (431, "Request Header Fields Too Large"), (451, "Unavailable For Legal Reasons"),
   (500, "Internal Server Error"), (501, "Not Implemented"), (502, "Bad Gateway"),
   (503, "Service Unavailable"), (504, "Gateway Timeout"), (505, "HTTP Version Not Supported"),
   (506, "Variant Also Negotiates"), (507, "Insufficient Storage"), (508, "Loop Detected"),
   (510, "Not Extended"), (511, "Network Authentication Required")]

/-- A status code and its usual reason, if it has one. -/
def statusLine (code : Nat) : String :=
  match reasons.lookup code with
  | some reason => toString code ++ " " ++ reason
  | none => toString code

end CollectionRunner.Http
