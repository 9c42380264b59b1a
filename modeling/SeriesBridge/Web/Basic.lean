import SeriesBridge.Database.Endpoint
import SeriesBridge.Dialogue.Basic
import SeriesBridge.Text.Base64

/-! # Requests over the web

The web interface of a database is asked by posting a text to an address of it. A request is
answered by a **`WebReply`**, or it fails before there is a reply.

* **`Web`** — the interface of such requests.
* **`WebReply.status`** — says how a request fared; **`Status.describe`** names it.
* **`Credentials.authorization`** — what proves to a server who is asking. -/

namespace SeriesBridge

/-- **A text posted to a server.** -/
structure WebRequest where
  /-- The server. -/
  endpoint : Endpoint
  /-- The path and the query. -/
  target : String
  authorization : String
  body : String
  /-- The seconds after which the request fails. -/
  timeout : Nat
  deriving DecidableEq, Repr

/-- **What a server replies.** -/
structure WebReply where
  status : Nat
  body : List UInt8
  deriving DecidableEq, Repr

/-- **Requests over the web.** Where there is no reply, the words say why. -/
def Web : Interface := ⟨WebRequest, fun _ => Except String WebReply⟩

/-- Post a text. -/
def Web.post (request : WebRequest) : Dialogue Web (Except String WebReply) :=
  .ask (I := Web) request

/-- The body as text; bytes that are no UTF-8 are shown as the replacement character. -/
def WebReply.text (r : WebReply) : String := String.ofList (Text.Utf8.decodeLossy r.body)

/-- **What proves to a server who is asking:** the user and the password in base 64. -/
def Credentials.authorization (c : Credentials) : String :=
  "Basic " ++ String.ofList (Text.Base64.encode (Text.Utf8.ofString (c.user ++ ":" ++ c.password)))

/-! ## Statuses -/

namespace Status

/-- Whether a status tells of success. -/
def isSuccess (status : Nat) : Bool := 200 ≤ status && status < 300

/-- Whether a status puts the fault on the server. -/
def isServerFault (status : Nat) : Bool := 500 ≤ status && status < 600

/-- Whether a status refuses the one who asks. -/
def isRefusal (status : Nat) : Bool := status = 401 || status = 403

/-- Whether a status tells that there were too many requests. -/
def isTooMany (status : Nat) : Bool := status = 429

/-- The names of statuses. -/
def names : List (Nat × String) :=
  [ (100, "Continue"), (101, "Switching Protocols"), (102, "Processing"), (200, "OK"),
    (201, "Created"), (202, "Accepted"), (203, "Non Authoritative Information"),
    (204, "No Content"), (205, "Reset Content"), (206, "Partial Content"), (207, "Multi-Status"),
    (208, "Already Reported"), (226, "IM Used"), (300, "Multiple Choices"),
    (301, "Moved Permanently"), (302, "Found"), (303, "See Other"), (304, "Not Modified"),
    (305, "Use Proxy"), (307, "Temporary Redirect"), (308, "Permanent Redirect"),
    (400, "Bad Request"), (401, "Unauthorized"), (402, "Payment Required"), (403, "Forbidden"),
    (404, "Not Found"), (405, "Method Not Allowed"), (406, "Not Acceptable"),
    (407, "Proxy Authentication Required"), (408, "Request Timeout"), (409, "Conflict"),
    (410, "Gone"), (411, "Length Required"), (412, "Precondition Failed"),
    (413, "Payload Too Large"), (414, "URI Too Long"), (415, "Unsupported Media Type"),
    (416, "Range Not Satisfiable"), (417, "Expectation Failed"), (418, "I'm a teapot"),
    (421, "Misdirected Request"), (422, "Unprocessable Entity"), (423, "Locked"),
    (424, "Failed Dependency"), (426, "Upgrade Required"), (428, "Precondition Required"),
    (429, "Too Many Requests"), (431, "Request Header Fields Too Large"),
    (451, "Unavailable For Legal Reasons"), (500, "Internal Server Error"),
    (501, "Not Implemented"), (502, "Bad Gateway"), (503, "Service Unavailable"),
    (504, "Gateway Timeout"), (505, "HTTP Version Not Supported"),
    (506, "Variant Also Negotiates"), (507, "Insufficient Storage"), (508, "Loop Detected"),
    (510, "Not Extended"), (511, "Network Authentication Required") ]

/-- **A status as it is shown:** its number and its name. -/
def describe (status : Nat) : String :=
  toString status ++ " " ++ (names.lookup status).getD "<unknown status code>"

end Status

end SeriesBridge
