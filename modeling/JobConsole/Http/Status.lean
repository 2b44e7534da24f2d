import JobConsole.Text.Decimal

/-!
# Response statuses

A status is a number of three digits.  Those from 400 on tell of an error, of
the client below 500 and of the server from there up to 599.
-/

namespace JobConsole.Http

/-- The standard reasons for statuses. -/
def reasons : List (Nat × String) := [
  (100, "Continue"), (101, "Switching Protocols"), (102, "Processing"), (200, "OK"),
  (201, "Created"), (202, "Accepted"), (203, "Non Authoritative Information"),
  (204, "No Content"), (205, "Reset Content"), (206, "Partial Content"), (207, "Multi-Status"),
  (208, "Already Reported"), (226, "IM Used"), (300, "Multiple Choices"),
  (301, "Moved Permanently"), (302, "Found"), (303, "See Other"), (304, "Not Modified"),
  (305, "Use Proxy"), (307, "Temporary Redirect"), (308, "Permanent Redirect"),
  (400, "Bad Request"), (401, "Unauthorized"), (402, "Payment Required"), (403, "Forbidden"),
  (404, "Not Found"), (405, "Method Not Allowed"), (406, "Not Acceptable"),
  (407, "Proxy Authentication Required"), (408, "Request Timeout"), (409, "Conflict"),
  (410, "Gone"), (411, "Length Required"), (412, "Precondition Failed"),
  (413, "Payload Too Large"), (414, "URI Too Long"), (415, "Unsupported Media Type"),
  (416, "Range Not Satisfiable"), (417, "Expectation Failed"), (418, "I'm a teapot"),
  (421, "Misdirected Request"), (422, "Unprocessable Entity"), (423, "Locked"),
  (424, "Failed Dependency"), (425, "Too Early"), (426, "Upgrade Required"),
  (428, "Precondition Required"), (429, "Too Many Requests"),
  (431, "Request Header Fields Too Large"), (451, "Unavailable For Legal Reasons"),
  (500, "Internal Server Error"), (501, "Not Implemented"), (502, "Bad Gateway"),
  (503, "Service Unavailable"), (504, "Gateway Timeout"), (505, "HTTP Version Not Supported"),
  (506, "Variant Also Negotiates"), (507, "Insufficient Storage"), (508, "Loop Detected"),
  (510, "Not Extended"), (511, "Network Authentication Required")]

/-- The text of a status: its number and its reason, which is empty for a status
without a standard one. -/
def statusText (status : Nat) : String :=
  Text.natText status ++ " " ++ (reasons.lookup status).getD ""

/-- Whether a status tells of an error. -/
def isErrorStatus (status : Nat) : Bool :=
  400 ≤ status && status < 600

/-- The side whose error a status tells of. -/
def errorSide (status : Nat) : String :=
  if status < 500 then "client" else "server"

/-- Whether a status tells of success. -/
def isSuccessStatus (status : Nat) : Bool :=
  200 ≤ status && status < 300

/-- Whether a status belongs to a final response.  The others below 200 only
announce one, but for the change of protocols, behind which nothing follows. -/
def isFinalStatus (status : Nat) : Bool :=
  status == 101 || (200 ≤ status && status < 1000)

/-- Whether a response with a status has no body. -/
def isBodiless (status : Nat) : Bool :=
  status < 200 || status == 204 || status == 304

/-- A success is no error. -/
theorem not_isErrorStatus_of_isSuccessStatus {status : Nat}
    (success : isSuccessStatus status = true) : isErrorStatus status = false := by
  simp only [isSuccessStatus, isErrorStatus, Bool.and_eq_true, decide_eq_true_eq,
    Bool.and_eq_false_iff, decide_eq_false_iff_not] at *
  omega

/-- A success is final. -/
theorem isFinalStatus_of_isSuccessStatus {status : Nat}
    (success : isSuccessStatus status = true) : isFinalStatus status = true := by
  simp only [isSuccessStatus, isFinalStatus, Bool.and_eq_true, Bool.or_eq_true,
    decide_eq_true_eq] at *
  omega

end JobConsole.Http
