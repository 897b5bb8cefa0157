import Fieldwork.Number.Decimal

namespace Fieldwork

/-!
# Status codes of answers

A status code is a number of three digits.  The registered codes have a reason
phrase, which belongs to the text of a code whatever phrase came over the wire.
-/

structure StatusCode where
  code : Nat
  deriving DecidableEq, Repr, Inhabited

namespace StatusCode

/-- The registered codes and their reason phrases. -/
def reasons : List (Nat × String) :=
  [(100, "Continue"), (101, "Switching Protocols"), (102, "Processing"),
    (103, "Early Hints"), (200, "OK"), (201, "Created"), (202, "Accepted"),
    (203, "Non Authoritative Information"), (204, "No Content"),
    (205, "Reset Content"), (206, "Partial Content"), (207, "Multi-Status"),
    (208, "Already Reported"), (226, "IM Used"), (300, "Multiple Choices"),
    (301, "Moved Permanently"), (302, "Found"), (303, "See Other"),
    (304, "Not Modified"), (305, "Use Proxy"), (307, "Temporary Redirect"),
    (308, "Permanent Redirect"), (400, "Bad Request"), (401, "Unauthorized"),
    (402, "Payment Required"), (403, "Forbidden"), (404, "Not Found"),
    (405, "Method Not Allowed"), (406, "Not Acceptable"),
    (407, "Proxy Authentication Required"), (408, "Request Timeout"),
    (409, "Conflict"), (410, "Gone"), (411, "Length Required"),
    (412, "Precondition Failed"), (413, "Payload Too Large"),
    (414, "URI Too Long"), (415, "Unsupported Media Type"),
    (416, "Range Not Satisfiable"), (417, "Expectation Failed"),
    (418, "I'm a teapot"), (421, "Misdirected Request"),
    (422, "Unprocessable Entity"), (423, "Locked"), (424, "Failed Dependency"),
    (425, "Too Early"), (426, "Upgrade Required"), (428, "Precondition Required"),
    (429, "Too Many Requests"), (431, "Request Header Fields Too Large"),
    (451, "Unavailable For Legal Reasons"), (500, "Internal Server Error"),
    (501, "Not Implemented"), (502, "Bad Gateway"), (503, "Service Unavailable"),
    (504, "Gateway Timeout"), (505, "HTTP Version Not Supported"),
    (506, "Variant Also Negotiates"), (507, "Insufficient Storage"),
    (508, "Loop Detected"), (510, "Not Extended"),
    (511, "Network Authentication Required")]

def reason
    (status : StatusCode) :
    String :=
  (reasons.lookup status.code).getD "<unknown status code>"

/-- The text of a code: its number and its reason phrase. -/
def text
    (status : StatusCode) :
    String :=
  integerText status.code ++ " " ++ status.reason

def isSuccess
    (status : StatusCode) :
    Bool :=
  200 ≤ status.code && status.code < 300

/-- Whether trying again may help: failures of the server and rate limits. -/
def isTransient
    (status : StatusCode) :
    Bool :=
  (500 ≤ status.code && status.code < 600) || status.code == 429

/-- A code that tells of success is not transient. -/
theorem isTransient_of_isSuccess
    {status : StatusCode}
    (success : status.isSuccess = true) :
    status.isTransient = false := by
  simp only [isSuccess, isTransient, Bool.and_eq_true, decide_eq_true_eq,
    Bool.or_eq_false_iff, Bool.and_eq_false_iff, decide_eq_false_iff_not,
    beq_eq_false_iff_ne] at success ⊢
  omega

end StatusCode

end Fieldwork
