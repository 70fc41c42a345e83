import LinkCleaner.Http.Location

/-!
Requests and what comes of them. A server gives its answers to a URL one after another, and the
last of them for ever; the network keeps what was asked and how long was waited. Exchanges are
reported with the words for their statuses.
-/

namespace LinkCleaner.Http

/-- What becomes of a request: a response, or a failure with its name. -/
inductive Reply where
  | response (status : Nat) (text : Text) (location : Option Text)
  | failure (name message : Text)
  deriving DecidableEq, Repr

/-- The answers that are left for each URL. -/
abbrev Server := List (Text × List Reply)

def notFound : Reply := .response 404 [] none

/-- The next answer to a URL, and the server after it. -/
def Server.next (s : Server) (url : Text) : Reply × Server :=
  match s.lookup url with
  | some (r :: rest) =>
    if rest.isEmpty then (r, s)
    else (r, s.map fun e => if e.1 = url then (url, rest) else e)
  | _ => (notFound, s)

/-- A request and the status of its response, if there was one. -/
structure Exchange where
  url : Text
  status : Option Nat
  deriving DecidableEq, Repr

structure Network where
  server : Server := []
  exchanges : List Exchange := []
  waits : List Nat := []
  deriving DecidableEq, Repr

namespace Network

def statusOf : Reply → Option Nat
  | .response status _ _ => some status
  | .failure .. => none

/-- One request. -/
def get (n : Network) (url : Text) : Reply × Network :=
  let (reply, server) := n.server.next url
  (reply, { n with
    server := server
    exchanges := n.exchanges ++ [{ url := url, status := statusOf reply }] })

def wait (n : Network) (seconds : Nat) : Network := { n with waits := n.waits ++ [seconds] }

end Network

/-- Why a text could not be fetched. -/
inductive FetchFault where
  | status (code : Nat)
  | failed (name message : Text)
  deriving DecidableEq, Repr

namespace FetchFault

/-- Failures that trying again does not mend: the connection has no part in them. -/
def lasting : List Text :=
  ["HTTPError".toList, "RequestError".toList, "TooManyRedirects".toList, "DecodingError".toList]

/-- Trying again may help. -/
def isTransient : FetchFault → Bool
  | .status code => code == 429 || 500 ≤ code
  | .failed name _ => !lasting.contains name

def message (url : Text) : FetchFault → Text
  | .status code => "HTTP ".toList ++ Text.ofNat code ++ " for ".toList ++ url
  | .failed name message => name ++ " for ".toList ++ url ++ ": ".toList ++ message

end FetchFault

def redirectCodes : List Nat := [301, 302, 303, 307, 308]

def isSuccess (status : Nat) : Bool := 200 ≤ status && status < 300

def tooManyRedirects : FetchFault :=
  .failed "TooManyRedirects".toList "Exceeded maximum allowed redirects.".toList

/-- Gets a text, through at most so many redirections. -/
def follow : Nat → Text → Network → Except FetchFault Text × Network
  | 0, _, n => (.error tooManyRedirects, n)
  | left + 1, url, n =>
    match n.get url with
    | (.failure name message, n) => (.error (.failed name message), n)
    | (.response status text location, n) =>
      match location with
      | some l =>
        if redirectCodes.contains status then follow left (resolve url l) n
        else if isSuccess status then (.ok text, n)
        else (.error (.status status), n)
      | none => if isSuccess status then (.ok text, n) else (.error (.status status), n)

/-- The number of requests that one attempt may take. -/
def hopLimit : Nat := 21

def attempt (url : Text) (n : Network) : Except FetchFault Text × Network := follow hopLimit url n

/-- Tries again after each of the waits while the fault is transient. -/
def fetchWith (url : Text) : List Nat → Network → Except FetchFault Text × Network
  | waits, n =>
    match attempt url n with
    | (.ok text, n) => (.ok text, n)
    | (.error e, n) =>
      match waits with
      | [] => (.error e, n)
      | w :: ws => if e.isTransient then fetchWith url ws (n.wait w) else (.error e, n)

/-- The seconds between the three attempts. -/
def retryWaits : List Nat := [1, 2]

def fetch (url : Text) (n : Network) : Except FetchFault Text × Network :=
  fetchWith url retryWaits n

/-! ### Reports -/

/-- The words for the statuses. -/
def reasons : List (Nat × String) :=
  [(100, "Continue"), (101, "Switching Protocols"), (102, "Processing"), (103, "Early Hints"),
    (200, "OK"), (201, "Created"), (202, "Accepted"), (203, "Non-Authoritative Information"),
    (204, "No Content"), (205, "Reset Content"), (206, "Partial Content"), (207, "Multi-Status"),
    (208, "Already Reported"), (226, "IM Used"), (300, "Multiple Choices"),
    (301, "Moved Permanently"), (302, "Found"), (303, "See Other"), (304, "Not Modified"),
    (305, "Use Proxy"), (307, "Temporary Redirect"), (308, "Permanent Redirect"),
    (400, "Bad Request"), (401, "Unauthorized"), (402, "Payment Required"), (403, "Forbidden"),
    (404, "Not Found"), (405, "Method Not Allowed"), (406, "Not Acceptable"),
    (407, "Proxy Authentication Required"), (408, "Request Timeout"), (409, "Conflict"),
    (410, "Gone"), (411, "Length Required"), (412, "Precondition Failed"),
    (413, "Request Entity Too Large"), (414, "Request-URI Too Long"),
    (415, "Unsupported Media Type"), (416, "Requested Range Not Satisfiable"),
    (417, "Expectation Failed"), (418, "I'm a teapot"), (421, "Misdirected Request"),
    (422, "Unprocessable Entity"), (423, "Locked"), (424, "Failed Dependency"),
    (425, "Too Early"), (426, "Upgrade Required"), (428, "Precondition Required"),
    (429, "Too Many Requests"), (431, "Request Header Fields Too Large"),
    (451, "Unavailable For Legal Reasons"), (500, "Internal Server Error"),
    (501, "Not Implemented"), (502, "Bad Gateway"), (503, "Service Unavailable"),
    (504, "Gateway Timeout"), (505, "HTTP Version Not Supported"),
    (506, "Variant Also Negotiates"), (507, "Insufficient Storage"), (508, "Loop Detected"),
    (510, "Not Extended"), (511, "Network Authentication Required")]

def reason (status : Nat) : Text := ((reasons.lookup status).getD "").toList

/-- The line that reports a response; a request that failed has none. -/
def Exchange.report? (e : Exchange) : Option Text :=
  e.status.map fun status =>
    "HTTP Request: GET ".toList ++ e.url ++ " \"HTTP/1.1 ".toList ++ Text.ofNat status ++ ' ' ::
      (reason status ++ ['\x22'])

end LinkCleaner.Http
