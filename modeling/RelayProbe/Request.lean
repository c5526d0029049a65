import RelayProbe.Bytes

set_option autoImplicit false

/-! # The request

A relay is asked for a page by a request line that names the page in full, followed by header
lines. Each line ends in CR LF, and an empty line ends the request. The host stands twice in it,
in the request line and in the `Host` header, exactly as it was given: nothing in it is escaped or
looked for.
-/

namespace RelayProbe

namespace Request

/-- The end of a line: CR LF. -/
def crlf : Bytes := [0x0d, 0x0a]

/-- The line that asks for the start page of `host`. -/
def requestLine (host : Bytes) : Bytes := utf8 "GET http://" ++ host ++ utf8 "/ HTTP/1.1"

/-- The header that names the host. -/
def hostLine (host : Bytes) : Bytes := utf8 "Host: " ++ host

/-- The headers that are the same for every host, in the order in which they are sent. -/
def fixedLines : List Bytes :=
  [utf8 "Cache-Control: max-age=0",
    utf8 "Accept: text/html,application/xhtml+xml,application/xml;q=0.9,*/*;q=0.8",
    utf8 "User-Agent: Mozilla/5.0 (X11; Linux x86_64) AppleWebKit/537.36 " ++
      utf8 "(KHTML, like Gecko) Chrome/29.0.1547.62 Safari/537.36",
    utf8 "Accept-Language: en-US,en;q=0.8,zh-CN;q=0.6,zh;q=0.4"]

/-- The lines of the request for `host`, without the empty line at its end. -/
def lines (host : Bytes) : List Bytes := requestLine host :: hostLine host :: fixedLines

/-- The bytes of lines that each end in CR LF, with the empty line after them. -/
def ofLines (ls : List Bytes) : Bytes := ls.flatMap (· ++ crlf) ++ crlf

/-- The request for `host`. -/
def forHost (host : String) : Bytes := ofLines (lines (utf8 host))

end Request

end RelayProbe
