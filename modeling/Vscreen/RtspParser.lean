import Vscreen.RtspMedia
import Vscreen.Table
import Vscreen.Utf8

/-! RTSP requests, transport headers and URLs as vscreen-rtsp reads them
(parser.rs). Integers wrap as in a release build. -/
namespace Vscreen.Rtsp
open Text

inductive ParseError where
  | incomplete
  | invalidRequestLine (line : Text)
  | unknownMethod (method : Text)
  | missingCSeq
  | invalidHeader (header : Text)
  | invalidTransport (reason : Text)
  -- not an error value of the source: `body_str[..cl]` panics inside a character
  | slicePanic
  deriving DecidableEq, Repr

inductive Method where
  | options
  | describe
  | setup
  | play
  | pause
  | teardown
  | getParameter
  deriving DecidableEq, Repr

def Method.parse (s : Text) : Except ParseError Method :=
  if s = "OPTIONS".toList then .ok .options
  else if s = "DESCRIBE".toList then .ok .describe
  else if s = "SETUP".toList then .ok .setup
  else if s = "PLAY".toList then .ok .play
  else if s = "PAUSE".toList then .ok .pause
  else if s = "TEARDOWN".toList then .ok .teardown
  else if s = "GET_PARAMETER".toList then .ok .getParameter
  else .error (.unknownMethod s)

structure SessionId where
  name : Text
  deriving DecidableEq, Repr

abbrev Headers := Table Text Text

structure RtspRequest where
  method : Method
  url : Text
  cseq : UInt32
  session : Option SessionId
  headers : Headers
  body : Option Text

def headerEnd : Text := ['\r','\n','\r','\n']

def splitHeaderBody (text : Text) : Text × Option Text := match cut headerEnd text with
  | none => (text,none)
  | some (headers,body) => (headers,if body = [] then none else some body)

section Headers
variable (u : CaseMapping)

def parseHeadersFrom (headers : Headers) : List Text → Except ParseError Headers
  | [] => .ok headers
  | line::rest =>
    if trim line = [] then parseHeadersFrom headers rest
    else match splitOnce ':' (trim line) with
      | none => .error (.invalidHeader (trim line))
      | some (key,value) => parseHeadersFrom (headers.put (u.toLowercase (trim key)) (trim value)) rest

def parseHeaders (lines : List Text) : Except ParseError Headers := parseHeadersFrom u ∅ lines

end Headers

def usizeBound : Nat := 2^64

def parseCSeq (headers : Headers) : Except ParseError UInt32 := match headers.get "cseq".toList with
  | none => .error .missingCSeq
  | some value => match parseUnsigned (2^32) value with
    | none => .error .missingCSeq
    | some n => .ok (UInt32.ofNat n)

def parseSession (headers : Headers) : Option SessionId :=
  (headers.get "session".toList).map fun s => ⟨trim ((split ';' s).headD s)⟩

def takeBytes (text : Text) (cl : Nat) : Except ParseError Text :=
  match Utf8.decode ((Utf8.encode text).take cl) with
  | none => .error .slicePanic
  | some body => .ok body

def parseBody (headers : Headers) (bodySection : Option Text) : Except ParseError (Option Text) :=
  match headers.get "content-length".toList with
  | none => .ok none
  | some value => match parseUnsigned usizeBound value with
    | none => .error (.invalidHeader "invalid Content-Length".toList)
    | some cl =>
      if cl > 0 then
        let bodyStr := bodySection.getD []
        if (Utf8.encode bodyStr).length < cl then .error .incomplete
        else (takeBytes bodyStr cl).map some
      else .ok none

namespace RtspRequest

def parseText (u : CaseMapping) (text : Text) : Except ParseError RtspRequest :=
  let (headerSection,bodySection) := splitHeaderBody text
  match lines headerSection with
  | [] => .error (.invalidRequestLine "empty".toList)
  | requestLine::rest => match splitn 3 ' ' requestLine with
    | method::url::_::_ => do
      let method ← Method.parse method
      let headers ← parseHeaders u rest
      let cseq ← parseCSeq headers
      let body ← parseBody headers bodySection
      .ok ⟨method,url,cseq,parseSession headers,headers,body⟩
    | _ => .error (.invalidRequestLine requestLine)

def parse (u : CaseMapping) (data : List Byte) : Except ParseError RtspRequest := match Utf8.decode data with
  | none => .error (.invalidRequestLine "non-UTF-8 data".toList)
  | some text => parseText u text

end RtspRequest

structure RtspResponse where
  status : UInt16
  reason : Text
  cseq : UInt32
  session : Option SessionId
  headers : Headers
  body : Option Text

namespace RtspResponse

def new (status : UInt16) (reason : Text) (cseq : UInt32) : RtspResponse := ⟨status,reason,cseq,none,∅,none⟩

def ok (cseq : UInt32) : RtspResponse := new 200 "OK".toList cseq

def notFound (cseq : UInt32) : RtspResponse := new 404 "Not Found".toList cseq

def methodNotValid (cseq : UInt32) : RtspResponse := new 455 "Method Not Valid in This State".toList cseq

def sessionNotFound (cseq : UInt32) : RtspResponse := new 454 "Session Not Found".toList cseq

def unsupportedTransport (cseq : UInt32) : RtspResponse := new 461 "Unsupported Transport".toList cseq

def internalError (cseq : UInt32) : RtspResponse := new 500 "Internal Server Error".toList cseq

def header (r : RtspResponse) (key value : Text) : RtspResponse := {r with headers := r.headers.put key value}

def withSession (r : RtspResponse) (session : SessionId) (timeoutSecs : Nat) : RtspResponse :=
  {r with
    session := some session
    headers := r.headers.put "Session".toList (session.name ++ ";timeout=".toList ++ decimal timeoutSecs)}

def setBody (r : RtspResponse) (contentType body : Text) : RtspResponse :=
  {r with
    headers := (r.headers.put "Content-Type".toList contentType).put "Content-Length".toList
      (decimal (Utf8.encode body).length)
    body := some body}

end RtspResponse

inductive TransportMode where
  | udpUnicast (clientRtpPort clientRtcpPort : UInt16)
  | tcpInterleaved (rtpChannel rtcpChannel : UInt8)
  deriving DecidableEq, Repr

structure TransportHeader where
  mode : TransportMode
  deriving DecidableEq, Repr

namespace TransportHeader
variable (u : CaseMapping)

def parsePair {α : Type} (number : Text → Option α) (after : α → α) (first second value : Text) :
    Except ParseError (α × α) := match split '-' value with
  | [] => .error (.invalidTransport first)
  | [a] => match number a with
    | none => .error (.invalidTransport first)
    | some x => .ok (x,after x)
  | a::b::_ => match number a with
    | none => .error (.invalidTransport first)
    | some x => match number b with
      | none => .error (.invalidTransport second)
      | some y => .ok (x,y)

def parseU8 (s : Text) : Option UInt8 := (parseUnsigned (2^8) s).map UInt8.ofNat

def parseU16 (s : Text) : Option UInt16 := (parseUnsigned (2^16) s).map UInt16.ofNat

def interleaved : Text := "interleaved=".toList

def clientPort : Text := "client_port=".toList

def parseInterleaved (lower : Text) : Except ParseError TransportHeader :=
  match ((split ';' lower).find? fun part => interleaved.isPrefixOf (trim part)).bind
      fun part => stripPrefix interleaved (trim part) with
  | none => .error (.invalidTransport "TCP mode requires interleaved= parameter".toList)
  | some part => do
    let wrong := "invalid interleaved channel".toList
    let (rtp,rtcp) ← parsePair parseU8 (· + 1) wrong wrong part
    .ok ⟨.tcpInterleaved rtp rtcp⟩

def parseUnicast (value : Text) : Except ParseError TransportHeader :=
  match (split ';' value).find? fun part => clientPort.isPrefixOf (u.toLowercase (trim part)) with
  | none => .error (.invalidTransport "missing client_port".toList)
  | some part => match (split '=' part)[1]? with
    | none => .error (.invalidTransport "malformed client_port".toList)
    | some ports => do
      let (rtp,rtcp) ← parsePair parseU16 (· + 1) "invalid RTP port number".toList "invalid RTCP port number".toList
        (trim ports)
      .ok ⟨.udpUnicast rtp rtcp⟩

def parse (value : Text) : Except ParseError TransportHeader :=
  let lower := u.toLowercase value
  if ¬ "rtp/avp".toList <:+: lower then .error (.invalidTransport "missing RTP/AVP".toList)
  else if "rtp/avp/tcp".toList <:+: lower ∨ interleaved <:+: lower then parseInterleaved lower
  else parseUnicast u value

def isTcpInterleaved (t : TransportHeader) : Bool := match t.mode with
  | .tcpInterleaved .. => true
  | .udpUnicast .. => false

def formatResponse (t : TransportHeader) (serverRtpPort serverRtcpPort : UInt16) : Text := match t.mode with
  | .udpUnicast rtp rtcp =>
    "RTP/AVP;unicast;client_port=".toList ++ decimal rtp.toNat ++ "-".toList ++ decimal rtcp.toNat ++
      ";server_port=".toList ++ decimal serverRtpPort.toNat ++ "-".toList ++ decimal serverRtcpPort.toNat
  | .tcpInterleaved rtp rtcp =>
    "RTP/AVP/TCP;unicast;interleaved=".toList ++ decimal rtp.toNat ++ "-".toList ++ decimal rtcp.toNat

end TransportHeader

section Url

def schemeEnd : Text := "://".toList

def afterHost (url : Text) : Text :=
  let afterScheme := match cut schemeEnd url with
    | none => url
    | some (_,rest) => rest
  afterScheme.dropWhile (· ≠ '/')

def extractUrlPath (url : Text) : Text := (split '?' (afterHost url)).headD (afterHost url)

def relativePath (url : Text) : Text := match extractUrlPath url with
  | [] => []
  | c::rest => if c = '/' then rest else c::rest

def extractInstanceId (url : Text) : Option Text := match split '/' (relativePath url) with
  | first::second::_ =>
    if (first = "stream".toList ∨ first = "audio".toList) ∧ second ≠ [] then some second else none
  | _ => none

def isAudioOnlyUrl (url : Text) : Bool := "audio/".toList.isPrefixOf (relativePath url)

def trackPrefix : Text := "trackID=".toList

def extractTrackId (url : Text) : Option UInt8 :=
  ((split '/' (relativePath url)).getLast?.bind (stripPrefix trackPrefix)).bind TransportHeader.parseU8

variable (u : CaseMapping)

def insertPair (params : Table Text Text) (pair : Text) : Table Text Text := match splitOnce '=' pair with
  | none => params
  | some (key,value) => params.put (u.toLowercase key) value

def extractQueryParams (url : Text) : Table Text Text := match splitOnce '?' url with
  | none => ∅
  | some (_,query) => (split '&' query).foldl (insertPair u) ∅

def notDisabled (value : Text) : Bool :=
  ¬ (value = "false".toList ∨ value = "0".toList ∨ value = "no".toList)

def enabled (params : Table Text Text) (key : Text) : Bool := (params.get key).all notDisabled

def parseMediaConfig (url : Text) : MediaConfig :=
  if isAudioOnlyUrl url then .audioOnly
  else
    let params := extractQueryParams u url
    ⟨enabled params "video".toList,enabled params "audio".toList⟩

end Url
end Vscreen.Rtsp
