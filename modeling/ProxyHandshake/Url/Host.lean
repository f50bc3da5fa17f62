import ProxyHandshake.Idna.HostName
import ProxyHandshake.Url.Ipv4
import ProxyHandshake.Url.Ipv6
import ProxyHandshake.Url.Percent

/-!
# Hosts and the errors of URLs

A host is a name or an address.  In a web address a name is decoded and brought into ASCII, and a
name whose last part is a number has to be an IPv4 address; other schemes keep names as they are.
-/

namespace ProxyHandshake

/-- Why a text is no URL. -/
inductive UrlError where
  | noScheme
  | emptyHost
  | invalidPort
  | invalidIpv4
  | invalidIpv6
  | invalidName
  | invalidNameCharacter
deriving DecidableEq, Repr

def UrlError.message : UrlError → String
  | .noScheme => "relative URL without a base"
  | .emptyHost => "empty host"
  | .invalidPort => "invalid port number"
  | .invalidIpv4 => "invalid IPv4 address"
  | .invalidIpv6 => "invalid IPv6 address"
  | .invalidName => "invalid international domain name"
  | .invalidNameCharacter => "invalid domain character"

inductive Host where
  /-- A name; the empty one stands where a URL has a place for a host but names none. -/
  | domain (name : String)
  | ipv4 (address : Ipv4)
  | ipv6 (address : Ipv6)
deriving DecidableEq, Repr

namespace Host

/-- The host as it stands in a URL. -/
def text : Host → String
  | .domain name => name
  | .ipv4 address => address.text
  | .ipv6 address => "[" ++ address.text ++ "]"

/-- The host as other programs are told it, without brackets. -/
def plainText : Host → String
  | .domain name => name
  | .ipv4 address => address.text
  | .ipv6 address => address.mixedText

def isEmpty : Host → Bool
  | .domain name => name.isEmpty
  | _ => false

/-- The address between brackets. -/
def parseBracketed (inside : List Char) : Except UrlError Host :=
  if inside.getLast? = some ']' then
    match Ipv6.parse? inside.dropLast with
    | some address => .ok (.ipv6 address)
    | none => .error .invalidIpv6
  else .error .invalidIpv6

/-- The host of a web address. -/
def parse (text : List Char) : Except UrlError Host :=
  match text with
  | '[' :: inside => parseBracketed inside
  | _ =>
    match (Utf8.decodeChars? (Percent.decode (Utf8.encodeChars text))).bind Idna.toAscii? with
    | none => .error .invalidName
    | some [] => .error .emptyHost
    | some name =>
      if Ipv4.looksNumeric name then
        match Ipv4.parse? name with
        | some address => .ok (.ipv4 address)
        | none => .error .invalidIpv4
      else .ok (.domain (String.ofList name))

def isForbidden (c : Char) : Bool :=
  "\x00\t\n\r #/:<>?@[\\]^|".toList.contains c

/-- The host of another URL. -/
def parseOpaque (text : List Char) : Except UrlError Host :=
  match text with
  | '[' :: inside => parseBracketed inside
  | _ =>
    if text.any isForbidden then .error .invalidNameCharacter
    else .ok (.domain (Percent.encode [] text))

end Host

end ProxyHandshake
