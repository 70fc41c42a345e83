import LinkCleaner.Json.Reader
import LinkCleaner.Text.Class

/-!
Why a text is not an absolute URL.
-/

namespace LinkCleaner.Url

inductive ParseError where
  | empty
  | brackets
  | futureAddress
  | dottedInBrackets
  | notAnAddress (host : Text)
  | lookalike (authority : Text)
  | portNotNumber (port : Text)
  | portTooLong (digits : Nat)
  | portOutOfRange
  | noScheme (text : Text)
  | blankInHost (text : Text)
  | noHost (text : Text)
  deriving DecidableEq, Repr

def ParseError.message : ParseError → Text
  | .empty => "empty URL".toList
  | .brackets => "Invalid IPv6 URL".toList
  | .futureAddress => "IPvFuture address is invalid".toList
  | .dottedInBrackets => "An IPv4 address cannot be in brackets".toList
  | .notAnAddress host =>
    Text.quoted host ++ " does not appear to be an IPv4 or IPv6 address".toList
  | .lookalike authority =>
    "netloc '".toList ++ authority
      ++ "' contains invalid characters under NFKC normalization".toList
  | .portNotNumber port => "Port could not be cast to integer value as ".toList ++ Text.quoted port
  | .portTooLong digits => Json.tooManyDigitsMessage digits
  | .portOutOfRange => "Port out of range 0-65535".toList
  | .noScheme text => "no scheme: ".toList ++ Text.quoted text
  | .blankInHost text => "whitespace in host: ".toList ++ Text.quoted text
  | .noHost text => "no host: ".toList ++ Text.quoted text

end LinkCleaner.Url
