/-
Choices of the command line.

A choice is spelled by a long name, of which the beginning is enough when no other
name begins in the same way.  Help also has a short name.  Some choices want a value,
which stands behind the name as the next argument or behind an equals sign.
-/

import ContractSurvey.Numeral

namespace ContractSurvey
namespace CommandLine

/-- What a person can choose. -/
inductive Choice
  | help
  | network
  | server
  | proxy
  | batch
  | document
  | log
  deriving DecidableEq

namespace Choice

/-- All choices in the order in which they are listed. -/
def all : List Choice :=
  [.help, .network, .server, .proxy, .batch, .document, .log]

def name : Choice → Text
  | .help => "--help".toList
  | .network => "--network".toList
  | .server => "--rpc".toList
  | .proxy => "--proxy".toList
  | .batch => "--batch".toList
  | .document => "--json".toList
  | .log => "--debug".toList

def shortHelp : Text := "-h".toList

/-- The names of a choice as messages give them. -/
def title : Choice → Text
  | .help => shortHelp ++ '/' :: name .help
  | choice => choice.name

def wantsValue : Choice → Bool
  | .network => true
  | .server => true
  | .document => true
  | _ => false

def named? (text : Text) : Option Choice :=
  if text = shortHelp then some .help
  else all.find? fun choice => choice.name == text

/-- The choices whose long name begins with a text. -/
def beginningWith (start : Text) : List Choice :=
  all.filter fun choice => Text.beginsWith start choice.name

end Choice
end CommandLine
end ContractSurvey
