/-
Reading arguments.

Every argument is first classified by itself: it is plain, a choice with or without
an attached value, short help with letters behind it, or a stranger.  Behind the
separator everything is plain.  The classified arguments are then gathered in order.
The first plain one that no choice takes as its value is the address; what is left
over is a stranger.  The first fault decides, a missing address is reported before
strangers, and a choice that is made twice keeps its last value.
-/

import ContractSurvey.CommandLine.Choice

namespace ContractSurvey
namespace CommandLine

inductive Argument
  /-- An address or a value. -/
  | plain (text : Text)
  /-- The mark behind which everything is plain. -/
  | separator
  /-- A choice, and the value behind its equals sign. -/
  | choice (made : Choice) (attached : Option Text)
  /-- Short help with letters behind it, an equals sign between them dropped. -/
  | cluster (letters : Text)
  /-- An argument that looks like a choice and is none. -/
  | stranger (text : Text)
  deriving DecidableEq

/-- The reasons for which arguments are refused. -/
inductive Refusal
  /-- The beginning of a name fits several choices. -/
  | ambiguous (text : Text) (fitting : List Choice)
  | valueMissing (made : Choice)
  | valueIgnored (made : Choice) (attached : Text)
  | addressMissing
  /-- Arguments are left over. -/
  | strangers (texts : List Text)
  deriving DecidableEq

/-- What a choice is called at the front of a message. -/
def Refusal.subject (made : Choice) : Text :=
  "argument ".toList ++ made.title ++ ": ".toList

def Refusal.message : Refusal → Text
  | .ambiguous text fitting =>
      "ambiguous option: ".toList ++ text ++ " could match ".toList ++
        Text.joined ", ".toList (fitting.map Choice.name)
  | .valueMissing made => subject made ++ "expected one argument".toList
  | .valueIgnored made attached =>
      subject made ++ "ignored explicit argument ".toList ++ Text.quoted attached
  | .addressMissing => "the following arguments are required: address".toList
  | .strangers texts =>
      "unrecognized arguments: ".toList ++ Text.joined [' '] texts

def isDigitRun (text : Text) : Bool :=
  !text.isEmpty && text.all fun character => (Text.decimalValue? character).isSome

/-- Tells whether a text is a minus sign with a decimal number behind it.  A line break
may end it. -/
def isNegativeNumber : Text → Bool
  | '-' :: rest =>
      let number := if Text.finishesWith ['\n'] rest then rest.dropLast else rest
      isDigitRun number ||
        match Text.cutAt '.' number with
        | (whole, some fraction) => (whole.isEmpty || isDigitRun whole) && isDigitRun fraction
        | (_, none) => false
  | _ => false

def unnamed (text : Text) : Argument :=
  if isNegativeNumber text || text.contains ' ' then .plain text else .stranger text

/-- Classifies a text that begins with a dash and is no name by itself. -/
def classifyDashed (text : Text) : Except Refusal Argument :=
  match text with
  | ['-'] => .ok (.plain text)
  | '-' :: 'h' :: '=' :: letters => .ok (.cluster letters)
  | '-' :: 'h' :: letters => .ok (.cluster letters)
  | '-' :: '-' :: _ =>
      let (name, attached) := Text.cutAt '=' text
      match attached.bind fun _ => Choice.named? name with
      | some made => .ok (.choice made attached)
      | none =>
          match Choice.beginningWith name with
          | [] => .ok (unnamed text)
          | [made] => .ok (.choice made attached)
          | fitting => .error (.ambiguous text fitting)
  | _ => .ok (unnamed text)

/-- Classifies an argument that stands before the separator. -/
def classify (text : Text) : Except Refusal Argument :=
  match text with
  | '-' :: _ =>
      match Choice.named? text with
      | some made => .ok (.choice made none)
      | none => classifyDashed text
  | _ => .ok (.plain text)

/-- The mark behind which everything is plain. -/
def separatorMark : Text := "--".toList

/-- Classifies arguments one after another. -/
def classifyAll : List Text → Except Refusal (List Argument)
  | [] => .ok []
  | text :: rest =>
      if text = separatorMark then .ok (.separator :: rest.map .plain)
      else do
        let first ← classify text
        let others ← classifyAll rest
        return first :: others

/-- What was chosen. -/
structure Options where
  network : Option Text := none
  server : Option Text := none
  document : Option Text := none
  followsProxy : Bool := false
  usesBatch : Bool := false
  keepsLog : Bool := false
  deriving DecidableEq

def Options.choose (options : Options) (made : Choice) (value : Text) : Options :=
  match made with
  | .network => { options with network := some value }
  | .server => { options with server := some value }
  | .document => { options with document := some value }
  | .proxy => { options with followsProxy := true }
  | .batch => { options with usesBatch := true }
  | .log => { options with keepsLog := true }
  | .help => options

/-- Makes a choice and takes its value back. -/
def Options.withhold (options : Options) (made : Choice) : Options :=
  match made with
  | .network => { options with network := some [] }
  | .server => { options with server := none }
  | .document => { options with document := none }
  | _ => options

def Options.attach (options : Options) (made : Choice) (attached : Text) : Options :=
  if attached = separatorMark then options.withhold made
  else options.choose made attached

inductive Reading
  | survey (address : Text) (options : Options)
  | help
  /-- Nothing that can be done. -/
  | refused (refusal : Refusal)
  deriving DecidableEq

/-- Reads letters behind short help: more help, or what is attached to it against its
will. -/
def readCluster : Text → Reading
  | ['h'] => .help
  | 'h' :: letters => readCluster letters
  | attached => .refused (.valueIgnored .help attached)

/-- What arguments ask for when all of them were gathered. -/
def conclude (address : Option Text) (options : Options) (left : List Text) : Reading :=
  match address with
  | none => .refused .addressMissing
  | some address =>
      if left = [] then .survey address options else .refused (.strangers left)

/-- Gathers classified arguments, with the address, the options and the left-over
arguments so far.  The separator is dropped next to the address and left over
elsewhere. -/
def gather (address : Option Text) (options : Options) (left : List Text) :
    List Argument → Reading
  | [] => conclude address options left
  | .plain text :: rest =>
      match address, rest with
      | none, .separator :: later => gather (some text) options left later
      | none, later => gather (some text) options left later
      | some held, later => gather (some held) options (left ++ [text]) later
  | .separator :: rest =>
      match address, rest with
      | none, .plain text :: later => gather (some text) options left later
      | _, later => gather address options (left ++ [separatorMark]) later
  | .stranger text :: rest => gather address options (left ++ [text]) rest
  | .cluster letters :: _ => readCluster letters
  | .choice made (some attached) :: rest =>
      if made.wantsValue then gather address (options.attach made attached) left rest
      else .refused (.valueIgnored made attached)
  | .choice made none :: rest =>
      if made.wantsValue then
        match rest with
        | .plain value :: later => gather address (options.choose made value) left later
        | _ => .refused (.valueMissing made)
      else if made = .help then .help
      else gather address (options.choose made []) left rest

def read (arguments : List Text) : Reading :=
  match classifyAll arguments with
  | .ok classified => gather none {} [] classified
  | .error refusal => .refused refusal

end CommandLine
end ContractSurvey
