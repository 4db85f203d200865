import CommandWire.Value.Kind

namespace CommandWire

/-!
# Errors of the protocol

Errors form a closed set.  Each has one code that clients know it by and one text.

* `ErrorCode` — the codes, with `ErrorCode.number` and `ErrorCode.name`.
* `ProtocolError` — the errors, with `ProtocolError.code` and `ProtocolError.text`.
* `ProtocolError.wrap` — an error as the failure to write a result.  An error that is wrapped
  already is left as it is.
* `CodecError` — an error of the protocol, or a direction that a command does not work in.
-/

/-- The codes that clients know errors by. -/
inductive ErrorCode where
  | internalError
  | badValue
  | noSuchKey
  | failedToParse
  | typeMismatch
  | invalidNamespace
  | commandNotSupported
deriving DecidableEq, Repr

namespace ErrorCode

/-- The number of a code in an answer. -/
def number : ErrorCode → Int32
  | internalError => 1
  | badValue => 2
  | noSuchKey => 4
  | failedToParse => 9
  | typeMismatch => 14
  | invalidNamespace => 73
  | commandNotSupported => 115

/-- The name of a code in an answer. -/
def name : ErrorCode → String
  | internalError => "InternalError"
  | badValue => "BadValue"
  | noSuchKey => "NoSuchKey"
  | failedToParse => "FailedToParse"
  | typeMismatch => "TypeMismatch"
  | invalidNamespace => "InvalidNamespace"
  | commandNotSupported => "CommandNotSupported"

/-- A code is known by its number. -/
theorem eq_of_number_eq {a b : ErrorCode} (h : a.number = b.number) : a = b := by
  revert h
  cases a <;> cases b <;> decide

/-- A code is known by its name. -/
theorem eq_of_name_eq {a b : ErrorCode} (h : a.name = b.name) : a = b := by
  revert h
  cases a <;> cases b <;> decide

end ErrorCode

/-- What can be wrong with a request, or with a result that is to be written. -/
inductive ProtocolError where
  /-- A document lacks a field. -/
  | noSuchKey (field : String)
  /-- A field holds a value of the wrong kind. -/
  | typeMismatch (field : String) (expected found : Kind) (message : String)
  /-- A value is out of range or contradicts another. -/
  | badValue (message : String)
  /-- Octets or fields are not arranged as they should be. -/
  | failedToParse (message : String)
  | invalidNamespace (ns reason : String)
  | commandNotSupported (command : String)
  /-- A result cannot be written. -/
  | unwritable (cause : ProtocolError)
deriving DecidableEq, Repr

namespace ProtocolError

/-- A field of the wrong kind, with the usual wording. -/
def wrongKind (field : String) (expected found : Kind) : ProtocolError :=
  .typeMismatch field expected found
    (field ++ ": field must be of type " ++ expected.label ++ ", not " ++ found.label)

/-- The error as the failure to write a result. -/
def wrap : ProtocolError → ProtocolError
  | .unwritable cause => .unwritable cause
  | e => .unwritable e

/-- Rewords an error about the kind of a field; every other error keeps its text. -/
def withMessage (e : ProtocolError) (message : String) : ProtocolError :=
  match e with
  | .typeMismatch field expected found _ => .typeMismatch field expected found message
  | e => e

/-- The code of an error.  An error in writing a result is the server's own. -/
def code : ProtocolError → ErrorCode
  | .noSuchKey _ => .noSuchKey
  | .typeMismatch _ _ _ _ => .typeMismatch
  | .badValue _ => .badValue
  | .failedToParse _ => .failedToParse
  | .invalidNamespace _ _ => .invalidNamespace
  | .commandNotSupported _ => .commandNotSupported
  | .unwritable _ => .internalError

/-- The kind that was found, when the error is about the kind of a field. -/
def foundKind? : ProtocolError → Option Kind
  | .typeMismatch _ _ found _ => some found
  | _ => none

/-- The error that a failure to write is about. -/
def cause? : ProtocolError → Option ProtocolError
  | .unwritable cause => some cause
  | _ => none

/-- The text of an error. -/
def text : ProtocolError → String
  | .noSuchKey field => "missing expected field \"" ++ field ++ "\""
  | .typeMismatch _ _ _ message => message
  | .badValue message => message
  | .failedToParse message => message
  | .invalidNamespace ns reason => "invalid namespace '" ++ ns ++ "': " ++ reason
  | .commandNotSupported command => "command not supported: " ++ command
  | .unwritable cause => "error while marshalling a result: " ++ cause.text

/-- An error is wrapped once, however often that is asked for. -/
@[simp] theorem wrap_wrap (e : ProtocolError) : e.wrap.wrap = e.wrap := by cases e <;> rfl

/-- A wrapped error keeps its text. -/
@[simp] theorem wrap_withMessage (e : ProtocolError) (message : String) :
    e.wrap.withMessage message = e.wrap := by cases e <;> rfl

/-- A wrapped error is the server's own. -/
@[simp] theorem code_wrap (e : ProtocolError) : e.wrap.code = .internalError := by
  cases e <;> rfl

/-- A new text leaves the code as it is. -/
@[simp] theorem code_withMessage (e : ProtocolError) (message : String) :
    (e.withMessage message).code = e.code := by cases e <;> rfl

/-- A wrapped error names no kind. -/
@[simp] theorem foundKind?_wrap (e : ProtocolError) : e.wrap.foundKind? = none := by cases e <;> rfl

/-- A new text leaves the kind that was found as it is. -/
@[simp] theorem foundKind?_withMessage (e : ProtocolError) (message : String) :
    (e.withMessage message).foundKind? = e.foundKind? := by cases e <;> rfl

/-- A new text leaves the cause as it is. -/
@[simp] theorem cause?_withMessage (e : ProtocolError) (message : String) :
    (e.withMessage message).cause? = e.cause? := by cases e <;> rfl

end ProtocolError

/-- What a step that may refuse its input gives. -/
abbrev Checked (α : Type) := Except ProtocolError α

/-! ### Directions of commands -/

/-- The four ways between wire documents and the arguments and results of a command. -/
inductive Direction where
  | writeArgument
  | readArgument
  | writeResult
  | readResult
deriving DecidableEq, Repr

/-- How a direction is called in a text. -/
def Direction.text : Direction → String
  | .writeArgument => "argument marshalling"
  | .readArgument => "argument unmarshalling"
  | .writeResult => "result marshalling"
  | .readResult => "result unmarshalling"

/-- Why a command gave no document or value. -/
inductive CodecError where
  | protocol (error : ProtocolError)
  /-- The command does not work in this direction.  The request itself may be fine. -/
  | unsupported (command : String) (direction : Direction)
deriving DecidableEq, Repr

/-- The text of an error, or of the refusal of a direction that a command does not have. -/
def CodecError.text : CodecError → String
  | .protocol error => error.text
  | .unsupported command direction => command ++ " does not implement " ++ direction.text

/-- Whether a direction is missing, which is no fault of the document. -/
def CodecError.isUnsupported : CodecError → Bool
  | .protocol _ => false
  | .unsupported _ _ => true

/-- What a direction that a command may lack gives. -/
abbrev Coded (α : Type) := Except CodecError α

/-- A checked value as that of a direction that a command may lack. -/
def Checked.toCoded {α : Type} (x : Checked α) : Coded α := x.mapError .protocol

end CommandWire
