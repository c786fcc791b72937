import Gridwalk.Json.Plain
import Gridwalk.Text.Numeral
import Gridwalk.Text.Quoted
import Gridwalk.Text.Template

/-!
# Faults

Everything that can go wrong is a `Fault`, named by its cause.  A fault has a kind, whose
name is what programs of this system report as its type, and a message.  All faults but
cancellation are ordinary: a run that meets an ordinary fault is aborted and reported,
whereas cancellation passes through and ends the task that it was sent to.
-/

set_option autoImplicit false

namespace Gridwalk

/-- The kinds of faults. -/
inductive FaultKind where
  | runtime
  | value
  | key
  | type
  | cancelled
  | runInProgress
  | loopDepth
  | zeroDivision
  | overflow
  | transition
  | validation
  | response
  | data
  | memory
  | recursion
  /-- A kind known to code outside this library alone. -/
  | other (name : String)
  deriving DecidableEq, Repr

/-- The name under which a kind of fault is reported. -/
def FaultKind.name : FaultKind → String
  | .runtime => "RuntimeError"
  | .value => "ValueError"
  | .key => "KeyError"
  | .type => "TypeError"
  | .cancelled => "CancelledError"
  | .runInProgress => "RunInProgressError"
  | .loopDepth => "LoopDepthError"
  | .zeroDivision => "ZeroDivisionError"
  | .overflow => "OverflowError"
  | .transition => "TransitionNotAllowed"
  | .validation => "ValidationError"
  | .response => "ResponseError"
  | .data => "DataError"
  | .memory => "MemoryError"
  | .recursion => "RecursionError"
  | .other name => name

/-- What a value is that is no number. -/
inductive NonNumber where
  | nothing
  | text
  | list
  | object
  deriving DecidableEq, Repr

/-- The name under which a kind of value is reported. -/
def NonNumber.name : NonNumber → String
  | .nothing => "NoneType"
  | .text => "str"
  | .list => "list"
  | .object => "dict"

/-- A calculation with a value and an integer. -/
inductive Calculation where
  | sum
  | difference
  | remainder
  deriving DecidableEq, Repr

/-- The sign of a calculation. -/
def Calculation.sign : Calculation → String
  | .sum => "+"
  | .difference => "-"
  | .remainder => "%"

/-- What is told about a calculation with a value that is no number. -/
def Calculation.complaint (calculation : Calculation) (given : NonNumber) : String :=
  match calculation, given with
  | .sum, .text => "can only concatenate str (not \"int\") to str"
  | .sum, .list => "can only concatenate list (not \"int\") to list"
  | calculation, given =>
      "unsupported operand type(s) for " ++ calculation.sign ++ ": '" ++ given.name ++
        "' and 'int'"

/-- The kind of fault that a template is refused with. -/
def Text.Template.Flaw.kind : Text.Template.Flaw → FaultKind
  | .incomplete => .value
  | .unknownConversion _ _ => .value
  | .widthTooBig => .value
  | .precisionTooBig => .value
  | .precisionTooLarge => .overflow
  | .noCharacter => .overflow
  | .beyondReals => .overflow
  | .outOfSpace => .memory
  | .namedPlace => .type
  | .tooManyPlaces => .type
  | .noPlace => .type

/-- What went wrong. -/
inductive Fault where
  /-- A run was asked for, or an edit, while a run is active. -/
  | runInProgress
  /-- The actor was to be reset while a run is active. -/
  | resetWhileRunning
  /-- The lifecycle was asked for a change that its phase does not allow. -/
  | transitionNotAllowed
  /-- A loop lies deeper than the limit. -/
  | loopTooDeep (limit : Nat) (id : String)
  /-- No command has this id. -/
  | unknownCommand (id : String)
  /-- The command with this id is no loop. -/
  | notALoop (id : String)
  /-- A loop was to be repeated a negative number of times. -/
  | negativeRepeats
  /-- Two commands of a catalog have this id. -/
  | duplicateCommand (id : String)
  /-- A start cell outside the grid. -/
  | outsideGrid (x y : Json) (maxX maxY : Int)
  /-- A start position that is no cell corner. -/
  | offLattice (x y : Json) (cellSize : Int)
  /-- Alignment to cells of size zero was asked for. -/
  | zeroCellSize
  /-- A value that is no actor was to be updated. -/
  | notUpdatable
  /-- Some values are none that an actor has. -/
  | noActor
  /-- A value that is no number was to be calculated with. -/
  | notANumber (calculation : Calculation) (given : NonNumber)
  /-- A value that is no number was to be compared with a number. -/
  | notComparable (given : NonNumber)
  /-- A text was to take in a number that does not fit into it. -/
  | unfitTemplate (flaw : Text.Template.Flaw)
  /-- An integer is beyond every real number. -/
  | beyondReals
  /-- A quotient of two integers is beyond every real number. -/
  | quotientBeyondReals
  /-- An integer has more digits than can be shown. -/
  | tooManyDigits
  /-- A value is nested too deep to be written. -/
  | nestedTooDeep
  /-- A change gives a value to a name that is not free. -/
  | reservedName
  /-- The remainder of a real number and zero was asked for. -/
  | zeroDivisor
  /-- An undefined number was to be taken as an integer. -/
  | undefinedNumber
  /-- A setting is no integer. -/
  | notAnInteger (name raw : String)
  /-- A setting is below its minimum. -/
  | belowMinimum (name : String) (minimum value : Int)
  /-- There is no session yet. -/
  | noSession
  /-- A key of the store holds another kind of value than the operation needs. -/
  | wrongKind
  /-- A stream entry without fields. -/
  | emptyEntry
  /-- A stored payload is no JSON text. -/
  | unreadablePayload
  /-- A message without text came in on a connection. -/
  | noText
  /-- A task was cancelled. -/
  | cancelled
  /-- A fault of code outside this library. -/
  | raised (kind : FaultKind) (detail : Option String)
  deriving DecidableEq, Repr

namespace Fault

/-- The kind of a fault. -/
def kind : Fault → FaultKind
  | .runInProgress => .runInProgress
  | .resetWhileRunning => .runInProgress
  | .transitionNotAllowed => .transition
  | .loopTooDeep _ _ => .loopDepth
  | .unknownCommand _ => .key
  | .notALoop _ => .value
  | .negativeRepeats => .value
  | .duplicateCommand _ => .value
  | .outsideGrid _ _ _ _ => .value
  | .offLattice _ _ _ => .value
  | .zeroCellSize => .zeroDivision
  | .notUpdatable => .type
  | .noActor => .validation
  | .notANumber _ _ => .type
  | .notComparable _ => .type
  | .unfitTemplate flaw => flaw.kind
  | .beyondReals => .overflow
  | .quotientBeyondReals => .overflow
  | .tooManyDigits => .value
  | .nestedTooDeep => .recursion
  | .reservedName => .type
  | .zeroDivisor => .zeroDivision
  | .undefinedNumber => .value
  | .notAnInteger _ _ => .value
  | .belowMinimum _ _ _ => .value
  | .noSession => .runtime
  | .wrongKind => .response
  | .emptyEntry => .data
  | .unreadablePayload => .value
  | .noText => .key
  | .cancelled => .cancelled
  | .raised kind _ => kind

/-- An integer in a message. -/
private def showInt (n : Int) : String :=
  String.ofList (Text.decimal n)

/-- What is told about a fault.  A missing key is shown between quotes. -/
def message : Fault → String
  | .runInProgress => "A run is already in progress"
  | .resetWhileRunning => "Cannot reset the actor while a run is in progress"
  | .transitionNotAllowed => "The transition is not allowed"
  | .loopTooDeep limit id =>
      "Loop nesting exceeds " ++ showInt limit ++ " levels at '" ++ id ++ "'"
  | .unknownCommand id => Text.Quoted.encode id
  | .notALoop id => "Command '" ++ id ++ "' is not a loop"
  | .negativeRepeats => "repeats must be >= 0"
  | .duplicateCommand id => "Duplicate command id: " ++ id
  | .outsideGrid x y maxX maxY =>
      "Start cell (" ++ x.plain ++ ", " ++ y.plain ++ ") is outside the grid (max " ++
        showInt maxX ++ ", " ++ showInt maxY ++ ")"
  | .offLattice x y cellSize =>
      "Start cell (" ++ x.plain ++ ", " ++ y.plain ++ ") is not aligned to cell size " ++
        showInt cellSize
  | .zeroCellSize => "integer modulo by zero"
  | .noActor => "1 validation error for Actor"
  | .notUpdatable => "update() requires a pydantic model value"
  | .notANumber calculation given => calculation.complaint given
  | .notComparable given =>
      "'<' not supported between instances of '" ++ given.name ++ "' and 'int'"
  | .unfitTemplate flaw => flaw.message
  | .beyondReals => "int too large to convert to float"
  | .quotientBeyondReals => "integer division result too large for a float"
  | .tooManyDigits =>
      "Exceeds the limit (" ++ String.ofList (Text.decimalDigits Text.Numeral.mostDigits) ++
        " digits) for integer string conversion; use sys.set_int_max_str_digits() to increase " ++
        "the limit"
  | .nestedTooDeep => "maximum recursion depth exceeded while encoding a JSON object"
  | .reservedName => "ObservableValue.update() got multiple values for argument 'self'"
  | .zeroDivisor => "float modulo"
  | .undefinedNumber => "cannot convert float NaN to integer"
  | .notAnInteger name raw =>
      name ++ " must be an integer (got " ++ Text.Quoted.encode raw ++ ")"
  | .belowMinimum name minimum value =>
      name ++ " must be >= " ++ showInt minimum ++ " (got " ++ showInt value ++ ")"
  | .noSession => "Session not initialized. Call init_session() at startup."
  | .wrongKind => "WRONGTYPE Operation against a key holding the wrong kind of value"
  | .emptyEntry => "XADD fields must be a non-empty dict"
  | .unreadablePayload => "Expecting value"
  | .noText => Text.Quoted.encode "text"
  | .cancelled => ""
  | .raised .key (some detail) => Text.Quoted.encode detail
  | .raised _ detail => detail.getD ""

/-- A fault as it is reported: its kind and its message. -/
def report (fault : Fault) : String :=
  fault.kind.name ++ ": " ++ fault.message

/-- Whether a fault is ordinary, that is, no cancellation. -/
def isOrdinary (fault : Fault) : Bool :=
  fault.kind != .cancelled

end Fault

end Gridwalk
