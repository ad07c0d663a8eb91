import Dungeon.Graph.Violation
import Dungeon.Value

/-!
# Faults

Every cause of a failure is a constructor of `Fault`. Its kind and its wording are written once, in
`Fault.kind` and `Fault.message`; values inside a fault are kept as they are quoted.
-/

namespace Dungeon

/-- Where YAML stops making sense: in its characters, its marks, its grammar, its references or
its values. -/
inductive YamlStage
  | characters
  | marks
  | grammar
  | references
  | values
  deriving DecidableEq

def YamlStage.name : YamlStage → String
  | characters => "ReaderError"
  | marks => "ScannerError"
  | grammar => "ParserError"
  | references => "ComposerError"
  | values => "ConstructorError"

/-- The kind of a fault, as reports name it. -/
inductive FaultKind
  | value
  | overflow
  | zeroDivision
  | type
  | attribute
  | key
  | index
  | parameter
  | invalidGraph
  | node
  | missingFile
  | json
  | yaml (stage : YamlStage)
  | recursion
  | encoding
  | foreign (name : String)
  deriving DecidableEq

def FaultKind.name : FaultKind → String
  | .value => "ValueError"
  | .overflow => "OverflowError"
  | .zeroDivision => "ZeroDivisionError"
  | .type => "TypeError"
  | .attribute => "AttributeError"
  | .key => "KeyError"
  | .index => "IndexError"
  | .parameter => "ParameterError"
  | .invalidGraph => "GraphValidationError"
  | .node => "NodeExecutionError"
  | .missingFile => "FileNotFoundError"
  | .json => "JSONDecodeError"
  | .yaml stage => stage.name
  | .recursion => "RecursionError"
  | .encoding => "UnicodeEncodeError"
  | .foreign name => name

/-- What a field was expected to hold. -/
inductive Shape
  | number
  | integer
  | boolean
  | string

def Shape.text : Shape → String
  | .number => "a number"
  | .integer => "an integer"
  | .boolean => "true or false"
  | .string => "a string"

inductive Fault
  -- numbers
  | undefinedWhole
  | infiniteWhole
  | tooLarge
  | sumOverflow
  | sumUndefined
  | powerOverflow
  | unreadableReal (got : String)
  | unreadableWhole (got : String)
  | tooManyDigits (count : Nat)
  | unreadableDigits (base : Nat) (got : String)
  | unwritable
  | quotientTooLarge
  | characterRange
  | noCharacter
  | dateRange (what : String)
  | realFrom (typeName : String)
  | wholeFrom (typeName : String)
  -- the make-up of values
  | noMember (typeName member : String)
  | notIterable (typeName : String)
  | notContainer (typeName : String)
  | notIndexable (typeName : String)
  | notInteger (typeName : String)
  | noLength (typeName : String)
  | noOperation (symbol left right : String)
  | notHashable (typeName : String)
  | unordered (relation left right : String)
  | unfitText (typeName : String)
  | notJoinable (index : Nat) (typeName : String)
  | notPair (index length : Nat)
  | notSequence (index : Nat)
  | missingKey (quotedKey : String)
  | unwritableKey
  | indexRange
  | indexSize
  | arguments (what : String)
  -- draws and weights
  | reversedBounds
  | lowBound
  | highBound
  | probability
  | emptyChoice
  | unknownDistribution (name : String)
  | powerSign
  | rateSign
  | weightsEmpty
  | weightsNegative
  | weightSum
  | noWeights
  | improperWeights (got : String)
  | zeroWeights
  -- reading graphs
  | expected (name : String) (shape : Shape) (got : String)
  | notOneOf (name : String) (allowed : List String) (got : String)
  | expectedSize (name : String)
  | expectedSizeRange (name : String)
  | expectedRange (name : String)
  | weightsNotList
  | unknownShape (got : String)
  | noShapes
  | tagsNotList
  | dataNotObject
  | unknownNodeType (got : String)
  | portSide (id declared side : String)
  -- building and running graphs
  | noPorts (nodeId side : String)
  | nothingToMerge
  | roomTaken (roomId : String)
  | tooDeep
  | unencodable (what : String)
  | invalidGraph (violations : List Violation)
  | node (nodeId reason : String)
  | attempts
  -- parameters
  | unknownParameterType (name got : String)
  | parameterShape (name shape got : String)
  | parameterOption (name options got : String)
  | roomSize (name got : String)
  | roomSizeOrder (low high : String)
  | parameterPair (got : String)
  -- constraints
  | unknownConstraint (got : String)
  | unknownSeverity (got : String)
  | boundShape (name got : String)
  | boundOrder (low high : String)
  | countTarget (got : String)
  | densityMode (got : String)
  | noReachableRoom (selector : String)
  | noPredicate
  -- batches and statistics
  | noValues
  | negativeRuns
  | belowOne (name : String)
  | workers
  | negativeCounts
  | bucketCount (count : Int) (flat : Bool)
  -- files
  | notMapping (path : String)
  | noGenerators (path : String)
  | noGenerator (path id : String)
  | missingFile (what path : String)
  | unreadableJson
  | unreadableYaml (stage : YamlStage)
  -- checks supplied from outside
  | foreign (kind : FaultKind) (text : String)

def Violation.toValue {α : Type} (v : Violation) : Value α :=
  .record [("code", .text v.code.text), ("message", .text v.message),
    ("nodeId", .ofOption .text v.nodeId), ("edgeId", .ofOption .text v.edgeId)]

namespace Fault

def kind : Fault → FaultKind
  | undefinedWhole | sumUndefined | unreadableReal _ | unreadableWhole _ => .value
  | tooManyDigits _ | unwritable | unreadableDigits _ _ | characterRange | dateRange _ => .value
  | infiniteWhole | tooLarge | sumOverflow | powerOverflow | quotientTooLarge => .overflow
  | realFrom _ | wholeFrom _ => .type
  | noMember _ _ => .attribute
  | notIterable _ | notContainer _ | notIndexable _ | notInteger _ | notHashable _ => .type
  | noLength _ | noOperation _ _ _ => .type
  | unordered _ _ _ | unfitText _ | notJoinable _ _ | notSequence _ | arguments _ => .type
  | notPair _ _ => .value
  | missingKey _ | unwritableKey => .key
  | indexRange | indexSize | noCharacter => .index
  | reversedBounds | lowBound | highBound | probability | emptyChoice => .value
  | unknownDistribution _ | powerSign | rateSign => .value
  | weightsEmpty | weightsNegative | weightSum | noWeights | improperWeights _ | zeroWeights =>
    .value
  | expected _ _ _ | notOneOf _ _ _ | expectedSize _ | expectedSizeRange _ | expectedRange _ =>
    .value
  | weightsNotList | unknownShape _ | noShapes | tagsNotList | dataNotObject => .value
  | unknownNodeType _ | portSide _ _ _ | noPorts _ _ | nothingToMerge | roomTaken _ => .value
  | tooDeep => .recursion
  | unencodable _ => .encoding
  | invalidGraph _ => .invalidGraph
  | node _ _ => .node
  | attempts => .value
  | unknownParameterType _ _ | parameterShape _ _ _ | parameterOption _ _ _ => .parameter
  | roomSize _ _ | roomSizeOrder _ _ | parameterPair _ => .parameter
  | unknownConstraint _ | unknownSeverity _ | boundShape _ _ | boundOrder _ _ => .value
  | countTarget _ | densityMode _ | noReachableRoom _ | noPredicate => .value
  | noValues | negativeRuns | belowOne _ | workers | negativeCounts => .value
  | bucketCount count flat =>
    if count < 0 then .value else if flat then .index else .zeroDivision
  | notMapping _ | noGenerators _ => .value
  | noGenerator _ _ => .key
  | missingFile _ _ => .missingFile
  | unreadableJson => .json
  | unreadableYaml stage => .yaml stage
  | foreign kind _ => kind

/-- The wording for a graph with problems. -/
def invalidGraphText (violations : List Violation) : String :=
  "Graph validation failed (" ++ toString violations.length ++ "): " ++
    Value.joined "; " (violations.map Violation.message)

def message : Fault → String
  | undefinedWhole => "cannot convert float NaN to integer"
  | infiniteWhole => "cannot convert float infinity to integer"
  | tooLarge => "int too large to convert to float"
  | sumOverflow => "intermediate overflow in fsum"
  | sumUndefined => "-inf + inf in fsum"
  | powerOverflow => "(34, 'Numerical result out of range')"
  | unreadableReal got => "could not convert string to float: " ++ got
  | unreadableWhole got => "invalid literal for int() with base 10: " ++ got
  | tooManyDigits count =>
    "Exceeds the limit (" ++ toString Decimal.maxDigits ++
      " digits) for integer string conversion: value has " ++ toString count ++
      " digits; use sys.set_int_max_str_digits() to increase the limit"
  | unwritable | unwritableKey =>
    "Exceeds the limit (" ++ toString Decimal.maxDigits ++
      " digits) for integer string conversion; use sys.set_int_max_str_digits() to increase the limit"
  | unreadableDigits base got =>
    "invalid literal for int() with base " ++ toString base ++ ": " ++ got
  | characterRange => "chr() arg not in range(0x110000)"
  | noCharacter => "string index out of range"
  | dateRange what => what
  | quotientTooLarge => "integer division result too large for a float"
  | realFrom t => "float() argument must be a string or a real number, not '" ++ t ++ "'"
  | wholeFrom t =>
    "int() argument must be a string, a bytes-like object or a real number, not '" ++ t ++ "'"
  | noMember t member => "'" ++ t ++ "' object has no attribute '" ++ member ++ "'"
  | notIterable t => "'" ++ t ++ "' object is not iterable"
  | notContainer t => "argument of type '" ++ t ++ "' is not iterable"
  | notIndexable t => "'" ++ t ++ "' object is not subscriptable"
  | notInteger t => "'" ++ t ++ "' object cannot be interpreted as an integer"
  | noLength t => "object of type '" ++ t ++ "' has no len()"
  | noOperation symbol l r =>
    "unsupported operand type(s) for " ++ symbol ++ ": '" ++ l ++ "' and '" ++ r ++ "'"
  | notHashable t => "unhashable type: '" ++ t ++ "'"
  | unordered relation l r =>
    "'" ++ relation ++ "' not supported between instances of '" ++ l ++ "' and '" ++ r ++ "'"
  | unfitText t => "'in <string>' requires string as left operand, not " ++ t
  | notJoinable i t =>
    "sequence item " ++ toString i ++ ": expected str instance, " ++ t ++ " found"
  | notPair i n =>
    "dictionary update sequence element #" ++ toString i ++ " has length " ++ toString n ++
      "; 2 is required"
  | notSequence i =>
    "cannot convert dictionary update sequence element #" ++ toString i ++ " to a sequence"
  | missingKey key => key
  | indexRange => "list index out of range"
  | indexSize => "cannot fit 'int' into an index-sized integer"
  | arguments what => what
  | reversedBounds => "a <= b"
  | lowBound => "low is out of bounds for int64"
  | highBound => "high is out of bounds for int64"
  | probability => "probability out of range"
  | emptyChoice => "cannot choose from an empty sequence"
  | unknownDistribution name => "Unknown dist: " ++ name
  | powerSign => "power must be positive"
  | rateSign => "lambda must be positive"
  | weightsEmpty => "weights empty"
  | weightsNegative => "weights must be non-negative"
  | weightSum => "weight sum must be positive"
  | noWeights => "no weights given"
  | improperWeights got => "weights must be finite and non-negative: " ++ got
  | zeroWeights => "weights must not all be zero"
  | expected name shape got => name ++ " must be " ++ shape.text ++ ", got " ++ got
  | notOneOf name allowed got =>
    name ++ " must be one of: " ++ Value.joined ", " allowed ++ "; got " ++ got
  | expectedSize name => name ++ " must be an object with w and h"
  | expectedSizeRange name => name ++ " must be an object with min and max"
  | expectedRange name => name ++ " must be a number or an object with min and max"
  | weightsNotList => "weights must be a list of numbers"
  | unknownShape got => "unknown room shape " ++ got
  | noShapes => "shapes must not be empty"
  | tagsNotList => "tags must be a list of strings"
  | dataNotObject => "node data must be an object"
  | unknownNodeType got => "Unknown node type: " ++ got
  | portSide id declared side =>
    "port '" ++ id ++ "' is declared as " ++ declared ++ " in the " ++ side ++ "s list"
  | noPorts id side => "Node '" ++ id ++ "' has no " ++ side ++ " ports"
  | nothingToMerge => "nothing to merge"
  | roomTaken id => "room id '" ++ id ++ "' already placed"
  | tooDeep => "maximum recursion depth exceeded"
  | unencodable what => what
  | invalidGraph violations => invalidGraphText violations
  | node id reason => "Node '" ++ id ++ "' failed: " ++ reason
  | attempts => "max_attempts must be >= 1"
  | unknownParameterType name got => "Parameter '" ++ name ++ "' has unknown type " ++ got
  | parameterShape name shape got =>
    "Parameter '" ++ name ++ "' expects " ++ shape ++ ", got " ++ got
  | parameterOption name options got =>
    "Parameter '" ++ name ++ "' must be one of " ++ options ++ ", got " ++ got
  | roomSize name got => name ++ " must be a positive number, got " ++ got
  | roomSizeOrder low high => "minRoomSize " ++ low ++ " exceeds maxRoomSize " ++ high
  | parameterPair got => "Expected NAME=VALUE, got " ++ got
  | unknownConstraint got => "Unknown constraint type: " ++ got
  | unknownSeverity got => "Unknown severity: " ++ got
  | boundShape name got => "'" ++ name ++ "' must be a number, got " ++ got
  | boundOrder low high => "min " ++ low ++ " exceeds max " ++ high
  | countTarget got => "target must be 'rooms' or 'entities', got " ++ got
  | densityMode got => "mode must be 'average' or 'per_room', got " ++ got
  | noReachableRoom selector => "no reachable room matches '" ++ selector ++ "'"
  | noPredicate => "custom constraint needs a predicate"
  | noValues => "no values"
  | negativeRuns => "run_count must not be negative"
  | belowOne name => name ++ " must be >= 1"
  | workers => "workers must be >= 1 when set"
  | negativeCounts => "'list' argument must have no negative elements"
  | bucketCount count true =>
    if count < 0 then "negative dimensions are not allowed"
    else "index 0 is out of bounds for axis 0 with size 0"
  | bucketCount count false =>
    if count < 0 then "'minlength' must not be negative" else "float division by zero"
  | notMapping path => path ++ ": expected a mapping at the top level"
  | noGenerators path => path ++ ": project has no generators"
  | noGenerator path id =>
    Text.quote (path ++ ": no generator with id '" ++ id ++ "'")
  | missingFile what path => what ++ " file not found: " ++ path
  | unreadableJson => "unreadable JSON"
  | unreadableYaml _ => "unreadable YAML"
  | foreign _ text => text

/-- A fault with its kind in front, as it stands inside the report of a failed node. -/
def described (f : Fault) : String := f.kind.name ++ ": " ++ f.message

/-- A fault whose words quote these values. Where one of them cannot be written, that is the fault. -/
def quoting {α : Type} (vs : List (Value α)) (f : Fault) : Fault :=
  if vs.all Value.writable then f else .unwritable

end Fault

variable {α : Type}

/-- What is made of the texts of these values, if all of them can be written. -/
def Value.writing {β : Type} (vs : List (Value α)) (x : β) : Except Fault β :=
  if vs.all Value.writable then .ok x else .error .unwritable

/-- A value as text, if it can be written. -/
def Value.toText [Scalar α] (v : Value α) : Except Fault String := Value.writing [v] v.plain

def NoWhole.fault : NoWhole → Fault
  | .undefined => .undefinedWhole
  | .infinite => .infiniteWhole

def Decimal.NoSum.fault : Decimal.NoSum → Fault
  | .overflow => .sumOverflow
  | .undefined => .sumUndefined

def Value.Unordered.fault (u : Value.Unordered) : Fault :=
  .unordered u.relation.symbol u.left u.right

/-- The number in the arithmetic, or the fault of a number that is too large. -/
def Number.toScalar [Scalar α] (n : Number α) : Except Fault α :=
  match n.toScalar? with
  | some x => .ok x
  | none => .error .tooLarge

end Dungeon
