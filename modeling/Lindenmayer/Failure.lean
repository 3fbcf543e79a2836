import Lindenmayer.Value.Basic
import Lindenmayer.Text.Numeral

/-!
What can go wrong, as causes. `Failure.category` sorts them by who is at fault and
`Failure.message` words each once.
-/
namespace Lindenmayer

/-- A symbol of a sequence. -/
abbrev Symbol := UInt32

/-- A place in a text: its line and column from one on, and the number of characters before it. -/
structure TextPlace where
  line : Nat
  column : Nat
  offset : Nat
deriving DecidableEq, Repr

/-- A place as messages name it. -/
def TextPlace.message (p : TextPlace) : String :=
  "line " ++ toString p.line ++ " column " ++ toString p.column ++ " (char " ++ toString p.offset ++ ")"

/-- The place that so many characters of a text are before. -/
def TextPlace.of (s : Text) (offset : Nat) : TextPlace :=
  let before := s.take offset
  let last := before.reverse.takeWhile fun c => c.val != 10
  { line := before.countP (fun c => c.val == 10) + 1, column := last.length + 1, offset }

/-- What is wrong with a text that is no JSON text. -/
inductive JsonFault where
  | noValue | noName | noColon | noComma | openString | controlCharacter | badEscape
  | badNumberedEscape | moreBehind | markBefore
deriving DecidableEq, Repr

/-- The wording of what is wrong. -/
def JsonFault.message : JsonFault → String
  | .noValue => "Expecting value"
  | .noName => "Expecting property name enclosed in double quotes"
  | .noColon => "Expecting ':' delimiter"
  | .noComma => "Expecting ',' delimiter"
  | .openString => "Unterminated string starting at"
  | .controlCharacter => "Invalid control character at"
  | .badEscape => "Invalid \\escape"
  | .badNumberedEscape => "Invalid \\uXXXX escape"
  | .moreBehind => "Extra data"
  | .markBefore => "Unexpected UTF-8 BOM (decode using utf-8-sig)"

/-- Why an operation has no result. -/
inductive Failure where
  /-- A text given as a symbol has not one character. -/
  | symbolNotSingle (given : Value)
  /-- A value given as a symbol is no character and no integer in the symbols' range. -/
  | notASymbol (given : Value)
  /-- An array given as a sequence has not one dimension. -/
  | notOneDimensional
  /-- An array given as a sequence holds no integers. -/
  | notIntegers (elementType : String)
  /-- An array given as a sequence holds an integer that is no symbol. -/
  | symbolsOutOfRange
  /-- A sequence has a symbol that is no code point. -/
  | noStringForm
  /-- A number of generations is no integer. -/
  | generationsNotInteger (given : Value)
  /-- A number of generations is negative. -/
  | generationsNegative (given : Int)
  /-- A step length is not above zero. -/
  | stepNotPositive (given : String)
  /-- A pen width is not above zero. -/
  | penWidthNotPositive (given : String)
  /-- A picture format is neither of the two known. -/
  | unsupportedFormat (given : Text)
  /-- A setting has no integer in its variable. -/
  | settingNotInteger (name : String) (given : Text)
  /-- A setting has an integer below one in its variable. -/
  | settingNotPositive (name : String) (given : Int)
  /-- A request's body is no object. -/
  | bodyNotObject
  /-- A request's parameter is no number. -/
  | parameterNotNumber (name : String)
  /-- A request's seed of random numbers is no natural number. -/
  | rngSeedNotNatural
  /-- A request's switch is neither true nor false. -/
  | parameterNotFlag (name : String)
  /-- A request's rules are not an object of texts. -/
  | rulesNotTexts
  /-- A request's seed is no text or empty. -/
  | seedNotText
  /-- A request's picture format is neither of the two known. -/
  | formatNotOffered
  /-- A request's file name has a directory in it. -/
  | directoryInName
  /-- A request asks for more generations than the settings allow. -/
  | tooManyIterations (limit : Int)
  /-- A request's last generation is longer than the settings allow. -/
  | expansionTooLong (length : Nat) (limit : Int)
  /-- A request names a preset that there is not. -/
  | noSuchPreset (name : Value) (known : List String)
  /-- A preset is asked for that there is not. -/
  | unknownPreset (name : Value) (known : List String)
  /-- A symbol has no rule. -/
  | missingRule (symbol : Symbol)
  /-- A session has nothing of a name. -/
  | unknownName (name : Text)
  /-- A drawing step lacks a field that its drawing reads. -/
  | missingField (name : String)
  /-- A sequence that never changes was written to. -/
  | readOnly
  /-- There are fewer parts than their reader names. -/
  | tooFewParts (expected given : Nat)
  /-- There are more parts than their reader names. -/
  | tooManyParts (expected : Nat)
  /-- The cosine or sine of an infinity. -/
  | outsideDomain
  /-- An integer made of no number. -/
  | integerFromNan
  /-- A seed of random numbers is negative. -/
  | negativeSeed
  /-- A colour's text is longer than any colour's. -/
  | colourTooLong
  /-- A text names no colour; it is kept in lower case. -/
  | unknownColour (lowered : Text)
  /-- A picture's width or height is negative. -/
  | negativeSize
  /-- A canvas's width or height is negative. -/
  | negativeDimensions
  /-- A capture is to keep every `n`-th frame for an `n` below one. -/
  | everyNotPositive (given : Int)
  /-- A log level is a text that names no level. -/
  | unknownLevel (given : String)
  /-- An integer has more digits than are written. -/
  | tooManyDigits
  /-- An integer's text has more digits than are read. -/
  | integerTooLong (digits : Nat)
  /-- A text is no JSON text: what is wrong with it, and where. -/
  | notJson (fault : JsonFault) (place : TextPlace)
  /-- Lists or objects stand too deep within others. -/
  | nestedTooDeep (container : String)
  /-- A text is no integer in a base. -/
  | badInteger (base : Nat) (given : Text)
  /-- A text is no real number. -/
  | badReal (given : Text)
  /-- A text given as a seed does not begin like a number. -/
  | unknownSeedText
  /-- Numbers without a dimension cannot be joined. -/
  | zeroDimensional
  /-- Arrays with different numbers of dimensions cannot be joined. -/
  | dimensionsDiffer (first index other : Nat)
  /-- Arrays of different sizes along a dimension cannot be joined. -/
  | sizesDiffer (dimension first index other : Nat)
  /-- Lists of different lengths stand side by side in an array. -/
  | ragged (shape : List Nat)
  /-- An array is neither true nor false as a whole. -/
  | ambiguousTruth (empty : Bool)
  /-- A field given as a pair has not two parts. -/
  | fieldNotPair (index length : Nat)
  /-- A number of decimal places is missing or negative. -/
  | placesMissing
  /-- A thing is asked for what it cannot do. -/
  | noSuchOperation
  /-- A frame could not be encoded. -/
  | encodingFailed
  /-- A value has not the kind that its use needs. -/
  | wrongKind
  /-- An index is outside of its sequence. -/
  | indexOutOfRange
  /-- A number is too large for its kind. -/
  | overflow
  /-- A path leads through a directory that is not there. -/
  | noSuchFile
  /-- A path to be written is a directory. -/
  | isDirectory
  /-- A path leads through a file. -/
  | notDirectory
  /-- There is a file where a directory is to be. -/
  | fileInTheWay
  /-- A path or a variable has a null character. -/
  | nullCharacter
  /-- A variable's name has an equality sign. -/
  | equalityInName
  /-- A variable has an empty name. -/
  | nameless
  /-- A path or a part of it is too long. -/
  | pathTooLong
  /-- A text has surrogates that stand alone and cannot be encoded: a run of code points from the
      first place up to the second. -/
  | notEncodable (run : Text) (first : Nat)

/-- Who a failure is for. -/
inductive Failure.Category where
  /-- The input is rejected. -/
  | rejected
  /-- The input asks for more than is allowed. -/
  | tooLarge
  /-- What a request names is not there. -/
  | notFound
  /-- A key has no entry. -/
  | missingKey
  /-- A value is not one that the operation is defined for. -/
  | badValue
  /-- A part outside of this program failed. -/
  | broken
  /-- A value is of the wrong kind. -/
  | badKind
  /-- An index is out of range. -/
  | badIndex
  /-- A number is too large. -/
  | overflow
  /-- A file is not there. -/
  | noFile
  /-- A path is a directory. -/
  | directory
  /-- A path leads through a file. -/
  | throughFile
  /-- There is a file already. -/
  | fileThere
  /-- The system refuses. -/
  | refused
  /-- A text is no JSON text. -/
  | malformed
  /-- Values are nested too deep. -/
  | tooDeep
  /-- A text cannot be encoded. -/
  | unencodable
  /-- There is no such operation. -/
  | noOperation
deriving DecidableEq, Repr

namespace Failure

/-- Who a failure is for. -/
def category : Failure → Category
  | .symbolNotSingle _ | .notASymbol _ | .notOneDimensional | .notIntegers _ | .symbolsOutOfRange
  | .noStringForm | .generationsNotInteger _ | .generationsNegative _ | .stepNotPositive _
  | .penWidthNotPositive _ | .unsupportedFormat _ | .settingNotInteger _ _
  | .settingNotPositive _ _ | .bodyNotObject | .parameterNotNumber _ | .rngSeedNotNatural
  | .parameterNotFlag _ | .rulesNotTexts | .seedNotText | .formatNotOffered
  | .directoryInName => .rejected
  | .tooManyIterations _ | .expansionTooLong _ _ => .tooLarge
  | .noSuchPreset _ _ => .notFound
  | .unknownPreset _ _ | .missingRule _ | .unknownName _ | .missingField _ => .missingKey
  | .readOnly | .tooFewParts _ _ | .tooManyParts _ | .outsideDomain | .integerFromNan
  | .negativeSeed | .colourTooLong | .unknownColour _ | .negativeSize | .negativeDimensions
  | .everyNotPositive _ | .unknownLevel _ | .tooManyDigits | .integerTooLong _ | .badInteger _ _
  | .badReal _ | .unknownSeedText | .zeroDimensional | .dimensionsDiffer _ _ _
  | .sizesDiffer _ _ _ _ | .ragged _ | .ambiguousTruth _ | .fieldNotPair _ _ | .placesMissing
  | .nullCharacter | .equalityInName => .badValue
  | .notJson _ _ => .malformed
  | .nestedTooDeep _ => .tooDeep
  | .notEncodable _ _ => .unencodable
  | .noSuchOperation => .noOperation
  | .pathTooLong | .nameless => .refused
  | .fileInTheWay => .fileThere
  | .encodingFailed => .broken
  | .wrongKind => .badKind
  | .indexOutOfRange => .badIndex
  | .overflow => .overflow
  | .noSuchFile => .noFile
  | .isDirectory => .directory
  | .notDirectory => .throughFile

/-- The two picture formats as messages name them. -/
def formatNames : String := "('png', 'svg')"

/-- What is said of a preset that there is not. -/
def presetMessage (name : Value) (known : List String) : String :=
  "unknown preset " ++ name.shown ++ "; known presets: " ++ String.intercalate ", " known

/-- What is said of code points that cannot be encoded. -/
def unencodableMessage (run : Text) (first : Nat) : String :=
  let which := match run with
    | [c] =>
      let escaped := if c.val < 0x100 then "\\x" ++ String.ofList (Text.hexDigits 2 c.val)
        else "\\u" ++ String.ofList (Text.hexDigits 4 c.val)
      "character '" ++ escaped ++ "' in position " ++ toString first
    | _ => "characters in position " ++ toString first ++ "-" ++ toString (first + run.length - 1)
  "'utf-8' codec can't encode " ++ which ++ ": surrogates not allowed"

/-- The wording of a failure. -/
def message : Failure → String
  | .symbolNotSingle given => "a symbol must be a single character, got " ++ given.shown
  | .notASymbol given =>
    "a symbol must be a single character or an int in 0..4294967295, got " ++ given.shown
  | .notOneDimensional => "a symbol sequence must be one-dimensional"
  | .notIntegers elementType => "symbols must be integers, got dtype " ++ elementType
  | .symbolsOutOfRange => "symbols must be in 0..4294967295"
  | .noStringForm => "symbols above U+10FFFF have no string form"
  | .generationsNotInteger given => "generations must be an integer, got " ++ given.shown
  | .generationsNegative given => "generations must be >= 0, got " ++ toString given
  | .stepNotPositive given => "step length must be > 0, got " ++ given
  | .penWidthNotPositive given => "pen width must be > 0, got " ++ given
  | .unsupportedFormat given =>
    "unsupported image format " ++ given.quoted ++ ", expected one of " ++ formatNames
  | .settingNotInteger name given => name ++ " must be an integer, got " ++ given.quoted
  | .settingNotPositive name given => name ++ " must be > 0, got " ++ toString given
  | .bodyNotObject => "request body must be a JSON object"
  | .parameterNotNumber name => name ++ " must be a number"
  | .rngSeedNotNatural => "rng_seed must be a non-negative integer"
  | .parameterNotFlag name => name ++ " must be true or false"
  | .rulesNotTexts => "rules must be an object mapping single symbols to replacement strings"
  | .seedNotText => "seed must be a non-empty string"
  | .formatNotOffered => "fmt must be one of " ++ formatNames
  | .directoryInName => "filename must not contain a directory"
  | .tooManyIterations limit => "iterations must be <= " ++ toString limit
  | .expansionTooLong length limit =>
    "expansion has " ++ toString length ++ " symbols, the limit is " ++ toString limit
  | .noSuchPreset name known => presetMessage name known
  | .unknownPreset name known => presetMessage name known
  | .missingRule symbol => toString symbol.toNat
  | .unknownName name => (Text.toString? name).getD name.quoted
  | .missingField name => name
  | .readOnly => "assignment destination is read-only"
  | .tooFewParts expected given =>
    "not enough values to unpack (expected " ++ toString expected ++ ", got " ++ toString given ++ ")"
  | .tooManyParts expected => "too many values to unpack (expected " ++ toString expected ++ ")"
  | .outsideDomain => "math domain error"
  | .integerFromNan => "cannot convert float NaN to integer"
  | .negativeSeed => "expected non-negative integer"
  | .colourTooLong => "color specifier is too long"
  | .unknownColour lowered => "unknown color specifier: " ++ lowered.quoted
  | .negativeSize => "Width and height must be >= 0"
  | .negativeDimensions => "negative dimensions are not allowed"
  | .everyNotPositive given => "every must be >= 1, got " ++ toString given
  | .unknownLevel given => "Unknown level: " ++ (Text.ofString given).quoted
  | .tooManyDigits =>
    "Exceeds the limit (4300 digits) for integer string conversion; use sys.set_int_max_str_digits() to increase the limit"
  | .integerTooLong digits =>
    "Exceeds the limit (4300 digits) for integer string conversion: value has " ++ toString digits ++
      " digits; use sys.set_int_max_str_digits() to increase the limit"
  | .notJson fault place => fault.message ++ ": " ++ place.message
  | .nestedTooDeep container =>
    "maximum recursion depth exceeded while decoding a JSON " ++ container ++ " from a unicode string"
  | .badInteger base given =>
    "invalid literal for int() with base " ++ toString base ++ ": " ++
      String.ofList (given.quoted.toList.take 200)
  | .badReal given => "could not convert string to float: " ++ given.quoted
  | .unknownSeedText => "unrecognized seed string"
  | .zeroDimensional => "zero-dimensional arrays cannot be concatenated"
  | .dimensionsDiffer first index other =>
    "all the input arrays must have same number of dimensions, but the array at index 0 has " ++
      toString first ++ " dimension(s) and the array at index " ++ toString index ++ " has " ++
      toString other ++ " dimension(s)"
  | .sizesDiffer dimension first index other =>
    "all the input array dimensions except for the concatenation axis must match exactly, but along dimension " ++
      toString dimension ++ ", the array at index 0 has size " ++ toString first ++
      " and the array at index " ++ toString index ++ " has size " ++ toString other
  | .ragged shape =>
    "setting an array element with a sequence. The requested array has an inhomogeneous shape after " ++
      toString shape.length ++ " dimensions. The detected shape was " ++ Numeric.shownShape shape ++
      " + inhomogeneous part."
  | .ambiguousTruth empty =>
    if empty then "The truth value of an empty array is ambiguous. Use `array.size > 0` to check that an array is not empty."
    else "The truth value of an array with more than one element is ambiguous. Use a.any() or a.all()"
  | .fieldNotPair index length =>
    "dictionary update sequence element #" ++ toString index ++ " has length " ++ toString length ++
      "; 2 is required"
  | .placesMissing => "Format specifier missing precision"
  | .noSuchOperation => "no such operation"
  | .encodingFailed => "OpenCV JPEG encoding failed"
  | .wrongKind => "wrong kind of value"
  | .indexOutOfRange => "index out of range"
  | .overflow => "number too large"
  | .noSuchFile => "no such file"
  | .isDirectory => "is a directory"
  | .notDirectory => "not a directory"
  | .nullCharacter => "embedded null byte"
  | .equalityInName => "illegal environment variable name"
  | .nameless => "variable without a name"
  | .pathTooLong => "path too long"
  | .fileInTheWay => "file exists"
  | .notEncodable run first => unencodableMessage run first

/-- What comes of a failure whose message shows a value: if the message cannot be made, that is the
    failure. -/
def showing (given : Value) (failure : Failure) : Failure :=
  if given.showable then failure else .tooManyDigits

end Failure

end Lindenmayer
