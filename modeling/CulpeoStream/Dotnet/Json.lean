import CulpeoStream.Dotnet.Session

/-!
# `System.Text.Json`, as far as the sessions use it

A `JsonElement` with the accessors that the handlers call on it.  They throw on a value of
another kind.  A number is given with its value when it is an `Int64`, and a string with
its text unless it cannot be transcoded (an unpaired surrogate, bytes that are not UTF-8).
The name of a property is not unescaped before it is compared, and that may fail too.
The parser and the writer come from the runtime.
-/

namespace CulpeoStream.Dotnet

open Message Utf16

/-- What stands in a name from its first escape on: how many octets it has in the document,
and its text unless there is an unpaired surrogate in it. -/
structure EscapedPart where
  length : ℕ
  text : Option Text

/-- The name of a property, in two parts when there are escapes in it. -/
structure PropertyName where
  start : Text
  escaped : Option EscapedPart := none

namespace PropertyName

/-- The name is unescaped to be compared: it starts like the other one, and is longer in the
document. -/
def unescapes (p : PropertyName) (part : EscapedPart) (name : Text) : Bool :=
  name.length < p.start.length + part.length && p.start.length < name.length &&
    p.start.isPrefixOf name

/-- The comparison with a name that has no escapes. -/
def compare (p : PropertyName) (name : Text) : Except Exn Bool :=
  match p.escaped with
  | none => .ok (p.start = name)
  | some part =>
      if p.unescapes part name then
        match part.text with
        | none => .error (.invalidOperation (utf16
            "Cannot read incomplete UTF-16 JSON text as string with missing low surrogate."))
        | some text => .ok (p.start ++ text = name)
      else .ok false

end PropertyName

inductive JsonElement where
  | null
  | bool (value : Bool)
  | number (int64 : Option Int64)
  | string (value : Option Text)
  | array (items : List JsonElement)
  | object (properties : List (PropertyName × JsonElement))

namespace JsonElement

/-- An object whose names have no escapes. -/
def named (properties : List (Text × JsonElement)) : JsonElement :=
  .object (properties.map fun property => ({ start := property.1 }, property.2))

def valueKind : JsonElement → Text
  | null => utf16 "Null"
  | bool true => utf16 "True"
  | bool false => utf16 "False"
  | number _ => utf16 "Number"
  | string _ => utf16 "String"
  | array _ => utf16 "Array"
  | object _ => utf16 "Object"

/-- An accessor was called on an element of another kind. -/
def wrongKind (e : JsonElement) (expected : Text) : Exn :=
  .invalidOperation (utf16 "The requested operation requires an element of type '" ++ expected
    ++ utf16 "', but the target element has type '" ++ e.valueKind ++ utf16 "'.")

/-- The first property with this name. -/
def findProperty (name : Text) :
    List (PropertyName × JsonElement) → Except Exn (Option JsonElement)
  | [] => .ok none
  | (propertyName, value) :: properties =>
      match propertyName.compare name with
      | .error ex => .error ex
      | .ok true => .ok (some value)
      | .ok false => findProperty name properties

/-- `TryGetProperty`, which looks from the end: of several properties with one name the last
one counts. -/
def tryGetProperty (e : JsonElement) (name : Text) : Except Exn (Option JsonElement) :=
  match e with
  | object properties => findProperty name properties.reverse
  | _ => .error (e.wrongKind (utf16 "Object"))

/-- `GetString`, which is null for a JSON null. -/
def getString (e : JsonElement) : Except Exn (Option Text) :=
  match e with
  | null => .ok none
  | string (some text) => .ok (some text)
  | string none => .error (.invalidOperation
      (utf16 "Cannot transcode invalid UTF-8 JSON text to UTF-16 string."))
  | _ => .error (e.wrongKind (utf16 "String"))

def getInt64 (e : JsonElement) : Except Exn Int64 :=
  match e with
  | number (some n) => .ok n
  | number none => .error .format
  | _ => .error (e.wrongKind (utf16 "Number"))

def tryGetInt64 (e : JsonElement) : Except Exn (Option Int64) :=
  match e with
  | number int64 => .ok int64
  | _ => .error (e.wrongKind (utf16 "Number"))

/-- `TryGetProperty` followed by `GetString`; null when there is no such property. -/
def stringProperty (e : JsonElement) (name : Text) : Except Exn (Option Text) := do
  match ← e.tryGetProperty name with
  | none => return none
  | some property => property.getString

/-- `TryGetProperty` followed by `GetInt64`. -/
def int64Property (e : JsonElement) (name : Text) : Except Exn (Option Int64) := do
  match ← e.tryGetProperty name with
  | none => return none
  | some property => return some (← property.getInt64)

end JsonElement

/-- What the runtime contributes. -/
structure Environment extends Runtime where
  /-- `JsonDocument.Parse`; none when it throws a `JsonException`. -/
  parse : Bytes → Option JsonElement
  /-- What a `Utf8JsonWriter` writes. -/
  serialize : JsonElement → Bytes

/-- The document of a body, which may be left out. -/
def Environment.parseBody (env : Environment) (body : Bytes) : Except Exn JsonElement :=
  match env.parse (if body.isEmpty then ascii "\x7b\x7d" else body) with
  | none => .error .json
  | some root => .ok root

/-- A JSON string. -/
def quoted (text : Text) : Text := unit '"' :: text ++ [unit '"']

mutual

/-- The document of an element whose texts need no escapes. -/
def JsonElement.write : JsonElement → Text
  | .null => utf16 "null"
  | .bool true => utf16 "true"
  | .bool false => utf16 "false"
  | .number int64 => utf16 (toString (int64.getD 0).toInt)
  | .string value => quoted (value.getD [])
  | .array items => unit '[' :: writeItems items ++ [unit ']']
  | .object properties => utf16 "\x7b" ++ writeProperties properties ++ utf16 "\x7d"

def writeItems : List JsonElement → Text
  | [] => []
  | [item] => item.write
  | item :: items => item.write ++ unit ',' :: writeItems items

def writeProperties : List (PropertyName × JsonElement) → Text
  | [] => []
  | [(name, value)] => quoted name.start ++ unit ':' :: value.write
  | (name, value) :: properties =>
      quoted name.start ++ unit ':' :: value.write ++
        unit ',' :: writeProperties properties

end

/-- A runtime that reads the given documents, all of them ASCII. -/
def Environment.reading (documents : List JsonElement) : Environment where
  toUpperOrdinal := List.map upperAscii
  parse body := documents.find? fun document => document.write.map UInt16.toUInt8 = body
  serialize document := document.write.map UInt16.toUInt8

/-- What a call takes from its surroundings: the readings of the clock and the strings of
random bytes, each in the order in which the call asks for them. -/
structure Surroundings where
  clock : ℕ → Ticks
  random : ℕ → ℕ → UInt8

/-- A lower-case hexadecimal digit. -/
def hexDigit (n : UInt8) : UInt16 :=
  if n < 10 then unit '0' + n.toUInt16 else unit 'a' + (n.toUInt16 - 10)

/-- `GenerateOpaqueId`, of the given random bytes. -/
def generateOpaqueId (bytes : ℕ → UInt8) (byteLength : ℕ) : Text :=
  ((List.range byteLength).map bytes).flatMap fun b => [hexDigit (b / 16), hexDigit (b % 16)]

/-- `GenerateOpaqueId` with a length from the options.  `GetBytes` refuses a negative one. -/
def generateIdOfLength (bytes : ℕ → UInt8) (byteLength : Int32) : Except Exn Text :=
  if byteLength < 0 then .error .argumentOutOfRange
  else .ok (generateOpaqueId bytes byteLength.toInt.toNat)

end CulpeoStream.Dotnet
