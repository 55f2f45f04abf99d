import CulpeoStream.Lib.Strip
import CulpeoStream.Lib.Utf16

/-!
# Content types in `CulpeoStream.Core`

`ContentTypeUtilities`, over the string functions of .NET that it uses.  A dictionary is
the list of its entries in the order in which they were added.

Comparison ignoring case maps both strings to upper case first; the mapping comes from
the tables of the runtime and is a parameter.
-/

namespace CulpeoStream.Dotnet

open Search Utf16

/-- What the runtime contributes: the upper case of a string under ordinal rules. -/
structure Runtime where
  toUpperOrdinal : Text → Text

/-- `char.IsWhiteSpace`. -/
def isWhiteSpace (c : UInt16) : Bool :=
  (0x0009 ≤ c && c ≤ 0x000D) || c == 0x0020 || c == 0x0085 || c == 0x00A0 || c == 0x1680
    || (0x2000 ≤ c && c ≤ 0x200A) || c == 0x2028 || c == 0x2029 || c == 0x202F || c == 0x205F
    || c == 0x3000

/-- `string.IsNullOrWhiteSpace`. -/
def isNullOrWhiteSpace (s : Option Text) : Bool :=
  (s.getD []).all isWhiteSpace

/-- `string.Trim`. -/
def trim (s : Text) : Text := trimBy isWhiteSpace s

theorem trim_eq_nil_iff {s : Text} : trim s = [] ↔ ∀ c ∈ s, isWhiteSpace c = true :=
  Strip.strip_eq_nil_iff

/-- A trimmed string is white space only when it is empty. -/
theorem isNullOrWhiteSpace_trim_iff (s : Text) :
    isNullOrWhiteSpace (some (trim s)) = true ↔ trim s = [] := by
  have again : trim (trim s) = trim s := Strip.strip_strip s
  rw [isNullOrWhiteSpace, Option.getD_some, List.all_eq_true, ← trim_eq_nil_iff, again]

/-- `string.Equals` under `StringComparison.OrdinalIgnoreCase`. -/
def equalsIgnoreCase (rt : Runtime) (a b : Text) : Bool :=
  rt.toUpperOrdinal a == rt.toUpperOrdinal b

structure ParsedContentType where
  mediaType : Text
  parameters : List (Text × Text)
  deriving DecidableEq, Repr

/-- `TryGetValue` of a dictionary whose keys are compared ignoring case. -/
def tryGetValue (rt : Runtime) (parameters : List (Text × Text)) (key : Text) : Option Text :=
  (parameters.find? fun parameter => equalsIgnoreCase rt parameter.1 key).map Prod.snd

/-- One turn of the parameter loop; none when the content type is not accepted. -/
def addParameter (rt : Runtime) (parameters : List (Text × Text)) (part : Text) :
    Option (List (Text × Text)) :=
  -- `Split('=', 2, TrimEntries)` gives two entries exactly when there is a `=`.
  match find [unit '='] part with
  | none => none
  | some eq =>
      let key := trim (part.take eq)
      let value := trim (part.drop (eq + 1))
      if isNullOrWhiteSpace (some key) || (tryGetValue rt parameters key).isSome then none
      else some (parameters ++ [(key, value)])

def tryParseContentType (rt : Runtime) (contentType : Text) : Option ParsedContentType :=
  -- `Split(';', RemoveEmptyEntries | TrimEntries)`: entries are trimmed before the empty
  -- ones are removed.
  match ((splitOn [unit ';'] contentType).map trim).filter (!·.isEmpty) with
  | [] => none
  | mediaType :: parts =>
      if isNullOrWhiteSpace (some mediaType) then none
      else (parts.foldlM (addParameter rt) []).map fun parameters => { mediaType, parameters }

def contentTypesMatch (rt : Runtime) (declaredContentType actualContentType : Text) : Bool :=
  match tryParseContentType rt declaredContentType, tryParseContentType rt actualContentType with
  | some declared, some actual =>
      equalsIgnoreCase rt declared.mediaType actual.mediaType
        && declared.parameters.length == actual.parameters.length
        && declared.parameters.all fun parameter =>
          tryGetValue rt actual.parameters parameter.1 == some parameter.2
  | _, _ => declaredContentType == actualContentType

end CulpeoStream.Dotnet
