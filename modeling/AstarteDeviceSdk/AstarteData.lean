import AstarteDeviceSdk.Schema

/-! Modelled from the spec: the value taxonomy of the device SDK (`src/types`, of which only
`uuid.rs` is under src/). `AstarteData` is the closed sum of §3, compared as its derived
`PartialEq` compares it: doubles with IEEE 754 equality, everything else structurally. -/

namespace AstarteDeviceSdk.Types

open Primitives Schema

/-- Modelled from the spec: `Double(f64 finite)`, an `f64` that is neither NaN nor infinite,
kept as its IEEE 754 bits. -/
structure Double where
  bits : UInt64
  finite : bits &&& 0x7FF0000000000000 ≠ 0x7FF0000000000000
  deriving DecidableEq, Repr

def Double.isZero (value : Double) : Bool := value.bits &&& 0x7FFFFFFFFFFFFFFF == 0

/-- IEEE 754 equality on finite values: the same bits, or both zeros of either sign. -/
instance : BEq Double := ⟨fun a b => a.bits == b.bits || (a.isZero && b.isZero)⟩

/-- Modelled from the spec: a UTC date time, in seconds and nanoseconds since the epoch. -/
structure DateTime where
  secs : Int
  nanos : Nat
  nanosLt : nanos < 1000000000
  deriving DecidableEq, Repr

/-- Modelled from the spec: `AstarteData` (also named `AstarteType`), not under src/. -/
inductive AstarteData
  | double (value : Double)
  | integer (value : I32)
  | boolean (value : Bool)
  | longInteger (value : I64)
  | string (value : String)
  | binaryBlob (value : List UInt8)
  | dateTime (value : DateTime)
  | doubleArray (value : List Double)
  | integerArray (value : List I32)
  | booleanArray (value : List Bool)
  | longIntegerArray (value : List I64)
  | stringArray (value : List String)
  | binaryBlobArray (value : List (List UInt8))
  | dateTimeArray (value : List DateTime)
  deriving DecidableEq, Repr

namespace AstarteData

/-- The derived `PartialEq`. -/
def beq : AstarteData → AstarteData → Bool
  | .double a, .double b => a == b
  | .integer a, .integer b => a == b
  | .boolean a, .boolean b => a == b
  | .longInteger a, .longInteger b => a == b
  | .string a, .string b => a == b
  | .binaryBlob a, .binaryBlob b => a == b
  | .dateTime a, .dateTime b => a == b
  | .doubleArray a, .doubleArray b => a == b
  | .integerArray a, .integerArray b => a == b
  | .booleanArray a, .booleanArray b => a == b
  | .longIntegerArray a, .longIntegerArray b => a == b
  | .stringArray a, .stringArray b => a == b
  | .binaryBlobArray a, .binaryBlobArray b => a == b
  | .dateTimeArray a, .dateTimeArray b => a == b
  | _, _ => false

instance : BEq AstarteData := ⟨beq⟩

/-- Modelled from the spec: the kind of a value, which `PartialEq<MappingType>` compares. -/
def mappingType : AstarteData → MappingType
  | .double _ => .double
  | .integer _ => .integer
  | .boolean _ => .boolean
  | .longInteger _ => .longInteger
  | .string _ => .string
  | .binaryBlob _ => .binaryBlob
  | .dateTime _ => .dateTime
  | .doubleArray _ => .doubleArray
  | .integerArray _ => .integerArray
  | .booleanArray _ => .booleanArray
  | .longIntegerArray _ => .longIntegerArray
  | .stringArray _ => .stringArray
  | .binaryBlobArray _ => .binaryBlobArray
  | .dateTimeArray _ => .dateTimeArray

/-- Modelled from the spec: `display_type`, the name of the value's kind. -/
def displayType (value : AstarteData) : String := value.mappingType.toString

theorem mappingType_eq_of_beq {a b : AstarteData} (same : (a == b) = true) :
    a.mappingType = b.mappingType := by
  cases a <;> cases b <;> first | rfl | cases same

@[simp] theorem Double.beq_self (value : Double) : (value == value) = true := by
  simp [BEq.beq]

theorem doubles_beq_self : ∀ values : List Double, (values == values) = true
  | [] => rfl
  | value :: values => by
    simp only [List.beq, List.instBEq, Double.beq_self, Bool.true_and]
    exact doubles_beq_self values

theorem beq_self (value : AstarteData) : (value == value) = true := by
  cases value
  case double value | doubleArray value =>
    first | exact Double.beq_self value | exact doubles_beq_self value
  all_goals rename_i value; exact beq_self_eq_true value

@[simp] theorem binaryBlob_beq_binaryBlob (a b : List UInt8) :
    (binaryBlob a == binaryBlob b) = (a == b) := rfl

@[simp] theorem string_beq_string (a b : String) : (string a == string b) = (a == b) := rfl

end AstarteData

/-- Modelled from the spec: `TypeError` of `src/types`, with the variant the UUID conversions
return. -/
inductive TypeError
  | conversion (ctx : String)
  deriving DecidableEq, Repr

end AstarteDeviceSdk.Types
