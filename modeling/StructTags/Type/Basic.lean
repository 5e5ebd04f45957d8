/-!
# Field types

The shape of a field's declared type, as far as rules ask about it. A field whose type could not
be resolved has none.
-/

namespace StructTags

/-- The predeclared types. -/
inductive BasicKind where
  | bool
  | int
  | int8
  | int16
  | int32
  | int64
  | uint
  | uint8
  | uint16
  | uint32
  | uint64
  | uintptr
  | float32
  | float64
  | complex64
  | complex128
  | string
  | unsafePointer
deriving DecidableEq, Repr

namespace BasicKind

def all : List BasicKind :=
  [.bool, .int, .int8, .int16, .int32, .int64, .uint, .uint8, .uint16, .uint32, .uint64, .uintptr,
    .float32, .float64, .complex64, .complex128, .string, .unsafePointer]

def name : BasicKind → String
  | .bool => "bool"
  | .int => "int"
  | .int8 => "int8"
  | .int16 => "int16"
  | .int32 => "int32"
  | .int64 => "int64"
  | .uint => "uint"
  | .uint8 => "uint8"
  | .uint16 => "uint16"
  | .uint32 => "uint32"
  | .uint64 => "uint64"
  | .uintptr => "uintptr"
  | .float32 => "float32"
  | .float64 => "float64"
  | .complex64 => "complex64"
  | .complex128 => "complex128"
  | .string => "string"
  | .unsafePointer => "unsafe.Pointer"

def ofName? (s : String) : Option BasicKind :=
  all.find? (·.name = s)

def isInteger : BasicKind → Bool
  | .int | .int8 | .int16 | .int32 | .int64 => true
  | .uint | .uint8 | .uint16 | .uint32 | .uint64 | .uintptr => true
  | _ => false

def isFloat : BasicKind → Bool
  | .float32 | .float64 => true
  | _ => false

end BasicKind

inductive FieldType where
  | basic (kind : BasicKind)
  | pointer (elem : FieldType)
  | named (name : String) (underlying : FieldType)
  | struct
  | interface
  | map (key value : FieldType)
  | slice (elem : FieldType)
  | array (length : Nat) (elem : FieldType)
  /-- Anything else, by how it is shown. -/
  | other (text : String)
deriving DecidableEq, Repr

namespace FieldType

/-- How the type is shown in a message. -/
def display : FieldType → String
  | .basic kind => kind.name
  | .pointer elem => "*" ++ elem.display
  | .named name _ => name
  | .struct => "struct\x7b...\x7d"
  | .interface => "interface\x7b...\x7d"
  | .map key value => "map[" ++ key.display ++ "]" ++ value.display
  | .slice elem => "[]" ++ elem.display
  | .array length elem => "[" ++ toString length ++ "]" ++ elem.display
  | .other text => text

/-- The type without the names declared for it. -/
def underlying : FieldType → FieldType
  | .named _ t => t.underlying
  | t => t

/-- The type without names and pointers. -/
def dereferenced : FieldType → FieldType
  | .named _ t => t.dereferenced
  | .pointer t => t.dereferenced
  | t => t

/-- The predeclared type that is left without names and pointers. -/
def basicKind? (t : FieldType) : Option BasicKind :=
  match t.dereferenced with
  | .basic kind => some kind
  | _ => none

def isPointer : FieldType → Bool
  | .pointer _ => true
  | _ => false

def isInterface : FieldType → Bool
  | .interface => true
  | _ => false

def isStruct : FieldType → Bool
  | .struct => true
  | _ => false

end FieldType

end StructTags
