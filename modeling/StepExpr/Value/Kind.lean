import StepExpr.Value.Floating

/-!
# Kinds of values

The kinds that captured text can be converted to without a transformer of one's own.
-/

namespace StepExpr

inductive IntWidth where
  | i8 | i16 | i32 | i64 | u8 | u16 | u32 | u64
  deriving DecidableEq, Repr

namespace IntWidth

def range : IntWidth → IntRange
  | i8 => .signed 8
  | i16 => .signed 16
  | i32 => .signed 32
  | i64 => .signed 64
  | u8 => .unsigned 8
  | u16 => .unsigned 16
  | u32 => .unsigned 32
  | u64 => .unsigned 64

def name : IntWidth → String
  | i8 => "i8"
  | i16 => "i16"
  | i32 => "i32"
  | i64 => "i64"
  | u8 => "u8"
  | u16 => "u16"
  | u32 => "u32"
  | u64 => "u64"

def label : IntWidth → String
  | i8 => "I8"
  | i16 => "I16"
  | i32 => "I32"
  | i64 => "I64"
  | u8 => "U8"
  | u16 => "U16"
  | u32 => "U32"
  | u64 => "U64"

end IntWidth

inductive Kind where
  | string
  | bool
  | integer (w : IntWidth)
  | f32
  | f64
  | bigInteger
  | bigDecimal
  deriving DecidableEq, Repr

namespace Kind

/-- The name that messages use. -/
def name : Kind → String
  | string => "String"
  | bool => "bool"
  | integer w => w.name
  | f32 => "f32"
  | f64 => "f64"
  | bigInteger => "BigInt"
  | bigDecimal => "BigDecimal"

/-- The word that heads the text of a value of this kind. -/
def label : Kind → String
  | string => "String"
  | bool => "Bool"
  | integer w => w.label
  | f32 => "F32"
  | f64 => "F64"
  | bigInteger => "BigInteger"
  | bigDecimal => "BigDecimal"

def named? : String → Option Kind
  | "String" | "string" | "str" => some string
  | "bool" | "boolean" => some bool
  | "i8" | "byte" => some (integer .i8)
  | "i16" | "short" => some (integer .i16)
  | "i32" | "int" => some (integer .i32)
  | "i64" | "long" => some (integer .i64)
  | "u8" => some (integer .u8)
  | "u16" => some (integer .u16)
  | "u32" => some (integer .u32)
  | "u64" => some (integer .u64)
  | "f32" | "float" => some f32
  | "f64" | "double" => some f64
  | "BigInt" | "biginteger" => some bigInteger
  | "BigDecimal" | "bigdecimal" => some bigDecimal
  | _ => none

end Kind

/-- The answer to a name that stands for no kind. -/
def unsupportedKindMessage (name : String) : String :=
  "unsupported value kind: " ++ name

end StepExpr
