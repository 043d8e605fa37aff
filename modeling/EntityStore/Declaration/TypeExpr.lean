import EntityStore.Column

/-!
# Types in declarations

A declared field states its type as text, such as `Option<i64>` or `std::vec::Vec<Post>`. Of a
path the last name and its arguments in angle brackets count; of any other type only that it
is well formed. A type has a text of its own, without blanks and with lifetimes in front of
the other arguments.
-/

namespace EntityStore.Declaration

inductive TypeExpr where
  /-- A path, by its last name and the arguments of that name. -/
  | named (text name : String) (arguments : List TypeExpr)
  /-- A type that is no path. -/
  | other (text : String)
  /-- An argument that is no type: a lifetime, a constant, a binding or a bound. -/
  | noType (text : String)

namespace TypeExpr

def text : TypeExpr → String
  | .named text _ _ | .other text | .noType text => text

/-- The only argument of a type whose name is `wrapper`, if it is a type. -/
def argument? (wrapper : String) : TypeExpr → Option TypeExpr
  | .named _ _ [.noType _] => none
  | .named _ name [argument] => if name = wrapper then some argument else none
  | _ => none

def scalars : List (String × ColumnType) :=
  [("bool", .bool), ("i8", .int8), ("i16", .int16), ("i32", .int32), ("i64", .int64),
    ("u8", .uint8), ("u16", .uint16), ("u32", .uint32), ("f32", .float32), ("f64", .float64),
    ("String", .text), ("Value", .json), ("DateTime", .timestamp),
    ("NaiveDateTime", .localTimestamp), ("Uuid", .uuid)]

def columnType? : TypeExpr → Option ColumnType
  | .named _ "Option" [type] => (columnType? type).map .option
  | .named _ "Vec" [item] => if item.text = "u8" then some .bytes else none
  | .named _ name _ => scalars.lookup name
  | .other _ | .noType _ => none

end TypeExpr

end EntityStore.Declaration
