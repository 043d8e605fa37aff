/-!
# Single and double precision

A single-precision number is a double as well, and a double has a nearest single-precision
number, ties to the even significand.
-/

namespace EntityStore.Number

open Float.Model (UnpackedFloat)

/-- The nearest number of a format. -/
def rounded (format : Float.Model.Format) : UnpackedFloat → UnpackedFloat
  | .finite sign mantissa exponent _ => .round format sign mantissa exponent
  | x => x

/-- The double of the same value. -/
def widen (x : Float32) : Float := .ofModel (.pack (rounded .binary64 x.toModel.unpack))

/-- The single-precision number nearest to a double. -/
def narrow (x : Float) : Float32 := .ofModel (.pack (rounded .binary32 x.toModel.unpack))

end EntityStore.Number
