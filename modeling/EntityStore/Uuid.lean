import EntityStore.Text.Hex

/-!
# Universally unique identifiers

128 bits, written as 32 lower-case hexadecimal digits in groups of 8, 4, 4, 4 and 12. The
reader also takes the digits without hyphens, in braces, and behind `urn:uuid:` in either case.
-/

namespace EntityStore

structure Uuid where
  bits : BitVec 128
deriving DecidableEq, Repr

namespace Uuid

def nil : Uuid := ⟨0⟩

instance : Inhabited Uuid := ⟨nil⟩

instance : Ord Uuid := ⟨fun a b => compare a.bits.toNat b.bits.toNat⟩

def digits (u : Uuid) : List Char := Text.hexDigits 32 u.bits.toNat

/-- Puts hyphens between the groups of 32 digits. -/
def hyphenate (ds : List Char) : List Char :=
  ds.take 8 ++ '-' :: (ds.drop 8).take 4 ++ '-' :: (ds.drop 12).take 4 ++
    '-' :: (ds.drop 16).take 4 ++ '-' :: ds.drop 20

def text (u : Uuid) : String := String.ofList (hyphenate u.digits)

instance : ToString Uuid := ⟨text⟩

def ofDigits? (ds : List Char) : Option Uuid :=
  if ds.length = 32 then (Text.hexNumber? ds).map fun n => ⟨BitVec.ofNat 128 n⟩ else none

/-- Reads the digits with their four hyphens, which must stand between the groups. -/
def ofHyphenated? (cs : List Char) : Option Uuid :=
  let ds := cs.filter (· ≠ '-')
  if cs = hyphenate ds then ofDigits? ds else none

def parse? (s : String) : Option Uuid :=
  let cs := s.toList
  if cs.length = 32 then ofDigits? cs
  else if cs.length = 36 then ofHyphenated? cs
  else if cs.length = 38 then
    if cs.head? = some '{' ∧ cs.getLast? = some '}' then ofHyphenated? (cs.drop 1).dropLast else none
  else if cs.length = 45 then
    if (cs.take 9).map Char.toLower = "urn:uuid:".toList then ofHyphenated? (cs.drop 9) else none
  else none

def toBytes (u : Uuid) : List UInt8 :=
  (List.range 16).map fun i => UInt8.ofNat (u.bits.toNat / Nat.pow 256 (15 - i))

def ofBytes (bytes : List UInt8) : Uuid :=
  ⟨BitVec.ofNat 128 (bytes.foldl (fun n b => n * 256 + b.toNat) 0)⟩

end Uuid

end EntityStore
