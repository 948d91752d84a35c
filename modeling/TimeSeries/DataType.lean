/-! What a series may be declared as: its data type, its encoding and its compression. -/

namespace TimeSeries

inductive DataType where
  | boolean
  | int32
  | int64
  | float
  | double
  | text
  deriving DecidableEq

inductive Encoding where
  | plain
  | plainDictionary
  | rle
  | diff
  | ts2Diff
  | bitmap
  | gorilla
  | regular
  deriving DecidableEq

inductive Compression where
  | uncompressed
  | snappy
  | gzip
  | lzo
  | sdt
  | paa
  | pla
  deriving DecidableEq

class Choice (α : Type) where
  all : List α
  name : α → String
  kind : String

instance : Choice DataType where
  all := [.boolean, .int32, .int64, .float, .double, .text]
  name
    | .boolean => "BOOLEAN"
    | .int32 => "INT32"
    | .int64 => "INT64"
    | .float => "FLOAT"
    | .double => "DOUBLE"
    | .text => "TEXT"
  kind := "data type"

instance : Choice Encoding where
  all := [.plain, .plainDictionary, .rle, .diff, .ts2Diff, .bitmap, .gorilla, .regular]
  name
    | .plain => "PLAIN"
    | .plainDictionary => "PLAIN_DICTIONARY"
    | .rle => "RLE"
    | .diff => "DIFF"
    | .ts2Diff => "TS_2DIFF"
    | .bitmap => "BITMAP"
    | .gorilla => "GORILLA"
    | .regular => "REGULAR"
  kind := "encoding"

instance : Choice Compression where
  all := [.uncompressed, .snappy, .gzip, .lzo, .sdt, .paa, .pla]
  name
    | .uncompressed => "UNCOMPRESSED"
    | .snappy => "SNAPPY"
    | .gzip => "GZIP"
    | .lzo => "LZO"
    | .sdt => "SDT"
    | .paa => "PAA"
    | .pla => "PLA"
  kind := "compression"

structure UnknownName where
  kind : String
  name : String
  deriving DecidableEq

def UnknownName.message (unknown : UnknownName) : String :=
  s!"unknown {unknown.kind} `{unknown.name}`"

namespace Choice

variable {α : Type} [Choice α]

def ofName? (text : String) : Option α :=
  all.find? fun member => name member == text

/-- Names are read without regard to the case of their letters. -/
def read (text : String) : Except UnknownName α :=
  match ofName? (text.map Char.toUpper) with
  | some member => .ok member
  | none => .error ⟨kind α, text⟩

end Choice

instance : Inhabited Encoding := ⟨.plain⟩
instance : Inhabited Compression := ⟨.uncompressed⟩

def DataType.encodings : DataType → List Encoding
  | .boolean => [.plain, .rle]
  | .int32 | .int64 => [.plain, .rle, .ts2Diff, .regular]
  | .float | .double => [.plain, .rle, .ts2Diff, .gorilla]
  | .text => [.plain, .plainDictionary]

def DataType.supports (dataType : DataType) (encoding : Encoding) : Bool :=
  dataType.encodings.contains encoding

end TimeSeries
