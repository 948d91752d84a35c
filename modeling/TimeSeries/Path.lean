import TimeSeries.Text.Alphanumeric

/-! Paths of the tree of series. Every path starts at `root`; below it each node is a name or,
in a pattern, a `*` that stands for any one name. -/

namespace TimeSeries

def isNameChar (c : Char) : Bool :=
  Text.isAlphanumeric c || c == '_'

def IsName (text : String) : Prop :=
  text.toList ≠ [] ∧ text.toList.all isNameChar = true

instance (text : String) : Decidable (IsName text) :=
  inferInstanceAs (Decidable (_ ∧ _))

structure Name where
  text : String
  valid : IsName text
  deriving DecidableEq

inductive Node where
  | any
  | named (name : Name)
  deriving DecidableEq

def Node.text : Node → String
  | .any => "*"
  | .named name => name.text

structure Path where
  below : List Node
  deriving DecidableEq

namespace Path

inductive Fault where
  | notFromRoot
  | emptyNode
  | wildcard
  | illegalCharacter
  | severalNodes
  | atRoot
  deriving DecidableEq

def Fault.reason : Fault → String
  | .notFromRoot => "path must start with `root`"
  | .emptyNode => "empty node"
  | .wildcard => "wildcards are only allowed in patterns"
  | .illegalCharacter => "nodes may only contain letters, digits and `_`"
  | .severalNodes => "measurement must be a single node"
  | .atRoot => "a storage group needs at least one node below root"

structure Malformed where
  text : String
  fault : Fault
  deriving DecidableEq

def root : String := "root"

def readNode (wildcards : Bool) (part : List Char) : Except Fault Node :=
  let text := String.ofList part
  if part = [] then .error .emptyNode
  else if part = ['*'] then if wildcards then .ok .any else .error .wildcard
  else if valid : IsName text then .ok (.named ⟨text, valid⟩)
  else .error .illegalCharacter

/-- The nodes are read from left to right, up to the first with a fault. -/
def read (wildcards : Bool) (text : String) : Except Fault Path :=
  match text.toList.splitOn '.' with
  | first :: parts =>
    if String.ofList first = root then return ⟨← parts.mapM (readNode wildcards)⟩
    else .error .notFromRoot
  | [] => .error .notFromRoot

def parse (text : String) : Except Malformed Path :=
  (read false text).mapError fun fault => ⟨text, fault⟩

def parsePattern (text : String) : Except Malformed Path :=
  (read true text).mapError fun fault => ⟨text, fault⟩

variable (path : Path)

def nodes : List String :=
  root :: path.below.map Node.text

def text : String :=
  String.ofList (['.'].intercalate (path.nodes.map String.toList))

def depth : Nat :=
  path.below.length + 1

/-- The last node, which names the measurement of a series. -/
def leaf : String :=
  match path.below.getLast? with
  | some node => node.text
  | none => root

def parent? : Option Path :=
  if path.below = [] then none else some ⟨path.below.dropLast⟩

def child (node : String) : Except Malformed Path :=
  if node.toList.contains '.' then .error ⟨node, .severalNodes⟩
  else parse (path.text ++ "." ++ node)

def hasWildcard : Bool :=
  path.below.contains .any

def isAbove (other : Path) : Bool :=
  path.below.isPrefixOf other.below

def nodesMatch : List Node → List Node → Bool
  | [], _ => true
  | _ :: _, [] => false
  | expected :: pattern, node :: nodes =>
    (expected == .any || expected == node) && nodesMatch pattern nodes

/-- A pattern selects the paths it names and all that lies below them. -/
def selects (pattern path : Path) : Bool :=
  nodesMatch pattern.below path.below

instance : LT Path := ⟨fun first second => first.text < second.text⟩

instance (first second : Path) : Decidable (first < second) :=
  inferInstanceAs (Decidable (first.text < second.text))

end Path

end TimeSeries
