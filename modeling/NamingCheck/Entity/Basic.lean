import NamingCheck.OrderedTree

/-!
The declared entities of a source file: a tree whose root is the file, whose leaves are mostly
functions, and whose inner nodes are the scopes and wrappers that enclose them.
-/

namespace NamingCheck

inductive Entity.Kind where
  | file
  | namespaceScope
  | function
  | memberFunction
  | classType
  | enumType
  | template
  | friend
  | constructor
  | destructor
  | conversionOperator
  | languageLinkage
  deriving DecidableEq, Repr, Inhabited

namespace Entity.Kind

def all : List Entity.Kind :=
  [.file, .namespaceScope, .function, .memberFunction, .classType, .enumType, .template, .friend,
    .constructor, .destructor, .conversionOperator, .languageLinkage]

def name : Entity.Kind → String
  | file => "file"
  | namespaceScope => "namespace"
  | function => "function"
  | memberFunction => "member_function"
  | classType => "class"
  | enumType => "enum"
  | template => "template"
  | friend => "friend"
  | constructor => "constructor"
  | destructor => "destructor"
  | conversionOperator => "conversion_operator"
  | languageLinkage => "language_linkage"

def ofName? (text : String) : Option Entity.Kind :=
  all.find? fun kind => kind.name == text

/-- The kinds whose names the policy judges. -/
def isCallable : Entity.Kind → Bool
  | function | memberFunction => true
  | _ => false

end Entity.Kind

structure Entity where
  kind : Entity.Kind
  name : String
  isTemplated : Bool
  isFriended : Bool
  isDefinition : Bool
  /-- One-based; zero where no position is known. -/
  line : UInt32
  children : List Entity
  deriving Inhabited

namespace Entity

def ofKind (kind : Kind) (name : String) : Entity where
  kind := kind
  name := name
  isTemplated := false
  isFriended := false
  isDefinition := true
  line := 0
  children := []

def holding (entity : Entity) (children : List Entity) : Entity :=
  { entity with children := children }

def onLine (entity : Entity) (line : UInt32) : Entity :=
  { entity with line := line }

def asTemplated (entity : Entity) : Entity :=
  { entity with isTemplated := true }

def asFriended (entity : Entity) : Entity :=
  { entity with isFriended := true }

/-- Marks an entity that is declared here and defined elsewhere. -/
def asDeclaration (entity : Entity) : Entity :=
  { entity with isDefinition := false }

def ofFile (name : String) (children : List Entity) : Entity :=
  (ofKind .file name).holding children

/-- The number of entities in the tree, the root included. -/
def count : Entity → Nat
  | { children, .. } => 1 + countAll children
where
  countAll : List Entity → Nat
    | [] => 0
    | first :: rest => count first + countAll rest

theorem count_countAll (entities : List Entity) :
    count.countAll entities = total count entities := by
  induction entities with
  | nil => rfl
  | cons first rest ih => rw [count.countAll, ih, total_cons]

theorem count_eq (entity : Entity) : entity.count = 1 + total count entity.children := by
  cases entity
  rw [count, count_countAll]

instance : OrderedTree Entity where
  children := Entity.children
  weight := count
  weight_children_lt entity := by rw [count_eq]; omega

end Entity

end NamingCheck
