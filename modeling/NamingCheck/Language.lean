import NamingCheck.Path

/-!
The language of a source file, known by its extension. Letter case matters.
-/

namespace NamingCheck

inductive Language where
  | c
  | cpp
  deriving DecidableEq, Repr, Inhabited

namespace Language

def name : Language → String
  | c => "c"
  | cpp => "cpp"

def cppExtensions : List String :=
  ["h", "cc", "cpp", "cxx", "c++", "hh", "hpp", "hxx", "h++", "ipp", "tpp", "inl"]

def ofPath? (path : String) : Option Language :=
  match Path.extension? path with
  | none => none
  | some extension =>
      if extension = "c" then some .c
      else if cppExtensions.contains extension then some .cpp
      else none

end Language

end NamingCheck
