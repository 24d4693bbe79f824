/-!
Beginnings of texts, and the parts between separators.
-/

namespace NamingCheck.Text

/-- The text behind the given beginning, if it begins so. -/
def after? (beginning text : List Char) : Option (List Char) :=
  if beginning.isPrefixOf text then some (text.drop beginning.length) else none

/-- The text without the given beginning, if it begins so. -/
def without (beginning text : List Char) : List Char :=
  (after? beginning text).getD text

/-- The parts between double colons, which are taken from left to right. -/
def splitScopes : List Char → List (List Char)
  | [] => [[]]
  | ':' :: ':' :: rest => [] :: splitScopes rest
  | c :: rest =>
      match splitScopes rest with
      | [] => [[c]]
      | segment :: others => (c :: segment) :: others

/-- The parts between single separators. -/
def splitAt (separator : Char) : List Char → List (List Char)
  | [] => [[]]
  | c :: rest =>
      if c = separator then [] :: splitAt separator rest
      else
        match splitAt separator rest with
        | [] => [[c]]
        | segment :: others => (c :: segment) :: others

end NamingCheck.Text
