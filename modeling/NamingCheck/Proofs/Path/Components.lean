import Mathlib.Data.List.Basic
import NamingCheck.Path

/-!
# The components of a path

What a directory holds has the components of the directory and one more, its name. So the names that
lead from a directory to a file can be read off the paths of the two.
-/

namespace NamingCheck

namespace Text

variable {separator : Char}

theorem splitAt_ne_nil (separator : Char) (text : List Char) : splitAt separator text ≠ [] := by
  fun_cases splitAt separator text <;> exact List.cons_ne_nil _ _

theorem splitAt_append_separator (left right : List Char) :
    splitAt separator (left ++ separator :: right) =
      splitAt separator left ++ splitAt separator right := by
  induction left with
  | nil => simp [splitAt]
  | cons c rest ih =>
      rw [List.cons_append, splitAt, splitAt, ih]
      cases hrest : splitAt separator rest with
      | nil => exact absurd hrest (splitAt_ne_nil separator rest)
      | cons segment others => split_ifs <;> rfl

theorem splitAt_of_notMem {text : List Char} (hnot : separator ∉ text) :
    splitAt separator text = [text] := by
  induction text with
  | nil => rfl
  | cons c rest ih =>
      rw [List.mem_cons, not_or] at hnot
      rw [splitAt, if_neg (Ne.symm hnot.1), ih hnot.2]

theorem notMem_of_mem_splitAt {text part : List Char} (hmem : part ∈ splitAt separator text) :
    separator ∉ part := by
  induction text generalizing part with
  | nil =>
      rw [splitAt, List.mem_singleton] at hmem
      rw [hmem]
      exact List.not_mem_nil
  | cons c rest ih =>
      rw [splitAt] at hmem
      split_ifs at hmem with hc
      · rcases List.mem_cons.1 hmem with rfl | hrest
        · exact List.not_mem_nil
        · exact ih hrest
      · cases hrest : splitAt separator rest with
        | nil => exact absurd hrest (splitAt_ne_nil separator rest)
        | cons segment others =>
            rw [hrest] at hmem ih
            rcases List.mem_cons.1 hmem with rfl | hothers
            · rw [List.mem_cons, not_or]
              exact ⟨Ne.symm hc, ih List.mem_cons_self⟩
            · exact ih (List.mem_cons_of_mem _ hothers)

end Text

namespace Path

/-- A name that an entry of a directory can have. -/
def IsName (name : String) : Prop :=
  name ≠ "" ∧ name ≠ "." ∧ name ≠ ".." ∧ separator ∉ name.toList

instance (name : String) : Decidable (IsName name) :=
  inferInstanceAs (Decidable (_ ∧ _ ∧ _ ∧ _))

theorem steps_append_separator (left right : String) :
    steps (left ++ "/" ++ right) = steps left ++ steps right := by
  have htext : (left ++ "/" ++ right).toList = left.toList ++ separator :: right.toList := by
    simp [separator]
  rw [steps, htext, Text.splitAt_append_separator, List.map_append, steps, steps]

theorem components_append_separator (left right : String) :
    components (left ++ "/" ++ right) = components left ++ components right := by
  rw [components, steps_append_separator, List.filter_append, components, components]

theorem steps_of_notMem {name : String} (hname : separator ∉ name.toList) :
    steps name = [name] := by
  rw [steps, Text.splitAt_of_notMem hname, List.map_singleton, String.ofList_toList]

theorem notMem_separator_of_mem_steps {path step : String} (hmem : step ∈ steps path) :
    separator ∉ step.toList := by
  obtain ⟨part, hpart, rfl⟩ := List.mem_map.1 hmem
  rw [String.toList_ofList]
  exact Text.notMem_of_mem_splitAt hpart

/-- Whether or not the path of the directory ends in a separator. -/
theorem components_child (directory name : String) :
    components (child directory name) = components directory ++ components name := by
  rw [child]
  split_ifs with hopen
  · rw [Bool.or_eq_true, beq_iff_eq, beq_iff_eq] at hopen
    rcases hopen with rfl | hends
    · rw [String.empty_append]
      rfl
    · obtain ⟨before, hbefore⟩ := List.getLast?_eq_some_iff.1 hends
      have hdirectory : directory = String.ofList before ++ "/" ++ "" := by
        rw [← String.toList_inj, hbefore]
        simp [separator]
      have hpath : directory ++ name = String.ofList before ++ "/" ++ name := by
        rw [hdirectory, String.append_empty]
      have hempty : components "" = [] := rfl
      rw [hpath, components_append_separator, hdirectory, components_append_separator, hempty,
        List.append_nil]
  · exact components_append_separator directory name

theorem components_of_isName {name : String} (hname : IsName name) : components name = [name] := by
  obtain ⟨hempty, hdot, -, hseparator⟩ := hname
  rw [components, steps_of_notMem hseparator]
  simp [hempty, hdot]

theorem join_cons {rest : List String} (hsome : rest ≠ []) (first : String) :
    join (first :: rest) = first ++ "/" ++ join rest := by
  cases rest with
  | nil => exact absurd rfl hsome
  | cons second rest => rw [join, String.intercalate_cons_cons, join]

/-- The steps of a directory, less the empty one behind a separator at its end, come before those of
what it holds. -/
theorem exists_steps_child {directory : String} (hdirectory : directory ≠ "") (name : String) :
    ∃ way, (steps directory = way ∨ steps directory = way ++ [""]) ∧
      steps (child directory name) = way ++ steps name := by
  by_cases hends : directory.toList.getLast? = some separator
  · obtain ⟨before, hbefore⟩ := List.getLast?_eq_some_iff.1 hends
    have hopen : directory = String.ofList before ++ "/" ++ "" := by
      rw [← String.toList_inj, hbefore]
      simp [separator]
    have hchild : child directory name = String.ofList before ++ "/" ++ name := by
      rw [child, if_pos (by simp [hends]), hopen, String.append_empty]
    refine ⟨steps (String.ofList before), Or.inr ?_, ?_⟩
    · rw [hopen, steps_append_separator]
      rfl
    · rw [hchild, steps_append_separator]
  · refine ⟨steps directory, Or.inl rfl, ?_⟩
    rw [child, if_neg (by simp [hends, hdirectory]), steps_append_separator]

theorem toList_child (directory name : String) :
    (child directory name).toList = directory.toList ++ name.toList ∨
      (child directory name).toList = directory.toList ++ separator :: name.toList := by
  rw [child]
  split_ifs
  · exact Or.inl String.toList_append
  · exact Or.inr (by simp [separator])

theorem child_ne_empty {directory : String} (hdirectory : directory ≠ "") (name : String) :
    child directory name ≠ "" := by
  rw [Ne, ← String.toList_eq_nil_iff] at hdirectory ⊢
  rcases toList_child directory name with hletters | hletters <;> simp [hletters, hdirectory]

theorem isAbsolute_child {directory : String} (hdirectory : directory ≠ "") (name : String) :
    isAbsolute (child directory name) = isAbsolute directory := by
  rw [isAbsolute, isAbsolute]
  rw [Ne, ← String.toList_eq_nil_iff] at hdirectory
  rcases toList_child directory name with hletters | hletters <;>
    rw [hletters, List.head?_append_of_ne_nil _ hdirectory]

/-- A name does not end in a separator, so what it holds is behind one more. -/
theorem child_child_of_isName (directory : String) {name : String} (hname : IsName name)
    (below : String) :
    child (child directory name) below = child directory (name ++ "/" ++ below) := by
  obtain ⟨hempty, -, -, hseparator⟩ := hname
  have hletters : name.toList ≠ [] := fun hnil => hempty (String.toList_eq_nil_iff.1 hnil)
  have hlast : (child directory name).toList.getLast? = some (name.toList.getLast hletters) := by
    rcases toList_child directory name with hchild | hchild <;>
      rw [hchild, List.getLast?_append_of_ne_nil, List.getLast?_eq_some_getLast] <;> simp [hletters]
  have hother : name.toList.getLast hletters ≠ separator := by
    rintro heq
    exact hseparator (heq ▸ List.getLast_mem hletters)
  have hsome : child directory name ≠ "" := by
    intro hnil
    rw [hnil] at hlast
    cases hlast
  rw [child, if_neg (by simp [hlast, hother, hsome]), child, child]
  split_ifs <;> simp only [String.append_assoc]

theorem components_join {names : List String} (hnames : ∀ name ∈ names, IsName name) :
    components (join names) = names := by
  induction names with
  | nil => rfl
  | cons first rest ih =>
      rw [List.forall_mem_cons] at hnames
      cases rest with
      | nil => rw [join, String.intercalate_singleton, components_of_isName hnames.1]
      | cons second rest =>
          rw [join_cons (List.cons_ne_nil _ _), components_append_separator, ih hnames.2,
            components_of_isName hnames.1]
          rfl

theorem components_child_join (directory : String) {names : List String}
    (hnames : ∀ name ∈ names, IsName name) :
    components (child directory (join names)) = components directory ++ names := by
  rw [components_child, components_join hnames]

/-- The path leads to the directory or to something below it. -/
def IsWithin (directory path : String) : Prop :=
  components directory <+: components path

/-- What a path within a directory says behind the directory. -/
def relative (directory path : String) : String :=
  join ((components path).drop (components directory).length)

theorem relative_self (directory : String) : relative directory directory = "" := by
  rw [relative, List.drop_length]
  rfl

theorem relative_child_join (directory : String) {names : List String}
    (hnames : ∀ name ∈ names, IsName name) :
    relative directory (child directory (join names)) = join names := by
  rw [relative, components_child_join directory hnames, List.drop_left]

end Path

end NamingCheck
