import Mathlib.Data.List.Forall2
import Mathlib.Tactic.Common
import NamingCheck.SyntaxTree.Basic

/-!
# Nodes with related children

If the children of two nodes are related in pairs, and related nodes look the same from above, then
what a lookup finds below the one node is related to what it finds below the other.
-/

namespace NamingCheck

open List (Forall₂)

namespace SyntaxNode

/-- The nodes differ at most in what is below them and in their flags for faults. -/
structure SameShell (left right : SyntaxNode) : Prop where
  kind_eq : left.kind = right.kind
  field_eq : left.field = right.field
  row_eq : left.row = right.row
  start_eq : left.start = right.start
  stop_eq : left.stop = right.stop
  isNamed_eq : left.isNamed = right.isNamed

/-- Only the children of the two nodes may differ. -/
def SameButChildren (left right : SyntaxNode) : Prop :=
  right = { left with children := right.children }

variable {left right : SyntaxNode}

theorem SameButChildren.sameShell (hsame : SameButChildren left right) : SameShell left right :=
  ⟨(congrArg kind hsame).symm, (congrArg field hsame).symm, (congrArg row hsame).symm,
    (congrArg start hsame).symm, (congrArg stop hsame).symm, (congrArg isNamed hsame).symm⟩

theorem SameShell.refl (node : SyntaxNode) : SameShell node node :=
  ⟨rfl, rfl, rfl, rfl, rfl, rfl⟩

theorem SameShell.line_eq (hshell : SameShell left right) : left.line = right.line := by
  rw [line, line, hshell.row_eq]

theorem SameShell.text_eq (hshell : SameShell left right) (source : ByteArray) :
    left.text source = right.text source := by
  rw [text, text, hshell.start_eq, hshell.stop_eq]

theorem SameShell.chars_eq (hshell : SameShell left right) (source : ByteArray) :
    left.chars source = right.chars source := by
  rw [chars, chars, hshell.text_eq]

/-! ### Related children -/

section Related

variable {R : SyntaxNode → SyntaxNode → Prop}

theorem find?_rel {lefts rights : List SyntaxNode} {p : SyntaxNode → Bool}
    (hrelated : Forall₂ R lefts rights) (hp : ∀ left right, R left right → p left = p right) :
    Option.Rel R (lefts.find? p) (rights.find? p) := by
  induction hrelated with
  | nil => exact .none
  | @cons first second lefts rights hfirst _ ih =>
      rw [List.find?_cons, List.find?_cons, hp first second hfirst]
      cases p second with
      | true => exact .some hfirst
      | false => exact ih

theorem filter_rel {lefts rights : List SyntaxNode} {p : SyntaxNode → Bool}
    (hrelated : Forall₂ R lefts rights) (hp : ∀ left right, R left right → p left = p right) :
    Forall₂ R (lefts.filter p) (rights.filter p) :=
  List.rel_filter (fun left right hrel => iff_of_eq (congrArg (· = true) (hp left right hrel)))
    hrelated

theorem getLast?_rel {lefts rights : List SyntaxNode} (hrelated : Forall₂ R lefts rights) :
    Option.Rel R lefts.getLast? rights.getLast? := by
  have hreversed : Forall₂ R lefts.reverse rights.reverse := List.forall₂_reverse_iff.2 hrelated
  rw [List.getLast?_eq_head?_reverse, List.getLast?_eq_head?_reverse]
  generalize lefts.reverse = backLefts, rights.reverse = backRights at hreversed ⊢
  cases hreversed with
  | nil => exact .none
  | cons hfirst _ => exact .some hfirst

theorem map_eq_of_forall₂ {β : Type} {g : SyntaxNode → β} {lefts rights : List SyntaxNode}
    (hrelated : Forall₂ R lefts rights) (hg : ∀ left right, R left right → g left = g right) :
    lefts.map g = rights.map g := by
  have hmapped : Forall₂ (· = ·) (lefts.map g) (rights.map g) := by
    rw [List.forall₂_map_left_iff, List.forall₂_map_right_iff]
    exact hrelated.imp hg
  rwa [List.forall₂_eq_eq_eq] at hmapped

theorem flatMap_eq_of_forall₂ {β : Type} {g : SyntaxNode → List β} {lefts rights : List SyntaxNode}
    (hrelated : Forall₂ R lefts rights) (hg : ∀ left right, R left right → g left = g right) :
    lefts.flatMap g = rights.flatMap g := by
  rw [List.flatMap_def, List.flatMap_def, map_eq_of_forall₂ hrelated hg]

theorem filterMap_eq_of_forall₂ {β : Type} {g : SyntaxNode → Option β}
    {lefts rights : List SyntaxNode} (hrelated : Forall₂ R lefts rights)
    (hg : ∀ left right, R left right → g left = g right) :
    lefts.filterMap g = rights.filterMap g := by
  calc lefts.filterMap g
      = (lefts.map g).filterMap id := by rw [List.filterMap_map, Function.id_comp]
    _ = (rights.map g).filterMap id := by rw [map_eq_of_forall₂ hrelated hg]
    _ = rights.filterMap g := by rw [List.filterMap_map, Function.id_comp]

theorem rel_refl (hrefl : ∀ node, R node node) (node? : Option SyntaxNode) :
    Option.Rel R node? node? := by
  cases node? with
  | none => exact .none
  | some node => exact .some (hrefl node)

theorem none_or_some_of_rel {left? right? : Option SyntaxNode} (hrelated : Option.Rel R left? right?) :
    (left? = none ∧ right? = none) ∨
      ∃ left right, left? = some left ∧ right? = some right ∧ R left right := by
  cases hrelated with
  | none => exact Or.inl ⟨rfl, rfl⟩
  | some hsome => exact Or.inr ⟨_, _, rfl, rfl, hsome⟩

theorem isSome_eq_of_rel {left? right? : Option SyntaxNode} (hrelated : Option.Rel R left? right?) :
    left?.isSome = right?.isSome := by
  cases hrelated with
  | none => rfl
  | some _ => rfl

theorem map_eq_of_rel {β : Type} {g : SyntaxNode → β} {left? right? : Option SyntaxNode}
    (hrelated : Option.Rel R left? right?) (hg : ∀ left right, R left right → g left = g right) :
    left?.map g = right?.map g := by
  cases hrelated with
  | none => rfl
  | some hsome => exact congrArg some (hg _ _ hsome)

theorem bind_eq_of_rel {β : Type} {g : SyntaxNode → Option β} {left? right? : Option SyntaxNode}
    (hrelated : Option.Rel R left? right?) (hg : ∀ left right, R left right → g left = g right) :
    left?.bind g = right?.bind g := by
  cases hrelated with
  | none => rfl
  | some hsome => exact hg _ _ hsome

variable (hR : ∀ left right, R left right → SameShell left right)
  (hchildren : Forall₂ R left.children right.children)
include hR hchildren

theorem child?_rel (field : SyntaxField) :
    Option.Rel R (left.child? field) (right.child? field) :=
  find?_rel hchildren fun _ _ hrel => by rw [(hR _ _ hrel).field_eq]

theorem childrenIn_rel (field : SyntaxField) :
    Forall₂ R (left.childrenIn field) (right.childrenIn field) :=
  filter_rel hchildren fun _ _ hrel => by rw [(hR _ _ hrel).field_eq]

theorem namedChildren_rel : Forall₂ R left.namedChildren right.namedChildren :=
  filter_rel hchildren fun _ _ hrel => (hR _ _ hrel).isNamed_eq

theorem wrapped?_rel : Option.Rel R left.wrapped? right.wrapped? := by
  have hlast := getLast?_rel (namedChildren_rel hR hchildren)
  rw [wrapped?, wrapped?]
  rcases none_or_some_of_rel (child?_rel hR hchildren .declarator) with
    ⟨hleft, hright⟩ | ⟨first, second, hleft, hright, hrel⟩
  · rw [hleft, hright, Option.none_or, Option.none_or]
    exact hlast
  · rw [hleft, hright, Option.some_or, Option.some_or]
    exact .some hrel

end Related

/-! ### Replaced children -/

/-- The result is the node with new children in the place of old ones. -/
structure Replaces (node result : SyntaxNode) (old new : List SyntaxNode) : Prop where
  sameShell : SameShell node result
  children_eq : ∃ before after,
    node.children = before ++ old ++ after ∧ result.children = before ++ new ++ after

variable {node result : SyntaxNode} {old new : List SyntaxNode}

theorem Replaces.flatMap_eq {α : Type} {f : SyntaxNode → List α}
    (hreplaces : Replaces node result old new)
    (hsame : (old.filter (·.isNamed)).flatMap f = (new.filter (·.isNamed)).flatMap f) :
    node.namedChildren.flatMap f = result.namedChildren.flatMap f := by
  obtain ⟨before, after, hnode, hresult⟩ := hreplaces.children_eq
  simp only [namedChildren, hnode, hresult, List.filter_append, List.flatMap_append, hsame]

theorem Replaces.flatMap_eq_of_child {α : Type} {f : SyntaxNode → List α}
    {child changed : SyntaxNode} (hreplaces : Replaces node result [child] [changed])
    (hshell : SameShell child changed) (hsame : f child = f changed) :
    node.namedChildren.flatMap f = result.namedChildren.flatMap f := by
  apply hreplaces.flatMap_eq
  rw [List.filter_singleton, List.filter_singleton, hshell.isNamed_eq]
  cases changed.isNamed with
  | true => rw [cond_true, cond_true, List.flatMap_singleton, List.flatMap_singleton, hsame]
  | false => rfl

theorem Replaces.forall₂ {R : SyntaxNode → SyntaxNode → Prop} {child changed : SyntaxNode}
    (hreplaces : Replaces node result [child] [changed]) (hrefl : ∀ node, R node node)
    (hchild : R child changed) : Forall₂ R node.children result.children := by
  obtain ⟨before, after, hnode, hresult⟩ := hreplaces.children_eq
  have hself (nodes : List SyntaxNode) : Forall₂ R nodes nodes :=
    List.forall₂_same.2 fun node _ => hrefl node
  rw [hnode, hresult]
  exact List.rel_append (List.rel_append (hself before) (.cons hchild .nil)) (hself after)

theorem Replaces.map_child?_eq {α : Type} {g : SyntaxNode → α} {child changed : SyntaxNode}
    (hreplaces : Replaces node result [child] [changed]) (hshell : SameShell child changed)
    (hsame : g child = g changed) (field : SyntaxField) :
    (node.child? field).map g = (result.child? field).map g := by
  have hchildren : Forall₂ (fun left right => SameShell left right ∧ g left = g right)
      node.children result.children :=
    hreplaces.forall₂ (fun node => ⟨SameShell.refl node, rfl⟩) ⟨hshell, hsame⟩
  have hrelated := child?_rel (fun _ _ hrel => hrel.1) hchildren field
  exact map_eq_of_rel hrelated fun _ _ hrel => hrel.2

/-- A lookup does not tell two nodes apart that differ in one child, if that child stands in another
field or behind the child that is found. -/
theorem child?_eq_of_hidden {child changed : SyntaxNode} {before after : List SyntaxNode}
    {field : SyntaxField} (hnode : node.children = before ++ child :: after)
    (hresult : result.children = before ++ changed :: after) (hshell : SameShell child changed)
    (hhidden : child.field = some field → ∃ earlier ∈ before, earlier.field = some field) :
    node.child? field = result.child? field := by
  rw [child?, child?, hnode, hresult, List.find?_append, List.find?_append]
  by_cases hfield : child.field = some field
  · obtain ⟨earlier, hmem, hearlier⟩ := hhidden hfield
    have hfound : (before.find? fun child => child.field == some field).isSome = true :=
      List.find?_isSome.2 ⟨earlier, hmem, beq_iff_eq.2 hearlier⟩
    obtain ⟨first, hfirst⟩ := Option.isSome_iff_exists.1 hfound
    rw [hfirst, Option.some_or, Option.some_or]
  · have hchild : (child.field == some field) = false := beq_eq_false_iff_ne.2 hfield
    rw [List.find?_cons, List.find?_cons, ← hshell.field_eq, hchild]

/-! ### A change in one place -/

/-- The trees differ in one place. The nodes above it are the same in what `Same` asks, and have the
same children otherwise. -/
inductive Somewhere (Same Change : SyntaxNode → SyntaxNode → Prop) :
    SyntaxNode → SyntaxNode → Prop where
  | here {node result : SyntaxNode} (hchange : Change node result) :
      Somewhere Same Change node result
  | inside {node result child changed : SyntaxNode} {before after : List SyntaxNode}
      (hsame : Same node result)
      (hnode : node.children = before ++ child :: after)
      (hresult : result.children = before ++ changed :: after)
      (hchild : Somewhere Same Change child changed) :
      Somewhere Same Change node result

theorem Replaces.of_child {child changed : SyntaxNode} {before after : List SyntaxNode}
    (hshell : SameShell node result) (hnode : node.children = before ++ child :: after)
    (hresult : result.children = before ++ changed :: after) :
    Replaces node result [child] [changed] :=
  ⟨hshell, before, after, by simpa using hnode, by simpa using hresult⟩

end SyntaxNode

end NamingCheck
