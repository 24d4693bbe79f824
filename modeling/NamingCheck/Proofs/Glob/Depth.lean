import Mathlib.Data.List.Basic
import Mathlib.Tactic.Common
import NamingCheck.Glob.Set

/-!
# How deep the expressions of patterns are

Only groups lie in each other to any depth. So patterns without groups can always be used, and with
them all patterns that a set compares letter by letter; but braces around braces make a pattern that
can be read and not be used.
-/

namespace NamingCheck

namespace Regex

namespace CharacterSet

theorem greatestDepth_eq_zero {members : List CharacterSet}
    (hmembers : ∀ member ∈ members, member.depth = 0) : greatestDepth members = 0 := by
  induction members with
  | nil => rw [greatestDepth]
  | cons first rest ih =>
      obtain ⟨hfirst, hrest⟩ := List.forall_mem_cons.1 hmembers
      rw [greatestDepth, hfirst, ih hrest, Nat.max_self]

theorem depth_ofMembers_le {members : List CharacterSet}
    (hmembers : ∀ member ∈ members, member.depth = 0) : (ofMembers members).depth ≤ 1 := by
  match members with
  | [] => exact Nat.zero_le 1
  | [member] => exact Nat.le_succ_of_le (Nat.le_of_eq (hmembers member List.mem_cons_self))
  | first :: second :: rest =>
      exact Nat.succ_le_succ (Nat.le_of_eq (greatestDepth_eq_zero hmembers))

end CharacterSet

namespace Expression

theorem greatestDepth_le_iff {parts : List Expression} {bound : Nat} :
    greatestDepth parts ≤ bound ↔ ∀ part ∈ parts, part.depth ≤ bound := by
  induction parts with
  | nil => simp [greatestDepth]
  | cons first rest ih => rw [greatestDepth, Nat.max_le, List.forall_mem_cons, ih]

end Expression

end Regex

open Regex (CharacterSet Expression)

namespace GlobPiece

def isGroup : GlobPiece → Bool
  | alternatives _ => true
  | _ => false

theorem depth_of_mem_rangeMembers {range : Char × Char} {member : CharacterSet}
    (hmember : member ∈ rangeMembers range) : member.depth = 0 := by
  have hliteral {literals : List Regex.Literal} (hmem : member ∈ literals.map .literal) :
      member.depth = 0 := by
    obtain ⟨literal, -, rfl⟩ := List.mem_map.1 hmem
    rfl
  rw [rangeMembers] at hmember
  split_ifs at hmember with hsame
  · exact hliteral hmember
  · split at hmember
    · rcases List.mem_append.1 hmember with hlow | hhigh
      · exact hliteral hlow
      · rcases List.mem_cons.1 hhigh with rfl | hrest
        · rfl
        · exact hliteral hrest
    · cases hmember

/-- The deepest piece is the one for any directories in front: a repetition in a sequence of
alternatives in a group. -/
theorem depth_of_mem_expressionParts {dialect : GlobDialect} {piece : GlobPiece}
    (hplain : piece.isGroup = false) {part : Expression}
    (hpart : part ∈ expressionParts dialect piece) : part.depth ≤ 4 := by
  cases piece with
  | literal c =>
      obtain ⟨byte, -, rfl⟩ := List.mem_map.1 hpart
      exact Nat.zero_le 4
  | byteClass negated ranges =>
      rw [List.mem_singleton.1 hpart, Expression.depth]
      have hmembers : ∀ member ∈ ranges.flatMap rangeMembers, member.depth = 0 := by
        intro member hmember
        obtain ⟨range, -, hrange⟩ := List.mem_flatMap.1 hmember
        exact depth_of_mem_rangeMembers hrange
      exact Nat.le_trans (Nat.succ_le_succ (CharacterSet.depth_ofMembers_le hmembers)) (by decide)
  | anyByte | anyRun =>
      rw [List.mem_singleton.1 hpart]
      cases dialect <;> decide
  | leadingDirectories | innerDirectories =>
      rw [List.mem_singleton.1 hpart]
      decide
  | everythingBelow =>
      revert part
      simp only [expressionParts, List.forall_mem_cons]
      decide
  | alternatives branches => cases hplain

theorem mem_allParts_iff {dialect : GlobDialect} {pieces : List GlobPiece} {part : Expression} :
    part ∈ expressionParts.allParts dialect pieces ↔
      ∃ piece ∈ pieces, part ∈ expressionParts dialect piece := by
  induction pieces with
  | nil => simp [expressionParts.allParts]
  | cons first rest ih => simp [expressionParts.allParts, ih]

end GlobPiece

namespace GlobPattern

open GlobPiece (isGroup isLiteral literal?)

theorem depth_expression_le {pattern : GlobPattern} {bound : Nat} (hsome : 1 ≤ bound)
    (hparts : ∀ piece ∈ pattern.pieces, ∀ part ∈ GlobPiece.expressionParts pattern.dialect piece,
      part.depth ≤ bound) : pattern.expression.depth ≤ bound + 1 := by
  rw [expression, Expression.depth, Nat.succ_le_succ_iff, Expression.greatestDepth_le_iff]
  simp only [List.forall_mem_append, List.cons_append, List.forall_mem_cons]
  refine ⟨Nat.zero_le _, Nat.zero_le _, ?_, Nat.zero_le _, List.forall_mem_nil _⟩
  split
  · exact List.forall_mem_singleton.2 hsome
  · intro part hpart
    obtain ⟨piece, hpiece, hmem⟩ := GlobPiece.mem_allParts_iff.1 hpart
    exact hparts piece hpiece part hmem

/-- A pattern without groups can be used. -/
theorem isTooDeep_eq_false_of_groupless {pattern : GlobPattern}
    (hgroupless : ∀ piece ∈ pattern.pieces, isGroup piece = false) : pattern.isTooDeep = false := by
  have hdepth : pattern.expression.depth ≤ 4 + 1 :=
    depth_expression_le (by decide) fun piece hpiece part hpart =>
      GlobPiece.depth_of_mem_expressionParts (hgroupless piece hpiece) hpart
  rw [isTooDeep, decide_eq_false_iff_not, Nat.not_lt]
  exact Nat.le_trans hdepth (by decide)

theorem groupless_of_all_isLiteral {pieces : List GlobPiece} (hall : pieces.all isLiteral = true) :
    ∀ piece ∈ pieces, isGroup piece = false := by
  intro piece hpiece
  have hliteral := List.all_eq_true.1 hall piece hpiece
  cases piece <;> first | rfl | cases hliteral

theorem groupless_of_isPlainBeginning {dialect : GlobDialect} {pieces : List GlobPiece}
    (hplain : isPlainBeginning dialect pieces = true) :
    ∀ piece ∈ pieces, isGroup piece = false := by
  rw [isPlainBeginning] at hplain
  have hsplit {last : GlobPiece} (hlast : pieces.getLast? = some last)
      (hliteral : pieces.dropLast.all isLiteral = true) (hnone : isGroup last = false) :
      ∀ piece ∈ pieces, isGroup piece = false := by
    rw [← List.dropLast_append_getLast? last hlast]
    exact List.forall_mem_append.2
      ⟨groupless_of_all_isLiteral hliteral, List.forall_mem_singleton.2 hnone⟩
  split at hplain
  · cases hplain
  · next hlast => exact hsplit hlast hplain rfl
  · next hlast =>
      simp only [Bool.and_eq_true] at hplain
      exact hsplit hlast hplain.2 rfl
  · exact groupless_of_all_isLiteral hplain

/-- What is compared letter by letter has no groups. -/
theorem groupless_of_isPlain {pattern : GlobPattern} (hplain : pattern.isPlain = true) :
    ∀ piece ∈ pattern.pieces, isGroup piece = false := by
  rw [isPlain, Bool.or_eq_true] at hplain
  rcases hplain with hbeginning | hending
  · exact groupless_of_isPlainBeginning hbeginning
  · split at hending
    · next ending hpieces =>
        rw [hpieces]
        refine List.forall_mem_cons.2 ⟨rfl, List.forall_mem_cons.2 ⟨rfl, ?_⟩⟩
        split_ifs at hending
        · simp only [isPlainEnding, Bool.and_eq_true] at hending
          exact groupless_of_all_isLiteral hending.1.1
        · simp only [isPlainExtension, Bool.and_eq_true] at hending
          exact groupless_of_all_isLiteral hending.1
    · next ending _ hpieces =>
        rw [hpieces]
        rw [Bool.and_eq_true] at hending
        exact List.forall_mem_cons.2 ⟨rfl, groupless_of_all_isLiteral hending.2⟩
    · next ending hpieces =>
        rw [hpieces]
        simp only [isPlainEnding, Bool.and_eq_true] at hending
        exact List.forall_mem_cons.2 ⟨rfl, groupless_of_all_isLiteral hending.2.1.1⟩
    · cases hending

theorem strategy_ne_letters_of_isTooDeep {pattern : GlobPattern}
    (hdeep : pattern.isTooDeep = true) : pattern.strategy ≠ .letters := by
  intro hletters
  have hplain : pattern.isPlain = true := by
    rw [strategy] at hletters
    split_ifs at hletters with hplain
    exact hplain
  rw [isTooDeep_eq_false_of_groupless (groupless_of_isPlain hplain)] at hdeep
  cases hdeep

end GlobPattern

namespace PatternSet

/-- Patterns make a set exactly if none of their expressions is too deep. -/
theorem fault?_eq_none_iff {patterns : List GlobPattern} :
    fault? patterns = none ↔ ∀ pattern ∈ patterns, pattern.isTooDeep = false := by
  simp only [fault?, Option.or_eq_none_iff, Option.map_eq_none_iff, List.find?_eq_none,
    List.findIdx?_eq_none_iff, List.mem_filter, beq_iff_eq, and_imp, Bool.not_eq_true]
  constructor
  · rintro ⟨hown, hshared⟩ pattern hpattern
    by_contra hdeep
    rw [Bool.not_eq_false] at hdeep
    cases hstrategy : pattern.strategy with
    | letters => exact GlobPattern.strategy_ne_letters_of_isTooDeep hdeep hstrategy
    | extension => exact absurd hdeep (Bool.eq_false_iff.1 (hown pattern hpattern hstrategy))
    | expression => exact absurd hdeep (Bool.eq_false_iff.1 (hshared pattern hpattern hstrategy))
  · intro hall
    exact ⟨fun pattern hpattern _ => hall pattern hpattern,
      fun pattern hpattern _ => hall pattern hpattern⟩

end PatternSet

/-! ### Braces around braces -/

namespace GlobPattern

def nestedPieces : Nat → List GlobPiece
  | 0 => [.literal 'a']
  | levels + 1 => [.alternatives [nestedPieces levels]]

/-- A letter with so many braces around it. -/
def nestedText (levels : Nat) : String :=
  String.ofList (List.replicate levels '\x7b' ++ 'a' :: List.replicate levels '\x7d')

theorem exists_nestedPieces_eq (levels : Nat) :
    ∃ piece, nestedPieces levels = [piece] ∧ piece.isVoid = false := by
  cases levels <;> exact ⟨_, rfl, rfl⟩

/-- Opening braces are kept until the letter has been read. -/
theorem read_openings (reader : GlobReader) (levels : Nat) (rest : List Char)
    (hcurrent : reader.current = []) :
    reader.read (List.replicate levels '\x7b' ++ 'a' :: rest) =
      { reader with
        groups := List.replicate levels ⟨[], []⟩ ++ reader.groups
        current := nestedPieces 0
        previous := some 'a' : GlobReader }.read rest := by
  induction levels generalizing reader with
  | zero =>
      rw [List.replicate_zero, List.nil_append, GlobReader.read.eq_def]
      simp [GlobReader.push, hcurrent, nestedPieces]
  | succ levels ih =>
      rw [List.replicate_succ, List.cons_append, GlobReader.read.eq_def]
      refine (ih reader.openGroup rfl).trans ?_
      rw [GlobReader.openGroup, hcurrent, List.replicate_succ', List.append_assoc]
      rfl

/-- Every closing brace makes a group of what has been read. -/
theorem read_closings (reader : GlobReader) (count levels : Nat)
    (hgroups : reader.groups = List.replicate count ⟨[], []⟩)
    (hcurrent : reader.current = nestedPieces levels) :
    reader.read (List.replicate count '\x7d') = .ok (nestedPieces (levels + count)) := by
  induction count generalizing reader levels with
  | zero =>
      obtain ⟨piece, hpiece, -⟩ := exists_nestedPieces_eq levels
      rw [List.replicate_zero, GlobReader.read, GlobReader.finish, hgroups, hcurrent, hpiece]
      exact congrArg Except.ok hpiece.symm
  | succ count ih =>
      obtain ⟨piece, hpiece, hsays⟩ := exists_nestedPieces_eq levels
      have hclose : reader.closeGroup? = .ok
          { reader with
            groups := List.replicate count ⟨[], []⟩
            current := nestedPieces (levels + 1)
            previous := some '\x7d' } := by
        simp [GlobReader.closeGroup?, hgroups, hcurrent, hpiece, List.replicate_succ,
          GlobReader.addBranch, hsays, nestedPieces]
      rw [List.replicate_succ, GlobReader.read.eq_def]
      simp only [hclose]
      rw [ih _ (levels + 1) rfl rfl, Nat.add_right_comm, Nat.add_assoc]

theorem parse_nestedText (levels : Nat) :
    parse .plain (nestedText levels) = .ok ⟨.plain, nestedPieces levels⟩ := by
  rw [parse, nestedText, String.toList_ofList, read_openings _ _ _ rfl,
    read_closings _ levels 0 (List.append_nil _) rfl, Nat.zero_add]
  rfl

theorem exists_part_of_nestedPieces (levels : Nat) :
    ∃ part, GlobPiece.expressionParts.allParts .plain (nestedPieces levels) = [part] ∧
      part.depth = levels := by
  induction levels with
  | zero => exact ⟨_, rfl, rfl⟩
  | succ levels ih =>
      obtain ⟨part, hpart, hdepth⟩ := ih
      refine ⟨.group none {} part, ?_, ?_⟩
      · rw [nestedPieces, GlobPiece.expressionParts.allParts, GlobPiece.expressionParts,
          GlobPiece.expressionParts.branchForms, hpart]
        rfl
      · rw [Expression.depth, hdepth]

theorem depth_expression_nestedPieces (levels : Nat) :
    (expression ⟨.plain, nestedPieces levels⟩).depth = levels + 1 := by
  obtain ⟨part, hpart, hdepth⟩ := exists_part_of_nestedPieces levels
  have hform : expression ⟨.plain, nestedPieces levels⟩ =
      .sequence (.flags { off := [.unicode] } :: .atom .edge ::
        GlobPiece.expressionParts.allParts .plain (nestedPieces levels) ++ [.atom .edge]) := by
    cases levels <;> rfl
  rw [hform, hpart]
  simp [Expression.depth, Expression.greatestDepth, hdepth]

/-- One pair of braces too many makes a pattern that can be read but not be used. -/
theorem isTooDeep_nestedPieces_iff (levels : Nat) :
    isTooDeep ⟨.plain, nestedPieces levels⟩ = true ↔ Regex.depthLimit ≤ levels := by
  rw [isTooDeep, depth_expression_nestedPieces, decide_eq_true_eq, Nat.lt_succ_iff]

end GlobPattern

end NamingCheck
