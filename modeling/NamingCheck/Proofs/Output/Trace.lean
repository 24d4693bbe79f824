import NamingCheck.Output.Formatter
import NamingCheck.Proofs.Json.Decoding
import NamingCheck.Proofs.Lowering.Operators
import NamingCheck.Proofs.Path.Components

/-!
# Reading the trace back

Each verdict gives one line: a tag padded to a fixed width and then the name, whatever it is like.
So the names start in one column and nothing in a name can be taken for a tag. Colours are put
around the tag and leave the lines as they are, unless they break them.
-/

namespace NamingCheck

/-- A text that stays on one line. -/
def Unbroken (text : String) : Prop := '\n' ∉ text.toList

instance (text : String) : Decidable (Unbroken text) :=
  inferInstanceAs (Decidable (_ ∉ _))

theorem unbroken_append {left right : String} :
    Unbroken (left ++ right) ↔ Unbroken left ∧ Unbroken right := by
  rw [Unbroken, String.toList_append, List.mem_append, not_or]
  rfl

namespace Palette

theorem mark_plain (compliant : Bool) : plain.mark compliant = "" := by
  cases compliant <;> rfl

structure IsUnbroken (palette : Palette) : Prop where
  ok : Unbroken palette.ok
  err : Unbroken palette.err
  reset : Unbroken palette.reset

theorem IsUnbroken.mark {palette : Palette} (hunbroken : palette.IsUnbroken) (compliant : Bool) :
    Unbroken (palette.mark compliant) := by
  cases compliant with
  | true => exact hunbroken.ok
  | false => exact hunbroken.err

theorem isUnbroken_plain : plain.IsUnbroken := ⟨by decide, by decide, by decide⟩

theorem isUnbroken_ansi : ansi.IsUnbroken := ⟨by decide, by decide, by decide⟩

end Palette

namespace Formatter

theorem verdict_plain (verdict : Verdict) :
    (human .plain).verdict verdict =
      " - " ++ statusTag verdict.compliant ++ verdict.name ++ "\n" := by
  change " - " ++ Palette.plain.mark _ ++ _ ++ "" ++ _ ++ "\n" = _
  rw [Palette.mark_plain, String.append_empty, String.append_empty]

theorem footer_plain (report : Report) :
    (human .plain).footer report = footerMessage report.fileCompliant ++ "\n" := by
  change Palette.plain.mark _ ++ _ ++ "" ++ "\n" = _
  rw [Palette.mark_plain, String.empty_append, String.append_empty]

end Formatter

namespace Trace

open Formatter (human statusTag)
open Lowering (NamedForOperator)

/-- What is shown for the verdicts on a file, one after the other. -/
def textOf (palette : Palette) (verdicts : List Verdict) : String :=
  String.join (verdicts.map (human palette).verdict)

/-- The parts between newlines. Behind the last newline there is one more, which may be empty. -/
def linesOf (text : String) : List String :=
  (Text.splitAt '\n' text.toList).map String.ofList

/-- What stands before the name on a line without colours. -/
def head (compliant : Bool) : String := " - " ++ statusTag compliant

def nameColumn : Nat := 9

def readLine? (line : String) : Option (String × Bool) :=
  match Text.after? (head true).toList line.toList with
  | some name => some (String.ofList name, true)
  | none =>
      (Text.after? (head false).toList line.toList).map fun name => (String.ofList name, false)

/-- The names and what was found for them, if every line ends and says so. -/
def read? (text : String) : Option (List (String × Bool)) :=
  (linesOf text).dropLast.mapM readLine?

/-! ### Lines -/

theorem linesOf_join {lines : List String} (hlines : ∀ line ∈ lines, Unbroken line) :
    linesOf (String.join (lines.map (· ++ "\n"))) = lines ++ [""] := by
  induction lines with
  | nil => rfl
  | cons first rest ih =>
      rw [List.forall_mem_cons] at hlines
      have htext : (String.join ((first :: rest).map (· ++ "\n"))).toList =
          first.toList ++ '\n' :: (String.join (rest.map (· ++ "\n"))).toList := by
        rw [List.map_cons, String.join_cons, String.toList_append, String.toList_append,
          List.append_assoc]
        rfl
      rw [linesOf, htext, Text.splitAt_append_separator, Text.splitAt_of_notMem hlines.1,
        List.map_append, List.map_singleton, String.ofList_toList, ← linesOf, ih hlines.2]
      rfl

theorem unbroken_statusTag (compliant : Bool) : Unbroken (statusTag compliant) := by
  cases compliant <;> decide

theorem linesOf_textOf {palette : Palette} (hpalette : palette.IsUnbroken)
    {verdicts : List Verdict} (hnames : ∀ verdict ∈ verdicts, Unbroken verdict.name) :
    linesOf (textOf palette verdicts) =
      (verdicts.map fun verdict =>
        " - " ++ palette.mark verdict.compliant ++ statusTag verdict.compliant ++ palette.reset ++
          verdict.name) ++ [""] := by
  have hlines : ∀ line ∈ verdicts.map fun verdict =>
      " - " ++ palette.mark verdict.compliant ++ statusTag verdict.compliant ++ palette.reset ++
        verdict.name, Unbroken line := by
    rw [List.forall_mem_map]
    intro verdict hverdict
    have hdash : Unbroken " - " := by decide
    simp only [unbroken_append]
    exact ⟨⟨⟨⟨hdash, hpalette.mark _⟩, unbroken_statusTag _⟩, hpalette.reset⟩,
      hnames verdict hverdict⟩
  rw [← linesOf_join hlines, List.map_map]
  rfl

theorem linesOf_textOf_plain {verdicts : List Verdict}
    (hnames : ∀ verdict ∈ verdicts, Unbroken verdict.name) :
    linesOf (textOf .plain verdicts) =
      (verdicts.map fun verdict => head verdict.compliant ++ verdict.name) ++ [""] := by
  have hhead (verdict : Verdict) :
      " - " ++ Palette.plain.mark verdict.compliant ++ statusTag verdict.compliant ++
          Palette.plain.reset ++ verdict.name =
        head verdict.compliant ++ verdict.name := by
    rw [Palette.mark_plain, String.append_empty, head]
    exact congrArg (· ++ verdict.name) String.append_empty
  rw [linesOf_textOf Palette.isUnbroken_plain hnames]
  simp only [hhead]

/-! ### Reading -/

theorem length_head (compliant : Bool) : (head compliant).length = nameColumn := by
  cases compliant <;> decide

/-- The two beginnings are as long as each other, so that no line has both. -/
theorem readLine?_head_append (compliant : Bool) (name : String) :
    readLine? (head compliant ++ name) = some (name, compliant) := by
  rw [readLine?, String.toList_append]
  cases compliant with
  | true => simp only [Text.after?_append, String.ofList_toList]
  | false =>
      have hother : ¬(head true).toList <+: (head false).toList ++ name.toList := by
        intro hbegins
        have hshort : (head true).toList.length ≤ (head false).toList.length := by decide
        have htrue := List.prefix_of_prefix_length_le hbegins (List.prefix_append _ _) hshort
        exact absurd htrue (by decide)
      rw [Text.after?_of_not_prefix hother, Text.after?_append, Option.map_some,
        String.ofList_toList]

theorem read?_textOf_plain {verdicts : List Verdict}
    (hnames : ∀ verdict ∈ verdicts, Unbroken verdict.name) :
    read? (textOf .plain verdicts) =
      some (verdicts.map fun verdict => (verdict.name, verdict.compliant)) := by
  rw [read?, linesOf_textOf_plain hnames, List.dropLast_concat]
  apply Json.mapM_of_forall₂
  rw [List.forall₂_map_left_iff, List.forall₂_map_right_iff, List.forall₂_same]
  exact fun verdict _ => readLine?_head_append verdict.compliant verdict.name

/-- The only blank in an operator's name is a space. -/
theorem unbroken_operatorNameOf (source : ByteArray) (operator : SyntaxNode) :
    Unbroken (Declarator.operatorNameOf source operator) := by
  have hkeyword : '\n' ∉ Declarator.operatorKeyword := by decide
  have hblank {text : List Char} (hnone : ∀ c ∈ text, Text.isBlank c = false) : '\n' ∉ text :=
    fun hmem => absurd (hnone '\n' hmem) (by decide)
  have htext := Declarator.isOperatorText_operatorText (operator.chars source)
  rw [Unbroken, Declarator.operatorNameOf, String.toList_ofList]
  generalize Declarator.operatorText (operator.chars source) = text at htext
  cases htext with
  | sign _ hsigns =>
      rw [List.mem_append, not_or]
      exact ⟨hkeyword, hblank hsigns⟩
  | word _ hword =>
      rw [List.mem_append, List.mem_cons, not_or, not_or]
      exact ⟨hkeyword, by decide, hblank hword⟩

/-- A trace without colours has one line for each verdict, on which the name stands in a fixed
column, and the names and tags can be read off it. With colours it has the same lines but for what
stands around each tag. The names of operators never break a line. -/
theorem trace_readable (verdicts : List Verdict)
    (hnames : ∀ verdict ∈ verdicts, Unbroken verdict.name) :
    linesOf (textOf .plain verdicts) =
      (verdicts.map fun verdict => head verdict.compliant ++ verdict.name) ++ [""] ∧
    (∀ compliant, (head compliant).length = nameColumn) ∧
    read? (textOf .plain verdicts) =
      some (verdicts.map fun verdict => (verdict.name, verdict.compliant)) ∧
    (∀ palette : Palette, palette.IsUnbroken →
      linesOf (textOf palette verdicts) =
        (verdicts.map fun verdict =>
          " - " ++ palette.mark verdict.compliant ++ statusTag verdict.compliant ++
            palette.reset ++ verdict.name) ++ [""]) ∧
    ∀ (source : ByteArray) (file : String) (root operator : SyntaxNode) (entity : Entity),
      NamedForOperator source file root operator entity → Unbroken entity.name := by
  refine ⟨linesOf_textOf_plain hnames, length_head, read?_textOf_plain hnames,
    fun palette hpalette => linesOf_textOf hpalette hnames, ?_⟩
  intro source file root operator entity hnamed
  rw [hnamed.name_eq]
  exact unbroken_operatorNameOf source operator

def misleadingVerdicts : List Verdict :=
  [⟨"[OK]  Foo", .function, 1, false, none⟩, ⟨"", .function, 2, true, some .exemptName⟩,
    ⟨"  foo", .memberFunction, 3, false, none⟩]

theorem trace_readable_misleading :
    read? (textOf .plain misleadingVerdicts) =
        some [("[OK]  Foo", false), ("", true), ("  foo", false)] ∧
      (linesOf (textOf .ansi misleadingVerdicts)).length = 4 ∧
      ∃ entity, NamedForOperator Lowering.equalsSource "box.cpp" Lowering.equalsUnit
        Lowering.equalsOperator entity ∧ Unbroken entity.name := by
  obtain ⟨-, -, hread, hcoloured, hoperators⟩ := trace_readable misleadingVerdicts (by decide)
  have hnamed := Lowering.namedForOperator_equals
  refine ⟨hread, ?_, Lowering.equalsEntity, hnamed, hoperators _ _ _ _ _ hnamed⟩
  rw [hcoloured .ansi Palette.isUnbroken_ansi]
  rfl

end Trace

end NamingCheck
