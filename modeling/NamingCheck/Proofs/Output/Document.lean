import Mathlib.Logic.Function.Basic
import NamingCheck.Output.Document
import NamingCheck.Proofs.Json.RoundTrip

/-!
# The document of a run can be read back

Every part of a summary is decoded from its own encoding, and every encoding can be written. So the
document of a summary is read as just this summary, however little its parts agree with each other.
-/

namespace NamingCheck

/-! ### Writing -/

open Json (writable_ofText writable_map writable_ofMembers fullRecord?_ofMembers)

theorem Verdict.writable_toJson (verdict : Verdict) : verdict.toJson.Writable := by
  refine writable_ofMembers ?_
  simp only [List.forall_mem_append, List.forall_mem_cons]
  refine ⟨⟨writable_ofText _, writable_ofText _, .number _, .bool _, nofun⟩, ?_⟩
  cases verdict.rule with
  | none => exact nofun
  | some rule => exact List.forall_mem_singleton.2 (writable_ofText rule.name)

theorem Report.writable_toJson (report : Report) : report.toJson.Writable := by
  refine writable_ofMembers ?_
  simp only [List.forall_mem_cons]
  exact ⟨writable_ofText _, writable_map Verdict.writable_toJson _, .bool _, nofun⟩

theorem Failure.writable_toJson (failure : Failure) : failure.toJson.Writable := by
  refine writable_ofMembers ?_
  simp only [List.forall_mem_cons]
  exact ⟨writable_ofText _, writable_ofText _, nofun⟩

theorem Summary.writable_toJson (summary : Summary) : summary.toJson.Writable := by
  refine writable_ofMembers ?_
  simp only [List.forall_mem_cons]
  exact ⟨writable_ofText _, writable_ofText _, writable_map Report.writable_toJson _,
    writable_map Failure.writable_toJson _, .number _, .number _, .number _, .bool _, nofun⟩

/-! ### Reading -/

theorem Entity.Kind.ofJson?_toJson (kind : Entity.Kind) : ofJson? kind.toJson = some kind := by
  rw [ofJson?, toJson, Json.choice?_ofText]
  cases kind <;> rfl

theorem Rule.ofJson?_toJson (rule : Rule) : ofJson? rule.toJson = some rule := by
  rw [ofJson?, toJson, Json.choice?_ofText]
  cases rule <;> rfl

namespace Verdict

theorem line?_ofNat (line : UInt32) : line? (Json.ofNat line.toNat) = some line := by
  rw [line?, Json.natBelow?_ofNat line.toNat_lt_size, Option.map_some, UInt32.ofNat_toNat]

theorem optionalRule?_toJson (rule : Rule) : optionalRule? rule.toJson = some (some rule) := by
  rw [optionalRule?, Rule.ofJson?_toJson]
  rfl

theorem ofJson?_toJson (verdict : Verdict) : ofJson? verdict.toJson = some verdict := by
  obtain ⟨name, kind, line, compliant, rule⟩ := verdict
  -- The member for the rule is there or not, so there are two records.
  cases rule with
  | none =>
      rw [ofJson?, toJson, fullRecord?_ofMembers]
      · simp [Record.get?, Record.getD?, Record.field?, Entity.Kind.ofJson?_toJson, line?_ofNat,
          Json.bool?]
      · simp
      · simp
  | some rule =>
      rw [ofJson?, toJson, fullRecord?_ofMembers]
      · simp [Record.get?, Record.getD?, Record.field?, Entity.Kind.ofJson?_toJson, line?_ofNat,
          optionalRule?_toJson, Json.bool?]
      · simp
      · simp

theorem toJson_injective : Function.Injective toJson :=
  Json.injective_of_decode ofJson?_toJson

end Verdict

theorem Report.ofJson?_toJson (report : Report) : ofJson? report.toJson = some report := by
  rw [ofJson?, toJson, fullRecord?_ofMembers]
  · simp [Record.get?, Record.field?, Json.bool?, Json.listOf?_map Verdict.ofJson?_toJson]
  · simp
  · simp

theorem Report.toJson_injective : Function.Injective toJson :=
  Json.injective_of_decode ofJson?_toJson

theorem Failure.ofJson?_toJson (failure : Failure) : ofJson? failure.toJson = some failure := by
  rw [ofJson?, toJson, fullRecord?_ofMembers]
  · simp [Record.get?, Record.field?]
  · simp
  · simp

theorem Failure.toJson_injective : Function.Injective toJson :=
  Json.injective_of_decode ofJson?_toJson

namespace Summary

/-- The counts are such as a machine word holds. -/
structure CountsFit (summary : Summary) : Prop where
  filesChecked_lt : summary.filesChecked < countBound
  entitiesChecked_lt : summary.entitiesChecked < countBound
  violations_lt : summary.violations < countBound

theorem ofJson?_toJson {summary : Summary} (hfit : summary.CountsFit) :
    ofJson? summary.toJson = some summary := by
  rw [ofJson?, toJson, fullRecord?_ofMembers]
  · simp [Record.get?, Record.field?, Json.bool?, Json.listOf?_map Report.ofJson?_toJson,
      Json.listOf?_map Failure.ofJson?_toJson, Json.natBelow?_ofNat hfit.filesChecked_lt,
      Json.natBelow?_ofNat hfit.entitiesChecked_lt, Json.natBelow?_ofNat hfit.violations_lt]
  · simp
  · simp

/-- The parser does not ask whether the counts fit. -/
theorem parse?_document (summary : Summary) :
    Json.parse? summary.document = some summary.toJson :=
  summary.writable_toJson.parse?_pretty

theorem toJson_injective : Function.Injective toJson := by
  intro left right heq
  simp only [toJson, Json.ofMembers, List.map_cons, List.map_nil, Json.object.injEq,
    List.cons.injEq, Prod.mk.injEq, true_and, and_true, Json.array.injEq, Json.bool.injEq,
    Json.ofText_injective.eq_iff, Json.ofNat_injective.eq_iff,
    (List.map_injective_iff.2 Report.toJson_injective).eq_iff,
    (List.map_injective_iff.2 Failure.toJson_injective).eq_iff] at heq
  cases left
  cases right
  simpa using heq

theorem document_injective : Function.Injective document := by
  intro left right heq
  have hparsed := congrArg Json.parse? heq
  rw [parse?_document, parse?_document] at hparsed
  exact toJson_injective (Option.some.inj hparsed)

/-- Reading the document of a summary gives this summary back, so no other has the same document. -/
theorem ofDocument?_document (summary : Summary) (hfit : summary.CountsFit) :
    ofDocument? summary.document = some summary ∧
      ∀ other : Summary, other.document = summary.document → other = summary := by
  refine ⟨?_, fun other heq => document_injective heq⟩
  rw [ofDocument?, parse?_document, Option.bind_some, ofJson?_toJson hfit]

/-- Texts full of signs to be escaped, and counts and flags that agree with nothing. -/
def disagreeing : Summary where
  version := "\"0\\1\x07\""
  command := ""
  reports :=
    [{ file := "a\t\n.cpp"
       verdicts :=
         [{ name := "zeichne", kind := .function, line := 4294967295, compliant := true
            rule := none },
          { name := "Größe", kind := .template, line := 0, compliant := false
            rule := some .exemptName }]
       fileCompliant := true },
     { file := "b.cpp", verdicts := [], fileCompliant := false }]
  failures := [{ file := "", error := "\x7f\r😀" }]
  filesChecked := 18446744073709551615
  entitiesChecked := 0
  violations := 10
  compliant := true

theorem ofDocument?_document_disagreeing :
    disagreeing.CountsFit ∧ ofDocument? disagreeing.document = some disagreeing := by
  have hfit : disagreeing.CountsFit := ⟨by decide, by decide, by decide⟩
  exact ⟨hfit, (ofDocument?_document disagreeing hfit).1⟩

end Summary

end NamingCheck
