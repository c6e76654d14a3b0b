import Mathlib.Algebra.Group.Nat.Defs
import ScriptCensus.Proofs.JsonShapes
import ScriptCensus.Report.Store

/-!
# Reports are read back as they were written

A report whose line numbers fit into 32 bits fits its shape (`Report.fits`), so it is read back from
its text and from the bytes that are stored (`Report.parse_render_append`). Paths and bodies may be
any strings. Different reports are therefore written differently.
-/

namespace ScriptCensus

open JsonReader

/-- The line numbers of all functions fit into 32 bits. -/
def Report.LinesFit (r : Report) : Prop :=
  ∀ f ∈ r.files, ∀ g ∈ f.functions, g.startLine < 2 ^ 32 ∧ g.endLine < 2 ^ 32

instance (r : Report) : Decidable r.LinesFit :=
  inferInstanceAs (Decidable (∀ f ∈ r.files, ∀ g ∈ f.functions, _))

/-- A kind is told by its name. -/
theorem FunctionKind.find?_name (kind : FunctionKind) :
    FunctionKind.all.find? (·.name == kind.name) = some kind := by
  cases kind <;> decide

theorem FunctionRecord.fits {f : FunctionRecord} (hstart : f.startLine < 2 ^ 32)
    (hend : f.endLine < 2 ^ 32) (levels : Nat) : shape.Fits (levels + 1) f := by
  have hmax : 2 ^ 32 ≤ maxNatural := by decide
  have hkeys : fields.keys.Nodup := by decide
  rw [shape, Shape.Fits, Shape.Fits]
  refine ⟨rfl, levels, rfl, hkeys, ?_⟩
  simp only [fields, Fields.Fits, Shape.Fits]
  exact ⟨trivial, ⟨hstart, by omega⟩, ⟨hend, by omega⟩, f.kind.find?_name, trivial⟩

theorem FileReport.fits {f : FileReport} (h : ∀ g ∈ f.functions, g.startLine < 2 ^ 32 ∧
    g.endLine < 2 ^ 32) (levels : Nat) : shape.Fits (levels + 3) f := by
  have hkeys : fields.keys.Nodup := by decide
  rw [shape, Shape.Fits, Shape.Fits]
  refine ⟨rfl, levels + 2, rfl, hkeys, ?_⟩
  simp only [fields, Fields.Fits, Shape.Fits]
  refine ⟨⟨trivial, trivial⟩, ⟨levels + 1, rfl, fun g hg => ?_⟩, trivial⟩
  exact FunctionRecord.fits (h g hg).1 (h g hg).2 levels

namespace Report

/-- A report opens four brackets at once: around the files, a file, its functions and a function. -/
theorem fits {r : Report} (h : r.LinesFit) : shape.Fits nestingLimit r := by
  rw [shape, Shape.Fits, Shape.Fits]
  exact ⟨rfl, 126, rfl, fun f hf => FileReport.fits (h f hf) 123⟩

/-- A report is read back from its text, also with blanks behind it. -/
theorem parse_render_append {r : Report} (h : r.LinesFit) {bs : List Char} (hbs : Blank bs) :
    parse (r.render ++ String.ofList bs) = .ok r := by
  rw [parse, render, JsonValue.pretty, ← String.ofList_append]
  exact shape.readText_of_spelled (fits h) (JsonValue.spelled_prettyChars 0 _) hbs

theorem parse_render_newline {r : Report} (h : r.LinesFit) : parse (r.render ++ "\n") = .ok r :=
  parse_render_append h (show Blank ['\n'] by simp [Blank, isJsonBlank])

theorem fromUTF8?_content (r : Report) : String.fromUTF8? r.content = some (r.render ++ "\n") := by
  have hvalid : (r.render ++ "\n").toUTF8.IsValidUTF8 := (r.render ++ "\n").isValidUTF8
  rw [content, String.fromUTF8?, dif_pos hvalid]
  rfl

/-- Every report is read back from its text and from the bytes that are stored, and no other report
is written as the same text. -/
theorem readBack {r : Report} (h : r.LinesFit) :
    parse r.render = .ok r ∧ (String.fromUTF8? r.content).map parse = some (.ok r) ∧
      ∀ r' : Report, r'.LinesFit → r'.render = r.render → r' = r := by
  have hrender : ∀ {r : Report}, r.LinesFit → parse r.render = .ok r := by
    intro r h
    have := parse_render_append h blank_nil
    rwa [String.ofList_nil, String.append_empty] at this
  refine ⟨hrender h, ?_, fun r' h' heq => ?_⟩
  · rw [fromUTF8?_content, Option.map_some, parse_render_newline h]
  · have hread := hrender h'
    rw [heq, hrender h] at hread
    exact (Except.ok.inj hread).symm

/-- A report with an empty body, a body of quotes, backslashes and control characters, one outside
the basic plane, and the last line of all. -/
def gnarled : Report :=
  ⟨[⟨⟨"a\"b\\.js"⟩, [⟨"", 0, 0, .arrow⟩,
      ⟨"\"\\/\u0000\u001f\n\r\t\u0008\u000c\u007f", 1, 2, .signature⟩]⟩,
    ⟨⟨"ä/😀"⟩, [⟨"function 𝒇() \x7b return \"\x7d\" \x7d", 7, 4294967295, .asyncGenerator⟩]⟩,
    ⟨⟨""⟩, []⟩]⟩

theorem readBack_gnarled : gnarled.LinesFit ∧ parse gnarled.render = .ok gnarled ∧
    (String.fromUTF8? gnarled.content).map parse = some (.ok gnarled) ∧
      ∀ r' : Report, r'.LinesFit → r'.render = gnarled.render → r' = gnarled :=
  have h : gnarled.LinesFit := by decide
  ⟨h, readBack h⟩

end Report

end ScriptCensus
