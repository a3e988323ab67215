import Canopy.Proofs.CommandOutcomes
import Canopy.Proofs.JsonRoundTrip

namespace Canopy

/-- No integer of a record has more digits than the limit, where there is one. -/
def Node.Fits (limit : Option Nat) (n : Node) : Prop :=
  Json.Fits limit n.index ∧ (∀ up ∈ n.parent, Json.Fits limit up) ∧
    Json.Fits limit n.startByte ∧ Json.Fits limit n.endByte

theorem Node.fits_none (n : Node) : n.Fits none :=
  ⟨Json.fits_none _, fun _ _ => Json.fits_none _, Json.fits_none _, Json.fits_none _⟩

theorem Node.keys_record (n : Node) : n.record.keys = columns := rfl

theorem Node.exact_record {limit : Option Nat} {n : Node} (h : n.Fits limit) :
    Json.Exact limit (.obj n.record) := by
  obtain ⟨hindex, hparent, hstart, hend⟩ := h
  refine .obj (by rw [keys_record]; decide) ?_
  have hup : Json.Exact limit (Json.ofOption Json.nat n.parent) := by
    cases hcase : n.parent with
    | none => exact .null
    | some up => exact .int (hparent up hcase)
  simp only [record, List.forall_mem_cons, List.not_mem_nil, false_implies, implies_true, and_true]
  exact ⟨.int hindex, hup, .str _, .str _, .str _, .str _, .int hstart, .int hend⟩

namespace Ast

variable {limit : Option Nat} {a : Ast}

theorem exact_recordsJson (h : ∀ n ∈ a.nodes, n.Fits limit) : Json.Exact limit a.recordsJson := by
  refine .arr fun v hv => ?_
  rw [records, List.map_map] at hv
  obtain ⟨n, hn, rfl⟩ := List.mem_map.mp hv
  exact Node.exact_record (h n hn)

theorem decode?_toJson (h : ∀ n ∈ a.nodes, n.Fits limit) :
    Json.decode? limit a.toJson = some a.recordsJson := by
  have hblank : Json.Blank [] := by simp [Json.Blank]
  have hline := (exact_recordsJson h).decode?_writeAt .line hblank
  rwa [List.append_nil] at hline

/-- The indented document ends with a line feed. -/
theorem decode?_shown (h : ∀ n ∈ a.nodes, n.Fits limit) :
    Json.decode? limit (Command.shown .json a) = some a.recordsJson := by
  have hblank : Json.Blank ['\n'] := by simp [Json.Blank, Json.isGap]
  have hpage := (exact_recordsJson h).decode?_writeAt .page hblank
  rwa [String.ofList_append] at hpage

end Ast

namespace Command

/-- A run of the parse command that ends well has written the result of a build. -/
theorem output_of_code_zero {w : World} {known : Ready} {file : Path} {r : ParseRequest}
    {o : Outcome} (h : runParse w known file r = .ok o) (hcode : o.code = 0) :
    ∃ tag source chosen a, file.language? r.language = some tag ∧ w.read file = .ok source ∧
      options w.settings r = .ok chosen ∧
      (Ast.parseSource w.build chosen source tag known.registry).result = .ok a ∧
      o.output = shown r.output a := by
  have hends : Ends w known file r (.ok (0, o.output)) :=
    ending_eq_iff.mp (exists_ok_iff.mp ⟨o, h, hcode, rfl⟩)
  generalize o.output = text at hends
  cases hends with
  | built opens chooses builds =>
    exact ⟨_, _, _, _, Path.language?_eq_some.mpr opens.tagged, opens.read, chooses, builds, rfl⟩

end Command

namespace Ast

/-- Every document of records can be decoded to the records it was written from, be it on one line
or indented as the parse command writes it. A limit on the digits of integers does not matter unless
one of the records goes beyond it. -/
theorem documents_decode_to_records :
    (∀ a : Ast,
      Json.decode? none a.toJson = some (.arr (a.records.map .obj)) ∧
      Json.decode? none (Command.shown .json a) = some (.arr (a.records.map .obj)) ∧
      ((∀ n ∈ a.nodes, n.Fits (some Text.digitBound)) →
        Json.parse? a.toJson = some (.arr (a.records.map .obj)) ∧
        Json.parse? (Command.shown .json a) = some (.arr (a.records.map .obj)))) ∧
    ∀ w known file request outcome, Command.runParse w known file request = .ok outcome →
      request.output = .json → outcome.code = 0 →
      ∃ tag source chosen a, file.language? request.language = some tag ∧
        w.read file = .ok source ∧ Command.options w.settings request = .ok chosen ∧
        (parseSource w.build chosen source tag known.registry).result = .ok a ∧
        Json.decode? none outcome.output = some (.arr (a.records.map .obj)) := by
  constructor
  · intro a
    have hall : ∀ n ∈ a.nodes, n.Fits none := fun n _ => n.fits_none
    exact ⟨decode?_toJson hall, decode?_shown hall,
      fun hfits => ⟨decode?_toJson hfits, decode?_shown hfits⟩⟩
  · intro w known file request outcome hrun hformat hcode
    obtain ⟨tag, source, chosen, a, htag, hread, hchosen, hbuilt, houtput⟩ :=
      Command.output_of_code_zero hrun hcode
    refine ⟨tag, source, chosen, a, htag, hread, hchosen, hbuilt, ?_⟩
    rw [houtput, hformat]
    exact decode?_shown fun n _ => n.fits_none

/-- A node whose name and value hold all that has to be escaped and a character beyond the first
plane. -/
def escapes : Ast where
  language := "python"
  sourceLength := 12
  hasErrors := true
  nodes :=
    [⟨0, none, "module", "module", "\"\\\n\r", "\t\x08\x0c\x01😀", 0, 12, 0, 0, 1, 4, 0, 0, 0, 0,
      none⟩]

/-- A file with a quote and a backslash, which its parser takes for one faulty module. -/
def quoteWorld : Command.World where
  settings := {}
  build :=
    { load := Pack.bundled.loader
      found := some ⟨.node ⟨"module", true, none, 0, 2, ⟨0, 0⟩, ⟨0, 2⟩⟩ [], true⟩ }
  read _ := .ok [34, 92]

/-- A registry that knows Python and nothing else. -/
def pythonOnly : Command.Ready :=
  ⟨(({} : Registry).register Pack.bundled.loader (.ofLanguage .python)).registry, []⟩

theorem documents_decode_to_records_escapes :
    ((∀ n ∈ escapes.nodes, n.Fits (some Text.digitBound)) ∧
      Json.parse? escapes.toJson = some (.arr
        [.obj [("index", .int 0), ("parent_index", .null), ("semantic_type", .str "module"),
          ("raw_type", .str "module"), ("name", .str "\"\\\n\r"),
          ("value", .str "\t\x08\x0c\x01😀"), ("start_byte", .int 0), ("end_byte", .int 12)]])) ∧
    ∃ outcome a, Command.runParse quoteWorld pythonOnly ⟨0, ["a.py"]⟩ {} = .ok outcome ∧
      outcome.code = 0 ∧
      (parseSource quoteWorld.build {} [34, 92] "python" pythonOnly.registry).result = .ok a ∧
      Json.decode? none outcome.output = some (.arr (a.records.map .obj)) := by
  have hdigits : (Nat.toDigits 10 12).length = 2 := by decide
  have hfits : ∀ n ∈ escapes.nodes, n.Fits (some Text.digitBound) := by
    simp [escapes, Node.Fits, Json.Fits, Text.digitBound, hdigits]
  have hends : (Command.runParse quoteWorld pythonOnly ⟨0, ["a.py"]⟩ {}).toOption.map
      Command.Outcome.code = some 0 := by decide +kernel
  obtain ⟨hdocuments, hruns⟩ := documents_decode_to_records
  refine ⟨⟨hfits, ((hdocuments escapes).2.2 hfits).1⟩, ?_⟩
  cases hrun : Command.runParse quoteWorld pythonOnly ⟨0, ["a.py"]⟩ {} with
  | error failure =>
    rw [hrun] at hends
    cases hends
  | ok outcome =>
    rw [hrun] at hends
    have hcode : outcome.code = 0 := Option.some.inj hends
    obtain ⟨tag, source, chosen, a, htag, hread, hchosen, hbuilt, hdecoded⟩ :=
      hruns _ _ _ _ outcome hrun rfl hcode
    have hpython : Path.language? ⟨0, ["a.py"]⟩ none = some "python" := by decide +kernel
    obtain rfl : "python" = tag := Option.some.inj (hpython.symm.trans htag)
    cases hread
    cases hchosen
    exact ⟨outcome, a, rfl, hcode, hbuilt, hdecoded⟩

end Ast
end Canopy
