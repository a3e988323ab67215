import Canopy.Command.Run
import Canopy.Grammar.Pack
import Mathlib.Data.PNat.Notation

namespace Canopy

/-- The language tag of a file: the one that is asked for, unless it is empty, else the name of the
language that the suffix belongs to. -/
inductive Path.Tagged (file : Path) : Option String → String → Prop where
  | given {tag : String} (visible : tag ≠ "") : Tagged file (some tag) tag
  | inferred {asked : Option String} {l : Language} (unasked : asked = none ∨ asked = some "")
    (suffix : Language.ofExtension? file.suffix = some l) : Tagged file asked l.name

theorem Path.language?_eq_some {file : Path} {asked : Option String} {tag : String} :
    file.language? asked = some tag ↔ file.Tagged asked tag := by
  constructor
  · intro h
    unfold language? at h
    split at h
    · obtain ⟨l, hl, rfl⟩ := Option.map_eq_some_iff.mp h
      exact .inferred (.inr rfl) hl
    · next text hvisible =>
      cases h
      exact .given fun hempty => hvisible hempty
    · obtain ⟨l, hl, rfl⟩ := Option.map_eq_some_iff.mp h
      exact .inferred (.inl rfl) hl
  · intro h
    cases h with
    | given visible =>
      unfold language?
      split
      · next hempty => exact absurd (Option.some.inj hempty) visible
      · next hsame => exact hsame.symm
      · next hnone => cases hnone
    | inferred unasked suffix =>
      rcases unasked with rfl | rfl
      · rw [language?, suffix, Option.map_some]
      · rw [language?, suffix, Option.map_some]

theorem Path.language?_eq_none {file : Path} {asked : Option String} :
    file.language? asked = none ↔ ∀ tag, ¬ file.Tagged asked tag := by
  rw [Option.eq_none_iff_forall_ne_some]
  simp only [ne_eq, language?_eq_some]

namespace Command

/-- The errors of a build that a user can do something about. The issues of a node are none. -/
inductive Reported : Ast.Error → Prop where
  | unsupported (u : Registry.Unsupported) : Reported (.unsupported u)
  | grammar (fault : GrammarFault) : Reported (.grammar fault)
  | parse (fault : ParseFault) : Reported (.parse fault)

/-- The file has a language and can be read. -/
structure Opens (w : World) (file : Path) (language : Option String) (tag : String)
    (source : Bytes) : Prop where
  tagged : file.Tagged language tag
  openable : file.hasNull = false
  read : w.read file = .ok source

/-- What can be seen of a run from outside: its code and its output. -/
def ending (run : Except Failure Outcome) : Except Failure (Nat × String) :=
  run.map fun o => (o.code, o.output)

/-- What stands in the output after a run; one that breaks off leaves nothing there. -/
def written : Except Failure Outcome → String
  | .ok o => o.output
  | .error _ => ""

/-- How a run of the parse command ends. The language, the path, the file, the options and the
build decide, in this order. -/
inductive Ends (w : World) (known : Ready) (file : Path) (r : ParseRequest) :
    Except Failure (Nat × String) → Prop where
  | undetected (untagged : ∀ tag, ¬ file.Tagged r.language tag) : Ends w known file r (.ok (1, ""))
  | unopenable {tag : String} (tagged : file.Tagged r.language tag) (null : file.hasNull = true) :
    Ends w known file r (.error .nullInPath)
  | unreadable {tag : String} {failure : ReadFailure} (tagged : file.Tagged r.language tag)
    (openable : file.hasNull = false) (read : w.read file = .error failure) :
    Ends w known file r (.ok (1, ""))
  | optionless {tag : String} {source : Bytes} {failure : Failure}
    (opens : Opens w file r.language tag source) (refused : options w.settings r = .error failure) :
    Ends w known file r (.error failure)
  | reported {tag : String} {source : Bytes} {chosen : BuildOptions} {error : Ast.Error}
    (opens : Opens w file r.language tag source) (chooses : options w.settings r = .ok chosen)
    (fails : (Ast.parseSource w.build chosen source tag known.registry).result = .error error)
    (reported : Reported error) : Ends w known file r (.ok (1, ""))
  | invalid {tag : String} {source : Bytes} {chosen : BuildOptions} {issues : List Issue}
    (opens : Opens w file r.language tag source) (chooses : options w.settings r = .ok chosen)
    (fails : (Ast.parseSource w.build chosen source tag known.registry).result =
      .error (.invalid issues)) : Ends w known file r (.error (.invalid issues))
  | built {tag : String} {source : Bytes} {chosen : BuildOptions} {a : Ast}
    (opens : Opens w file r.language tag source) (chooses : options w.settings r = .ok chosen)
    (builds : (Ast.parseSource w.build chosen source tag known.registry).result = .ok a) :
    Ends w known file r (.ok (0, shown r.output a))

section Endings

variable {w : World} {known : Ready} {file : Path} {r : ParseRequest}

theorem Reported.exists_report {error : Ast.Error} (h : Reported error) :
    ∃ report, reportOf error = .ok report := by
  cases h with
  | unsupported u => exact ⟨u.report, rfl⟩
  | grammar fault => exact ⟨fault.report, rfl⟩
  | parse fault => exact ⟨fault.report, rfl⟩

theorem Opens.ending_eq {tag : String} {source : Bytes}
    (h : Opens w file r.language tag source) :
    ending (runParse w known file r) =
      match options w.settings r with
      | .error failure => .error failure
      | .ok chosen =>
        match (Ast.parseSource w.build chosen source tag known.registry).result with
        | .ok a => .ok (0, shown r.output a)
        | .error error => (reportOf error).map fun _ => (1, "") := by
  unfold runParse
  simp only [Path.language?_eq_some.mpr h.tagged, h.openable, h.read]
  cases options w.settings r with
  | error failure => rfl
  | ok chosen =>
    simp only [bind, Except.bind]
    cases (Ast.parseSource w.build chosen source tag known.registry).result with
    | ok a => rfl
    | error error => cases error <;> rfl

theorem ending_of_untagged (h : ∀ tag, ¬ file.Tagged r.language tag) :
    ending (runParse w known file r) = .ok (1, "") := by
  simp only [runParse, Path.language?_eq_none.mpr h]
  rfl

theorem ending_of_null {tag : String} (htag : file.Tagged r.language tag)
    (hnull : file.hasNull = true) : ending (runParse w known file r) = .error .nullInPath := by
  simp only [runParse, Path.language?_eq_some.mpr htag, hnull]
  rfl

theorem ending_of_unreadable {tag : String} {failure : ReadFailure}
    (htag : file.Tagged r.language tag) (hnull : file.hasNull = false)
    (hread : w.read file = .error failure) : ending (runParse w known file r) = .ok (1, "") := by
  simp only [runParse, Path.language?_eq_some.mpr htag, hnull, hread]
  rfl

/-- Every run ends in one of these ways. -/
theorem ends_runParse (w : World) (known : Ready) (file : Path) (r : ParseRequest) :
    Ends w known file r (ending (runParse w known file r)) := by
  by_cases htag : ∃ tag, file.Tagged r.language tag
  · obtain ⟨tag, htag⟩ := htag
    cases hnull : file.hasNull with
    | true =>
      rw [ending_of_null htag hnull]
      exact .unopenable htag hnull
    | false =>
      cases hread : w.read file with
      | error failure =>
        rw [ending_of_unreadable htag hnull hread]
        exact .unreadable htag hnull hread
      | ok source =>
        have hopens : Opens w file r.language tag source := ⟨htag, hnull, hread⟩
        rw [hopens.ending_eq]
        cases hchosen : options w.settings r with
        | error failure => exact .optionless hopens hchosen
        | ok chosen =>
          dsimp only
          cases hbuilt : (Ast.parseSource w.build chosen source tag known.registry).result with
          | ok a => exact .built hopens hchosen hbuilt
          | error error =>
            cases error with
            | unsupported u => exact .reported hopens hchosen hbuilt (.unsupported u)
            | grammar fault => exact .reported hopens hchosen hbuilt (.grammar fault)
            | parse fault => exact .reported hopens hchosen hbuilt (.parse fault)
            | invalid issues => exact .invalid hopens hchosen hbuilt
  · have huntagged := not_exists.mp htag
    rw [ending_of_untagged huntagged]
    exact .undetected huntagged

theorem ending_eq_iff {x : Except Failure (Nat × String)} :
    ending (runParse w known file r) = x ↔ Ends w known file r x := by
  constructor
  · rintro rfl
    exact ends_runParse w known file r
  · intro h
    cases h with
    | undetected untagged => exact ending_of_untagged untagged
    | unopenable tagged null => exact ending_of_null tagged null
    | unreadable tagged openable read => exact ending_of_unreadable tagged openable read
    | optionless opens refused => rw [opens.ending_eq, refused]
    | reported opens chooses fails reported =>
      obtain ⟨report, hreport⟩ := reported.exists_report
      simp only [opens.ending_eq, chooses, fails, hreport]
      rfl
    | invalid opens chooses fails =>
      simp only [opens.ending_eq, chooses, fails]
      rfl
    | built opens chooses builds => simp only [opens.ending_eq, chooses, builds]

theorem exists_ok_iff {run : Except Failure Outcome} {code : Nat} {text : String} :
    (∃ o, run = .ok o ∧ o.code = code ∧ o.output = text) ↔ ending run = .ok (code, text) := by
  cases run with
  | error failure => simp [ending, Except.map]
  | ok o => simp [ending, Except.map]

theorem eq_error_iff {run : Except Failure Outcome} {failure : Failure} :
    run = .error failure ↔ ending run = .error failure := by
  cases run with
  | error failure => simp [ending, Except.map]
  | ok o => simp [ending, Except.map]

theorem exists_code_iff {code : Nat} :
    (∃ o, runParse w known file r = .ok o ∧ o.code = code) ↔
      ∃ text, Ends w known file r (.ok (code, text)) := by
  simp only [← ending_eq_iff, ← exists_ok_iff]
  constructor
  · rintro ⟨o, ho, hcode⟩
    exact ⟨o.output, o, ho, hcode, rfl⟩
  · rintro ⟨text, o, ho, hcode, -⟩
    exact ⟨o, ho, hcode⟩

/-- Only the code zero comes with an output. -/
theorem Ends.output_eq_empty {code : Nat} {text : String}
    (h : Ends w known file r (.ok (code, text))) (hcode : code ≠ 0) : text = "" := by
  cases h with
  | undetected => rfl
  | unreadable => rfl
  | reported => rfl
  | built => exact absurd rfl hcode

theorem written_runParse (h : ¬ ∃ o, runParse w known file r = .ok o ∧ o.code = 0) :
    written (runParse w known file r) = "" := by
  cases hrun : runParse w known file r with
  | error failure => rfl
  | ok o =>
    have hends : Ends w known file r (.ok (o.code, o.output)) := by
      apply ending_eq_iff.mp
      rw [hrun]
      rfl
    exact hends.output_eq_empty fun hzero => h ⟨o, hrun, hzero⟩

end Endings

/-- A request for at least one octet of each value, if it asks for a size at all. -/
def asking (language : Option String) (size : Option ℕ+) (output : Output) : ParseRequest where
  language := language
  size :=
    match size with
    | some n => .octets n
    | none => .settings
  output := output

/-- A size that is asked for takes the place of the default size and of the default mode. -/
def effective (defaults : BuildOptions) : Option ℕ+ → BuildOptions
  | some n => ⟨some n, .head⟩
  | none => defaults

/-- What a build of the source comes to with the effective options. -/
def built (w : World) (known : Ready) (size : Option ℕ+) (tag : String) (source : Bytes) :
    Except Ast.Error Ast :=
  (Ast.parseSource w.build (effective w.settings.buildOptions size) source tag
    known.registry).result

/-- A run of the parse command writes a whole rendering or nothing, and its code tells which. -/
structure AllOrNothing (w : World) (known : Ready) (file : Path) (language : Option String)
    (size : Option ℕ+) (output : Output) (run : Except Failure Outcome) : Prop where
  zero_iff : (∃ o, run = .ok o ∧ o.code = 0) ↔
    ∃ tag source a, Opens w file language tag source ∧ built w known size tag source = .ok a
  written_of_built : ∀ tag source a, Opens w file language tag source →
    built w known size tag source = .ok a →
    ∃ o, run = .ok o ∧ o.code = 0 ∧ o.output = shown output a
  one_iff : (∃ o, run = .ok o ∧ o.code = 1) ↔
    (∀ tag, ¬ file.Tagged language tag) ∨
    (∃ tag failure, file.Tagged language tag ∧ file.hasNull = false ∧
      w.read file = .error failure) ∨
    ∃ tag source error, Opens w file language tag source ∧
      built w known size tag source = .error error ∧ Reported error
  /-- Faults of the nodes come through, and so does a null character in the path. -/
  error_iff : ∀ failure, run = .error failure ↔
    (∃ tag source issues, Opens w file language tag source ∧
      built w known size tag source = .error (.invalid issues) ∧ failure = .invalid issues) ∨
    ∃ tag, file.Tagged language tag ∧ file.hasNull = true ∧ failure = .nullInPath
  written_eq_empty : (¬ ∃ o, run = .ok o ∧ o.code = 0) → written run = ""

section Requests

variable {w : World} {known : Ready} {file : Path} {language : Option String}
  {size : Option ℕ+} {output : Output}

theorem options_asking (s : Settings) :
    options s (asking language size output) = .ok (effective s.buildOptions size) := by
  cases size with
  | none => rfl
  | some n => rfl

theorem ends_ok_zero {text : String} :
    Ends w known file (asking language size output) (.ok (0, text)) ↔
      ∃ tag source a, Opens w file language tag source ∧ built w known size tag source = .ok a ∧
        text = shown output a := by
  constructor
  · intro h
    cases h with
    | built opens chooses builds =>
      cases (options_asking w.settings).symm.trans chooses
      exact ⟨_, _, _, opens, builds, rfl⟩
  · rintro ⟨tag, source, a, hopens, hbuilt, rfl⟩
    exact .built hopens (options_asking w.settings) hbuilt

theorem ends_ok_one {text : String} :
    Ends w known file (asking language size output) (.ok (1, text)) ↔
      ((∀ tag, ¬ file.Tagged language tag) ∨
      (∃ tag failure, file.Tagged language tag ∧ file.hasNull = false ∧
        w.read file = .error failure) ∨
      ∃ tag source error, Opens w file language tag source ∧
        built w known size tag source = .error error ∧ Reported error) ∧ text = "" := by
  constructor
  · intro h
    cases h with
    | undetected untagged => exact ⟨.inl untagged, rfl⟩
    | unreadable tagged openable read =>
      exact ⟨.inr (.inl ⟨_, _, tagged, openable, read⟩), rfl⟩
    | reported opens chooses fails reported =>
      cases (options_asking w.settings).symm.trans chooses
      exact ⟨.inr (.inr ⟨_, _, _, opens, fails, reported⟩), rfl⟩
  · rintro ⟨huntagged | ⟨tag, failure, htag, hnull, hread⟩ | ⟨tag, source, error, hopens, hbuilt,
      hreported⟩, rfl⟩
    · exact .undetected huntagged
    · exact .unreadable htag hnull hread
    · exact .reported hopens (options_asking w.settings) hbuilt hreported

theorem ends_error {failure : Failure} :
    Ends w known file (asking language size output) (.error failure) ↔
      (∃ tag source issues, Opens w file language tag source ∧
        built w known size tag source = .error (.invalid issues) ∧ failure = .invalid issues) ∨
      ∃ tag, file.Tagged language tag ∧ file.hasNull = true ∧ failure = .nullInPath := by
  constructor
  · intro h
    cases h with
    | unopenable tagged null => exact .inr ⟨_, tagged, null, rfl⟩
    | optionless opens refused => cases (options_asking w.settings).symm.trans refused
    | invalid opens chooses fails =>
      cases (options_asking w.settings).symm.trans chooses
      exact .inl ⟨_, _, _, opens, fails, rfl⟩
  · rintro (⟨tag, source, issues, hopens, hbuilt, rfl⟩ | ⟨tag, htag, hnull, rfl⟩)
    · exact .invalid hopens (options_asking w.settings) hbuilt
    · exact .unopenable htag hnull

end Requests

/-- The parse command has written the rendering of the result for the effective options if its code
is zero, and nothing otherwise. -/
theorem runParse_all_or_nothing (w : World) (known : Ready) (file : Path)
    (language : Option String) (size : Option ℕ+) (output : Output) :
    AllOrNothing w known file language size output
      (runParse w known file (asking language size output)) := by
  constructor
  · rw [exists_code_iff]
    simp only [ends_ok_zero]
    constructor
    · rintro ⟨text, tag, source, a, hopens, hbuilt, -⟩
      exact ⟨tag, source, a, hopens, hbuilt⟩
    · rintro ⟨tag, source, a, hopens, hbuilt⟩
      exact ⟨_, tag, source, a, hopens, hbuilt, rfl⟩
  · intro tag source a hopens hbuilt
    apply exists_ok_iff.mpr
    apply ending_eq_iff.mpr
    exact ends_ok_zero.mpr ⟨tag, source, a, hopens, hbuilt, rfl⟩
  · rw [exists_code_iff]
    simp only [ends_ok_one, exists_and_left, exists_eq, and_true]
  · intro failure
    rw [eq_error_iff, ending_eq_iff, ends_error]
  · exact written_runParse

/-- An empty directory, and grammars that find nothing. -/
def emptyWorld : World where
  settings := {}
  build := ⟨Pack.bundled.loader, none⟩
  read := Files.read []

def nullPath : Path := ⟨0, ["a\x00.py"]⟩

/-- A file that cannot be read because of a null character in its path does not end in a code. -/
theorem null_in_path_breaks_off :
    nullPath.Tagged none "python" ∧ emptyWorld.read nullPath = .error .absent ∧
      ¬ ∃ o, runParse emptyWorld ⟨{}, []⟩ nullPath (asking none none .json) = .ok o ∧
        o.code = 1 := by
  have htag : nullPath.Tagged none "python" := Path.language?_eq_some.mp (by decide +kernel)
  have hnull : nullPath.hasNull = true := by decide +kernel
  have hshort : ¬ Files.pathBound < nullPath.text.utf8ByteSize := by decide +kernel
  have hread : emptyWorld.read nullPath = .error .absent := by
    change Files.read [] nullPath = .error .absent
    simp only [Files.read, if_neg hshort]
    rfl
  refine ⟨htag, hread, ?_⟩
  rintro ⟨o, ho, -⟩
  have hending : ending (runParse emptyWorld ⟨{}, []⟩ nullPath (asking none none .json)) =
      .error .nullInPath := ending_of_null htag hnull
  rw [ho] at hending
  cases hending

end Command
end Canopy
